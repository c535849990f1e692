import SchemaBinding.Text.Runs

/-!
# Binary properties of characters

Source: Data of the character set, as the expression library of
`builtins/restriction` has it.

Properties that a character has or has not, among them its membership in a
general category or a group of categories.
-/

namespace SchemaBinding.Text

/-- The binary properties with their names: in full, then in short, in lower case and without
underscores. -/
def binaryProperties : List (List String × Membership) := [
  (["asciihexdigit", "ahex"], ⟨[], "bWJHFbAF"⟩),
  (["alphabetic", "alpha"],
    ⟨letters ++ [.nonspacingMark, .spacingMark, .enclosingMark, .letterNumber],
      "bdOcQBbClCGkDbEgMAfEBJCdFKgEIJAbABTAbRCcIHbQJMBIFcYAQADDdZAQAbWAcJAQAeGAQAbVCcIAQAHAeP" ++
      "AeGAQAeGAQAeFBQAeUAeUFBAeDANEBAcVBbBABABAEBcQABBcKAeIABBbeWCbkMBbEAeXBTKJAbTCBAlLClGAU" ++
      "HCAbWOCKeAAPAbMIcCBcGALBcPAfWCBUEAGACChQSbIKbbSbGblDbZdaZCfLAbaGFeBBbsqEDJBeKBkQAbLAfV" ++
      "AbBRcFCbLAdRAMAjUABAcAAjLBbfcCPQPblLAiSAcuHCEAgJByTDpJCcSKbXDhKAbPAOAcFBeQBcKAcYAIDeAB" ++
      "gWBdCBQAYGDEdLCBAOBdRADAXAdVBjRBeWAeOBeLAkJBjYBEAgAAdEBSAdCBqFAjYABBdDAqJBXAhxTAGOqzPA" ++
      "dsAEcHGbuBAbdbKAgzAbTCWuWEDFIHCGbEDfSCcyDcCEbXIAOAWEBOcmAGoLAcJDtODjUBbcIGeFCBCczTZGZG" ++
      "ZbszfQjF"⟩),
  (["bidicontrol", "bidic"], ⟨[], "ciEAjvLBbAEcDD"⟩),
  (["bidimirrored", "bidim"],
    ⟨letters ++ [.nonspacingMark, .spacingMark, .enclosingMark, .decimalNumber, .letterNumber,
      .otherNumber,
      .connectorPunctuation, .dashPunctuation, .otherPunctuation, .mathSymbol, .currencySymbol,
      .modifierSymbol, .otherSymbol, .spaceSeparator, .control, .format, .privateUse, .unassigned],
      "AcHBABmbOIHCkRBhJECGCBCCCEAEABABDJEBASEEICABAIAbGBEEBICBTECIFBCDYBQbFCbtLBBCCCADEEEDCE" ++
      "qUGAOHBGGCBDFACFBDBADBCJGPTAEBBABBBAEECFDXCKCDEACBCDbRBIAbOEBABCFEDDBCFABjVBwGBsFDcloX" ++
      "daUlbXCiGCbBQBCbACgZBABddsDBcEBcEBcEBcEBcenlJ"⟩),
  (["caseignorable", "ci"],
    ⟨[.modifierLetter, .nonspacingMark, .enclosingMark, .modifierSymbol, .format],
      "bNAGALAeUAbbRAsDAfSAjxJBKACAdgbBAcKACAgVAGALA"⟩),
  (["cased"],
    ⟨[.uppercaseLetter, .lowercaseLetter, .titlecaseLetter],
      "gOAPAtHIHBbEEdSAcAAfcZAepZcKNAbIbKbaNANAQMhNbFbfQbZcwOBbugKBiCAeZCDBbhIDJAbiwSAC" ++
      "CBbPBIddzHcJgjAZGZGZ"⟩),
  (["changeswhencasefolded", "cwcf"],
    ⟨[.uppercaseLetter, .titlecaseLetter],
      "gZAbPAeBAcBArLAeUANGZBDApLAfiUdHCFdfUIuJBiUHIHIHKCCAKCCAbQCCAkGAEADCCCCADEGADADBCBBAKB" ++
      "FAbAPbgGZbyzOdBbeaIGMEdedSZbAZbAZbAABBCACBCDBHbAZbABBDCHBGbBBBDBEBADGbBZbAZbAZbAZbAZbA" ++
      "ZbEYbHYbHYbHYbHYbHA"⟩),
  (["changeswhencasemapped", "cwcm"],
    ⟨[.uppercaseLetter, .lowercaseLetter, .titlecaseLetter],
      "mAAdGAbCBOADAdUASFbBACABACCCAEAFBBACBBGBBBACCGEBABHCQfTAfKCbNAnRAbNAixBbRcLMCCBPBLjXBB" ++
      "AxMAEACJBADEGADADBBCBBEACDFEWbFbfQbZcwDACACEeAAbuiDBcLHVAGAZAbJABAbKAbfPbIBGFIeiiHdGBc" ++
      "SBBCACBCDBLBABGBcMBDCHBGBbBBDBEBADGBnBCYBYBbEBYBbEBYBbEBYBbEBYBHcsYJBTGF"⟩),
  (["changeswhenlowercased", "cwl"],
    ⟨[.uppercaseLetter, .titlecaseLetter],
      "blQClbHAEADCCCCADEGADADBCBBAKBFAbAPbgGZghhOZbAZbAZbAABBCACBCDBHbAZbABBDCHBGbBBBDBEBADG" ++
      "bBZbAZbAZbAZbAZbAZbEYbHYbHYbHYbHYbHA"⟩),
  (["changeswhentitlecased", "cwt"],
    ⟨[.lowercaseLetter],
      "mAAdGAbCBOADAFACACAbMAbVASFbBACABACCCAEAFBBACBBGBBBACCGEBABHCQfTAhAAnRAbNAehBbQCCeoEbR" ++
      "cLMCCBPBLjXBBAxUADBDAbBAEAEACBIDbMPbgQZcwDACACEeAAbuiDBcLHVAGAZAbJABAbKAbfPbIBGFIeijHZ" ++
      "bAGBRbAZbADBABGBKbAZbAZbAZbAZbAZbAZbAZbAZbAbBbCYBFbAYBFbAYBFbAYBFbAYBFBAcsYJBTGF"⟩),
  (["changeswhenuppercased", "cwu"],
    ⟨[.lowercaseLetter, .titlecaseLetter],
      "mAAdGAbCBOADAdUASFbBACABACCCAEAFBBACBBGBBBACCGEBABHCQfTAhAAnRAbNAixBbRcLMCCBPBLjXBBAxU" ++
      "ADBDAbBAEAEACBIDbMPbgQZcwDACACEeAAbuiDBcLHVAGAZAbJABAbKAbfPbIBGFIeijHZbAGBRbAZbADBABGB" ++
      "KbAZbAZbAZbAZbAZbAZbAZbAZbAbBbCYBFbAYBFbAYBFbAYBFbAYBFBAcsYJBTGF"⟩),
  (["dash"], ⟨[.dashPunctuation], "mgHAbNAPApAA"⟩),
  (["defaultignorablecodepoint", "di"],
    ⟨[], "gRAzXAbbOAegWBckHBdHEdaPEbAEbXPgkYAczmPPjFAgEAdBIctlNDhwXHbtkzLgbN"⟩),
  (["deprecated", "dep"], ⟨[], "mRAbyVAdkTABAdcJBdiJFbaVBbzryKA"⟩),
  (["diacritic", "dia"],
    ⟨[.modifierSymbol],
      "hBAtKRELOEHABARdABHFFRAFAkEEiBAcDQBbABABBBAfEHEBfEBEBDCcPbAdNKcGKbIBeGAPHbPJQbBcJAQADD" ++
      "bCAcWAQAeGAQAeGAQAbVCcIAQAHAePAeGAQAeGAQAeFBQAeUAeHAMFBAeDANEcXBbBABABAEBcOCBBcKAeIABB" ++
      "bOBEEZGBAKBbbDCbkMBbEAfSKJAnJClGAUHCAbWOCKeAAPAbMIcCBcGALBcOBcMFdEYEAGACCbYcKdLLbLKfrB" ++
      "CmFAtMFeBBdTAbsmKAMBBAbCBdEBbLIeAAeHBMAbLAfVAbBRcFDbKAdRAMAbKAfTCcNDbZAdXDJAfABbdzSAfR" ++
      "QxHPmIAbTBbgAAbtNFBbPBIyNCEAgJBvZFbMAbAEpJCcSKbXDhKAbPAcUBeQBcKAcYAJCeABgWBdCBQAYGDEdL" ++
      "CBBNBdRADAeTBjRBeWAeOBeLAkJBjYBEAgAAdFASAdDAqFAjYABBdDAqJBXAhyAOqzPAdsAEcHGvSBvAQdCByg" ++
      "CDBGBBltHbTCWuYCDFIHCGbEDfmWcJhMGoLAcJDbdMBbcIGeFCBCebGE"⟩),
  (["emoji"],
    ⟨[],
      "bJAGAFJeHAEAlyRAMAiIAWAdMFPBoDBMAgKAZKEChRAiXBKAJAcGDBEJACACBCAEACABBCADADBICFABAFLLBC" ++
      "ABBBASACBSFBABBDBFACBEBLBFBCAFBBABBUBFFBDCAEACACFBACABABAGADAGAKBPACAEABAECBALBbWCJAOA" ++
      "OAoIBrVCTBbZAEAbvUAMAxDABAgmrQAhUAgEBMBOACJcXZBBXAUACIVBgSbHCeHCBBCCdECCBkCBcKLFBXHBCH" ++
      "MACDCAEBNBCAIBJAFCMCICCABAEAGADAGdHbWcRFHCCEJDABBDACJiTLEAkXbUBJBhCeIMDJFcDHOCKGI"⟩),
  (["emojicomponent", "ecomp"], ⟨[], "bJAGAFJmbJAiFAdftRAdoiWZtNEceADbsvuQdR"⟩),
  (["emojimodifier", "emod"], ⟨[], "hhiXE"⟩),
  (["emojimodifierbase", "ebase"],
    ⟨[],
      "olHAiLAQDgsjVAcICCACCeNBCKVSDAECBCHABAYAhTBEAVAEBgSCDEdFAQCJALAwDACAIHGAJJCCcEAc" ++
      "JBBBBARCBMiVCbQI"⟩),
  (["emojipresentation", "epres"],
    ⟨[],
      "nhQBhXDDACAuBBVBbYLbRATANAIBRBFBIAFAVAHBBAEACAHAEBbCAbJABAECBAcJCYAOAbhBBbZAEAgplEAhUA" ++
      "hIACJcXZBAYAUACEBCVBgSbGMIBcRBVMbQEEMQDADcSBABhECcKNDBXSAbABNAdIdGbWcRGADCCCEDLBHIiTLE" ++
      "AkXbUBJBhCeIMDJFcDHOCKGI"⟩),
  (["extendedpictographic", "extpict"],
    ⟨[],
      "gNAEAlyRAMAiIAWAdMFPBoDBMAdRAcSAZKEChRAiXBKAJAcGDBFBLBeJKeNCKBABAGADAGAKBPACAEABAECBAL" ++
      "EbTCJAOAOAoIBrVCTBbZAEAbvUAMAxDABAgmrMjVNCbFAcIFMBOACJScEbBOKAUACIBDJqRFmFIkFbWeXeMLdH" ++
      "bQMDcEHKFbOHbEdDMbUBJBqYjWbnH"⟩),
  (["extender", "ext"],
    ⟨[],
      "hBAuQBbhUAqZAyGAfHAdLAbcYAeXAdnFAcEAxNApIAcQAhkJAbREdZBdPCbqbUAcgSAblAAWAfHAeEAVBbfzVA" ++
      "dbKBcfBAbBAEAbvBAlHAeMBtECbvJAbeoFBbtKBBAbqyABbuFAbgUC"⟩),
  (["graphemebase", "grbase"],
    ⟨[.nonspacingMark, .enclosingMark, .control, .format, .privateUse, .unassigned],
      "AdrXBXBnTBXBdXBXBiXBABDCACICdYBXBeOBOBdmQBbDBbnJBEBABECdWBcSCbpJCgbRCbtwSBeDBrnIdaUlzH" ++
      "CgwLBeLBkDBNBIBdRBIBBBADEBiPBLBjGBkBByIBLBchEBbeoJCbkxMCFGcepvO"⟩),
  (["graphemeextend", "grext"],
    ⟨[.nonspacingMark, .enclosingMark],
      "drYAYAnUAYAdYAYAiYABAEBBBJBdZAYAePAPAdmRAbEAbnKAFABAFBdXAcTBboIAgcVBbtwTAeEAbgnLBgwMAe" ++
      "MAkEAOAJAdSAJACABCFAiQAMAjHAkCAyJAMAchFAbeoKBbkxNBGFbtlaZdR"⟩),
  (["graphemelink", "grlink"],
    ⟨[],
      "dnPAeXAeXAeXAeXAeXAeXAeXAeFBQAeUAeHAeXAhTAgYBcpLBbEAgBAzDAiTAdXBcSBgqTAbukKAbLAfVAfMAe" ++
      "EAlXAjMAbjsRAchIAbPAOAcFAeRBfJAeMAgYAdUAeYCeJAeXAjSAeXAeOAeMAkJAjZBgFAdFASAdDAqFAkABdD" ++
      "AqJByzCA"⟩),
  (["hexdigit", "hex"], ⟨[], "bWJHFbAFdslLJHFbAF"⟩),
  (["hyphen"], ⟨[], "bTAeXAbvWAgzZAdbDBfiBAbcLAczuLAgNAdJA"⟩),
  (["idsbinaryoperator", "idsb"], ⟨[], "seABCJtDA"⟩),
  (["idstrinaryoperator", "idst"], ⟨[], "seCB"⟩),
  (["idsunaryoperator", "idsu"], ⟨[], "seOB"⟩),
  (["idcompatmathcontinue"], ⟨[], "gWBFAmaGADKBOoHAEAWAgjjEAZAbFAZAbFAZAbFAZAbFAZA"⟩),
  (["idcompatmathstart"], ⟨[], "mwWAEAWAgjjEAZAbFAZAbFAZAbFAZAbFAZA"⟩),
  (["idcontinue", "idc"],
    ⟨letters ++ [.nonspacingMark, .spacingMark, .decimalNumber, .letterNumber,
      .connectorPunctuation], "hBAbbRAgaJIclCAciZBkGAVAeyAAxVBdQAdaeJA"⟩),
  (["idstart", "ids"], ⟨letters ++ [.letterNumber], "jhLBdgJAVAeyAAxVB"⟩),
  (["ideographic", "ideo"],
    ⟨[],
      "seWBZIOCblDjtNcMbfbJbhsIoBCeBbsiKAbBjbZIbvPbPJnuLpFbdeIclfBbGgdTGiNCinPOlbKPxXdq" ++
      "WuVcfYhhYFgfF"⟩),
  (["joincontrol", "joinc"], ⟨[], "mdOB"⟩),
  (["logicalorderexception", "loe"], ⟨[], "fkIEeTEedSCCAccxMBCABB"⟩),
  (["lowercase", "lower"],
    ⟨[.lowercaseLetter],
      "gOAPAtHIHBbEEdSAcAAfcZAepZcKNAbIbKbaNANAQMiDPbgQZcwOBbugKBiCAeZCDBbhIDJAbiwSACCB" ++
      "bPBIddzHcJ"⟩),
  (["math"],
    ⟨[.mathSymbol],
      "dQAbhXCCAbABCBkqYAbBCLAbGDYBOBcNMEADBEESAEACJBADEGADBCBBCBFDDFEcXECDBBBBBABECBEBERCBBA" ++
      "BGBAGBlEDgMBBAYARArDBMIFEFBCBDEOABACFYBcFABAbDDJBnEBbFJpNVcLDbGBdclFABAEAiDABAdcoVdGBc" ++
      "SBBCACBCDBLBABGBcMBDCHBGBbBBDBEBADGBnBCYBYBbEBYBbEBYBbEBYBbEBYBHCbXiiQDBbABBBACABJBDBA" ++
      "BAGAEABABABCBBBACABABABABABBBACDBGBDBDBABJBQFCBEBQ"⟩),
  (["modifiercombiningmark", "mcm"], ⟨[], "ckIBCAfBAGADBsNBBCDAbFA"⟩),
  (["noncharactercodepoint", "nchar"],
    ⟨[.privateUse],
      "dgvOjmDbvKbFuGBdsyOBdsyOBdsyOBdsyOBdsyOBdsyOBdsyOBdsyOBdsyOBdsyOBdsyOBdsyOBdsyOBdsyOhlxH"⟩),
  (["otheralphabetic", "oalpha"],
    ⟨[.nonspacingMark, .spacingMark, .enclosingMark],
      "bdOcQBbClCGkDbEgMAfEBJCdFKgEIJAbABTAbRCcIHbQJMBIFcYAQADDdZAQAbWAcJAQAeGAQAbVCcIAQAHAeP" ++
      "AeGAQAeGAQAeFBQAeUAeUFBAeDANEBAcVBbBABABAEBcQABBcKAeIABBbeWCbkMBbEAeXBTKJAbTCBAlLClGAU" ++
      "HCAbWOCKeAAPAbMIcCBcGALBcPAfWCBUEAGACChQSbIKbbSbGblDbZdaZCfLAbaGFeBBbsqEDJBeKBkQAbLAfV" ++
      "AbBRcFCbLAdRAMAjUABAcAAjLBbfcCPQPblLAiSAcuHCEAgJByTDpJCcSKbXDhKAbPAOAcFBeQBcKAcYAIDeAB" ++
      "gWBdCBQAYGDEdLCBAOBdRADAXAdVBjRBeWAeOBeLAkJBjYBEAgAAdEBSAdCBqFAjYABBdDAqJBXAhxTAGOqzPA" ++
      "dsAEcHGbuBAbdbKAgzAbTCWuWEDFIHCGbEDfSCcyDcCEbXIAOAWEBOcmAGoLAcJDtODjUBbcIGeFCBCczTZGZG" ++
      "ZbszfQjF"⟩),
  (["otherdefaultignorablecodepoint", "odi"],
    ⟨[], "bgPAfiLBckHBdhNAglIAdacPAdBIbwmiHABbDdSeXjGfiL"⟩),
  (["othergraphemeextend", "ogrext"],
    ⟨[],
      "drYAYAnUAYAdYAYAiYABAEBBBJBdZAYAePAPAdmRAbEAbnKAFABAFBdXAcTBboIAgcVBbtwTAeEAbgnLBgwMAe" ++
      "MAkEAOAJAdSAJACABCFAiQAMAjHAkCAyJAMAchFAbeoKBbkxNBGFbtlaZdR"⟩),
  (["otheridcontinue", "oidc"], ⟨[], "hBAbbRAgaJIclCAciZBgkRAdaeJA"⟩),
  (["otheridstart", "oids"], ⟨[], "jhLBdgJAVAfvWB"⟩),
  (["otherlowercase", "olower"],
    ⟨[],
      "gOAPAtHIHBbEEdSAcAAfcZAepZcKNAbIbKbaNANAQMiDPbgQZcwOBbugKBiCAeZCDBbhIDJAbiwSACCB" ++
      "bPBIddzHcJ"⟩),
  (["othermath", "omath"],
    ⟨[],
      "dQAbhXCCAbABCBkqYAbBCLAbGDYBOBcNMEADBEESAEACJBADEGADBCBBCBFDDFEcXECDBBBBBABECBEBERCBBA" ++
      "BGBAGBlEDgMBBAYARArDBMIFEFBCBDEOABACFYBcFABAbDDJBnEBbFJpNVcLDbGBdclFABAEAiDABAdcoVdGBc" ++
      "SBBCACBCDBLBABGBcMBDCHBGBbBBDBEBADGBnBCYBYBbEBYBbEBYBbEBYBbEBYBHCbXiiQDBbABBBACABJBDBA" ++
      "BAGAEABABABCBBBACABABABABABBBACDBGBDBDBABJBQFCBEBQ"⟩),
  (["otheruppercase", "oupper"], ⟨[], "mqQPbgGZgsiYZGZGZ"⟩),
  (["patternsyntax", "patsyn"],
    ⟨[],
      "bHOKGbADBAbADbIGBABBBABBEAEADAXAbFAluEXIOCSBJlTbbRgEyFbEbrNtSeXoVCEYPAczqZBkBB"⟩),
  (["patternwhitespace", "patws"], ⟨[], "JESAdWAlyMBYB"⟩),
  (["prependedconcatenationmark", "pcm"], ⟨[], "chCFiHAbXAoUBdCAdvxYAPA"⟩),
  (["quotationmark", "qmark"], ⟨[], "bIAEAfBAPAlwUHZBfiDArPDNCdabPDhHAEAdMB"⟩),
  (["radical"], ⟨[], "rpWZBdKMiF"⟩),
  (["regionalindicator", "ri"], ⟨[], "hgoKZ"⟩),
  (["sentenceterminal", "sterm"],
    ⟨[],
      "bHAMAQAcaBAfRCgYAbRCjMAcJABADBlHBcpWBbeKAEBbdTAhQBgBBbTAFAmCBnQDgGBKBCBbDChFBcNBbjWAXB" ++
      "JCeuXClUANAWBqNAbshWAkKBiTADAoSBdIBdRAfWBfRCfOBjPAbfcWACBcHADBgNAMAQAcNAedWBbxDEbSDhHB" ++
      "eNDeXCeZBGAQBdKBBBeEAlMBeNBoJBFOeBBjPCtXABAjRBdJBqEBbaQBcWBbcmBBfDAcNBLAvHBlKAbdoGAliM" ++
      "A"⟩),
  (["softdotted", "sd"],
    ⟨[],
      "eBBhOAkVAbEAcAAUAmIAdUABAjmNAbZANADAfCAgBAqFAiGBegGAgelHBbYBbYBbYBbYBbYBbYBbYBbY" ++
      "BbYBbYBbYBbYBdfYAlTBbAA"⟩),
  (["terminalpunctuation", "term"],
    ⟨[],
      "bHAKABALBDAbfYAIAtTAcFAcUAOABCgYAbRKBAjBBcCFBHbFAkBBbwUBgQAEFlZBbeJHbdTAeUCcTBgBCDAbND" ++
      "CBmCBnQDgGBKBBCbDChFEcKBbjWAXBJCeuXClUANAEAKABBDBqMBbshVBkJCiTEoSBdIBdRAfVCfRCeXAQBjPA" ++
      "bfcWACBcFCBDgNAKABALBDAcNACAbpQAbWAbsOAhRAlYBfWFcQFdLDbkQEbSDhHGeIDeXCeZBGAQBdKEeEAlMB" ++
      "eNCMBnUDDOeBBjPCtXABAjRBdJBEBpYCbTAyVBcWBbyXEbamZBfDAcNCKAvHBlJBbdoGAliLD"⟩),
  (["unifiedideograph", "uideo"],
    ⟨[], "tsAjtNcMbfbJbicSBBABBKABABBCCdveCclfBbGgdTGiNCinPOlbKPxXgrQhhYFgfF"⟩),
  (["uppercase", "upper"], ⟨[.uppercaseLetter], "mqQPbgGZgsiYZGZGZ"⟩),
  (["variationselector", "vs"], ⟨[], "jcTCBAdjcAPbwnkYjF"⟩),
  (["whitespace", "space", "wspace"], ⟨[.spaceSeparator], "JEePAlzMB"⟩),
  (["xidcontinue", "xidc"],
    ⟨letters ++ [.nonspacingMark, .spacingMark, .decimalNumber, .letterNumber,
      .connectorPunctuation], "hBAbbEAMAgaJIclCAciZBkGAVAeyAAbbNAczaOFpQBeMABABABABABABABAiWA"⟩),
  (["xidstart", "xids"], ⟨letters ++ [.letterNumber],
    "biGAebOAeXAdsRBdgJAVAeyAAdacCFpQBeMABABABABABABABAlBB"⟩)]

/-- The binary property with a name. -/
def binaryProperty? (name : String) : Option Membership := named? binaryProperties name

/-- The names of general categories and of groups of them, in full and in short. -/
def categoryNames : List (List String × List Category) := [
  (["other", "c"], [.control, .format, .surrogate, .privateUse, .unassigned]),
  (["control", "cntrl", "cc"], [.control]),
  (["format", "cf"], [.format]),
  (["unassigned", "cn"], [.unassigned]),
  (["privateuse", "co"], [.privateUse]),
  (["letter", "l"], letters),
  (["casedletter", "lc"], [.uppercaseLetter, .lowercaseLetter, .titlecaseLetter]),
  (["lowercaseletter", "ll"], [.lowercaseLetter]),
  (["modifierletter", "lm"], [.modifierLetter]),
  (["otherletter", "lo"], [.otherLetter]),
  (["titlecaseletter", "lt"], [.titlecaseLetter]),
  (["uppercaseletter", "lu"], [.uppercaseLetter]),
  (["mark", "combiningmark", "m"], [.nonspacingMark, .spacingMark, .enclosingMark]),
  (["spacingmark", "mc"], [.spacingMark]),
  (["enclosingmark", "me"], [.enclosingMark]),
  (["nonspacingmark", "mn"], [.nonspacingMark]),
  (["number", "n"], [.decimalNumber, .letterNumber, .otherNumber]),
  (["decimalnumber", "digit", "nd"], [.decimalNumber]),
  (["letternumber", "nl"], [.letterNumber]),
  (["othernumber", "no"], [.otherNumber]),
  (["punctuation", "punct", "p"],
    [.connectorPunctuation, .dashPunctuation, .openPunctuation, .closePunctuation,
     .initialPunctuation, .finalPunctuation, .otherPunctuation]),
  (["connectorpunctuation", "pc"], [.connectorPunctuation]),
  (["dashpunctuation", "pd"], [.dashPunctuation]),
  (["closepunctuation", "pe"], [.closePunctuation]),
  (["finalpunctuation", "pf"], [.finalPunctuation]),
  (["initialpunctuation", "pi"], [.initialPunctuation]),
  (["otherpunctuation", "po"], [.otherPunctuation]),
  (["openpunctuation", "ps"], [.openPunctuation]),
  (["symbol", "s"], [.mathSymbol, .currencySymbol, .modifierSymbol, .otherSymbol]),
  (["currencysymbol", "sc"], [.currencySymbol]),
  (["modifiersymbol", "sk"], [.modifierSymbol]),
  (["mathsymbol", "sm"], [.mathSymbol]),
  (["othersymbol", "so"], [.otherSymbol]),
  (["separator", "z"], [.spaceSeparator, .lineSeparator, .paragraphSeparator]),
  (["lineseparator", "zl"], [.lineSeparator]),
  (["paragraphseparator", "zp"], [.paragraphSeparator]),
  (["spaceseparator", "zs"], [.spaceSeparator])]

/-- The general categories that a name stands for. Surrogates are no characters, so their category
has no name. -/
def categoriesNamed? (name : String) : Option (List Category) := named? categoryNames name

end SchemaBinding.Text
