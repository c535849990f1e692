import SchemaBinding.Text.Runs

/-!
# Scripts of characters

Source: Data of the character set, as the expression library of
`builtins/restriction` has it.

Every character belongs to one script, or is common to several or inherits the
script of its neighbours. The extensions of a script also hold characters that
are used with it and with a few others, and the common and inherited characters
are then those that no script claims.
-/

namespace SchemaBinding.Text

/-- A script: its characters, and the runs where membership in its extensions is the other way
round. -/
structure Script where
  runs : String
  extensionChanges : String

/-- The scripts with their names, in full and in short, in lower case and without underscores. -/
def scripts : List (List String × Script) := [
  (["adlam", "adlm"], ⟨"hdeUcXEJEB", "ciHAbGAjwOAfhHA"⟩),
  (["ahom"], ⟨"ebrCbACOEW", ""⟩),
  (["anatolianhieroglyphs", "hluw"], ⟨"essEwK", ""⟩),
  (["arabic", "arab"],
    ⟨"chCEBFBNBCBbFBJLZBeDBbHdCbVjGbEBBFcWBbCdntWeKQnYCdBCcBHAbGPeIEBfEfvNbEcPCcDDdglS" ++
     "DBbABBBACABJBDBABAGAEABAB" ++
     "ABCBBBACABABABABABBBACDBGBDBDBABJBQFCBEBQcAB",
     "chOAOADAbGAKKbAAjuSAfhHAdakABcdKbB"⟩),
  (["armenian", "armn"], ⟨"bzDbLCbXCCdozJE", "bdWA"⟩),
  (["avestan", "avst"], ⟨"dxcYcBDG", "hBArfSB"⟩),
  (["balinese", "bali"], ⟨"kfWcYBbX", ""⟩),
  (["bamum", "bamu"], ⟨"clcQdJcvcQvW", ""⟩),
  (["bassavah", "bass"], ⟨"fhkIbDCF", ""⟩),
  (["batak", "batk"], ⟨"knGbZID", ""⟩),
  (["bengali", "beng"], ⟨"dpODBHCBCVBGBADDCICBCDIAEBBECY", "baYAcmUBRBhjEABACBBAIAIACAEACCcbaFA"⟩),
  (["bhaiksuki", "bhks"], ⟨"edoIIBbSBNKbC", ""⟩),
  (["bopomofo", "bopo"], ⟨"bcSBrlXbQeIbF", "bbJABCNArcPCEJBMKDCAGAhNAcztHBkWE"⟩),
  (["brahmi", "brah"], ⟨"dzaEcZEbJJA", ""⟩),
  (["braille", "brai"], ⟨"pdWjV", ""⟩),
  (["buginese", "bugi"], ⟨"jwAbBCB", "cmhZA"⟩),
  (["buhid", "buhd"], ⟨"iuYT", "iuNB"⟩),
  (["canadianaboriginal", "cans"], ⟨"hoYyPvOcRdtpQP", ""⟩),
  (["carian", "cari"], ⟨"dtyMbW", "hBAlzMACAfgDA"⟩),
  (["caucasianalbanian", "aghb"], ⟨"duxSbZLA", "bdSAbSAbSA"⟩),
  (["chakma", "cakm"], ⟨"dzkAcABR", "dtMJckEJ"⟩),
  (["cham"], ⟨"cmjWcCJNCJCD", ""⟩),
  (["cherokee", "cher"], ⟨"hlGdHCFcfjEdB", "bdOCBAGBWBLB"⟩),
  (["chorasmian", "chrs"], ⟨"dyxCbB", ""⟩),
  (["common", "zyyy"],
    ⟨"AcMbAFbAbUBOBEXAbFArHbMFECTeMAJAGABAyNAGAOADAbGAgAAtWAeZBbvTApPDlEAcgLCcTBhVBBAb" ++
     "vHANAHDBFBCCAbdTLCdIBKDKB" ++
     "ORbGcLbLBCCFBbABQbPCEzPWKVbjRjWyDCbFBeAtSdPpMUBABYPHEDdNBDAdMBfRPbGbLJAbWcLbFdCbVAdKgLj" ++
     "tOcLbhsIbHdYCgJJjKAgEApFAOBbezQBiAJWbIBSBDfRABbFbAFbAKKAbTBcMGBGKEjYCEbSDIdCMbZbSiUbAcs" ++
     "hWDfvGjPGqTgAeLcIjLKbMCcJDQIBHbDEcIiFTMTMdIJYfFdGBcSBBCACBCDBLBABGBcMBDCHBGBbBBDBEBADGB" ++
     "nBClFCbXhtHcPcYcIbbEbREdVMOCOBOBbKKgRcEZBBNbREIHBOFfYblVEQDMDeOEdQGLEAPLEcDIJGbNIbDCLEB" ++
     "cKnBMNCMDJFcDHOCKGIHfQBdXbsuxBAbEdR",
     "hBAtWAKABCBAJABAfYAzNAOADAbGAbeXBcwRAcgLCcTBhVBBAbvHANAHDBFBCCAbfOAbFAKACAffDAYBKAEABAq" ++
     "MPBCCABJBMQFBAEDdNBDAdMBfRPbGbLJAbWbNcEbWPLbZAdKYKEdSbEbroJHlKJjKAgEAbfpMBkBBkWEKAbTBnO" ++
     "CEbSDIqBbAcshWDipWRlrYB"⟩),
  (["coptic", "copt", "qaac"], ⟨"bmGNpjKeLFG", "hBAwMADBBAeEBqdTAdcpCbB"⟩),
  (["cuneiform", "xsux"], ⟨"efbSbjLdYeGBELhN", ""⟩),
  (["cypriot", "cprt"], ⟨"dvzKFCABbRBBDACA", "dtiMCEbSDI"⟩),
  (["cyprominoan", "cpmn"], ⟨"ekyYdU", "dtiMB"⟩),
  (["cyrillic", "cyrl"], ⟨"bnKfCCgMivOKgEAcYAgfNbFbtoAdRbheCBdhpGcJbHA",
    "baYAcPCBABABACAFAoHBjqNAgeKA"⟩),
  (["deseret", "dsrt"], ⟨"dumAdB", ""⟩),
  (["devanagari", "deva"], ⟨"dkQdCEOCZcijGbFbreMJ", "baYAcmUBRBhjEbMBBbnAAbzfRJ"⟩),
  (["divesakuru", "diak"], ⟨"eckUGCACHBBBbDBBCLJJ", ""⟩),
  (["dogra", "dogr"], ⟨"ecaYcH", "doMLcidCJ"⟩),
  (["duployan", "dupl"], ⟨"gmdSeCFMDIHJCD", "hBAwTBBAYBqiHAfuwPD"⟩),
  (["egyptianhieroglyphs", "egyp"], ⟨"eldGbqRKfxQ", ""⟩),
  (["elbasan", "elba"], ⟨"duvWbN", "hBAwRA"⟩),
  (["elymaic", "elym"], ⟨"dyyYW", ""⟩),
  (["ethiopic", "ethi"],
    ⟨"gvGcUBDCGBABDCbOBDCbGBDCGBABDCOBcEBDCcOCbFDZjvAWJGBGBGBGBGBGBGBGbvkCFCFCFJGBGepyFGBDBBBO",
     "beCA"⟩),
  (["garay", "gara"], ⟨"dxzCbLDbCIB", "chOAOADA"⟩),
  (["georgian", "geor"], ⟨"ghSbLBAFACbQBDejWbQCCgeAbLBAFA", "hBAbvLAeiRAfvIAfgGA"⟩),
  (["glagolitic", "glag"], ⟨"qrGdRgizGGBQCGBBBE", "hBAwPABAoSACAjXAeiRAfvIAfgYAbtnFA"⟩),
  (["gothic", "goth"], ⟨"dueAbA", "hBAwQBCAbOA"⟩),
  (["grantha", "gran"], ⟨"eadSDBHCBCVBGBBBECICBCCCAGAFGCGDE",
    "dnTBRByQNgkAABBbECDBbnAAdntQAetWBBA"⟩),
  (["greek", "grek"],
    ⟨"bhWDBCCDBAEABABCBABTBcKOPjnQEbYEEEdGAmIVCFCbLCFCHBABABABbECcABOBNCFBSCCBIlJAcajE" ++
     "AbgnIdARAdaxRcR",
     "hBAwMBCABABAKAbUACAbUAjyXBzRA"⟩),
  (["gujarati", "gujr"], ⟨"dzLCBIBCBVBGBBBECJBCBCCAPDCLHG", "dnTBRBcidMJ"⟩),
  (["gunjalagondi", "gong"], ⟨"eebWFBBBbKBBBFHJ", "hBAdhKB"⟩),
  (["gurmukhi", "guru"], ⟨"duNCBFEBCVBGBBBBBBCABEEBCCDAHDBAHQ", "dnTBRBcidMJ"⟩),
  (["gurungkhema", "gukh"], ⟨"fdrScF", "doNA"⟩),
  (["han", "hani"],
    ⟨"rpWZBdKMiFbVABAZIODblCjtNcMbfbJbhsIoBCeBbsiIBMBccoKclfBbGgdTGiNCinPOlbKPxXdqWuVcfYhhYFgfF",
     "hBArwYPBCCABJBMKDCAGAEDhFAfSPbGbLJAbWbNcEbWPLbZAdKYKEdSbEbroJHbhaZBkWEdchERlrYB"⟩),
  (["hangul", "hang"], ⟨"glKjVllEBjXdPeJbEcNbEbtaNbCyTqnRMWEbWpaIbEDFCFCFCC",
    "seRCEJBMQAGAhNAcztHBkWE"⟩),
  (["hanifirohingya", "rohg"], ⟨"dxwQbNIJ", "chOAOADAbGAfRA"⟩),
  (["hanunoo", "hano"], ⟨"itSU", "iuNB"⟩),
  (["hatran", "hatr"], ⟨"dwiASBBFE", ""⟩),
  (["hebrew", "hebr"], ⟨"ccVcCIbAEFdovWZBEBABBBBBJ", "bdVB"⟩),
  (["hiragana", "hira"], ⟨"shDdHGCfpeVlASAbDCymVA", "seRCEJBMQFBAEBdNDDAdMBcztGBkWEKAbTB"⟩),
  (["imperialaramaic", "armi"], ⟨"dwbWVBI", ""⟩),
  (["inherited", "qaai", "zinh"],
    ⟨"bdOeHkRBrKKbAAbcIDgoXbEtTCBMBGEAGADBhQcLuEBhMbGftXDeDBczuJPQNblNAiSAgfAActcUbTCW" ++
     "uYCRHCGbEDbtlhIjF",
     "bdOOBBBAMACCHBBBQACASAFAEMkRBrKKbAAbcIBhjXCBMBGEAGADBhQBcCABAbdDAftXDeDBdbqJAgfAA"⟩),
  (["inscriptionalpahlavi", "phli"], ⟨"dxgQSFH", ""⟩),
  (["inscriptionalparthian", "prti"], ⟨"dxfKVCH", ""⟩),
  (["javanese", "java"], ⟨"cmeYcZCJEB", "cmhZA"⟩),
  (["kaithi", "kthi"], ⟨"dzfCcOKA", "doOJnxXAbufEJ"⟩),
  (["kannada", "knda"], ⟨"etCMBCBWBJBECIBCBDHBGBBDCJBC", "dnTBRBhjEABBGAXABAcasXF"⟩),
  (["katakana", "kana"],
    ⟨"skVdLCCjGPiAbUBdJczhEJBbScouCDBGBBBAlBCbYAOD",
     "bdTAbDAqzTCEJBMQFBAEBdNDDAdMBcztGBkWEKAbTB"⟩),
  (["kawi"], ⟨"eerWQBbODbC", ""⟩),
  (["kayahli", "kali"], ⟨"cmaAbTBA", "cmbUA"⟩),
  (["kharoshthi", "khar"], ⟨"dwtCDBBFHBCBbCCCEJHI", ""⟩),
  (["khitansmallscript", "kits"], ⟨"fjiIAkgXsBbPA", ""⟩),
  (["khmer", "khmr"], ⟨"ixKdPCJGJsSbF", ""⟩),
  (["khojki", "khoj"], ⟨"dztWRBbU", "edIJchoIJ"⟩),
  (["khudawadi", "sind"], ⟨"eaaQcGFJ", "doMBcidMJ"⟩),
  (["kiratrai", "krai"], ⟨"fiiIcF", ""⟩),
  (["lao", "laoo"], ⟨"fmVBBABEBXBABWCEBABGBJCD", ""⟩),
  (["latin", "latn"],
    ⟨"cNZGZbVAPAFWBbEBrGbNEjxBbLGbWFDFMBcRcNjVoFANAQMfLBGAbBARbOecTbFbulMdXDcOCBBABHVN" ++
     "bfKbQBIBDbedQGboKZGZdcFFB" ++
     "bPBIddnPbEGF",
     "hBAtWAKABCBAJABAbMOBBBAMACCHBBBbMAFAEMkRBbvEBcxKAexWAvUAhKAezMAbtuMHvEA"⟩),
  (["lepcha", "lepc"], ⟨"kpScDDODC", ""⟩),
  (["limbu", "limb"], ⟨"jmEbEBLELEADL", "doNA"⟩),
  (["lineara", "lina"], ⟨"dvfSlYJVKH", "dtiTbS"⟩),
  (["linearb", "linb"], ⟨"dsyQLBZBSBBBOCNbIeS", "dtiMCEbSDI"⟩),
  (["lisu"], ⟨"ckkUbVbumAA", "baYAQArdKB"⟩),
  (["lycian", "lyci"], ⟨"dtxGbC", "mgOA"⟩),
  (["lydian", "lydi"], ⟨"dwkMZFA", "hBArfTA"⟩),
  (["mahajani", "mahj"], ⟨"dznCbM", "hBAdhKLcidCJ"⟩),
  (["makasar", "maka"], ⟨"eeqQY", ""⟩),
  (["malayalam", "mlym"], ⟨"eyAMBCBbYBCBFEPCZ", "dnTBRBhjOAXAcasZC"⟩),
  (["mandaic", "mand"], ⟨"ddGbBCA", "cjOA"⟩),
  (["manichaean", "mani"], ⟨"dxaMbMEL", "cjOA"⟩),
  (["marchen", "marc"], ⟨"edsQbFCVBN", ""⟩),
  (["masaramgondi", "gonm"], ⟨"edyEGBBBbRDABBBIIJ", "doMB"⟩),
  (["medefaidrin", "medf"], ⟨"fisEdM", ""⟩),
  (["meeteimayek", "mtei"], ⟨"cmsMWhTbTCJ", ""⟩),
  (["mendekikakui", "mend"], ⟨"hcuYhOCP", ""⟩),
  (["meroiticcursive", "merc"], ⟨"dwpKXETCbT", ""⟩),
  (["meroitichieroglyphs", "mero"], ⟨"dwoEbF", "mgRA"⟩),
  (["miao", "plrd"], ⟨"fizOcWEcEHQ", ""⟩),
  (["modi"], ⟨"ebhGcQLJ", "clsAJ"⟩),
  (["mongolian", "mong"], ⟨"jcIBCABTGdKHbQdscBM", "jcKBBAdcJAfzTBFD"⟩),
  (["mro", "mroo"], ⟨"fheUbEBJEB", ""⟩),
  (["multani", "mult"], ⟨"dzyUGBABDBOBK", "dyKJ"⟩),
  (["myanmar", "mymr"], ⟨"gbOgDcgaYbEdTbFbpaMT", "cmbUA"⟩),
  (["nabataean", "nbat"], ⟨"dweIbEII", ""⟩),
  (["nagmundari", "nagm"], ⟨"hbpObP", ""⟩),
  (["nandinagari", "nand"], ⟨"ecqYHCbTCK", "doMBbiMJgbHAIAHAcasRF"⟩),
  (["newtailue", "talu"], ⟨"jrCbREZGKDB", ""⟩),
  (["newa"], ⟨"eanOdNBE", ""⟩),
  (["nko", "nkoo"], ⟨"cyIcGCC", "chOAOADAdppEB"⟩),
  (["nushu", "nshu"], ⟨"fjiFAyvMpF", ""⟩),
  (["nyiakengpuachuehmong", "hmnp"], ⟨"haeAbSDNCJEB", ""⟩),
  (["ogham", "ogam"], ⟨"inObC", ""⟩),
  (["olchiki", "olck"], ⟨"ksUbV", ""⟩),
  (["olonal", "onao"], ⟨"hbzKbQEA", "doMB"⟩),
  (["oldhungarian", "hung"], ⟨"dxrSbYNbYHF", "mgOACAfgDAPA"⟩),
  (["olditalic", "ital"], ⟨"ducEbJJC", ""⟩),
  (["oldnortharabian", "narb"], ⟨"dwyAbF", ""⟩),
  (["oldpermic", "perm"], ⟨"dufGbQ", "hBAwMAFCKAoDA"⟩),
  (["oldpersian", "xpeo"], ⟨"duiIbJEN", ""⟩),
  (["oldsogdian", "sogo"], ⟨"dyqIbN", ""⟩),
  (["oldsoutharabian", "sarb"], ⟨"dwwUbF", ""⟩),
  (["oldturkic", "orkh"], ⟨"dxmUcU", "mgOAfgFA"⟩),
  (["olduyghur", "ougr"], ⟨"dyuQZ", "cjOAdusVA"⟩),
  (["oriya", "orya"], ⟨"eeJCBHCBCVBGBBBECICBCCHCEBBECR", "dnTBRBhjOAXA"⟩),
  (["osage", "osge"], ⟨"dusUbJEbJ", "bdPACAGAcYA"⟩),
  (["osmanya", "osma"], ⟨"duqYbDCJ", ""⟩),
  (["pahawhhmong", "hmng"], ⟨"fhmEcRKJBGBUFS", ""⟩),
  (["palmyrene", "palm"], ⟨"dwdCbF", ""⟩),
  (["paucinhau", "pauc"], ⟨"edcAcE", ""⟩),
  (["phagspa", "phag"], ⟨"clsQcD", "jcKBBAdcJAfzUA"⟩),
  (["phoenician", "phnx"], ⟨"dwjGbBDA", ""⟩),
  (["psalterpahlavi", "phlp"], ⟨"dxhWRHDMG", "cjOA"⟩),
  (["rejang", "rjng"], ⟨"cmbWbJLA", ""⟩),
  (["runic", "runr"], ⟨"ioUcWDK", "irRC"⟩),
  (["samaritan", "samr"], ⟨"daUbTCO", "rmVA"⟩),
  (["saurashtra", "saur"], ⟨"clvCcRIL", ""⟩),
  (["sharada", "shrd"], ⟨"dzoYdR", "dnTAhkFABACBCAcatRFCA"⟩),
  (["shavian", "shaw"], ⟨"dupCbV", "hBA"⟩),
  (["siddham", "sidd"], ⟨"ebcIcBCbL", ""⟩),
  (["signwriting", "sgnw"], ⟨"gwtKzBPEBO", ""⟩),
  (["sinhala", "sinh"], ⟨"fcZCBRDXBIBACGDAEFBABHGJCCdulGT", "doMBhkMA"⟩),
  (["sogdian", "sogd"], ⟨"dysEbP", "cjOA"⟩),
  (["sorasompeng", "sora"], ⟨"dziEYHJ", ""⟩),
  (["soyombo", "soyo"], ⟨"ecxSdE", ""⟩),
  (["sundanese", "sund"], ⟨"kkUcLjWH", ""⟩),
  (["sunuwar", "sunu"], ⟨"edlWbHOJ", "bdOBBAJACAbCADA"⟩),
  (["sylotinagri", "sylo"], ⟨"clqEbS", "doMBeYJ"⟩),
  (["syriac", "syrc"], ⟨"cqYNBcHCCkMK", "bdRBCBBAVACCHBBAbcDAOBCAbGAKKbAAixRABA"⟩),
  (["tagalog", "tglg"], ⟨"isMVJA", "iuNB"⟩),
  (["tagbanwa", "tagb"], ⟨"iwEMBCBB", "iuNB"⟩),
  (["taile", "tale"], ⟨"jpGbDCE", "bdOBFBDAezZJ"⟩),
  (["taitham", "lana"], ⟨"jxGcKBbCCKGJGN", ""⟩),
  (["taiviet", "tavt"], ⟨"cmoUcOYE", ""⟩),
  (["takri", "takr"], ⟨"ebmEcFGJ", "doMBcidMJ"⟩),
  (["tamil", "taml"], ⟨"ejIBBFDCBDDBBABBDBDCDLEEDCBDCAGAOUealHbXNA", "dnTBRBhjOAcbbKAboeFABAcDB"⟩),
  (["tangsa", "tnsa"], ⟨"fhgQdABJ", ""⟩),
  (["tangut", "tang"], ⟨"fjiEAbFjbZIbdNtSI", "seAPtBA"⟩),
  (["telugu", "telu"], ⟨"eoEMBCBWBPCIBCBDHBBCCACDCJHI", "dnTBRBhjOAXA"⟩),
  (["thaana", "thaa"], ⟨"cvWbX", "chOAOBCAcMJdptGAKA"⟩),
  (["thai"], ⟨"fhXcFFbB", "baYAbAAbRAbTA"⟩),
  (["tibetan", "tibt"], ⟨"frScTBbJEbMBbJBOBGEB", "seYD"⟩),
  (["tifinagh", "tfng"], ⟨"rcYcDHBOA", "bdQABACABA"⟩),
  (["tirhuta", "tirh"], ⟨"easMcTIJ", "dnTBRBhkMAcasZJ"⟩),
  (["todhri", "todr"], ⟨"dvdGbZ", "bdPACACAJABAcWA"⟩),
  (["toto"], ⟨"hatKbE", "baYA"⟩),
  (["tulutigalari", "tutg"], ⟨"eaiQJBACABbLBJBACABDBJBBIB", "exAJgbQABAcasXFhFA"⟩),
  (["ugaritic", "ugar"], ⟨"duhCbDBA", ""⟩),
  (["vai", "vaii"], ⟨"ckmQlN", ""⟩),
  (["vithkuqi", "vith"], ⟨"dvaEKBOBGBBBKBOBGBB", ""⟩),
  (["wancho", "wcho"], ⟨"havGcFFA", ""⟩),
  (["warangciti", "wara"], ⟨"echCdEMA", ""⟩),
  (["yezidi", "yezi"], ⟨"dylKbPBCCB", "chOAOADAcMJ"⟩),
  (["yi", "yiii"], ⟨"cipKbsUDcC", "seRBFJCHiPAdaeFE"⟩),
  (["zanabazarsquare", "zanb"], ⟨"ecuQcT", ""⟩)]

/-- The script with a name. -/
def script? (name : String) : Option Script := named? scripts name

end SchemaBinding.Text
