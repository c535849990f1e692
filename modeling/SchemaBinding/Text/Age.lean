import SchemaBinding.Text.Runs

/-!
# Ages of characters

Source: Data of the character set, as the expression library of
`builtins/restriction` has it.

The age of a character is the version of the character set that assigned it.
-/

namespace SchemaBinding.Text

/-- The versions from the first one on, each with its names and the runs of code points that it
assigned. -/
def ages : List (List String × String) := [
  (["1.1", "v11"],
    "AtHEbDcEdKHbUBJWcRbABSBEADAFGBABTBbRBGDABABABABRNLBcNBLBbOJcACBCBDbBCHCBcDbLCGBbMBAbMJBI" ++
    "MbAFEXAOADABZFSNNCcTCEBOBbDCJtZCBcACRCEDYQCBHCBCVBGBADDCABGCBCCJAEBBECUHACFEBCVBGBBBBBBC" ++
    "ABEEBCCLDBAHOMCBGBABCBVBGBBBECJBCBCCAPAFJRCBHCBCVBGBBCDCHDBCCIBEBBCEKRBBFDCBDDBBABBDBDCD" ++
    "HBCEEDCBDJAPLOCBHBCBWBJBEEGBCBDHBJBEJSBBHBCBWBJBEEGBCBDHBHABBEJSBBHBCBWBPEFCCBDJAIBEJfPc" ++
    "FEbCbLBBACBBACAGDBGBCBABACBBMBCCEBABFCJCBrIbLKbMEAEdLFcPFdDeoKfYFdLGVCFCbLCFCHBABABABbEC" ++
    "cABOBNCFBSCCBIBbUBWbJGDbARKbLRbEcEbAbVNdMVjHOABeQfDbKbBKVfIVfTKdBQTGdHfPDBDCbBBbIBABDDAB" ++
    "GCGObEDXBNddHcDHABdFEFCdPGbNEdPBPdSbCDbJbCbBDbXPLEbUBeOEdUCbEjwBbexXyjQjxTiCGMEGYBEBABBB" ++
    "BBeDbHoAQcLCcBbOLbKDMUEJBSBDECBABfECABdPCdPDFCFCFCCDGBGOC"),
  (["2.0", "v20"],
    "ccVQBMUAdmXcTBbGHbAEFBABUDGBAfqNAuHAcatWqnReifYBdsyOBdsyOBdsyOBdsyOBdsyOBdsyOBdsyOBdsyOB" ++
    "dsyOBdsyOBdsyOBdsyOBdsyOhlxH"),
  (["2.1", "v21"], "mjSAdgoTA"),
  (["3.0", "v30"],
    "tIDbEHCReNEbXAKEdJITAeMADABABABAbEAMAcOAMAbQBCDdOBgAAhSCdUBFAPAbQEBNBbDDbAcBbWcfHBBRDXBI" ++
    "BACGDAEFBABHSCoJAbRAXCHABCBOCAbWbHBEBBBGDDGZqGGBcKBABDCGBABDCbMBABDCbEBABDCGBABDCGBGBWBb" ++
    "EBABDCGBbMBSGbBbJdGMyFJbCDdCfNdODJWOBJGdJIbPcwBAYFdRCbYBdHBcUAdZIkJAeRABbDfIBrPHbHAdIBpI" ++
    "jVccEZBdKMiFbALcICDAnPXwMjtDbfeGbsUDRCPBLBCBAbgsCAbvVC"),
  (["3.1", "v31"],
    "bmYBdqqCbFbxWbEBDMbAgZbLCbLczdQjLKbMDgXvAdGBcSBBCACBCDBLBABDBBBcMBDCHBGBbBBDBEBADGBmZElD" ++
    "EbXpdWcleSbetDuVbpcqTAbEdR"),
  (["3.2", "v32"],
    "uYAlQATMeABbCAfRBcFBCBCBbXPnMBmJAdnHBchJMBGLWJTMMBCBBdiXAGEEAHENAcKBbYGdEOgMLjINeUAbEbZk" ++
    "YTfVJdKHWBdMLCJiONdMbBEPjWtRbzNCdJBIBdQAjGPdDOdDObrdIBQAMADAbgjAcGbjDADPcBBbSAjBB"),
  (["4.0", "v40"],
    "uZASCePBcLQdCHFCfVEtWDJIcMCfTBPAbTCbDCqUAhCAcPABAfGAdGCNAcPAcHAeZHhLBefNASJkCbCDLELEADbP" ++
    "CEeDbFbdOeDbcPBiWAzJBlQAkQBeMHOBbrANcrNBbXAbRBdADgLDdVBbFAjtOcLcoqVAcVBqXLBZBSBBBOCNbIeS" ++
    "FCEbSDIwEbDBAfEBbMdBCJbgWFCABbRBBDACAcyuIdInYAbtkdAjF"),
  (["4.1", "v41"],
    "vVKkSEgDDjMBgOAbICcPASAcGFjHbDuHAdCAsTAbVAbmNBlJBBAkGAcLAcLAbNAbFAbFAbFAPAbNAXBbFZcgCbPG" ++
    "ZGJEBbGbBCBbgMdJzHBBGbXEbDDcBAdCAPAyUKwAAdXBSKFPkKGbgHFjCbUBbUbHeCObSKcBJAQWJGBGBGBGBGBG" ++
    "BGBGbHXEBbjUPgSAbpiTVctOWiZbRbfeAeBbfQJbfAcWuNbJENciSDBBFHBCBbAECEIIIcxpVcRbrAB"),
  (["5.0", "v50"],
    "wGNlNCmZAbQFQDgKAtXcGoUBBBbhIBNBfiJcXEbSwLGbZBbcUDdPBcBAxBLbbMAkQDbgJGFDmEMHDbulJDFBlAcD" ++
    "bkoMZFAirGbhUfPdUNDcogIRbqUB"),
  (["5.1", "v51"],
    "bhWDCBdJAhBAfKPiSELEbGElQRtDBiOAbJAhYAbDBeEAeEAbABIBUHhHAGAbDBMFDGsXBdTADCcZAFACAHCEFbAc" ++
    "LEBdbEAbbXbQDLcScDDODbYmTbBgZDdMFnSAfJAdQAcBDbyAAVJDDkEAbFDbfFEEbODEkUCBCEFnQbFYDCSbdKAg" ++
    "GTbppOHbzOlNUbFCRIbBfBECeCeGEeYcQJLbMdFLAgEcCJNCJCDbfsUCbhPLcAbTfAbCDbWckDZFAcxsJAlrQbRE" ++
    "dV"),
  (["5.2", "v52"],
    "byQBbcCbTCOhLAcZAGAbJBeYAcfPDhLDhGEcQEdEFtSAyGIvOcRgYBbUAcRcKBbCCKGJGNvAbIkGAbaUCfVCcCAx" ++
    "IAbaRBbDCEJBSBAEXdJAbnHEkSANBeDGmHAboCLbplSHbxKbVqAdJmAJgKbBdWbCDcZBKEBeYbBEcOYEiQbTCJqo" ++
    "KWEbWnbBCfgCVBIhEBmMbFeYcBDbCCbAFHeYcUuPbEtTcNlvQbpEctnDKFbECALABACADADEIAHAZABBCAKDCAeH" ++
    "APbHOIcqlJgdO"),
  (["6.0", "v60"],
    "bySBjOAcKAsMbBCAiLBTAGBbBEtMFqRAQATAwBDcVBbiOBdeNbZIDtOAzOHbCAbfJKbcCATABDbDAEBbCAbJABAE" ++
    "CJBcACYAOAOBcdKAOAbpOCbseNBlNBBBOJdCAbdUFCFCFJGBGbemTPhrIcZEbDbheEvWbalBBymGOCNCOBOdCABK" ++
    "BABBBCBCFHBGBJGIBACBBJEBBJcXZBBbVIVBgSbGPFBcRDTMbKBEVQPcKBABgZBDDcJSXfREBPBCBABABABCBFCD" ++
    "BACDBLEKbWcRcGeLcuqMiN"),
  (["6.1", "v61"],
    "ccTAeMAzRABKcDbAtDAbmRBsTAFAbVCebBCMFjWHbRDecQABAbyQBbZAFAcEBhUJbraEAcnNHbJAjIBWAcZBbcOW" ++
    "bdzZBfuUcDGBcrOYHJGcABNcIcUHJbtUcDIJbhkOcQLbUQQbvwIDBbABBBACABJBDBABAGAEABABABCBBBACABAB" ++
    "ABABABBBACDBGBDBDBABJBQFCBEBQcAByIBblSDhGAQADABABABADAGBEABBEA"),
  (["6.2", "v62"], "mkGA"),
  (["6.3", "v63"], "ciEAjyVD"),
  (["7.0", "v70"],
    "biLAqIHdPBeOAzRALFcYAeQAHAyPAbZAcYAeXAiUJdkRHvCBpLOvXBjDObbHCbfQGbdTAbqICKZCbFCbHDLBHxUG" ++
    "btoVFjMLLCCBcRAsUbEeVDgUbVEBbfiVGbhDBTAmHbBbJAbWbQoZbNIbZLAfOlYJVKHjOcKIIrWbFbGbMELfHRHD" ++
    "MGbvJAiAbMdIAMAGTLRBbQeKcGFJHCBHCBCVBGBBBECICBCCJAFGCGDEkHcTIJgKcBCRcCcQLJwKdEMArGcEdfIb" ++
    "PhULFAbalFbEBJEBdSbDCFKcRKJBGBUFSbemAeCFMDIHJCHqkYhOCPczWAbGVVBuMLJAcSAWLbLAFDFLRGcTABAh" ++
    "AAEBcLBEGbDRBbOBdHcSBNbVcSJQMDDfKdGbRLEcDIJGbNIbD"),
  (["8.0", "v80"],
    "dhRBbUAuNAnOAkAAcmVACFevOAhVBdyEDbrwVIcoUAjGAbIFmMBxMDMdBbffQBebGSBBFEhGBCPCbTyQbYNbYHFb" ++
    "vDDOEgEGBABDBOBKdIAdBAyJTlEZDOEPerPAiWhNlqQwKcawLKchZzBPEBOjhDCdABdBEbKHjVAcXEjJBfJAwDId" ++
    "ZEcHAcucLinP"),
  (["9.0", "v90"],
    "dhUHWObjPAhYAECBGXCfrZIoGAchBDdxCBbtzLAkSAbhqDBbeVbJEbJfaOArHdLBABAtUMccXIBbSBNKbCDbFCVB" ++
    "NbfmVAbFjbOTbdAbgfLGBQCGBBBEdiZcWFJEBddBRfMAbfYAbPAlOBbHCvAFBHIACLBLEObMM"),
  (["10.0", "v100"],
    "deMKpLBjSFtSAcGBfyWAjUDbbHAbfZAczAAyCEbcMAbpxNUblpICiqQcTIbZCWBExHGBBBbRDABBBIIJbfgPAyhK" ++
    "kYdDpFyaEFbrPBbIBtZLTAIHBBZASMbMFcEWdcpDlbK"),
  (["11.0", "v110"],
    "caYAbNAdYAuFCiDAlMAePApHAeXAenRAboHbQCCfrMCWYEOwPEbcIAbpyHEcyHAIBmMBbkvCBSAbaTbNIJrMbNIb" ++
    "PoHAeOCtGAlEAbaXAiVcHxLAbbEFBBBbKBBBFHJlYYbeaPdMjpIEbcjUTeWGjlWcPbsCAceZAiLDoICbCECDDABD" ++
    "YKNJHBbKYdSN"),
  (["12.0", "v120"],
    "esTAuGACACABFEAHAHBCANAfkHAfpUAcBAwTAbtzMFCEbjRBbmbGWbrKAxCAbcPHCbTCKgDBbzMbXNAhqUIwjKFE" ++
    "AbVIdMBjcWFprCCRDsaQbSDNCJEBoEcFFAcjZAbkNcIbpEAcbGAbKAiVLlDCbVAbXAJAbPFDBKFDHCCbWdFbCDEC" ++
    "FCNF"),
  (["12.1", "v121"], "tiDA"),
  (["13.0", "v130"],
    "diCJzDAqOAeUAfaJBgjUAbaUCbhOEkpIJbfdGMcySDbQBcBAbfVDbgqQAewXbPBCCBjUbBoPAfEBzAAFBbtMGCAC" ++
    "HBBBbDBBCLJJckKAbejRALBkfXsObQIblwUCdPCcJAbyUBbJBqTBdMAdXAEBbQBGCbDAgMAODPSHGJCNGbPfQBcC" ++
    "bLJcmsJGbhtQhhY"),
  (["14.0", "v140"],
    "ciFAwWbEBBGHVASKbhPAbGAeXAdwHAHAJAjFAbaNNeVAbWByLAbbHAeiOAbVAtFKbraTCcyIBOBBABEYCbftDAoR" ++
    "PeXAbUBcvGKBOBGBBBKBOBGBBrJFBbPBIcxXZiWFcYAcgSAfEGbhPPhwYdUwdXdABJbaeWDBGBBlCDliBbTCWJeL" ++
    "vDBeyVbEbhXbEbzDGBDBBBOfqKCkMApCAdEAgSBbSDKDICRCGHIGcncPBgeVD"),
  (["15.0", "v150"],
    "exNAsGAdtaKCbfZCdiCJbnAQBbODbBhxDAJbCbvhKAbIAmrATerHFkBcJbHAbpWbPguCAfVCEEdLAzRC" ++
    "PBbKCLCBAOBKBMAOBcthOAbiwSgfF"),
  (["15.1", "v151"], "seMDtBAkeiQxX"),
  (["16.0", "v160"],
    "dgPAhcGBbVAkFBcwYCffEBbsqVCMCbjoLbZctWbLDbCIBlUCcDAbsLJBACABbLBJBACABDBJBBIBbcVTbvWbHOJb" ++
    "hGAhyZfxQkzTcFeoKcFlyJAxwIjPGqTitObQEAhcCJEBrNAFAbUAHAVACAJAiRbK")]

/-- The runs of the versions up to the one with a name. -/
def agesUpTo? (name : String) : Option (List String) :=
  if ages.any (·.1.contains name) then
    let before := ages.takeWhile fun age => !age.1.contains name
    some ((before ++ (ages.drop before.length).take 1).map (·.2))
  else none

end SchemaBinding.Text
