import SchemaBinding.Text.Runs

/-!
# Classes of characters where a text may be divided

Source: Data of the character set, as the expression library of
`builtins/restriction` has it.

Texts are divided into characters as readers see them, into words and into
sentences. Each division rests on a partition of the characters into classes.
The class of all other characters has no name.
-/

namespace SchemaBinding.Text

/-- The classes for the division into characters as readers see them. The Korean syllables come in
blocks of 28, the first of each block without a final consonant. -/
def graphemeBreaks : List (List String × Membership) := [
  (["cr"], ⟨[], "NA"⟩),
  (["control", "cn"], ⟨[.control, .format],
    "KACAcgOFiHAbXAoUBdCAiuBBbABcHAdgrAIgjCAPAbwfyOABjTjGfiL"⟩),
  (["extend", "ex"],
    ⟨[.nonspacingMark, .enclosingMark],
      "drYAYAnUAYAdYAYAiYABAEBBBJBdZAYAePAPAdmRAbEAbnKAFABAFBdXAcTBboIAgcVBbtwTAeEAbgnLBgwMAe" ++
      "MAkEAOAJAdSAJACABCFAiQAMAjHAkCAyJAMAchFAbeoKBbkxNBGFncAEbsxyUdR"⟩),
  (["l"], ⟨[], "glKdRcfoQbC"⟩),
  (["lf"], ⟨[], "KA"⟩),
  (["lv"], ⟨[], "cndOA" ++ String.join (List.replicate 398 "bBA")⟩),
  (["lvt"], ⟨[], "cndPbA" ++ String.join (List.replicate 398 "BbA")⟩),
  (["prepend", "pp"], ⟨[], "chCFiHAbXAoUBdCAbrNAdugKAPAjKBuFAcbLABAjOAcVFbaYArBA"⟩),
  (["regionalindicator", "ri"], ⟨[], "hgoKZ"⟩),
  (["spacingmark", "sm"],
    ⟨[.spacingMark],
      "drYAYAnUAYAdYAYAiYABAEBBBJBdZAYAePAPAdFAeXAoLBLAbPCCGVADFCAKCclSAbEAbfGABBiAAFABAFBdXA" ++
      "cTBhrEBbtwTAeEAhEABAbncSAeMAkEAOAJAdSAJACABCFAiQAMAjHAkCAeBBuGAMAchFAbeoKBbkxNBGF"⟩),
  (["t"], ⟨[], "grWdJcwxNbW"⟩),
  (["v"], ⟨[], "gpCcTcwzWWcerCADD"⟩),
  (["zwj"], ⟨[], "mdPA"⟩)]

/-- The classes for the division into words. -/
def wordBreaks : List (List String × Membership) := [
  (["aletter", "le"],
    ⟨letters ++ [.letterNumber],
      "bbEDMFGBFGBABQxECBAbRAcRbAEEkXAcqJbVBBMGcGBBABEBXBABJBBJACEBAVDlCbQUAQFEDDADBHCEMMAcqJ" ++
      "bZbJAEAoHbDCELbREZdIcAdEAdvAbZefKBZIHECCGdHGCBdLBDjGPtSjtNcMbfbJcrGOJBdZBwZEBJKEdTWDAD" ++
      "bXBADBCECABAYCeVAbdkMoBCeBcPABJBMBEBABBBBBJboGcFiwEbAbLGbhpPjbZIbvPbPJnfRDBGBBBlEPAbDC" ++
      "CAODIpFxoMZGZGZfmKclfBbGgdTGiNCinPOlbKPxXdqWuVcfYhhYFgfF"⟩),
  (["cr"], ⟨[], "NA"⟩),
  (["doublequote", "dq"], ⟨[], "bIA"⟩),
  (["extend"], ⟨[.nonspacingMark, .spacingMark, .enclosingMark], "mdOAdgrHBdonZEbsxyUdR"⟩),
  (["extendnumlet", "ex"], ⟨[.connectorPunctuation], "meXA"⟩),
  (["format", "fo"], ⟨[.format], "chCFiHAbXAoUBdCAiuACdndVAPAbwfzUdR"⟩),
  (["hebrewletter", "hl"], ⟨[], "cfGbAEDdovYABJBMBEBABBBBBJ"⟩),
  (["katakana", "ka"], ⟨[], "sgNEdXBDdMBDjGPiAbUBdJczhEcDcouCDBGBBBAlBCbYAOD"⟩),
  (["lf"], ⟨[], "KA"⟩),
  (["midletter", "ml"], ⟨[], "cGAeUAbbRAsDAfSAjxYAdgbBAcNAhOA"⟩),
  (["midnum", "mn"], ⟨[], "bSAOAbgCAuCAfABdQApFAjfFAdgcHADAhBAOA"⟩),
  (["midnumlet", "mb"], ⟨[], "bUAmcFBKAdgdPAgYAGA"⟩),
  (["newline", "nl"], ⟨[], "LBeQAlzMB"⟩),
  (["numeric", "nu"], ⟨[.decimalNumber], "chCFdXAeJAqSBdCAglBAdpmWAPA"⟩),
  (["regionalindicator", "ri"], ⟨[], "hgoKZ"⟩),
  (["singlequote", "sq"], ⟨[], "bNA"⟩),
  (["wsegspace"], ⟨[.spaceSeparator], "gEAlxEAbNA"⟩),
  (["zwj"], ⟨[], "mdPA"⟩)]

/-- The classes for the division into sentences. -/
def sentenceBreaks : List (List String × Membership) := [
  (["aterm", "at"], ⟨[], "bUAmcRAdgdPAhFA"⟩),
  (["cr"], ⟨[], "NA"⟩),
  (["close", "cl"],
    ⟨letters ++ [.nonspacingMark, .spacingMark, .enclosingMark, .decimalNumber, .letterNumber,
      .otherNumber,
      .connectorPunctuation, .dashPunctuation, .otherPunctuation, .mathSymbol, .currencySymbol,
      .modifierSymbol, .otherSymbol, .spaceSeparator, .control, .format, .privateUse, .unassigned],
      "AbHBDBmdBCcsUGcnECDDBBcmjJdaUeblTDcebvA"⟩),
  (["extend", "ex"], ⟨[.nonspacingMark, .spacingMark, .enclosingMark], "mdOBdgrGBbwmmYdR"⟩),
  (["format", "fo"], ⟨[.format], "chCFiHAqSBdCAiuBBdndVAPAbwfzUdR"⟩),
  (["lf"], ⟨[], "KA"⟩),
  (["lower", "lo"],
    ⟨[.lowercaseLetter],
      "gOAPAtHIHBbEEfTAfbHbQBDepWcKNAbIbKbaNANAQMiDPbgQZcwOBbugKBiCAeZCDBbhIDJAbiwSACCB" ++
      "bPBIddzHcJ"⟩),
  (["numeric", "nu"], ⟨[.decimalNumber], "chCFdXBeIAqSBdCAglBAdpmWAPA"⟩),
  (["oletter", "le"],
    ⟨[.modifierLetter, .otherLetter, .letterNumber],
      "gOAPAtHIHBbEEfTAyIAecYbQBDejWbQCCeEcKNAbIbKbaNANAQMhNbFeeEBbugKBiCAeZCDBbhIDJAbf" ++
      "xCBczOACCBbPBIddzHcJ"⟩),
  (["scontinue", "sc"], ⟨[], "bSBMBbgCAsKAgSBsWAgbXAFAdbEBgaUAdaaWBBBbCBbDBCBCAKAgMBMBcUA"⟩),
  (["sterm", "st"],
    ⟨[],
      "bHAbDAcaBAfRCgYAbRCjMAcJABADBlHBcpWBbeKAEBbdTAhQBgBBbTAFAmCBnQDgGBKBCBbDChFBcNBbkUBJCe" ++
      "uXClUANAWBqNAbshWAkKBiTADAoSBdIBdRAfWBfRCfOBjPAbfcWACBcLBgNAbDAcNAedWBbxDEbSDhHBeNDeXC" ++
      "eZBGAQBdKBBBeEAlMBeNBoJBFOeBBjPCtXABAjRBdJBqEBbaQBcWBbcmBBfDAcNBLAvHBlKAbdoGAliMA"⟩),
  (["sep", "se"], ⟨[], "fDAlzMB"⟩),
  (["sp"], ⟨[.spaceSeparator], "JABB"⟩),
  (["upper", "up"], ⟨[.uppercaseLetter, .titlecaseLetter], "kvGbQCCbtOPbgGZgsiYZGZGZ"⟩)]

end SchemaBinding.Text
