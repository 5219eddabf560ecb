import PromptKit.Unicode.Category
import PromptKit.Unicode.Fold
import PromptKit.Unicode.Listed

/-!
Properties that follow from the general categories, the lists and the case mappings.
-/

namespace PromptKit.Unicode

/-- The union of some sets. -/
def unions (rs : List Ranges) : Ranges := rs.foldl Ranges.union []

def lowercase : Ranges := Ranges.union (Category.ranges .ll) otherLowercase

def uppercase : Ranges := Ranges.union (Category.ranges .lu) otherUppercase

def alphabetic : Ranges := unions [ofCategories letters, Category.ranges .nl, otherAlphabetic]

def math : Ranges := Ranges.union (Category.ranges .sm) otherMath

def cased : Ranges := unions [lowercase, uppercase, Category.ranges .lt]

/-- Punctuation that may stand inside a word, with letters or with letters and digits. -/
def midLetter : Ranges := [
  (0x3A, 0x3A), (0xB7, 0xB7), (0x387, 0x387), (0x55F, 0x55F), (0x5F4, 0x5F4), (0x2027, 0x2027),
  (0xFE13, 0xFE13), (0xFE55, 0xFE55), (0xFF1A, 0xFF1A)]

def midNumLet : Ranges := [
  (0x2E, 0x2E), (0x2018, 0x2019), (0x2024, 0x2024), (0xFE52, 0xFE52), (0xFF07, 0xFF07),
  (0xFF0E, 0xFF0E)]

def caseIgnorable : Ranges :=
  unions [ofCategories [.mn, .me, .cf, .lm, .sk], midLetter, midNumLet, Ranges.single 0x27]

def graphemeExtend : Ranges := Ranges.union (ofCategories [.mn, .me]) otherGraphemeExtend

def graphemeBase : Ranges :=
  (assigned.diff (ofCategories [.cc, .cf, .co, .zl, .zp])).diff
    (graphemeExtend.union [(0xD800, 0xDFFF)])

def defaultIgnorable : Ranges :=
  (unions [otherDefaultIgnorable, Category.ranges .cf, variationSelector]).diff
    (unions [whiteSpace, [(0xFFF9, 0xFFFB), (0x13430, 0x13440)], prependedConcatenationMark])

def pattern : Ranges := Ranges.union patternSyntax patternWhiteSpace

def idStart : Ranges :=
  (unions [ofCategories letters, Category.ranges .nl, otherIdStart]).diff pattern

def idContinue : Ranges :=
  (unions [idStart, ofCategories [.mn, .mc, .nd, .pc], otherIdContinue]).diff pattern

/-- Characters that lose their place in identifiers under compatibility mappings. -/
def notCompatible : Ranges := [
  (0x37A, 0x37A), (0x309B, 0x309C), (0xFC5E, 0xFC63), (0xFDFA, 0xFDFB), (0xFE70, 0xFE70),
  (0xFE72, 0xFE72), (0xFE74, 0xFE74), (0xFE76, 0xFE76), (0xFE78, 0xFE78), (0xFE7A, 0xFE7A),
  (0xFE7C, 0xFE7C), (0xFE7E, 0xFE7E)]

def xidStart : Ranges :=
  idStart.diff (notCompatible.union [(0xE33, 0xE33), (0xEB3, 0xEB3), (0xFF9E, 0xFF9F)])

def xidContinue : Ranges := idContinue.diff notCompatible

/-- Characters of words. -/
def word : Ranges := unions [alphabetic, ofCategories (marks ++ [.nd, .pc]), joinControl]

/-! ### Case mappings -/

/-- Characters without a case mate of one character that change when their case is mapped. -/
def expanding : Ranges := [
  (0x130, 0x131), (0x149, 0x149), (0x1F0, 0x1F0), (0x587, 0x587), (0x1E96, 0x1E9A),
  (0x1F50, 0x1F50), (0x1F52, 0x1F52), (0x1F54, 0x1F54), (0x1F56, 0x1F56), (0x1FB2, 0x1FB2),
  (0x1FB4, 0x1FB4), (0x1FB6, 0x1FB7), (0x1FC2, 0x1FC2), (0x1FC4, 0x1FC4), (0x1FC6, 0x1FC7),
  (0x1FD2, 0x1FD2), (0x1FD6, 0x1FD7), (0x1FE2, 0x1FE2), (0x1FE4, 0x1FE4), (0x1FE6, 0x1FE7),
  (0x1FF2, 0x1FF2), (0x1FF4, 0x1FF4), (0x1FF6, 0x1FF7), (0xFB00, 0xFB04), (0xFB13, 0xFB17)]

def changesWhenCasemapped : Ranges := withCaseMates.union expanding

def capitals : Ranges := Ranges.union uppercase (Category.ranges .lt)

def changesWhenLowercased : Ranges := capitals.inter (withCaseMates.union (Ranges.single 0x130))

def changesWhenUppercased : Ranges := changesWhenCasemapped.diff uppercase

/-- Letters whose title case is the letter itself, and the capitals of which it is not. -/
def changesWhenTitlecased : Ranges :=
  (changesWhenUppercased.diff
    (Ranges.union (Category.ranges .lt) [(0x10D0, 0x10FA), (0x10FD, 0x10FF)])).union
      [(0x1C4, 0x1C4), (0x1C7, 0x1C7), (0x1CA, 0x1CA), (0x1F1, 0x1F1)]

/-- Small letters that fold to others. -/
def foldingSmall : Ranges := [
  (0xB5, 0xB5), (0xDF, 0xDF), (0x130, 0x130), (0x149, 0x149), (0x17F, 0x17F), (0x345, 0x345),
  (0x3C2, 0x3C2), (0x3D0, 0x3D1), (0x3D5, 0x3D6), (0x3F0, 0x3F1), (0x3F5, 0x3F5), (0x587, 0x587),
  (0x13F8, 0x13FD), (0x1C80, 0x1C88), (0x1E9A, 0x1E9B), (0x1F80, 0x1F87), (0x1F90, 0x1F97),
  (0x1FA0, 0x1FA7), (0x1FB2, 0x1FB4), (0x1FB7, 0x1FB7), (0x1FC2, 0x1FC4), (0x1FC7, 0x1FC7),
  (0x1FF2, 0x1FF4), (0x1FF7, 0x1FF7), (0xAB70, 0xABBF), (0xFB00, 0xFB06), (0xFB13, 0xFB17)]

def changesWhenCasefolded : Ranges :=
  ((capitals.inter withCaseMates).diff [(0x13A0, 0x13F5)]).union foldingSmall

/-- The derived properties with their names, in lower case and without separators. -/
def derivedProperties : List (List String × Ranges) := [
  (["alphabetic", "alpha"], alphabetic),
  (["caseignorable", "ci"], caseIgnorable),
  (["cased"], cased),
  (["changeswhencasefolded", "cwcf"], changesWhenCasefolded),
  (["changeswhencasemapped", "cwcm"], changesWhenCasemapped),
  (["changeswhenlowercased", "cwl"], changesWhenLowercased),
  (["changeswhentitlecased", "cwt"], changesWhenTitlecased),
  (["changeswhenuppercased", "cwu"], changesWhenUppercased),
  (["defaultignorablecodepoint", "di"], defaultIgnorable),
  (["graphemebase", "grbase"], graphemeBase),
  (["graphemeextend", "grext"], graphemeExtend),
  (["idcontinue", "idc"], idContinue),
  (["idstart", "ids"], idStart),
  (["lowercase", "lower"], lowercase),
  (["math"], math),
  (["uppercase", "upper"], uppercase),
  (["xidcontinue", "xidc"], xidContinue),
  (["xidstart", "xids"], xidStart)]

end PromptKit.Unicode
