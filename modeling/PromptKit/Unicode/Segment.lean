import PromptKit.Unicode.Derived
import PromptKit.Unicode.Script

/-!
The classes of characters by which text is cut into user-perceived characters, words and
sentences.
-/

namespace PromptKit.Unicode

/-! ### User-perceived characters -/

/-- Letters and signs that join the character after them. -/
def prepended : Ranges := [
  (0x600, 0x605), (0x6DD, 0x6DD), (0x70F, 0x70F), (0x890, 0x891), (0x8E2, 0x8E2), (0xD4E, 0xD4E),
  (0x110BD, 0x110BD), (0x110CD, 0x110CD), (0x111C2, 0x111C3), (0x113D1, 0x113D1),
  (0x1193F, 0x1193F), (0x11941, 0x11941), (0x11A3A, 0x11A3A), (0x11A84, 0x11A89),
  (0x11D46, 0x11D46), (0x11F02, 0x11F02)]

/-- Spacing marks that end a character of their own. -/
def looseMarks : Ranges := [
  (0x102B, 0x102C), (0x1038, 0x1038), (0x1062, 0x1064), (0x1067, 0x106D), (0x1083, 0x1083),
  (0x1087, 0x108C), (0x108F, 0x108F), (0x109A, 0x109C), (0x1A61, 0x1A61), (0x1A63, 0x1A64),
  (0xAA7B, 0xAA7B), (0xAA7D, 0xAA7D), (0x11720, 0x11721)]

def joiner : Ranges := Ranges.single 0x200D

/-- The first of the 28 syllables in each row of Hangul syllables; it has no final consonant. -/
def openSyllables : Ranges := (List.range 399).map fun i => (0xAC00 + 28 * i, 0xAC00 + 28 * i)

def graphemeClasses : List (List String × Ranges) := [
  (["cr"], [(13, 13)]),
  (["lf"], [(10, 10)]),
  (["control", "cn"],
    (unions [ofCategories [.zl, .zp, .cc, .cf], assigned.compl.inter defaultIgnorable]).diff
      (unions [[(10, 10), (13, 13)], joiner, prependedConcatenationMark, graphemeExtend])),
  (["extend", "ex"], (graphemeExtend.union emojiModifier).diff joiner),
  (["prepend", "pp"], prepended),
  (["spacingmark", "sm"],
    ((Category.ranges .mc).diff (graphemeExtend.union looseMarks)).union
      [(0xE33, 0xE33), (0xEB3, 0xEB3)]),
  (["l"], [
    (0x1100, 0x115F), (0xA960, 0xA97C)]),
  (["v"], [
    (0x1160, 0x11A7), (0xD7B0, 0xD7C6), (0x16D63, 0x16D63), (0x16D67, 0x16D6A)]),
  (["t"], [
    (0x11A8, 0x11FF), (0xD7CB, 0xD7FB)]),
  (["lv"], openSyllables),
  (["lvt"], Ranges.diff [(0xAC00, 0xD7A3)] openSyllables),
  (["regionalindicator", "ri"], regionalIndicator),
  (["zwj"], joiner)]

/-! ### Words -/

/-- The characters that take part in numbers but are not decimal digits. -/
def numberMarks : Ranges := [
  (0x600, 0x605), (0x66B, 0x66B), (0x6DD, 0x6DD), (0x890, 0x891), (0x8E2, 0x8E2),
  (0x110BD, 0x110BD), (0x110CD, 0x110CD)]

/-- Letters of scripts that write no spaces between words. -/
def unspacedLetters : Ranges := [
  (0xE01, 0xE30), (0xE32, 0xE33), (0xE40, 0xE46), (0xE81, 0xE82), (0xE84, 0xE84), (0xE86, 0xE8A),
  (0xE8C, 0xEA3), (0xEA5, 0xEA5), (0xEA7, 0xEB0), (0xEB2, 0xEB3), (0xEBD, 0xEBD), (0xEC0, 0xEC4),
  (0xEC6, 0xEC6), (0xEDC, 0xEDF), (0x1000, 0x102A), (0x103F, 0x103F), (0x1050, 0x1055),
  (0x105A, 0x105D), (0x1061, 0x1061), (0x1065, 0x1066), (0x106E, 0x1070), (0x1075, 0x1081),
  (0x108E, 0x108E), (0x1780, 0x17B3), (0x17D7, 0x17D7), (0x17DC, 0x17DC), (0x1950, 0x196D),
  (0x1970, 0x1974), (0x1980, 0x19AB), (0x19B0, 0x19C9), (0x1A20, 0x1A54), (0x1AA7, 0x1AA7),
  (0xA9E0, 0xA9E4), (0xA9E6, 0xA9EF), (0xA9FA, 0xA9FE), (0xAA60, 0xAA76), (0xAA7A, 0xAA7A),
  (0xAA7E, 0xAAAF), (0xAAB1, 0xAAB1), (0xAAB5, 0xAAB6), (0xAAB9, 0xAABD), (0xAAC0, 0xAAC0),
  (0xAAC2, 0xAAC2), (0xAADB, 0xAADD), (0x11700, 0x1171A), (0x11740, 0x11746)]

/-- Characters that are no letters but belong to words as letters do. -/
def letterLike : Ranges := [
  (0x2C2, 0x2C5), (0x2D2, 0x2D7), (0x2DE, 0x2DF), (0x2E5, 0x2EB), (0x2ED, 0x2ED), (0x2EF, 0x2FF),
  (0x55A, 0x55C), (0x55E, 0x55E), (0x58A, 0x58A), (0x5F3, 0x5F3), (0x70F, 0x70F), (0xA708, 0xA716),
  (0xA720, 0xA721), (0xA789, 0xA78A), (0xAB5B, 0xAB5B)]

def katakana : Ranges := [
  (0x3031, 0x3035), (0x309B, 0x309C), (0x30A0, 0x30FA), (0x30FC, 0x30FF), (0x31F0, 0x31FF),
  (0x32D0, 0x32FE), (0x3300, 0x3357), (0xFF66, 0xFF9D), (0x1AFF0, 0x1AFF3), (0x1AFF5, 0x1AFFB),
  (0x1AFFD, 0x1AFFE), (0x1B000, 0x1B000), (0x1B120, 0x1B122), (0x1B155, 0x1B155),
  (0x1B164, 0x1B167)]

def hebrewLetters : Ranges := ((script? "hebr").getD []).inter (Category.ranges .lo)

def wordExtend : Ranges :=
  (unions [graphemeExtend, Category.ranges .mc, emojiModifier]).diff joiner

def formats : Ranges :=
  (Category.ranges .cf).diff (unions [prependedConcatenationMark, graphemeExtend, joiner])

def wordClasses : List (List String × Ranges) := [
  (["cr"], [(13, 13)]),
  (["lf"], [(10, 10)]),
  (["newline", "nl"], [(0xB, 0xC), (0x85, 0x85), (0x2028, 0x2029)]),
  (["extend"], wordExtend),
  (["zwj"], joiner),
  (["regionalindicator", "ri"], regionalIndicator),
  (["format", "fo"], formats.diff (Ranges.single 0x200B)),
  (["katakana", "ka"], katakana),
  (["hebrewletter", "hl"], hebrewLetters),
  (["aletter", "le"],
    (alphabetic.diff (unions [ideographic, katakana, (script? "hira").getD [], wordExtend,
      hebrewLetters, unspacedLetters])).union letterLike),
  (["singlequote", "sq"], [(0x27, 0x27)]),
  (["doublequote", "dq"], [(0x22, 0x22)]),
  (["midnumlet", "mb"], midNumLet),
  (["midletter", "ml"], midLetter),
  (["midnum", "mn"], [
    (0x2C, 0x2C), (0x3B, 0x3B), (0x37E, 0x37E), (0x589, 0x589), (0x60C, 0x60D), (0x66C, 0x66C),
    (0x7F8, 0x7F8), (0x2044, 0x2044), (0xFE10, 0xFE10), (0xFE14, 0xFE14), (0xFE50, 0xFE50),
    (0xFE54, 0xFE54), (0xFF0C, 0xFF0C), (0xFF1B, 0xFF1B)]),
  (["numeric", "nu"], Ranges.union (Category.ranges .nd) numberMarks),
  (["extendnumlet", "ex"], Ranges.union (Category.ranges .pc) [(0x202F, 0x202F)]),
  (["wsegspace"], [
    (0x20, 0x20), (0x1680, 0x1680), (0x2000, 0x2006), (0x2008, 0x200A), (0x205F, 0x205F),
    (0x3000, 0x3000)])]

/-! ### Sentences -/

def sentenceDots : Ranges := [(0x2E, 0x2E), (0x2024, 0x2024), (0xFE52, 0xFE52), (0xFF0E, 0xFF0E)]

def sentenceExtend : Ranges := unions [graphemeExtend, Category.ranges .mc, joiner]

def sentenceLower : Ranges :=
  lowercase.diff (graphemeExtend.union [(0x10D0, 0x10FA), (0x10FD, 0x10FF)])

def sentenceUpper : Ranges := capitals.diff [(0x1C90, 0x1CBA), (0x1CBD, 0x1CBF)]

def sentenceClasses : List (List String × Ranges) := [
  (["cr"], [(13, 13)]),
  (["lf"], [(10, 10)]),
  (["sep", "se"], [(0x85, 0x85), (0x2028, 0x2029)]),
  (["extend", "ex"], sentenceExtend),
  (["format", "fo"], formats),
  (["sp"], whiteSpace.diff [(10, 10), (13, 13), (0x85, 0x85), (0x2028, 0x2029)]),
  (["lower", "lo"], sentenceLower),
  (["upper", "up"], sentenceUpper),
  (["oletter", "le"],
    (alphabetic.union [(0x5F3, 0x5F3), (0x70F, 0x70F)]).diff
      (unions [sentenceLower, sentenceUpper, sentenceExtend])),
  (["numeric", "nu"], unions [Category.ranges .nd, numberMarks, [(0x66C, 0x66C)]]),
  (["aterm", "at"], sentenceDots),
  (["scontinue", "sc"], [
    (0x2C, 0x2D), (0x3A, 0x3B), (0x37E, 0x37E), (0x55D, 0x55D), (0x60C, 0x60D), (0x7F8, 0x7F8),
    (0x1802, 0x1802), (0x1808, 0x1808), (0x2013, 0x2014), (0x3001, 0x3001), (0xFE10, 0xFE11),
    (0xFE13, 0xFE14), (0xFE31, 0xFE32), (0xFE50, 0xFE51), (0xFE54, 0xFE55), (0xFE58, 0xFE58),
    (0xFE63, 0xFE63), (0xFF0C, 0xFF0D), (0xFF1A, 0xFF1B), (0xFF64, 0xFF64)]),
  (["sterm", "st"], sentenceTerminal.diff sentenceDots),
  (["close", "cl"],
    unions [ofCategories [.ps, .pe, .pi, .pf], [
      (0x22, 0x22), (0x27, 0x27), (0x275B, 0x2760), (0x2E00, 0x2E01), (0x2E06, 0x2E08),
      (0x2E0B, 0x2E0B), (0x1F676, 0x1F678)]])]

end PromptKit.Unicode
