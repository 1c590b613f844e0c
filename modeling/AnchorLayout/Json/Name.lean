import AnchorLayout.Text.Category
/-!
# Names of relaxed JSON

The characters of a name that stands without quotes. It may hold letters, marks and digits of later
editions of Unicode than words may, so the tables add to those of words. Diacritics count among the
marks, whatever their category.
-/

namespace AnchorLayout.Json.Relaxed

open Text (Ranges)

/-- Letters and letter numbers that words do not have. -/
def laterLetters : Ranges :=
  [(0x558, 0x558), (0x58B, 0x58C), (0x88F, 0x88F), (0xC5C, 0xC5C), (0xCDC, 0xCDC), (0x208F, 0x208F),
    (0x209D, 0x209F), (0xA7CE, 0xA7CF), (0xA7D2, 0xA7D2), (0xA7D4, 0xA7D4), (0xA7F1, 0xA7F1),
    (0xAB6C, 0xAB6F), (0x107BB, 0x107BF), (0x10940, 0x10959), (0x10EC5, 0x10EC7),
    (0x11DB0, 0x11DDB), (0x12550, 0x12686), (0x16D80, 0x16D9D), (0x16EA0, 0x16EB8),
    (0x16EBB, 0x16ED3), (0x16FF2, 0x16FF6), (0x187F8, 0x187FF), (0x18D09, 0x18D1E),
    (0x18D80, 0x18DF2), (0x18E00, 0x19191), (0x1D6A6, 0x1D6A7), (0x1E6C0, 0x1E6DE),
    (0x1E6E0, 0x1E6E2), (0x1E6E4, 0x1E6E5), (0x1E6E7, 0x1E6ED), (0x1E6F0, 0x1E6F4),
    (0x1E6FE, 0x1E6FF), (0x2B73A, 0x2B73F), (0x2CEA2, 0x2CEAD), (0x323B0, 0x33479),
    (0x3D000, 0x3FC3F)]

/-- Nonspacing marks that words do not have. -/
def laterMarks : Ranges :=
  [(0x5C8, 0x5CA), (0xB53, 0xB54), (0x1ACF, 0x1ADD), (0x1AE0, 0x1AEB), (0x10EFA, 0x10EFB),
    (0x11B60, 0x11B60), (0x11B62, 0x11B64), (0x11B66, 0x11B66), (0x1D250, 0x1D257),
    (0x1E6E3, 0x1E6E3), (0x1E6E6, 0x1E6E6), (0x1E6EE, 0x1E6EF), (0x1E6F5, 0x1E6F5)]

/-- Decimal digits that words do not have. -/
def laterDigits : Ranges :=
  [(0x11DE0, 0x11DE9), (0x16DA0, 0x16DA9)]

/-- Diacritics that are neither letters nor nonspacing marks. -/
def diacritics : Ranges :=
  [(0xA8, 0xA8), (0xAF, 0xAF), (0xB4, 0xB4), (0xB7, 0xB8), (0x2C2, 0x2C5), (0x2D2, 0x2DF),
    (0x2E5, 0x2EB), (0x2ED, 0x2ED), (0x2EF, 0x2FF), (0x375, 0x375), (0x384, 0x385), (0xF3E, 0xF3F),
    (0x1063, 0x1064), (0x1069, 0x106D), (0x1087, 0x108C), (0x108F, 0x108F), (0x109A, 0x109B),
    (0x1715, 0x1715), (0x1734, 0x1734), (0x1ABE, 0x1ABE), (0x1B44, 0x1B44), (0x1BAA, 0x1BAA),
    (0x1BF2, 0x1BF3), (0x1CD3, 0x1CD3), (0x1CE1, 0x1CE1), (0x1CF7, 0x1CF7), (0x1FBD, 0x1FBD),
    (0x1FBF, 0x1FC1), (0x1FCD, 0x1FCF), (0x1FDD, 0x1FDF), (0x1FED, 0x1FEF), (0x1FFD, 0x1FFE),
    (0x302E, 0x302F), (0x309B, 0x309C), (0xA700, 0xA716), (0xA720, 0xA721), (0xA789, 0xA78A),
    (0xA92E, 0xA92E), (0xA953, 0xA953), (0xA9C0, 0xA9C0), (0xAA7B, 0xAA7B), (0xAA7D, 0xAA7D),
    (0xAB5B, 0xAB5B), (0xAB6A, 0xAB6B), (0xABEC, 0xABEC), (0xFF3E, 0xFF3E), (0xFF40, 0xFF40),
    (0xFFE3, 0xFFE3), (0x111C0, 0x111C0), (0x11235, 0x11235), (0x1134D, 0x1134D),
    (0x113CF, 0x113CF), (0x116B6, 0x116B6), (0x1193D, 0x1193D), (0x11F41, 0x11F41),
    (0x16FF0, 0x16FF1), (0x1D16D, 0x1D172)]

def isNameLetter (c : Char) : Bool :=
  if Text.isAscii c then Text.isAsciiLetter c
  else Text.letters.contains c.toNat || laterLetters.contains c.toNat

def isNameDigit (c : Char) : Bool := Text.isDecimalDigit c || laterDigits.contains c.toNat

/-- Nonspacing marks and diacritics; in ASCII, the circumflex and the grave accent. -/
def isNameMark (c : Char) : Bool :=
  if Text.isAscii c then c == '^' || c == '\x60'
  else
    let n := c.toNat
    Text.nonspacingMarks.contains n || laterMarks.contains n || diacritics.contains n

def startsName (c : Char) : Bool := isNameLetter c || c == '$' || c == '_'

def continuesName (c : Char) : Bool :=
  startsName c || isNameMark c || isNameDigit c || Text.connectors.contains c.toNat ||
    Text.isJoiner c

end AnchorLayout.Json.Relaxed
