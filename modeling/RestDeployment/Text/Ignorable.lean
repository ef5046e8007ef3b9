import RestDeployment.Text.CharRange

/-!
# Characters that are not displayed

Joiners, variation selectors, fillers and other characters that a display passes
over.
-/

namespace RestDeployment.Text

/-- The ranges of characters that a display passes over. -/
def ignorableRanges : List CharRange :=
  [(0xad, 0xad), (0x34f, 0x34f), (0x61c, 0x61c), (0x115f, 0x1160), (0x17b4, 0x17b5),
    (0x180b, 0x180f), (0x200b, 0x200f), (0x202a, 0x202e), (0x2060, 0x206f), (0x3164, 0x3164),
    (0xfe00, 0xfe0f), (0xfeff, 0xfeff), (0xffa0, 0xffa0), (0xfff0, 0xfff8), (0x1bca0, 0x1bca3),
    (0x1d173, 0x1d17a), (0xe0000, 0xe0fff)]

/-- The ranges of format characters through which letters keep joining. -/
def formatRanges : List CharRange :=
  [(0xad, 0xad), (0x61c, 0x61c), (0x70f, 0x70f), (0x200b, 0x200b), (0x200e, 0x200f),
    (0x202a, 0x202e), (0x2060, 0x2064), (0x206a, 0x206f), (0xfeff, 0xfeff), (0x1bca0, 0x1bca3),
    (0x1d173, 0x1d17a), (0xe0001, 0xe0001)]

/-- Whether a display passes over a character. -/
def isIgnorable (c : Char) : Bool := inRanges ignorableRanges c

end RestDeployment.Text
