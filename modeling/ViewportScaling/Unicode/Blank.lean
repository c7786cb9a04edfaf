import ViewportScaling.Unicode.Ranges

/-!
# Blank characters

White space in the wide sense: the separators of the standard, the line and paragraph separators
and the control characters that move the print position. The zero-width space and the byte order
mark are not blank.
-/

namespace ViewportScaling.Unicode

/-- The ranges of blank characters. -/
def blankRanges : Ranges :=
  [(0x9, 0xD), (0x1C, 0x20), (0x85, 0x85), (0xA0, 0xA0), (0x1680, 0x1680), (0x2000, 0x200A),
    (0x2028, 0x2029), (0x202F, 0x202F), (0x205F, 0x205F), (0x3000, 0x3000)]

/-- Whether a character is blank. -/
def isBlank (c : Char) : Bool := blankRanges.holds c

end ViewportScaling.Unicode
