import QbLint.Text.Spans

/-!
# Blanks

The characters that count as white space at the ends of a value: the separators of Unicode, the
line and paragraph breaks, and the control characters from tab to carriage return and from file to
unit separator.

* `Text.trim`: a text without the blanks at its ends;
* `Text.trimEnd`: a text without the blanks at its end.
-/

namespace QbLint.Text

/-- The blank characters. -/
def blanks : Spans :=
  [(0x9, 0xD), (0x1C, 0x20), (0x85, 0x85), (0xA0, 0xA0), (0x1680, 0x1680), (0x2000, 0x200A),
    (0x2028, 0x2029), (0x202F, 0x202F), (0x205F, 0x205F), (0x3000, 0x3000)]

/-- Whether a character is blank. -/
def isBlank (c : Char) : Bool := blanks.contain c

/-- A text without the blanks at its beginning. -/
def trimStart (s : List Char) : List Char := s.dropWhile isBlank

/-- A text without the blanks at its end. -/
def trimEnd (s : List Char) : List Char := (s.reverse.dropWhile isBlank).reverse

/-- A text without the blanks at its ends. -/
def trim (s : List Char) : List Char := trimEnd (trimStart s)

end QbLint.Text
