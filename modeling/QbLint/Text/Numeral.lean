import QbLint.Text.Blank

/-!
# Numerals

Whole numbers as people write them: blanks around, a sign, decimal digits of any script, and single
underscores between digits. Numerals of more than 4300 digits are refused, and so are those around
which the control characters stand that separate files, groups, records and units.

* `Text.parseInt?`: the number that a numeral denotes;
* `Text.isWritable`: whether a number has a numeral.
-/

namespace QbLint.Text

/-- The zeros of the decimal digits; the other nine follow each. -/
def digitZeros : List Nat :=
  [0x30, 0x660, 0x6F0, 0x7C0, 0x966, 0x9E6, 0xA66, 0xAE6, 0xB66, 0xBE6, 0xC66, 0xCE6, 0xD66,
    0xDE6, 0xE50, 0xED0, 0xF20, 0x1040, 0x1090, 0x17E0, 0x1810, 0x1946, 0x19D0, 0x1A80, 0x1A90,
    0x1B50, 0x1BB0, 0x1C40, 0x1C50, 0xA620, 0xA8D0, 0xA900, 0xA9D0, 0xA9F0, 0xAA50, 0xABF0,
    0xFF10, 0x104A0, 0x10D30, 0x11066, 0x110F0, 0x11136, 0x111D0, 0x112F0, 0x11450, 0x114D0,
    0x11650, 0x116C0, 0x11730, 0x118E0, 0x11950, 0x11C50, 0x11D50, 0x11DA0, 0x16A60, 0x16AC0,
    0x16B50, 0x1D7CE, 0x1D7D8, 0x1D7E2, 0x1D7EC, 0x1D7F6, 0x1E140, 0x1E2F0, 0x1E950, 0x1FBF0]

/-- The value of a decimal digit of any script. -/
def decimalValue? (c : Char) : Option Nat :=
  (digitZeros.find? fun first => first ≤ c.toNat && c.toNat < first + 10).map (c.toNat - ·)

/-- The number that digits denote in front of what `value` stands for; each underscore stands
between two digits. -/
def parseDigits? (value : Nat) : List Char → Option Nat
  | [] => some value
  | '_' :: c :: rest => do parseDigits? (10 * value + (← decimalValue? c)) rest
  | c :: rest => do parseDigits? (10 * value + (← decimalValue? c)) rest

/-- The greatest number of digits that a numeral may have. -/
def maxDigits : Nat := 4300

/-- Whether a whole number can be written. -/
def isWritable (n : Int) : Bool := n.natAbs < Nat.pow 10 maxDigits

/-- What is said of a whole number that cannot be written. -/
def unwritable : String :=
  "Exceeds the limit (" ++ toString maxDigits ++ " digits) for integer string conversion; " ++
    "use sys.set_int_max_str_digits() to increase the limit"

/-- The number that a run of digits denotes. -/
def parseNat? (s : List Char) : Option Nat :=
  match s with
  | [] => none
  | c :: rest =>
    if maxDigits < s.countP (· != '_') then none
    else do parseDigits? (← decimalValue? c) rest

/-- Whether a character may stand around a numeral: a blank one that is no separator of files,
groups, records or units. -/
def isMargin (c : Char) : Bool := isBlank c && !(0x1C ≤ c.toNat && c.toNat ≤ 0x1F)

/-- A text without the characters that may stand around a numeral. -/
def trimMargins (s : List Char) : List Char :=
  ((s.dropWhile isMargin).reverse.dropWhile isMargin).reverse

/-- The number that a numeral denotes. -/
def parseInt? (s : String) : Option Int :=
  match trimMargins s.toList with
  | '-' :: digits => (parseNat? digits).map fun n => -(n : Int)
  | '+' :: digits => (parseNat? digits).map fun n => (n : Int)
  | digits => (parseNat? digits).map fun n => (n : Int)

end QbLint.Text
