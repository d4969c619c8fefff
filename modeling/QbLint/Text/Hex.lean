/-!
# Hexadecimal text

Digits of a number in base 16, and the zero-filled forms in which offsets are printed. The fill
counts the sign: a width is the least number of characters of the whole text.

* `Hex.digits`: the digits of a natural number, at least one;
* `Hex.padded`: upper case, filled with zeros to a width, the sign in front of them;
* `Hex.prefixed`: lower case behind `0x`, at least eight digits.
-/

namespace QbLint.Hex

/-- The sixteen digits in lower case. -/
def lowerDigit (n : Nat) : Char :=
  if n < 10 then Char.ofNat (48 + n) else Char.ofNat (87 + n)

/-- The sixteen digits in upper case. -/
def upperDigit (n : Nat) : Char :=
  if n < 10 then Char.ofNat (48 + n) else Char.ofNat (55 + n)

/-- The digits of a number, the most significant first, each written by `digit`. -/
def digits (digit : Nat → Char) (n : Nat) : List Char :=
  if n < 16 then [digit n] else digits digit (n / 16) ++ [digit (n % 16)]
termination_by n
decreasing_by omega

/-- A text filled with zeros on the left up to a width. -/
def zeroFill (width : Nat) (text : List Char) : List Char :=
  List.replicate (width - text.length) '0' ++ text

/-- A number in upper-case digits, filled with zeros to `width` characters; a minus sign comes
first and takes up one of them. -/
def padded (width : Nat) (n : Int) : String :=
  String.ofList <|
    if n < 0 then '-' :: zeroFill (width - 1) (digits upperDigit n.natAbs)
    else zeroFill width (digits upperDigit n.natAbs)

/-- A number in at least eight lower-case digits behind `0x`. -/
def prefixed (n : Nat) : String :=
  String.ofList ('0' :: 'x' :: zeroFill 8 (digits lowerDigit n))

/-- The two lower-case digits of a byte. -/
def ofByte (b : UInt8) : String :=
  String.ofList [lowerDigit (b.toNat / 16), lowerDigit (b.toNat % 16)]

/-- The value of a digit, in either case. -/
def digitValue? (c : Char) : Option Nat :=
  if '0' ≤ c ∧ c ≤ '9' then some (c.toNat - 48)
  else if 'a' ≤ c ∧ c ≤ 'f' then some (c.toNat - 87)
  else if 'A' ≤ c ∧ c ≤ 'F' then some (c.toNat - 55)
  else none

end QbLint.Hex
