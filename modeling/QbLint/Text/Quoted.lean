import QbLint.Text.Hex
import QbLint.Text.Printable

/-!
# Quoted texts

A text between quotes, as messages show the values they complain about. The quotes are single ones,
or double ones around a text that holds single quotes and no double ones, so that no quote needs a
backslash where one of the two kinds will do.

* `Quoted.quote`: the text between its quotes.
-/

namespace QbLint.Quoted

/-- The quote that is put around a text. -/
def mark (s : List Char) : Char := if '\x27' ∈ s ∧ '\x22' ∉ s then '\x22' else '\x27'

/-- A character inside quotes of a kind. What cannot be printed is written by its code point, in as
many digits as it needs out of two, four and eight. -/
def escape (mark c : Char) : List Char :=
  if c = '\\' ∨ c = mark then ['\\', c]
  else if c = '\n' then ['\\', 'n']
  else if c = '\t' then ['\\', 't']
  else if c = '\r' then ['\\', 'r']
  else if Text.isPrintable c then [c]
  else
    let digits := Hex.digits Hex.lowerDigit c.toNat
    let fill (width : Nat) := List.replicate (width - digits.length) '0' ++ digits
    if c.toNat < 0x100 then '\\' :: 'x' :: fill 2
    else if c.toNat < 0x10000 then '\\' :: 'u' :: fill 4
    else '\\' :: 'U' :: fill 8

/-- A text between its quotes. -/
def quote (s : String) : String :=
  let mark := mark s.toList
  String.ofList (mark :: s.toList.flatMap (escape mark) ++ [mark])

end QbLint.Quoted
