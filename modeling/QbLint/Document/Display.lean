import QbLint.Document.Basic
import QbLint.Number.Decimal
import QbLint.Text.Numeral
import QbLint.Text.Quoted

/-!
# Documents in messages

The text of a value in a message. A text on its own is shown as it is; within a list or a mapping,
or where a message asks for the value as written, it stands between quotes. Whole numbers are
written in full, and those with too many digits not at all.

* `Document.isWritable`: whether a value can be written;
* `Document.written`: a value as written, with quotes;
* `Document.display`: a value as shown, a text without quotes.
-/

namespace QbLint

/-- The names of the values that are no finite numbers. -/
def floatNames : Binary64.Names := ⟨"inf", "nan"⟩

/-- Whether a scalar can be written: a whole number has as many digits as a numeral may have. -/
def Scalar.isWritable : Scalar → Bool
  | int n => Text.isWritable n
  | _ => true

mutual

/-- Whether a value can be written. -/
def Document.isWritable : Document → Bool
  | .scalar s => s.isWritable
  | .list items => itemsWritable items
  | .map entries => entriesWritable entries

/-- Whether all items of a list can be written. -/
def itemsWritable : List Document → Bool
  | [] => true
  | item :: rest => item.isWritable && itemsWritable rest

/-- Whether all entries of a mapping can be written. -/
def entriesWritable : List (Scalar × Document) → Bool
  | [] => true
  | (key, value) :: rest => key.isWritable && value.isWritable && entriesWritable rest

end

/-- A scalar as written. -/
def Scalar.written : Scalar → String
  | null => "None"
  | bool b => if b then "True" else "False"
  | int n => toString n
  | float x => x.text floatNames
  | text s => Quoted.quote s

mutual

/-- A value as written. -/
def Document.written : Document → String
  | .scalar s => s.written
  | .list items => "[" ++ ", ".intercalate (writtenItems items) ++ "]"
  | .map entries => "\x7b" ++ ", ".intercalate (writtenEntries entries) ++ "\x7d"

/-- The items of a list as written. -/
def writtenItems : List Document → List String
  | [] => []
  | item :: rest => item.written :: writtenItems rest

/-- The entries of a mapping as written. -/
def writtenEntries : List (Scalar × Document) → List String
  | [] => []
  | (key, value) :: rest => (key.written ++ ": " ++ value.written) :: writtenEntries rest

end

/-- A value as shown. -/
def Document.display : Document → String
  | .scalar (.text s) => s
  | d => d.written

end QbLint
