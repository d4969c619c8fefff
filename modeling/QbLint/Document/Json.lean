import QbLint.Document.Basic
import QbLint.Number.Decimal
import QbLint.Text.Hex

/-!
# JSON text

Documents written as JSON in printable ASCII: a character beyond it is written by its code point,
as a pair of surrogates where it needs one.

* `Json.compact`: a document without any white space;
* `Json.indented`: a document with one item or entry a line, two spaces a level.
-/

namespace QbLint.Json

/-- A code unit of sixteen bits behind `\u`. -/
def unit (n : Nat) : List Char :=
  '\\' :: 'u' :: Hex.zeroFill 4 (Hex.digits Hex.lowerDigit n)

/-- A character inside a string. -/
def escape (c : Char) : List Char :=
  if c = '\\' ∨ c = '\x22' then ['\\', c]
  else if ' ' ≤ c ∧ c ≤ '~' then [c]
  else if c = '\n' then ['\\', 'n']
  else if c = '\r' then ['\\', 'r']
  else if c = '\t' then ['\\', 't']
  else if c = '\x08' then ['\\', 'b']
  else if c = '\x0c' then ['\\', 'f']
  else if c.toNat < 0x10000 then unit c.toNat
  else
    unit (0xD800 + (c.toNat - 0x10000) / 0x400) ++ unit (0xDC00 + (c.toNat - 0x10000) % 0x400)

/-- A text as a string. -/
def string (s : String) : String :=
  String.ofList ('\x22' :: s.toList.flatMap escape ++ ['\x22'])

/-- The names of the values that are no finite numbers. -/
def floatNames : Binary64.Names := ⟨"Infinity", "NaN"⟩

/-- A scalar as text, without quotes. -/
def bare : Scalar → String
  | .null => "null"
  | .bool b => if b then "true" else "false"
  | .int n => toString n
  | .float x => x.text floatNames
  | .text s => s

/-- A scalar as a value. -/
def scalar : Scalar → String
  | .text s => string s
  | s => bare s

/-- How items are separated. -/
inductive Layout
  | compact
  | indented
  deriving DecidableEq

/-- What stands between a key and its value. -/
def Layout.colon : Layout → String
  | compact => ":"
  | indented => ": "

/-- The beginning of a line at a level. -/
def newline (level : Nat) : String := String.ofList ('\n' :: List.replicate (2 * level) ' ')

/-- Items between brackets at a level. -/
def brackets (layout : Layout) (level : Nat) (opening closing : String) (items : List String) :
    String :=
  match items, layout with
  | [], _ => opening ++ closing
  | items, .compact => opening ++ ",".intercalate items ++ closing
  | items, .indented =>
    opening ++ newline (level + 1) ++ ("," ++ newline (level + 1)).intercalate items ++
      newline level ++ closing

mutual

/-- A document at a level. -/
def render (layout : Layout) (level : Nat) : Document → String
  | .scalar s => scalar s
  | .list items => brackets layout level "[" "]" (renderItems layout (level + 1) items)
  | .map entries => brackets layout level "\x7b" "\x7d" (renderEntries layout (level + 1) entries)

/-- The items of a list. -/
def renderItems (layout : Layout) (level : Nat) : List Document → List String
  | [] => []
  | item :: rest => render layout level item :: renderItems layout level rest

/-- The entries of a mapping. -/
def renderEntries (layout : Layout) (level : Nat) : List (Scalar × Document) → List String
  | [] => []
  | (key, value) :: rest =>
    (string (bare key) ++ layout.colon ++ render layout level value) ::
      renderEntries layout level rest

end

/-- A document without white space. -/
def compact (d : Document) : String := render .compact 0 d

/-- A document with one item or entry a line. -/
def indented (d : Document) : String := render .indented 0 d

end QbLint.Json
