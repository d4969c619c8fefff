import QbLint.Number.Decimal
import QbLint.Yaml.Plain
import QbLint.Yaml.Token

/-!
# Writing YAML

Documents in block style, two spaces a level, the items of a list in the column of its key. A text
is written without quotes if it reads back as itself that way, else between single quotes, and
between double quotes with escapes where characters beyond printable ASCII or spaces beside line
breaks leave no other way. Once a line has passed 120 characters, the next single space in a text
begins a new line.

* `Yaml.Style.ofText`: how a text is written;
* `Yaml.write`: the document of some entries.
-/

namespace QbLint.Yaml

/-- The column behind which a text is folded. -/
def width : Nat := 120

/-- How a text is written. -/
inductive Style
  | plain | single | double
  deriving DecidableEq

namespace Style

/-- Whether a character is written as it is outside double quotes. -/
def isOrdinary (c : Char) : Bool := c == '\n' || (' ' ≤ c && c ≤ '~')

/-- Whether a text begins like something else than a scalar. -/
def beginsBlock (s : List Char) : Bool :=
  s.take 3 == ['-', '-', '-'] || s.take 3 == ['.', '.', '.'] ||
    match s with
    | [] => false
    | c :: rest =>
      if c == '-' || c == '?' || c == ':' then atGap rest else Lexer.indicators.contains c

/-- Whether a text holds the mark of a value or of a comment behind its first character. -/
def holdsMark : List Char → Bool
  | c :: d :: rest =>
    (d == ':' && atGap rest) || (d == '#' && atGap [c]) || holdsMark (d :: rest)
  | _ => false

/-- Whether a space and then a line break stand in a text, or the other way round. -/
def hasPair (first second : Char) : List Char → Bool
  | c :: d :: rest => (c == first && d == second) || hasPair first second (d :: rest)
  | _ => false

/-- Whether a character begins or ends a text. -/
def atEnds (p : Char → Bool) (s : List Char) : Bool := s.head?.any p || s.getLast?.any p

/-- How a text is written. -/
def ofText (s : String) : Style :=
  let text := s.toList
  if !text.all isOrdinary || hasPair ' ' '\n' text || hasPair '\n' ' ' text then double
  else if Plain.isText s && !atEnds (fun c => c == ' ' || c == '\n') text && !text.contains '\n' &&
      !beginsBlock text && !holdsMark text then plain
  else single

end Style

/-! ## Texts -/

/-- The beginning of a line at an indentation. -/
def newline (indent : Nat) : List Char := '\n' :: List.replicate indent ' '

/-- What a run of one class of characters becomes in a text that is not between double quotes, and
the column behind it. `inner` tells that it is neither the first run nor the last. -/
def writeRun (quoted inner : Bool) (indent column : Nat) (run : List Char) : List Char × Nat :=
  if run == [' '] && width < column && inner then (newline indent, indent)
  else if run.head? == some '\n' then
    -- the first of the line breaks is written twice, for alone it would be read as a space
    ('\n' :: run ++ List.replicate indent ' ', indent)
  else
    let text := if quoted then run.flatMap fun c => if c == '\x27' then [c, c] else [c] else run
    (text, column + text.length)

/-- Runs one after the other. -/
def writeRuns (quoted : Bool) (indent : Nat) (first : Bool) (column : Nat) :
    List (List Char) → List Char
  | [] => []
  | run :: rest =>
    let (text, column) := writeRun quoted (!first && !rest.isEmpty) indent column run
    text ++ writeRuns quoted indent false column rest

/-- The class of a character: a space, a line break, or anything else. -/
def runKind (c : Char) : Nat := if c == ' ' then 0 else if c == '\n' then 1 else 2

/-- The letters that stand for characters behind a backslash. -/
def escapeLetters : List (Char × Char) :=
  [('\x00', '0'), ('\x07', 'a'), ('\x08', 'b'), ('\t', 't'), ('\n', 'n'), ('\x0b', 'v'),
    ('\x0c', 'f'), ('\r', 'r'), ('\x1b', 'e'), ('\x22', '\x22'), ('\\', '\\'), ('\x85', 'N'),
    ('\xa0', '_'), ('\u2028', 'L'), ('\u2029', 'P')]

/-- What stands for a character between double quotes, none if it stands for itself. -/
def escape? (c : Char) : Option (List Char) :=
  match escapeLetters.lookup c with
  | some letter => some ['\\', letter]
  | none =>
    if ' ' ≤ c && c ≤ '~' then none
    else
      let digits := Hex.digits Hex.upperDigit c.toNat
      let fill (n : Nat) := Hex.zeroFill n digits
      if c.toNat < 0x100 then some ('\\' :: 'x' :: fill 2)
      else if c.toNat < 0x10000 then some ('\\' :: 'u' :: fill 4)
      else some ('\\' :: 'U' :: fill 8)

/-- What a text becomes between double quotes, behind `column`. A line ends in a backslash, at a
space or behind an escape; a space that then begins a line is escaped. `fresh` tells that an escape
has just been written, and `first` that nothing has. -/
def writeDouble (fold : Bool) (indent : Nat) (first fresh : Bool) (column : Nat) :
    List Char → List Char
  | [] => []
  | c :: rest =>
    let inner := fold && !first && !rest.isEmpty
    match escape? c with
    | some text =>
      let column := column + text.length
      if inner && width + 1 < column then
        let mark := if rest.head? == some ' ' then ['\\'] else []
        text ++ '\\' :: newline indent ++ mark ++
          writeDouble fold indent false true (indent + mark.length) rest
      else text ++ writeDouble fold indent false true column rest
    | none =>
      if inner && (c == ' ' || fresh) && width < column then
        let mark := if c == ' ' then ['\\'] else []
        '\\' :: newline indent ++ mark ++ c ::
          writeDouble fold indent false false (indent + mark.length + 1) rest
      else c :: writeDouble fold indent false false (column + 1) rest

/-- A text from a column on, its other lines at an indentation; `fold` allows such lines. -/
def writeText (fold : Bool) (indent column : Nat) (s : String) : List Char :=
  let runs := Text.runs runKind s.toList
  let margin := if fold then indent else 0
  let runs := if fold then runs else [s.toList]
  match Style.ofText s with
  | .plain => writeRuns false margin true column runs
  | .single => '\x27' :: writeRuns true margin true (column + 1) runs ++ ['\x27']
  | .double => '\x22' :: writeDouble fold indent true true (column + 1) s.toList ++ ['\x22']

/-- The names of the values that are no finite numbers. -/
def floatNames : Binary64.Names := ⟨".inf", ".nan"⟩

/-- A floating-point number, which has a point also in front of a power of ten. -/
def writeFloat (x : Binary64) : List Char :=
  let text := (x.text floatNames).toList
  if text.contains '.' then text
  else text.flatMap fun c => if c == 'e' then ['.', '0', 'e'] else [c]

/-- A scalar from a column on. -/
def writeScalar (fold : Bool) (indent column : Nat) : Scalar → List Char
  | .null => "null".toList
  | .bool b => (if b then "true" else "false").toList
  | .int n => (toString n).toList
  | .float x => writeFloat x
  | .text s => writeText fold indent column s

/-! ## Collections -/

/-- The length of the name of a scalar's kind, which counts towards the length of a key. -/
def kindLength : Scalar → Nat
  | .null | .bool _ => 6
  | .int _ | .text _ | .float _ => 5

/-- Whether a key is written in front of its value on one line. -/
def isSimpleKey (key : Scalar) : Bool :=
  match key with
  | .text s => !s.isEmpty && !s.toList.any isBreak && s.length + kindLength key < 128
  | _ => true

/-- Parts one below the other at an indentation. -/
def stack (indent : Nat) (parts : List (List Char)) : List Char :=
  (newline indent).intercalate parts

mutual

/-- A value behind the mark of an item, whose column is `indent`. -/
def writeItem (indent : Nat) : Document → List Char
  | .scalar s => ' ' :: writeScalar true (indent + 2) (indent + 2) s
  | .list items =>
    if items.isEmpty then " []".toList
    else ' ' :: stack (indent + 2) (writeItems (indent + 2) items)
  | .map entries =>
    if entries.isEmpty then " \x7b\x7d".toList
    else ' ' :: stack (indent + 2) (writeEntries (indent + 2) entries)

/-- A value behind a key that ends before `column`, in a mapping at `indent`. -/
def writeValue (indent column : Nat) : Document → List Char
  | .scalar s => ' ' :: writeScalar true (indent + 2) (column + 1) s
  | .list items =>
    if items.isEmpty then " []".toList
    else newline indent ++ stack indent (writeItems indent items)
  | .map entries =>
    if entries.isEmpty then " \x7b\x7d".toList
    else newline (indent + 2) ++ stack (indent + 2) (writeEntries (indent + 2) entries)

/-- The items of a list at an indentation. -/
def writeItems (indent : Nat) : List Document → List (List Char)
  | [] => []
  | item :: rest => ('-' :: writeItem indent item) :: writeItems indent rest

/-- The entries of a mapping at an indentation. -/
def writeEntries (indent : Nat) : List (Scalar × Document) → List (List Char)
  | [] => []
  | (key, value) :: rest =>
    (if isSimpleKey key then
      let text := writeScalar false (indent + 2) indent key ++ [':']
      text ++ writeValue indent (indent + text.length) value
    else
      '?' :: ' ' :: writeScalar true (indent + 2) (indent + 2) key ++ newline indent ++
        ':' :: writeItem indent value) :: writeEntries indent rest

end

/-- The document of some entries, a line break behind it. -/
def write (entries : Entries) : String :=
  String.ofList <|
    (if entries.isEmpty then "\x7b\x7d".toList else stack 0 (writeEntries 0 entries)) ++ ['\n']

end QbLint.Yaml
