import QbLint.Text.Case
import QbLint.Text.Numeral
import QbLint.Text.Quoted

/-!
# Command lines

The words of a command line, read by a list of options. An option is spelled with one dash and a
letter or with two dashes and a name; a name may be cut short as long as only one option begins like
it. A value follows in the next word, behind an equals sign, or right behind a letter; letters
without values may share a dash. Behind two dashes alone, no word is an option.

* `Args.classify`: what a word is; a shortened name that several options begin with is an error, and
  that is found before anything else;
* `Args.expand`: the options that one word stands for;
* `Args.read`: what the words of a command line say.
-/

namespace QbLint.Args

/-- What an option is for. -/
inductive Purpose
  | help
  | version
  | flag
  /-- A value, one of some choices unless there are none. -/
  | value (choices : List String) (capitals : Bool)
  deriving DecidableEq

/-- An option. -/
structure Switch where
  spellings : List String
  key : String
  purpose : Purpose
  deriving DecidableEq

/-- What the words that are no options are for. -/
inductive Operands
  | nothing
  /-- A list of any number of words, all in one place. -/
  | list
  /-- A command, to which all further words belong. -/
  | command (names : List String)

/-- What a program or a command of it reads. -/
structure Level where
  program : String
  usage : String
  help : String
  version : String := ""
  switches : List Switch
  operands : Operands

/-- Why a program stops before it does anything. -/
inductive Stop
  | help
  | version
  | misuse (message : String)
  deriving DecidableEq

/-- What a command line says: the options and their values, the words that are no options, and the
words that say nothing to the program. -/
structure Reading where
  settings : List (String × Option String) := []
  operands : List String := []
  extras : List String := []

namespace Reading

/-- Whether a flag is set. -/
def flag (r : Reading) (key : String) : Bool := r.settings.any (·.1 == key)

/-- The last value of an option. -/
def value? (r : Reading) (key : String) : Option String := r.settings.reverse.lookup key |>.join

end Reading

namespace Switch

/-- The name of an option in messages. -/
def label (s : Switch) : String := "/".intercalate s.spellings

/-- A misuse of an option. -/
def misuse (s : Switch) (message : String) : Stop :=
  .misuse ("argument " ++ s.label ++ ": " ++ message)

/-- Whether an option has a value. -/
def takesValue (s : Switch) : Bool :=
  match s.purpose with
  | .value _ _ => true
  | _ => false

end Switch

/-- A value that is not among the choices, and the choices. -/
def invalidChoice (value : String) (choices : List String) : String :=
  "invalid choice: " ++ Quoted.quote value ++ " (choose from " ++
    ", ".intercalate (choices.map Quoted.quote) ++ ")"

/-! ## Words -/

/-- What stands behind the spelling of an option in its word: whether there is an equals sign, and
the text. -/
abbrev Attached := Option (Bool × List Char)

/-- A word of a command line. -/
inductive Word
  | plain (text : String)
  /-- Two dashes. -/
  | dashes
  /-- A word that is spelled like an option, and the option it is, if there is one. -/
  | option (text : String) (found : Option (Switch × Attached))

/-- The word as it was given. -/
def Word.text : Word → String
  | plain text => text
  | dashes => "--"
  | option text _ => text

/-- The spellings of all options. -/
def spellings (level : Level) : List (String × Switch) :=
  level.switches.flatMap fun s => s.spellings.map fun spelling => (spelling, s)

/-- A word up to its first equals sign, and what follows that. -/
def splitEquals (s : List Char) : List Char × Option (List Char) :=
  match s.dropWhile (· != '=') with
  | [] => (s, none)
  | _ :: rest => (s.takeWhile (· != '='), some rest)

/-- The options whose names a word cuts short, or the letters that a word attaches something to. -/
def candidates (level : Level) (s : List Char) : List (String × Switch × Attached) :=
  (spellings level).filterMap fun (spelling, switch) =>
    match s with
    | '-' :: '-' :: _ =>
      let (name, value) := splitEquals s
      if name.isPrefixOf spelling.toList then
        some (spelling, switch, value.map fun text => (true, text))
      else none
    | _ =>
      if spelling.toList = s.take 2 then some (spelling, switch, some (false, s.drop 2))
      else if s.isPrefixOf spelling.toList then some (spelling, switch, none)
      else none

/-- Whether a word is a negative number, and so no option. -/
def isNegativeNumber (s : List Char) : Bool :=
  let isDigit (c : Char) := (Text.decimalValue? c).isSome
  match if s.getLast? = some '\n' then s.dropLast else s with
  | '-' :: rest =>
    match rest.dropWhile isDigit with
    | [] => !rest.isEmpty
    | '.' :: fraction => !fraction.isEmpty && fraction.all isDigit
    | _ => false
  | _ => false

/-- What a word is. -/
def classify (level : Level) (text : String) : Except Stop Word :=
  let s := text.toList
  if s.head? ≠ some '-' then .ok (.plain text)
  else
    match (spellings level).lookup text with
    | some switch => .ok (.option text (some (switch, none)))
    | none =>
      if s = ['-'] then .ok (.plain text)
      else
        match splitEquals s with
        | (name, value) =>
          match value, (spellings level).lookup (String.ofList name) with
          | some value, some switch => .ok (.option text (some (switch, some (true, value))))
          | _, _ =>
            match candidates level s with
            | [(_, switch, attached)] => .ok (.option text (some (switch, attached)))
            | [] =>
              if isNegativeNumber s || s.contains ' ' then .ok (.plain text)
              else .ok (.option text none)
            | several =>
              .error (.misuse ("ambiguous option: " ++ text ++ " could match " ++
                ", ".intercalate (several.map (·.1))))

/-- What each word is. -/
def classifyAll (level : Level) : List String → Except Stop (List Word)
  | [] => .ok []
  | text :: rest => do
    if text = "--" then return .dashes :: rest.map .plain
    return (← classify level text) :: (← classifyAll level rest)

/-! ## Options -/

/-- The options that a word stands for: those that are complete, with their values, the one that
needs the next word for its value, and what is left of the word if it goes on with no option. -/
structure Expansion where
  complete : List (Switch × Option String) := []
  waiting : Option Switch := none
  rest : Option String := none

/-- The expansion of a single option and what is attached to it. -/
def expandOne (switch : Switch) (attached : Attached) : Except Stop Expansion :=
  match attached, switch.takesValue with
  | none, true => .ok { waiting := some switch }
  | none, false => .ok { complete := [(switch, none)] }
  | some (_, text), true => .ok { complete := [(switch, some (String.ofList text))] }
  | some (_, text), false =>
    .error (switch.misuse ("ignored explicit argument " ++ Quoted.quote (String.ofList text)))

/-- What is attached to the letter before `s`. -/
def attachedBy : List Char → Attached
  | [] => none
  | '=' :: rest => some (true, rest)
  | s => some (false, s)

/-- The expansion of letters that share a dash, of which `switch` is the first and `text` the
others. -/
def expandLetters (level : Level) (switch : Switch) (text : List Char) : Except Stop Expansion :=
  match text with
  | [] => expandOne switch none
  | c :: rest =>
    if switch.takesValue || c = '=' || c = '-' then
      expandOne switch
        (if c = '=' then attachedBy text else some (false, text))
    else do
      match (spellings level).lookup (String.ofList ['-', c]) with
      | none =>
        return { complete := [(switch, none)], rest := some (String.ofList ('-' :: text)) }
      | some next =>
        let expansion ← expandLetters level next rest
        return { expansion with complete := (switch, none) :: expansion.complete }

/-- The options that a word stands for. -/
def expand (level : Level) (word : String) (switch : Switch) (attached : Attached) :
    Except Stop Expansion :=
  match attached, word.toList with
  | some (false, text), '-' :: c :: _ =>
    if c = '-' then expandOne switch attached else expandLetters level switch text
  | _, _ => expandOne switch attached

/-! ## Reading -/

/-- What an option and its value say. -/
def take (r : Reading) (switch : Switch) (value : Option String) : Except Stop Reading :=
  match switch.purpose, value with
  | .help, _ => .error .help
  | .version, _ => .error .version
  | .value choices capitals, some text =>
    let text := if capitals then Text.upper text else text
    if choices.isEmpty || choices.contains text then
      .ok { r with settings := r.settings ++ [(switch.key, some text)] }
    else .error (switch.misuse (invalidChoice text choices))
  | _, value => .ok { r with settings := r.settings ++ [(switch.key, value)] }

/-- What several options say. -/
def takeAll (r : Reading) : List (Switch × Option String) → Except Stop Reading
  | [] => .ok r
  | (switch, value) :: rest => do takeAll (← take r switch value) rest

/-- Where the list of operands stands. -/
inductive Place
  | ahead | here | behind
  deriving DecidableEq

/-- What words say behind what has been read. -/
def readWords (level : Level) (r : Reading) (place : Place) : List Word → Except Stop Reading
  | [] => .ok r
  | .option text none :: rest =>
    let place := if place = .here then .behind else place
    readWords level { r with extras := r.extras ++ [text] } place rest
  | .option text (some (switch, attached)) :: rest => do
    let expansion ← expand level text switch attached
    let place := if place = .here then .behind else place
    let extras := r.extras ++ expansion.rest.toList
    match expansion.waiting with
    | none => readWords level (← takeAll { r with extras } expansion.complete) place rest
    | some switch =>
      match rest with
      | .plain value :: rest =>
        let r ← takeAll { r with extras } (expansion.complete ++ [(switch, some value)])
        readWords level r place rest
      | _ => .error (switch.misuse "expected one argument")
  | word :: rest =>
    match level.operands, place with
    | .command _, _ =>
      match word, rest with
      | .dashes, [] => .ok { r with extras := r.extras ++ [word.text] }
      | _, _ => .ok { r with operands := word.text :: rest.map Word.text }
    | .list, .ahead | .list, .here =>
      readWords level { r with operands := r.operands ++ [word.text] } .here rest
    | _, _ => readWords level { r with extras := r.extras ++ [word.text] } place rest

/-- What the words of a command line say. The first two dashes alone are no operand. -/
def read (level : Level) (words : List String) : Except Stop Reading := do
  let r ← readWords level {} .ahead (← classifyAll level words)
  match level.operands with
  | .list => return { r with operands := r.operands.erase "--" }
  | _ => return r

end QbLint.Args
