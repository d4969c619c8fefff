import QbLint.Document.Basic
import QbLint.Text.Hex
import QbLint.Text.Split

/-!
# Plain scalars

A scalar without quotes stands for null, a truth value, a number or itself, by its form. The forms
are those of YAML 1.1: `yes` and `on` are true, a leading zero makes a number octal, colons make it
sexagesimal, underscores between digits are skipped, and a floating-point number has a point.

* `Yaml.Plain.ofText`: what a text stands for;
* `Yaml.Plain.isText`: whether it stands for itself.
-/

namespace QbLint.Yaml

/-- What a scalar without quotes stands for. -/
inductive Plain
  | value (s : Scalar)
  /-- A date, with or without a time of day. -/
  | timestamp
  /-- The key under which mappings are merged into the one that has it. -/
  | merge
  /-- The key of a default value. -/
  | default
  deriving DecidableEq

namespace Plain

/-- The spellings of null. -/
def nulls : List String := ["", "~", "null", "Null", "NULL"]

/-- The spellings of true. -/
def trues : List String := ["yes", "Yes", "YES", "true", "True", "TRUE", "on", "On", "ON"]

/-- The spellings of false. -/
def falses : List String := ["no", "No", "NO", "false", "False", "FALSE", "off", "Off", "OFF"]

/-- The spellings of infinity behind the sign. -/
def infinities : List String := [".inf", ".Inf", ".INF"]

/-- The spellings of what is no number. -/
def nans : List String := [".nan", ".NaN", ".NAN"]

/-- Whether a character is a digit in a base. -/
def isDigitIn (base : Nat) (c : Char) : Bool := (Hex.digitValue? c).any (· < base)

/-- The number that digits denote in a base, underscores skipped. -/
def natIn (base : Nat) (digits : List Char) : Nat :=
  (digits.filterMap Hex.digitValue?).foldl (fun n d => base * n + d) 0

/-- The number that some digits and underscores denote in a base, if there is nothing else. -/
def digitsIn? (base : Nat) (digits : List Char) : Option Nat :=
  if !digits.isEmpty && digits.all (fun c => isDigitIn base c || c == '_') then
    some (natIn base digits)
  else none

/-- Whether the sign is a minus, and the text behind the sign. -/
def sign : List Char → Bool × List Char
  | '-' :: rest => (true, rest)
  | '+' :: rest => (false, rest)
  | rest => (false, rest)

/-- A number with a sign. -/
def signed (negative : Bool) (n : Nat) : Int := if negative then -(n : Int) else n

/-- A sexagesimal digit: one or two decimal ones, below sixty. -/
def sixtieth? (s : List Char) : Option Nat :=
  if s.all (isDigitIn 10) && (s.length == 1 || (s.length == 2 && natIn 10 s < 60)) then
    some (natIn 10 s)
  else none

/-- The number that sexagesimal digits behind the first denote with it. -/
def sexagesimal? (first : Nat) (digits : List (List Char)) : Option Nat :=
  digits.foldlM (fun n s => do return 60 * n + (← sixtieth? s)) first

/-- The whole number of a form. -/
def int? (s : List Char) : Option Int :=
  let (negative, body) := sign s
  (match body with
    | ['0'] => some 0
    | '0' :: 'b' :: digits => digitsIn? 2 digits
    | '0' :: 'x' :: digits => digitsIn? 16 digits
    | '0' :: digits => digitsIn? 8 digits
    | c :: _ =>
      if isDigitIn 10 c then
        match Text.split ':' body with
        | first :: more => do sexagesimal? (← digitsIn? 10 first) more
        | [] => none
      else none
    | [] => none).map (signed negative)

/-- The power of ten in a text that is empty or `e`, a sign and digits. -/
def power? : List Char → Option Int
  | [] => some 0
  | c :: mark :: digits =>
    if (c == 'e' || c == 'E') && (mark == '-' || mark == '+') && !digits.isEmpty &&
        digits.all (isDigitIn 10) then
      some (signed (mark == '-') (natIn 10 digits))
    else none
  | _ => none

/-- The floating-point number of a form. -/
def float? (s : List Char) : Option Binary64 :=
  let (negative, body) := sign s
  let text := String.ofList body
  if infinities.contains text then some (.infinity negative)
  else if nans.contains (String.ofList s) then some .nan
  else
    let isPart (c : Char) : Bool := isDigitIn 10 c || c == '_' || c == ':'
    match body.dropWhile isPart with
    | '.' :: behind =>
      let isFraction (c : Char) : Bool := isDigitIn 10 c || c == '_'
      let fraction := behind.takeWhile isFraction
      let places := fraction.countP (isDigitIn 10)
      let number (whole : Nat) (power : Int) : Binary64 :=
        .ofDecimal negative (whole * Binary64.tenTo places + natIn 10 fraction) (power - places)
      match Text.split ':' (body.takeWhile isPart), behind.dropWhile isFraction with
      | [[]], rest =>
        if body.length == s.length && fraction.head?.any (isDigitIn 10) then
          (power? rest).map (number 0)
        else none
      | [whole], rest =>
        if whole.head?.any (isDigitIn 10) then (power? rest).map (number (natIn 10 whole)) else none
      | first :: more, [] =>
        if first.head?.any (isDigitIn 10) then
          (sexagesimal? (natIn 10 first) more).map (number · 0)
        else none
      | _, _ => none
    | _ => none

/-- What follows between `least` and `most` decimal digits. -/
def skipDigits? (least most : Nat) (s : List Char) : Option (List Char) :=
  let count := ((s.take most).takeWhile (isDigitIn 10)).length
  if least ≤ count then some (s.drop count) else none

/-- What follows a character. -/
def skipChar? (c : Char) : List Char → Option (List Char)
  | [] => none
  | d :: rest => if d = c then some rest else none

/-- Whether a character separates words of a line. -/
def isBlank (c : Char) : Bool := c == ' ' || c == '\t'

/-- Whether a text is empty or a time zone. -/
def isZone (s : List Char) : Bool :=
  match s.dropWhile isBlank with
  | [] => s.isEmpty
  | ['Z'] => true
  | c :: rest =>
    (c == '-' || c == '+') &&
      match skipDigits? 1 2 rest with
      | some [] => true
      | some (':' :: rest) => skipDigits? 2 2 rest == some []
      | _ => false

/-- Whether a text is a time of day with a time zone, behind what separates it from a date. -/
def isTime (s : List Char) : Bool :=
  let body? : Option (List Char) :=
    match s with
    | 'T' :: rest => some rest
    | 't' :: rest => some rest
    | c :: _ => if isBlank c then some (s.dropWhile isBlank) else none
    | [] => none
  let zone? : Option (List Char) := do
    let s ← skipDigits? 1 2 (← body?)
    let s ← skipDigits? 2 2 (← skipChar? ':' s)
    let s ← skipDigits? 2 2 (← skipChar? ':' s)
    match s with
    | '.' :: rest => return rest.dropWhile (isDigitIn 10)
    | rest => return rest
  zone?.any isZone

/-- Whether a text is a date, with or without a time of day. -/
def isTimestamp (s : List Char) : Bool :=
  let short : Bool := (do
    let s ← skipChar? '-' (← skipDigits? 4 4 s)
    let s ← skipChar? '-' (← skipDigits? 2 2 s)
    skipDigits? 2 2 s) == some []
  let long? : Option (List Char) := do
    let s ← skipChar? '-' (← skipDigits? 4 4 s)
    let s ← skipChar? '-' (← skipDigits? 1 2 s)
    skipDigits? 1 2 s
  short || long?.any isTime

/-- What a text stands for. -/
def ofText (s : String) : Plain :=
  if nulls.contains s then value .null
  else if trues.contains s then value (.bool true)
  else if falses.contains s then value (.bool false)
  else
    match float? s.toList, int? s.toList with
    | some x, _ => value (.float x)
    | none, some n => value (.int n)
    | none, none =>
      if s = "<<" then merge
      else if isTimestamp s.toList then timestamp
      else if s = "=" then default
      else value (.text s)

/-- Whether a text stands for itself. -/
def isText (s : String) : Bool := ofText s == value (.text s)

end Plain

end QbLint.Yaml
