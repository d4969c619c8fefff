import QbLint.Text.CaseTable

/-!
# Upper, lower and title case

Case mappings of whole texts, by the full mappings of Unicode: one character may become several.
The one mapping that looks around is the lower case of sigma, which is another letter at the end of
a word.

* `Text.upper`, `Text.lower`, `Text.title`: the mappings;
* a title has a letter in title case wherever the character before has no case, and in lower case
  elsewhere.
-/

namespace QbLint.Text

/-- Whether a character has case. -/
def isCased (c : Char) : Bool := casedSpans.contain c

/-- The image of a character under expansions, then runs, or the character itself. -/
def mapChar (expansions : List (Nat × List Nat)) (runs : CaseRuns) (c : Char) : List Char :=
  match expansions.lookup c.toNat with
  | some image => image.map Char.ofNat
  | none => [((runs.image? c).map Char.ofNat).getD c]

/-- The upper case of a character. -/
def upperChar (c : Char) : List Char :=
  if c.toNat < 128 then [c.toUpper] else mapChar upperExpansions upperRuns c

/-- The title case of a character. -/
def titleChar (c : Char) : List Char :=
  match titleExceptions.lookup c.toNat with
  | some image => image.map Char.ofNat
  | none => upperChar c

/-- Whether the first character that is not passed over has case. -/
def meetsCased (s : List Char) : Bool :=
  match s.dropWhile caseIgnorableSpans.contain with
  | c :: _ => isCased c
  | [] => false

/-- The lower case of a character between what stands before it, in reverse order, and what stands
after it. -/
def lowerChar (before : List Char) (c : Char) (after : List Char) : List Char :=
  if c.toNat < 128 then [c.toLower]
  else if c = 'Σ' then [if meetsCased before && !meetsCased after then 'ς' else 'σ']
  else mapChar lowerExpansions lowerRuns c

/-- The lower case of a text behind what stands before it, in reverse order. -/
def lowerFrom (before : List Char) : List Char → List Char
  | [] => []
  | c :: rest => lowerChar before c rest ++ lowerFrom (c :: before) rest

/-- The title case of a text behind what stands before it, in reverse order. -/
def titleFrom (before : List Char) : List Char → List Char
  | [] => []
  | c :: rest =>
    (if before.head?.any isCased then lowerChar before c rest else titleChar c) ++
      titleFrom (c :: before) rest

/-- A text in upper case. -/
def upper (s : String) : String := String.ofList (s.toList.flatMap upperChar)

/-- A text in lower case. -/
def lower (s : String) : String := String.ofList (lowerFrom [] s.toList)

/-- A text in title case. -/
def title (s : String) : String := String.ofList (titleFrom [] s.toList)

end QbLint.Text
