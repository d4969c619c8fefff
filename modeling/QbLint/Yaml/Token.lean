import QbLint.Text.Hex

/-!
# Tokens of YAML text

Block structure is indentation. The reader keeps the columns of the open blocks and writes the
beginning and the end of each block as tokens of their own, so that what follows needs no columns. A
key is known only by the colon behind it; until then the place before it is remembered, and it must
stand on one line with its colon.

Scalars are read with or without quotes, over several lines too, where a line break counts as a
space and empty lines as line breaks. Anchors, tags, directives and block scalars are refused.

* `Yaml.tokens?`: the tokens of a text, none if it is malformed.
-/

namespace QbLint.Yaml

/-- A token. -/
inductive Token
  | sequenceStart | mappingStart | blockEnd
  | flowSequenceStart | flowSequenceEnd | flowMappingStart | flowMappingEnd
  | blockEntry | flowEntry | key | value
  | documentStart | documentEnd
  | scalar (plain : Bool) (text : String)
  deriving DecidableEq, Inhabited

/-- Whether a character ends a line. -/
def isBreak (c : Char) : Bool :=
  c == '\n' || c == '\r' || c == '\x85' || c == '\u2028' || c == '\u2029'

/-- Whether a text is at its end or at a blank or a line break. -/
def atGap : List Char → Bool
  | [] => true
  | c :: _ => c == ' ' || c == '\t' || isBreak c

/-- Whether a text begins with three of the characters that mark the ends of a document, and a
gap. -/
def atMark (mark : Char) (s : List Char) : Bool :=
  s.take 3 == [mark, mark, mark] && atGap (s.drop 3)

/-- Whether a text begins with either mark of the ends of a document. -/
def atDocumentMark (s : List Char) : Bool := atMark '-' s || atMark '.' s

/-- What is left of a text, and where that is. -/
structure Source where
  rest : List Char
  index : Nat := 0
  line : Nat := 0
  column : Nat := 0

namespace Source

/-- Goes behind a character. -/
def pass (s : Source) (c : Char) (rest : List Char) : Source :=
  if isBreak c && !(c == '\r' && rest.head? == some '\n') then ⟨rest, s.index + 1, s.line + 1, 0⟩
  else ⟨rest, s.index + 1, s.line, if c == '\ufeff' then s.column else s.column + 1⟩

/-- Goes behind so many characters. -/
def advance (s : Source) : Nat → Source
  | 0 => s
  | n + 1 =>
    match s.rest with
    | [] => s
    | c :: rest => (s.pass c rest).advance n

/-- Goes behind the characters at the front that have a property. -/
def advanceWhile (s : Source) (p : Char → Bool) : Source := s.advance (s.rest.takeWhile p).length

/-- Goes behind a line break, which counts as a newline unless it is one of the two separators of
Unicode. -/
def passBreak (s : Source) : List Char × Source :=
  match s.rest with
  | '\r' :: '\n' :: _ => (['\n'], s.advance 2)
  | c :: _ =>
    if c == '\u2028' || c == '\u2029' then ([c], s.advance 1)
    else if isBreak c then (['\n'], s.advance 1)
    else ([], s)
  | [] => ([], s)

end Source

/-- A text that a line break stands for in a scalar: a space, or the empty lines behind it. -/
def folded (first : List Char) (breaks : List Char) : List Char :=
  if first != ['\n'] then first ++ breaks else if breaks.isEmpty then [' '] else breaks

/-! ## Scalars without quotes -/

/-- The characters that end a word in a flow collection. -/
def flowEnds : List Char := [',', '[', ']', '\x7b', '\x7d']

/-- How many characters belong to a word of a scalar without quotes. -/
def wordLength (inFlow : Bool) : List Char → Nat
  | [] => 0
  | c :: rest =>
    if atGap (c :: rest) ||
        (c == ':' && (atGap rest || (inFlow && rest.head?.any flowEnds.contains))) ||
        (inFlow && (c == '?' || flowEnds.contains c)) then 0
    else wordLength inFlow rest + 1

/-- Goes behind empty lines, up to the mark of a document if there is one: their line breaks, and
whether no mark was met. -/
def plainBreaks (done : List Char) (s : Source) : Nat → List Char × Bool × Source
  | 0 => (done, true, s)
  | fuel + 1 =>
    match s.rest with
    | c :: rest =>
      if c == ' ' then plainBreaks done (s.pass c rest) fuel
      else if isBreak c then
        let (text, s) := s.passBreak
        if atDocumentMark s.rest then (done ++ text, false, s)
        else plainBreaks (done ++ text) s fuel
      else (done, true, s)
    | [] => (done, true, s)

/-- The gap between two words of a scalar without quotes: what it stands for, nothing where the
scalar ends, and whether a line ended in it. -/
def plainGap (s : Source) : List Char × Bool × Source :=
  let blanks := s.rest.takeWhile (· == ' ')
  let s := s.advance blanks.length
  if s.rest.head?.any isBreak then
    let (first, s) := s.passBreak
    if atDocumentMark s.rest then ([], true, s)
    else
      let (breaks, goesOn, s) := plainBreaks [] s s.rest.length
      (if goesOn then folded first breaks else [], true, s)
  else (blanks, false, s)

/-- A scalar without quotes behind what was read of it and a gap; its lines must be indented by
`indent`. Also whether a line ended behind its last word. -/
def plainScalar (inFlow : Bool) (indent : Int) (done gap : List Char) (newLine : Bool)
    (s : Source) : List Char × Bool × Source :=
  let length := wordLength inFlow s.rest
  if s.rest.head? == some '#' || length == 0 then (done, newLine, s)
  else
    let done := done ++ gap ++ s.rest.take length
    let (gap, newLine, next) := plainGap (s.advance length)
    if gap.isEmpty || next.rest.head? == some '#' || (!inFlow && next.column < indent) then
      (done, newLine, next)
    else if next.rest.length < s.rest.length then plainScalar inFlow indent done gap newLine next
    else (done, newLine, next)
termination_by s.rest.length

/-! ## Scalars with quotes -/

/-- What a letter behind a backslash stands for. -/
def escapes : List (Char × Char) :=
  [('0', '\x00'), ('a', '\x07'), ('b', '\x08'), ('t', '\t'), ('\t', '\t'), ('n', '\n'),
    ('v', '\x0b'), ('f', '\x0c'), ('r', '\r'), ('e', '\x1b'), (' ', ' '), ('\x22', '\x22'),
    ('\\', '\\'), ('/', '/'), ('N', '\x85'), ('_', '\xa0'), ('L', '\u2028'), ('P', '\u2029')]

/-- How many hexadecimal digits follow a letter behind a backslash. -/
def escapeWidths : List (Char × Nat) := [('x', 2), ('u', 4), ('U', 8)]

/-- Goes behind the line breaks and the blanks at the beginnings of lines. -/
def quotedBreaks (done : List Char) (s : Source) : Nat → Option (List Char × Source)
  | 0 => some (done, s)
  | fuel + 1 =>
    if atDocumentMark s.rest then none
    else
      let s := s.advanceWhile fun c => c == ' ' || c == '\t'
      if s.rest.head?.any isBreak then
        let (text, s) := s.passBreak
        quotedBreaks (done ++ text) s fuel
      else some (done, s)

/-- One piece of a scalar between quotes, from a text that is neither at its end nor at the closing
quote: the characters it stands for. -/
def quotedPiece? (double : Bool) (s : Source) : Option (List Char × Source) :=
  match s.rest with
  | [] => none
  | c :: rest =>
    if c == ' ' || c == '\t' || isBreak c then
      let blanks := s.rest.takeWhile fun c => c == ' ' || c == '\t'
      let s := s.advance blanks.length
      if s.rest.isEmpty then none
      else if s.rest.head?.any isBreak then do
        let (first, s) := s.passBreak
        let (breaks, s) ← quotedBreaks [] s (s.rest.length + 1)
        return (folded first breaks, s)
      else some (blanks, s)
    else if !double && c == '\x27' then
      -- the other half of a quote that is written twice
      some ([c], s.advance 2)
    else if double && c == '\\' then
      match rest with
      | [] => none
      | d :: digits =>
        match escapes.lookup d, escapeWidths.lookup d with
        | some image, _ => some ([image], s.advance 2)
        | none, some width =>
          let values := (digits.take width).filterMap Hex.digitValue?
          if values.length == width then
            some ([Char.ofNat (values.foldl (fun n d => 16 * n + d) 0)], s.advance (2 + width))
          else none
        | none, none =>
          if isBreak d then do
            let (_, s) := (s.advance 1).passBreak
            quotedBreaks [] s (s.rest.length + 1)
          else none
    else some ([c], s.advance 1)

/-- Whether a text between quotes ends here. -/
def atClosing (double : Bool) (s : List Char) : Bool :=
  match s with
  | c :: rest =>
    if double then c == '\x22' else c == '\x27' && rest.head? != some '\x27'
  | [] => false

/-- A scalar between quotes, behind what was read of it. -/
def quotedScalar? (double : Bool) (done : List Char) (s : Source) : Option (List Char × Source) :=
  if atClosing double s.rest then some (done, s.advance 1)
  else
    match quotedPiece? double s with
    | none => none
    | some (piece, next) =>
      if next.rest.length < s.rest.length then quotedScalar? double (done ++ piece) next else none
termination_by s.rest.length

/-! ## Tokens -/

/-- The place before what may turn out to be a key: how many tokens stand before it, where it is,
and whether it must be a key because a block's entries begin in its column. -/
structure PossibleKey where
  tokens : Nat
  index : Nat
  line : Nat
  column : Nat
  required : Bool

/-- A reader of tokens. -/
structure Lexer where
  source : Source
  tokens : Array Token := #[]
  /-- The column of the innermost block. -/
  indent : Int := -1
  /-- The columns of the blocks around it. -/
  outer : List Int := []
  /-- How many flow collections are open. -/
  flow : Nat := 0
  keyAllowed : Bool := true
  /-- The possible key of each flow level that has one. -/
  keys : List (Nat × PossibleKey) := []

namespace Lexer

/-- The longest key, in characters. -/
def maxKeyLength : Nat := 1024

/-- Adds a token. -/
def push (l : Lexer) (t : Token) : Lexer := { l with tokens := l.tokens.push t }

/-- Adds a token for so many characters. -/
def pushAcross (l : Lexer) (t : Token) (n : Nat) : Lexer :=
  { l with tokens := l.tokens.push t, source := l.source.advance n }

/-- Goes behind blanks, comments and line breaks. -/
def skipGaps (l : Lexer) : Lexer :=
  let s := l.source.advanceWhile (· == ' ')
  let s := if s.rest.head? == some '#' then s.advanceWhile (!isBreak ·) else s
  let (text, next) := s.passBreak
  if text.isEmpty then { l with source := s }
  else if next.rest.length < l.source.rest.length then
    skipGaps { l with source := next, keyAllowed := l.keyAllowed || l.flow == 0 }
  else { l with source := s }
termination_by l.source.rest.length

/-- Forgets the possible keys that did not stay on one line; a required one must not be among
them. -/
def dropStaleKeys? (l : Lexer) : Option Lexer :=
  let stale (key : PossibleKey) : Bool :=
    key.line != l.source.line || l.source.index - key.index > maxKeyLength
  if l.keys.any fun (_, key) => stale key && key.required then none
  else some { l with keys := l.keys.filter fun (_, key) => !stale key }

/-- Forgets the possible key of the present flow level, which must not be required. -/
def dropKey? (l : Lexer) : Option Lexer :=
  if (l.keys.lookup l.flow).any (·.required) then none
  else some { l with keys := l.keys.filter (·.1 != l.flow) }

/-- Remembers the present place as that of a possible key, if keys may stand here. -/
def saveKey? (l : Lexer) : Option Lexer :=
  if l.keyAllowed then do
    let l ← l.dropKey?
    let key : PossibleKey :=
      ⟨l.tokens.size, l.source.index, l.source.line, l.source.column,
        l.flow == 0 && l.indent == l.source.column⟩
    return { l with keys := (l.flow, key) :: l.keys }
  else some l

/-- Ends the blocks that are indented by more than a column. -/
def unwindBlocks (l : Lexer) (column : Int) : List Int → Lexer
  | [] => l
  | indent :: outer =>
    if column < l.indent then
      unwindBlocks { l.push .blockEnd with indent := indent, outer := outer } column outer
    else l

/-- Ends the blocks that are indented by more than a column; flow collections have none. -/
def unwind (l : Lexer) (column : Int) : Lexer :=
  if l.flow == 0 then l.unwindBlocks column l.outer else l

/-- Begins a block in a column if that is further to the right, with its token at a place among
the tokens. -/
def indentAt (l : Lexer) (column : Int) (place : Nat) (t : Token) : Lexer :=
  if l.indent < column then
    { l with
      indent := column, outer := l.indent :: l.outer
      tokens := (l.tokens.toList.take place ++ t :: l.tokens.toList.drop place).toArray }
  else l

/-- A mark of a document's beginning or end. -/
def documentMark? (l : Lexer) (t : Token) : Option Lexer := do
  let l ← (l.unwind (-1)).dropKey?
  return { l.pushAcross t 3 with keyAllowed := false }

/-- The beginning of a flow collection. -/
def flowStart? (l : Lexer) (t : Token) : Option Lexer := do
  let l ← l.saveKey?
  return { l.pushAcross t 1 with flow := l.flow + 1, keyAllowed := true }

/-- The end of a flow collection. -/
def flowEnd? (l : Lexer) (t : Token) : Option Lexer := do
  let l ← l.dropKey?
  match l.flow with
  | 0 => none
  | flow + 1 => return { l.pushAcross t 1 with flow := flow, keyAllowed := false }

/-- A comma in a flow collection. -/
def flowEntry? (l : Lexer) : Option Lexer := do
  let l ← { l with keyAllowed := true }.dropKey?
  return l.pushAcross .flowEntry 1

/-- The mark of a sequence's item or of a key, before which a block may begin. -/
def blockMark? (l : Lexer) (block mark : Token) (keyAllowed : Bool) : Option Lexer :=
  if l.flow == 0 && !l.keyAllowed then none
  else do
    let l :=
      if l.flow == 0 then l.indentAt l.source.column l.tokens.size block else l
    let l ← { l with keyAllowed := keyAllowed }.dropKey?
    return l.pushAcross mark 1

/-- The mark of a value. What was read since a possible key is the key. -/
def value? (l : Lexer) : Option Lexer :=
  match l.keys.lookup l.flow with
  | some key =>
    let before := l.tokens.toList.take key.tokens
    let behind := l.tokens.toList.drop key.tokens
    let tokens := (before ++ .key :: behind).toArray
    let l := { l with tokens := tokens, keys := l.keys.filter (·.1 != l.flow), keyAllowed := false }
    let l := if l.flow == 0 then l.indentAt key.column key.tokens .mappingStart else l
    some (l.pushAcross .value 1)
  | none => l.blockMark? .mappingStart .value (l.flow == 0)

/-- A scalar between quotes. -/
def quoted? (l : Lexer) (double : Bool) : Option Lexer := do
  let l ← l.saveKey?
  let (text, s) ← quotedScalar? double [] (l.source.advance 1)
  return { l with
    source := s, keyAllowed := false
    tokens := l.tokens.push (.scalar false (String.ofList text)) }

/-- A scalar without quotes. -/
def plain? (l : Lexer) : Option Lexer := do
  let l ← l.saveKey?
  let (text, newLine, s) := plainScalar (l.flow != 0) (l.indent + 1) [] [] false l.source
  return { l with
    source := s, keyAllowed := newLine
    tokens := l.tokens.push (.scalar true (String.ofList text)) }

/-- The characters that cannot begin a scalar without quotes. -/
def indicators : List Char :=
  ['-', '?', ':', '#', '&', '*', '!', '|', '>', '\x27', '\x22', '%', '@', '\x60'] ++ flowEnds

/-- Whether a scalar without quotes begins here. -/
def atPlain (l : Lexer) : Bool :=
  match l.source.rest with
  | [] => false
  | c :: rest =>
    !atGap l.source.rest && !indicators.contains c ||
      !atGap rest && (c == '-' || (l.flow == 0 && (c == '?' || c == ':')))

/-- The next token. -/
def next? (l : Lexer) : Option Lexer :=
  match l.source.rest with
  | [] => none
  | c :: rest =>
    let inFlow := l.flow != 0
    let atStart := l.source.column == 0
    if c == '%' && atStart then none
    else if c == '-' && atStart && atMark '-' l.source.rest then l.documentMark? .documentStart
    else if c == '.' && atStart && atMark '.' l.source.rest then l.documentMark? .documentEnd
    else if c == '[' then l.flowStart? .flowSequenceStart
    else if c == '\x7b' then l.flowStart? .flowMappingStart
    else if c == ']' then l.flowEnd? .flowSequenceEnd
    else if c == '\x7d' then l.flowEnd? .flowMappingEnd
    else if c == ',' then l.flowEntry?
    else if c == '-' && atGap rest then l.blockMark? .sequenceStart .blockEntry true
    else if c == '?' && (inFlow || atGap rest) then l.blockMark? .mappingStart .key (l.flow == 0)
    else if c == ':' && (inFlow || atGap rest) then l.value?
    else if c == '\x27' then l.quoted? false
    else if c == '\x22' then l.quoted? true
    else if l.atPlain then l.plain?
    else none

/-- The tokens up to the end of the text. -/
def run? (l : Lexer) : Option (Array Token) := do
  let start := l.source.rest.length
  let l ← l.skipGaps.dropStaleKeys?
  let l := l.unwind l.source.column
  if l.source.rest.isEmpty then return (← (l.unwind (-1)).dropKey?).tokens
  else
    let l ← l.next?
    if l.source.rest.length < start then run? l else none
termination_by l.source.rest.length
decreasing_by
  rename_i h
  exact h

end Lexer

/-- Whether a character may stand in YAML text. -/
def isAllowed (c : Char) : Bool :=
  c == '\t' || c == '\n' || c == '\r' || (' ' ≤ c && c ≤ '~') || c == '\x85' ||
    ('\xa0' ≤ c && c != '\ufffe' && c != '\uffff')

/-- The tokens of a text, none if it is malformed. -/
def tokens? (s : String) : Option (List Token) :=
  let text := match s.toList with
    | '\ufeff' :: rest => rest
    | text => text
  if text.all isAllowed then do return (← ({ source := { rest := text } } : Lexer).run?).toList
  else none

end QbLint.Yaml
