import Mathlib.Data.List.Basic
import QbLint.Document.Json
import QbLint.Proofs.Decimal
import QbLint.Proofs.Hex

/-!
# JSON text as tokens

JSON text is taken apart into brackets, commas and colons, strings, and words between these. White
space between tokens says nothing, so the two layouts of a document come to the same tokens. What
was escaped in a string is read back by its code units.

* `Json.tokens?`: the tokens of a text; `Json.tokensFrom_bare_cons` and the like: what the reader
  does with one character, for each mode it can be in;
* `Json.ofUnits_unitsOf`: a text is what its code units stand for;
* `Json.splits_string`: a string is one token, its text;
* `Json.lexes_render`: the tokens of a document in either layout.
-/

namespace QbLint.Json

/-! ## Code units -/

/-- The character that a code unit stands for by itself. -/
def ofUnit (unit : Nat) : Char := if unit.isValidChar then Char.ofNat unit else '\uFFFD'

/-- The characters that code units stand for: two surrogates in a row are one character. -/
def ofUnits : List Nat → List Char
  | lead :: trail :: rest =>
    if (0xD800 ≤ lead ∧ lead < 0xDC00) ∧ 0xDC00 ≤ trail ∧ trail < 0xE000 then
      ofUnit (0x10000 + (lead - 0xD800) * 0x400 + (trail - 0xDC00)) :: ofUnits rest
    else ofUnit lead :: ofUnits (trail :: rest)
  | [unit] => [ofUnit unit]
  | [] => []

/-- The code units of a character. -/
def unitsOf (c : Char) : List Nat :=
  if c.toNat < 0x10000 then [c.toNat]
  else [0xD800 + (c.toNat - 0x10000) / 0x400, 0xDC00 + (c.toNat - 0x10000) % 0x400]

@[simp] theorem ofUnit_toNat (c : Char) : ofUnit c.toNat = c := by
  have hvalid : c.toNat.isValidChar := c.valid
  rw [ofUnit, if_pos hvalid, Char.ofNat_toNat]

theorem toNat_lt (c : Char) : c.toNat < 0x110000 := by
  have hvalid : c.toNat.isValidChar := c.valid
  simp only [Nat.isValidChar] at hvalid
  omega

theorem ofUnits_toNat_cons (c : Char) (units : List Nat) :
    ofUnits (c.toNat :: units) = c :: ofUnits units := by
  cases units with
  | nil => simp [ofUnits]
  | cons trail units =>
    have hvalid : c.toNat.isValidChar := c.valid
    have hlead : ¬ (0xD800 ≤ c.toNat ∧ c.toNat < 0xDC00) := by
      simp only [Nat.isValidChar] at hvalid
      omega
    rw [ofUnits, if_neg fun h => hlead h.1, ofUnit_toNat]

/-- A text is what its code units stand for. -/
theorem ofUnits_unitsOf (s : List Char) : ofUnits (s.flatMap unitsOf) = s := by
  induction s with
  | nil => rfl
  | cons c s ih =>
    rw [List.flatMap_cons, unitsOf]
    split
    · rw [List.singleton_append, ofUnits_toNat_cons, ih]
    · rename_i h
      have hmax := toNat_lt c
      rw [List.cons_append, List.singleton_append, ofUnits, if_pos (by omega), ih]
      have hunit : 0x10000 + (0xD800 + (c.toNat - 0x10000) / 0x400 - 0xD800) * 0x400 +
          (0xDC00 + (c.toNat - 0x10000) % 0x400 - 0xDC00) = c.toNat := by
        omega
      rw [hunit, ofUnit_toNat]

/-! ## Tokens -/

/-- A piece of JSON text. -/
inductive Token
  | mark (c : Char)
  | text (s : String)
  | word (s : String)
  deriving DecidableEq

/-- Whether a character is a token by itself. -/
def isMark (c : Char) : Bool := ['[', ']', '\x7b', '\x7d', ',', ':'].contains c

/-- Whether a character is white space. -/
def isSpace (c : Char) : Bool := [' ', '\n', '\r', '\t'].contains c

/-- Whether a character is part of a word. -/
def isWordChar (c : Char) : Bool := !isMark c && !isSpace c && c != '\x22'

/-- Where a reader of tokens is. -/
inductive Mode
  /-- Outside of strings, behind the beginning of a word, which may be empty. -/
  | bare (word : List Char)
  /-- In a string, behind some code units. -/
  | quoted (units : List Nat)
  /-- In a string, behind a backslash. -/
  | escaped (units : List Nat)
  /-- In a string, in the digits of a code unit: more than `left` of them are to come. -/
  | digits (units : List Nat) (value left : Nat)

/-- Tokens behind a word, if it is not empty. -/
def behindWord (word : List Char) (tokens : List Token) : List Token :=
  if word = [] then tokens else .word (String.ofList word) :: tokens

/-- The characters that stand behind a backslash for a character. -/
def shortEscapes : List (Char × Char) :=
  [('\x22', '\x22'), ('\\', '\\'), ('/', '/'), ('b', '\x08'), ('f', '\x0c'), ('n', '\n'),
    ('r', '\r'), ('t', '\t')]

/-- The tokens of the rest of a text. -/
def tokensFrom : Mode → List Char → Option (List Token)
  | .bare word, [] => some (behindWord word [])
  | _, [] => none
  | .bare word, c :: rest =>
    if isMark c then (tokensFrom (.bare []) rest).map fun tokens => behindWord word (.mark c :: tokens)
    else if isSpace c then (tokensFrom (.bare []) rest).map (behindWord word)
    else if c = '\x22' then (tokensFrom (.quoted []) rest).map (behindWord word)
    else tokensFrom (.bare (word ++ [c])) rest
  | .quoted units, c :: rest =>
    if c = '\x22' then
      (tokensFrom (.bare []) rest).map (.text (String.ofList (ofUnits units)) :: ·)
    else if c = '\\' then tokensFrom (.escaped units) rest
    else tokensFrom (.quoted (units ++ [c.toNat])) rest
  | .escaped units, c :: rest =>
    if c = 'u' then tokensFrom (.digits units 0 3) rest
    else (shortEscapes.lookup c).bind fun image => tokensFrom (.quoted (units ++ [image.toNat])) rest
  | .digits units value left, c :: rest =>
    (Hex.digitValue? c).bind fun d =>
      if left = 0 then tokensFrom (.quoted (units ++ [16 * value + d])) rest
      else tokensFrom (.digits units (16 * value + d) (left - 1)) rest

/-- The tokens of a text. -/
def tokens? (s : String) : Option (List Token) := tokensFrom (.bare []) s.toList

/-! ## Single characters -/

section Steps

-- One equation for each mode: the proofs below read on by these and never unfold the reader.

variable {word rest : List Char} {units : List Nat} {value left : Nat} {c : Char}

theorem tokensFrom_bare_cons : tokensFrom (.bare word) (c :: rest) =
    if isMark c then (tokensFrom (.bare []) rest).map fun tokens => behindWord word (.mark c :: tokens)
    else if isSpace c then (tokensFrom (.bare []) rest).map (behindWord word)
    else if c = '\x22' then (tokensFrom (.quoted []) rest).map (behindWord word)
    else tokensFrom (.bare (word ++ [c])) rest := rfl

theorem tokensFrom_quoted_cons : tokensFrom (.quoted units) (c :: rest) =
    if c = '\x22' then
      (tokensFrom (.bare []) rest).map (.text (String.ofList (ofUnits units)) :: ·)
    else if c = '\\' then tokensFrom (.escaped units) rest
    else tokensFrom (.quoted (units ++ [c.toNat])) rest := rfl

theorem tokensFrom_escaped_cons : tokensFrom (.escaped units) (c :: rest) =
    if c = 'u' then tokensFrom (.digits units 0 3) rest
    else (shortEscapes.lookup c).bind fun image =>
      tokensFrom (.quoted (units ++ [image.toNat])) rest := rfl

theorem tokensFrom_digits_cons : tokensFrom (.digits units value left) (c :: rest) =
    (Hex.digitValue? c).bind fun d =>
      if left = 0 then tokensFrom (.quoted (units ++ [16 * value + d])) rest
      else tokensFrom (.digits units (16 * value + d) (left - 1)) rest := rfl

end Steps

/-! ## Strings -/

section Strings

variable {units : List Nat} {rest : List Char} {n value left : Nat}

theorem tokensFrom_digits {digits : List Char} (hlength : digits.length = left + 1)
    (hvalue : Hex.valueFrom? value digits = some n) :
    tokensFrom (.digits units value left) (digits ++ rest) =
      tokensFrom (.quoted (units ++ [n])) rest := by
  induction digits generalizing value left with
  | nil => simp at hlength
  | cons c digits ih =>
    rw [Hex.valueFrom?] at hvalue
    obtain ⟨d, hd, hvalue⟩ := Option.bind_eq_some_iff.mp hvalue
    rw [List.cons_append, tokensFrom_digits_cons, hd, Option.bind_some]
    cases left with
    | zero =>
      obtain rfl : digits = [] := by simpa using hlength
      obtain rfl := Option.some.inj hvalue
      rfl
    | succ left => exact ih (by simpa using hlength) hvalue

theorem tokensFrom_unit (h : n < 0x10000) :
    tokensFrom (.quoted units) (unit n ++ rest) = tokensFrom (.quoted (units ++ [n])) rest := by
  have hlength : (Hex.zeroFill 4 (Hex.digits Hex.lowerDigit n)).length = 3 + 1 := by
    rw [Hex.length_zeroFill]
    exact Nat.max_eq_left (Hex.length_digits_le h)
  refine tokensFrom_digits hlength ?_
  rw [Hex.valueFrom?_zeroFill, Hex.valueFrom?_digits Hex.digitValue?_lowerDigit]

theorem tokensFrom_escape (c : Char) :
    tokensFrom (.quoted units) (escape c ++ rest) =
      tokensFrom (.quoted (units ++ unitsOf c)) rest := by
  have hshort {letter : Char} (hletter : letter ≠ 'u') (hlookup : shortEscapes.lookup letter = some c)
      (hc : c.toNat < 0x10000) :
      tokensFrom (.quoted units) (['\\', letter] ++ rest) =
        tokensFrom (.quoted (units ++ unitsOf c)) rest := by
    rw [unitsOf, if_pos hc]
    show tokensFrom (.escaped units) (letter :: rest) = _
    rw [tokensFrom_escaped_cons, if_neg hletter, hlookup, Option.bind_some]
  unfold escape
  split_ifs with hself hplain hn hr ht hb hf hbasic
  · rcases hself with rfl | rfl
    · exact hshort (by decide) (by decide) (by decide)
    · exact hshort (by decide) (by decide) (by decide)
  · rw [List.singleton_append, tokensFrom_quoted_cons, if_neg fun h => hself (.inr h),
      if_neg fun h => hself (.inl h), unitsOf, if_pos]
    exact Nat.lt_of_le_of_lt (show c.toNat ≤ '~'.toNat from hplain.2) (by decide)
  · subst hn
    exact hshort (by decide) (by decide) (by decide)
  · subst hr
    exact hshort (by decide) (by decide) (by decide)
  · subst ht
    exact hshort (by decide) (by decide) (by decide)
  · subst hb
    exact hshort (by decide) (by decide) (by decide)
  · subst hf
    exact hshort (by decide) (by decide) (by decide)
  · rw [tokensFrom_unit hbasic, unitsOf, if_pos hbasic]
  · have hmax := toNat_lt c
    rw [List.append_assoc, tokensFrom_unit (by omega), tokensFrom_unit (by omega), unitsOf,
      if_neg hbasic, List.append_assoc, List.singleton_append]

theorem tokensFrom_flatMap_escape (s : List Char) :
    tokensFrom (.quoted units) (s.flatMap escape ++ rest) =
      tokensFrom (.quoted (units ++ s.flatMap unitsOf)) rest := by
  induction s generalizing units with
  | nil => simp
  | cons c s ih =>
    rw [List.flatMap_cons, List.append_assoc, tokensFrom_escape, ih, List.flatMap_cons,
      List.append_assoc]

end Strings

/-! ## Pieces of a text -/

/-- The text is taken apart into tokens, whatever follows it. -/
def Splits (s : List Char) (tokens : List Token) : Prop :=
  ∀ rest, tokensFrom (.bare []) (s ++ rest) = (tokensFrom (.bare []) rest).map (tokens ++ ·)

/-- No word goes on at the beginning of the text. -/
def Delimited (s : List Char) : Prop := ∀ c ∈ s.head?, isWordChar c = false

/-- The text is taken apart into tokens if no word goes on behind it. -/
def Lexes (s : List Char) (tokens : List Token) : Prop :=
  ∀ rest, Delimited rest →
    tokensFrom (.bare []) (s ++ rest) = (tokensFrom (.bare []) rest).map (tokens ++ ·)

variable {s t : List Char} {c : Char} {tokens more : List Token}

theorem Splits.lexes (h : Splits s tokens) : Lexes s tokens := fun rest _ => h rest

theorem Splits.append_lexes (hs : Splits s tokens) (ht : Lexes t more) :
    Lexes (s ++ t) (tokens ++ more) := by
  intro rest hrest
  rw [List.append_assoc, hs, ht rest hrest, Option.map_map]
  exact congrArg (Option.map · _) (funext fun _ => (List.append_assoc ..).symm)

theorem Splits.append (hs : Splits s tokens) (ht : Splits t more) :
    Splits (s ++ t) (tokens ++ more) := by
  intro rest
  rw [List.append_assoc, hs, ht, Option.map_map]
  exact congrArg (Option.map · _) (funext fun _ => (List.append_assoc ..).symm)

theorem Lexes.append (hs : Lexes s tokens) (ht : Lexes t more)
    (hdelimited : ∀ rest, Delimited rest → Delimited (t ++ rest)) :
    Lexes (s ++ t) (tokens ++ more) := by
  intro rest hrest
  rw [List.append_assoc, hs _ (hdelimited rest hrest), ht rest hrest, Option.map_map]
  exact congrArg (Option.map · _) (funext fun _ => (List.append_assoc ..).symm)

theorem Lexes.append_splits (hs : Lexes s tokens) (ht : Splits t more)
    (hdelimited : ∀ rest, Delimited (t ++ rest)) : Splits (s ++ t) (tokens ++ more) := by
  intro rest
  rw [List.append_assoc, hs _ (hdelimited rest), ht, Option.map_map]
  exact congrArg (Option.map · _) (funext fun _ => (List.append_assoc ..).symm)

theorem splits_nil : Splits [] [] := fun _ => (Option.map_id' ..).symm

theorem splits_mark (h : isMark c = true) : Splits [c] [.mark c] := by
  intro rest
  rw [List.singleton_append, tokensFrom_bare_cons, if_pos h]
  rfl

theorem splits_space (hmark : isMark c = false) (hspace : isSpace c = true) : Splits [c] [] := by
  intro rest
  rw [List.singleton_append, tokensFrom_bare_cons, if_neg (by simp [hmark]), if_pos hspace]
  rfl

theorem splits_newline (level : Nat) : Splits (newline level).toList [] := by
  have hspaces : ∀ n, Splits (List.replicate n ' ') [] := by
    intro n
    induction n with
    | zero => exact splits_nil
    | succ n ih => exact .append (splits_space (by decide) (by decide)) ih
  rw [newline, String.toList_ofList]
  exact .append (splits_space (c := '\n') (by decide) (by decide)) (hspaces _)

/-- A string is one token, its text. -/
theorem splits_string (s : String) : Splits (string s).toList [.text s] := by
  intro rest
  have hquoted : tokensFrom (.bare []) ('\x22' :: (s.toList.flatMap escape ++ ('\x22' :: rest))) =
      (tokensFrom (.quoted []) (s.toList.flatMap escape ++ ('\x22' :: rest))).map
        (behindWord []) := by
    rw [tokensFrom_bare_cons, if_neg (by decide), if_neg (by decide), if_pos rfl]
  rw [string, String.toList_ofList, List.cons_append, List.cons_append, List.append_assoc,
    List.singleton_append, hquoted, tokensFrom_flatMap_escape, tokensFrom_quoted_cons, if_pos rfl,
    List.nil_append, ofUnits_unitsOf, String.ofList_toList, Option.map_map]
  rfl

/-! ## Words -/

/-- A text in which nothing ends a word. -/
def IsWord (s : List Char) : Prop := ∀ c ∈ s, isWordChar c = true

instance : DecidablePred IsWord := fun s =>
  decidable_of_iff (s.all isWordChar = true) List.all_eq_true

theorem tokensFrom_word {word : List Char} (h : IsWord s) (rest : List Char) :
    tokensFrom (.bare word) (s ++ rest) = tokensFrom (.bare (word ++ s)) rest := by
  induction s generalizing word with
  | nil => simp
  | cons c s ih =>
    obtain ⟨hc, h⟩ := List.forall_mem_cons.mp h
    have hc : isMark c = false ∧ isSpace c = false ∧ c ≠ '\x22' := by
      simpa [isWordChar, and_assoc] using hc
    rw [List.cons_append, tokensFrom_bare_cons, if_neg (by simp [hc.1]),
      if_neg (by simp [hc.2.1]), if_neg hc.2.2, ih h, List.append_assoc, List.singleton_append]

/-- A word ends where none goes on. -/
theorem tokensFrom_delimited {rest : List Char} (h : Delimited rest) (word : List Char) :
    tokensFrom (.bare word) rest = (tokensFrom (.bare []) rest).map (behindWord word) := by
  cases rest with
  | nil => rfl
  | cons c rest =>
    have hc : isWordChar c = false := h c rfl
    rw [tokensFrom_bare_cons, tokensFrom_bare_cons]
    split_ifs with hmark hspace hquote
    · rw [Option.map_map]
      rfl
    · rw [Option.map_map]
      rfl
    · rw [Option.map_map]
      rfl
    · simp [isWordChar, hmark, hspace, hquote] at hc

theorem lexes_word (hne : s ≠ []) (h : IsWord s) :
    Lexes s [.word (String.ofList s)] := by
  intro rest hrest
  rw [tokensFrom_word h, List.nil_append, tokensFrom_delimited hrest]
  refine congrArg (Option.map · _) (funext fun tokens => ?_)
  rw [behindWord, if_neg hne, List.singleton_append]

theorem isWordChar_of_isNumeralChar (h : Binary64.isNumeralChar c = true) : isWordChar c = true := by
  have hother : ['[', ']', '\x7b', '\x7d', ',', ':', ' ', '\n', '\r', '\t', '\x22'].all
      (!Binary64.isNumeralChar ·) = true := by
    decide
  simp only [List.all_eq_true, Bool.not_eq_true'] at hother
  have hne : ∀ d, d ∈ ['[', ']', '\x7b', '\x7d', ',', ':', ' ', '\n', '\r', '\t', '\x22'] → c ≠ d := by
    rintro d hd rfl
    exact absurd h (by simp [hother c hd])
  simp only [List.forall_mem_cons] at hne
  simp [isWordChar, isMark, isSpace, hne]

/-- A scalar that is no text is a word. -/
theorem lexes_bare {scalar : Scalar} (h : ∀ s, scalar ≠ .text s) :
    Lexes (bare scalar).toList [.word (bare scalar)] := by
  have hword (s : String) (hne : s ≠ "") (hs : IsWord s.toList) :
      Lexes s.toList [.word s] := by
    have hlexes := lexes_word (mt String.toList_eq_nil_iff.mp hne) hs
    rwa [String.ofList_toList] at hlexes
  cases scalar with
  | null => exact hword _ (by decide) (by decide)
  | bool b => cases b <;> exact hword _ (by decide) (by decide)
  | int n =>
    exact hword _ (Binary64.toString_int_ne n) fun c hc =>
      isWordChar_of_isNumeralChar (Binary64.isNumeral_int n c hc)
  | float x =>
    refine hword _ (Binary64.text_ne (by decide) (by decide) x) fun c hc => ?_
    rcases Binary64.mem_text hc with hnumeral | hname | hname
    · exact isWordChar_of_isNumeralChar hnumeral
    · exact (by decide : IsWord floatNames.infinity.toList) c hname
    · exact (by decide : IsWord floatNames.nan.toList) c hname
  | text s => exact absurd rfl (h s)

/-! ## Documents -/

mutual

/-- The tokens of a document. -/
def tokensOf : Document → List Token
  | .scalar (.text s) => [.text s]
  | .scalar s => [.word (bare s)]
  | .list items => .mark '[' :: ([.mark ','].intercalate (itemTokens items) ++ [.mark ']'])
  | .map entries =>
    .mark '\x7b' :: ([.mark ','].intercalate (entryTokens entries) ++ [.mark '\x7d'])

/-- The tokens of each item of a list. -/
def itemTokens : List Document → List (List Token)
  | [] => []
  | item :: rest => tokensOf item :: itemTokens rest

/-- The tokens of each entry of a mapping. -/
def entryTokens : List (Scalar × Document) → List (List Token)
  | [] => []
  | (key, value) :: rest => (.text (bare key) :: .mark ':' :: tokensOf value) :: entryTokens rest

end

section Brackets

variable {items : List (List Char)} {tokenss : List (List Token)}

theorem lexes_intercalate {blanks : List Char} (hblanks : Splits blanks [])
    (h : List.Forall₂ Lexes items tokenss) :
    Lexes ((',' :: blanks).intercalate items) ([.mark ','].intercalate tokenss) := by
  have hcomma : Splits (',' :: blanks) [.mark ','] := .append (splits_mark (by decide)) hblanks
  induction h with
  | nil => exact splits_nil.lexes
  | @cons item tokens items tokenss hitem hitems ih =>
    cases hitems with
    | nil => simpa using hitem
    | cons hnext hitems =>
      rw [List.intercalate_cons_cons, List.intercalate_cons_cons, List.append_assoc,
        List.append_assoc]
      refine hitem.append (hcomma.append_lexes ih) fun rest _ => ?_
      rintro c ⟨⟩
      decide

/-- Whatever the layout, brackets with items between them are the tokens of the items with commas
between them. -/
theorem splits_brackets {opening closing : String} {o c : Char} (ho : opening.toList = [o])
    (hc : closing.toList = [c]) (hopening : isMark o = true) (hclosing : isMark c = true)
    (layout : Layout) (level : Nat) {items : List String}
    (h : List.Forall₂ Lexes (items.map String.toList) tokenss) :
    Splits (brackets layout level opening closing items).toList
      (.mark o :: ([.mark ','].intercalate tokenss ++ [.mark c])) := by
  have hopen : Splits opening.toList [.mark o] := ho ▸ splits_mark hopening
  have hclose : Splits closing.toList [.mark c] := hc ▸ splits_mark hclosing
  have hword : isWordChar c = false := by simp [isWordChar, hclosing]
  have hclosed (rest : List Char) : Delimited (closing.toList ++ rest) := by
    rw [hc]
    rintro d ⟨⟩
    exact hword
  unfold brackets
  split
  · cases h
    rw [String.toList_append]
    exact hopen.append hclose
  · rw [String.toList_append, String.toList_append, String.toList_intercalate, List.append_assoc]
    have hitems := lexes_intercalate splits_nil h
    exact hopen.append (hitems.append_splits hclose hclosed)
  · simp only [String.toList_append, String.toList_intercalate, List.append_assoc]
    have hitems := lexes_intercalate (splits_newline (level + 1)) h
    have hend : Splits ((newline level).toList ++ closing.toList) [.mark c] :=
      (splits_newline level).append hclose
    refine hopen.append ((splits_newline (level + 1)).append (hitems.append_splits hend ?_))
    intro rest
    rw [newline, String.toList_ofList]
    rintro d ⟨⟩
    decide

end Brackets

theorem splits_colon (layout : Layout) : Splits layout.colon.toList [.mark ':'] := by
  cases layout with
  | compact => exact splits_mark (by decide)
  | indented =>
    exact (splits_mark (c := ':') (by decide)).append
      (splits_space (c := ' ') (by decide) (by decide))

mutual

/-- In either layout, a document is taken apart into its tokens. -/
theorem lexes_render (layout : Layout) (level : Nat) :
    ∀ d : Document, Lexes (render layout level d).toList (tokensOf d)
  | .scalar (.text s) => (splits_string s).lexes
  | .scalar .null => lexes_bare nofun
  | .scalar (.bool _) => lexes_bare nofun
  | .scalar (.int _) => lexes_bare nofun
  | .scalar (.float _) => lexes_bare nofun
  | .list items =>
    (splits_brackets (by decide) (by decide) (by decide) (by decide) layout level
      (lexes_renderItems layout (level + 1) items)).lexes
  | .map entries =>
    (splits_brackets (by decide) (by decide) (by decide) (by decide) layout level
      (lexes_renderEntries layout (level + 1) entries)).lexes

theorem lexes_renderItems (layout : Layout) (level : Nat) :
    ∀ items : List Document,
      List.Forall₂ Lexes ((renderItems layout level items).map String.toList) (itemTokens items)
  | [] => .nil
  | item :: rest => .cons (lexes_render layout level item) (lexes_renderItems layout level rest)

theorem lexes_renderEntries (layout : Layout) (level : Nat) :
    ∀ entries : List (Scalar × Document),
      List.Forall₂ Lexes ((renderEntries layout level entries).map String.toList)
        (entryTokens entries)
  | [] => .nil
  | (key, value) :: rest => by
    refine .cons ?_ (lexes_renderEntries layout level rest)
    rw [String.toList_append, String.toList_append, List.append_assoc]
    exact (splits_string (bare key)).append_lexes
      ((splits_colon layout).append_lexes (lexes_render layout level value))

end

/-- The tokens of a document's text, in either layout. -/
theorem tokens?_render (layout : Layout) (level : Nat) (d : Document) :
    tokens? (render layout level d) = some (tokensOf d) := by
  have hlexes := lexes_render layout level d [] nofun
  rw [List.append_nil] at hlexes
  rw [tokens?, hlexes]
  exact congrArg some (List.append_nil _)

end QbLint.Json
