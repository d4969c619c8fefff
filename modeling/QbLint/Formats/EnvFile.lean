import QbLint.Formats
import QbLint.Text.Blank

/-!
# Environment files

Files that set environment variables, one a line: a name, an equals sign and a value. A value may
stand between quotes, and then it may hold line breaks; without quotes it ends at a blank and a
number sign. Lines that say nothing or make no sense are passed over. A value may refer to the
values of other variables.

* `EnvFile.settings`: what a text sets, in the order in which it first names the variables;
* `EnvFile.expand`: a value with the values it refers to;
* `EnvFile.statement_length_lt`: each statement takes up some of the text.
-/

namespace QbLint.EnvFile

/-- Whether a character is a blank within a line. -/
def isGap (c : Char) : Bool := Text.isBlank c && c != '\n'

/-- A text behind the blanks of its line. -/
def skipGap (s : List Char) : List Char := s.dropWhile isGap

/-- A text behind its first line. -/
def skipLine (s : List Char) : List Char := (s.dropWhile (· != '\n')).tail

/-- A text behind the word that may stand in front of a name. -/
def skipExport (s : List Char) : List Char :=
  match s with
  | 'e' :: 'x' :: 'p' :: 'o' :: 'r' :: 't' :: c :: rest => if isGap c then skipGap rest else s
  | _ => s

/-- Whether a character may be part of a name without quotes. -/
def isNameChar (c : Char) : Bool := c != '=' && c != '#' && !Text.isBlank c

/-- The name that a text begins with, and what follows. -/
def name? (s : List Char) : Option (List Char × List Char) :=
  match s with
  | '\x27' :: rest =>
    match rest.takeWhile (· != '\x27'), rest.dropWhile (· != '\x27') with
    | c :: name, _ :: rest => some (c :: name, rest)
    | _, _ => none
  | s =>
    match s.takeWhile isNameChar with
    | [] => none
    | name => some (name, s.dropWhile isNameChar)

/-- The text up to a closing quote, and what follows. A quote behind a backslash closes only if no
other quote does. -/
def quoted? (mark : Char) : List Char → Option (List Char × List Char)
  | [] => none
  | c :: rest =>
    if c = mark then some ([], rest)
    else if c = '\\' ∧ rest.head? = some mark then
      match rest with
      | _ :: rest =>
        match quoted? mark rest with
        | some (text, after) => some (c :: mark :: text, after)
        | none => some ([c], rest)
      | [] => none
    else (quoted? mark rest).map fun (text, after) => (c :: text, after)

/-- The characters that stand behind a backslash between single quotes, and what they mean. -/
def singleEscapes : List (Char × Char) := [('\\', '\\'), ('\x27', '\x27')]

/-- The characters that stand behind a backslash between double quotes, and what they mean. -/
def doubleEscapes : List (Char × Char) :=
  [('\\', '\\'), ('\x27', '\x27'), ('\x22', '\x22'), ('a', '\x07'), ('b', '\x08'), ('f', '\x0c'),
    ('n', '\n'), ('r', '\r'), ('t', '\t'), ('v', '\x0b')]

/-- A text with its escapes decoded; a backslash before any other character stays. -/
def decodeEscapes (escapes : List (Char × Char)) : List Char → List Char
  | '\\' :: c :: rest =>
    match escapes.lookup c with
    | some image => image :: decodeEscapes escapes rest
    | none => '\\' :: decodeEscapes escapes (c :: rest)
  | c :: rest => c :: decodeEscapes escapes rest
  | [] => []

/-- A line up to a number sign behind a blank. -/
def cutComment : List Char → List Char
  | [] => []
  | c :: rest => if Text.isBlank c ∧ rest.head? = some '#' then [] else c :: cutComment rest

/-- The value that a text begins with, and what follows. -/
def value? (s : List Char) : Option (List Char × List Char) :=
  match s with
  | '\x27' :: rest =>
    (quoted? '\x27' rest).map fun (text, after) => (decodeEscapes singleEscapes text, after)
  | '\x22' :: rest =>
    (quoted? '\x22' rest).map fun (text, after) => (decodeEscapes doubleEscapes text, after)
  | s =>
    some (Text.trimEnd (cutComment (s.takeWhile (· != '\n'))), s.dropWhile (· != '\n'))

/-- A text behind the rest of its line, which may hold a comment and nothing else. -/
def endLine? (s : List Char) : Option (List Char) :=
  match skipGap s with
  | [] => some []
  | c :: rest =>
    if c = '\n' then some rest else if c = '#' then some (skipLine rest) else none

/-- A name and its value, if it has one. -/
abbrev Binding := String × Option (List Char)

/-- The value behind a name, if there is one, and what follows. The error is where the line goes
wrong. -/
def assignment (s : List Char) : Except (List Char) (Option (List Char) × List Char) :=
  match skipGap s with
  | '=' :: rest =>
    match value? (skipGap rest) with
    | some (value, rest) => .ok (some value, rest)
    | none => .error (skipGap rest)
  | rest => .ok (none, rest)

/-- The statement that a text begins with, if it makes sense, and what follows. -/
def statement (s : List Char) : Option Binding × List Char :=
  match name? (skipExport s) with
  | none => (none, skipLine (skipExport s))
  | some (name, rest) =>
    match assignment rest with
    | .error rest => (none, skipLine rest)
    | .ok (value?, rest) =>
      match endLine? rest with
      | none => (none, skipLine rest)
      | some rest => (some (String.ofList name, value?), rest)

/-! ## Each statement takes up some of the text -/

theorem length_dropWhile_le (p : Char → Bool) (s : List Char) :
    (s.dropWhile p).length ≤ s.length :=
  (List.dropWhile_suffix p).length_le

theorem length_skipGap_le (s : List Char) : (skipGap s).length ≤ s.length :=
  length_dropWhile_le _ s

theorem length_skipLine_le (s : List Char) : (skipLine s).length ≤ s.length := by
  have := length_dropWhile_le (· != '\n') s
  simp only [skipLine, List.length_tail]
  omega

theorem length_skipLine_lt {s : List Char} (h : s ≠ []) : (skipLine s).length < s.length := by
  have := length_dropWhile_le (· != '\n') s
  have := List.length_pos_iff.mpr h
  simp only [skipLine, List.length_tail]
  omega

theorem length_skipExport_le (s : List Char) : (skipExport s).length ≤ s.length := by
  unfold skipExport
  split
  · rename_i rest
    split
    · have := length_skipGap_le rest
      simp only [List.length_cons]
      omega
    · exact Nat.le_refl _
  · exact Nat.le_refl _

theorem length_name?_lt {s name rest : List Char} (h : name? s = some (name, rest)) :
    rest.length < s.length := by
  unfold name? at h
  split at h
  · rename_i inner
    split at h
    · rename_i hd
      cases h
      have := length_dropWhile_le (· != '\x27') inner
      simp only [hd, List.length_cons] at this ⊢
      omega
    · cases h
  · split at h
    · cases h
    · rename_i hn
      cases h
      have := congrArg List.length (List.takeWhile_append_dropWhile (p := isNameChar) (l := s))
      have := List.length_pos_iff.mpr hn
      simp only [List.length_append] at *
      omega

theorem length_quoted?_le {mark : Char} {s text rest : List Char}
    (h : quoted? mark s = some (text, rest)) : rest.length ≤ s.length := by
  fun_induction quoted? mark s generalizing text rest with
  | case1 => cases h
  | case2 =>
    cases h
    simp
  | case3 =>
    rename_i hq _ ih
    cases h
    have := ih hq
    simp only [List.length_cons]
    omega
  | case4 =>
    cases h
    simp only [List.length_cons]
    omega
  | case5 => cases h
  | case6 _ _ _ _ ih =>
    obtain ⟨⟨_, _⟩, hq, heq⟩ := Option.map_eq_some_iff.mp h
    cases heq
    have := ih hq
    simp only [List.length_cons]
    omega

theorem length_value?_le {s text rest : List Char} (h : value? s = some (text, rest)) :
    rest.length ≤ s.length := by
  unfold value? at h
  split at h
  · obtain ⟨⟨_, _⟩, hq, heq⟩ := Option.map_eq_some_iff.mp h
    cases heq
    have := length_quoted?_le hq
    simp only [List.length_cons]
    omega
  · obtain ⟨⟨_, _⟩, hq, heq⟩ := Option.map_eq_some_iff.mp h
    cases heq
    have := length_quoted?_le hq
    simp only [List.length_cons]
    omega
  · cases h
    exact length_dropWhile_le _ _

theorem length_endLine?_le {s rest : List Char} (h : endLine? s = some rest) :
    rest.length ≤ s.length := by
  have hs := length_skipGap_le s
  unfold endLine? at h
  split at h
  · cases h
    simp
  · rename_i c inner heq
    have := length_skipLine_le inner
    rw [heq, List.length_cons] at hs
    split at h
    · cases h
      omega
    · split at h
      · cases h
        omega
      · cases h

theorem length_assignment_le {s rest : List Char} {value? : Option (List Char)}
    (h : assignment s = .ok (value?, rest)) : rest.length ≤ s.length := by
  have hs := length_skipGap_le s
  unfold assignment at h
  split at h
  · rename_i inner heq
    have := length_skipGap_le inner
    rw [heq, List.length_cons] at hs
    split at h
    · rename_i hv
      cases h
      have := length_value?_le hv
      omega
    · cases h
  · cases h
    exact hs

theorem length_assignment_error_le {s rest : List Char} (h : assignment s = .error rest) :
    rest.length ≤ s.length := by
  have hs := length_skipGap_le s
  unfold assignment at h
  split at h
  · rename_i inner heq
    have := length_skipGap_le inner
    rw [heq, List.length_cons] at hs
    split at h
    · cases h
    · cases h
      omega
  · cases h

theorem statement_length_lt {s : List Char} (h : s ≠ []) : (statement s).2.length < s.length := by
  have hs := length_skipExport_le s
  unfold statement
  split
  · by_cases he : skipExport s = []
    · have := List.length_pos_iff.mpr h
      simpa [he, skipLine] using this
    · have := length_skipLine_lt he
      dsimp only
      omega
  · rename_i name rest hn
    have := length_name?_lt hn
    split
    · rename_i rest' heq
      have := length_assignment_error_le heq
      have := length_skipLine_le rest'
      dsimp only
      omega
    · rename_i v rest' heq
      have := length_assignment_le heq
      split
      · have := length_skipLine_le rest'
        dsimp only
        omega
      · rename_i hl
        have := length_endLine?_le hl
        dsimp only
        omega

/-! ## The settings -/

/-- The names that a text binds, in its order. -/
def bindings (s : List Char) : List Binding :=
  if _h : s.dropWhile Text.isBlank = [] then []
  else
    let result := statement (s.dropWhile Text.isBlank)
    result.1.toList ++ bindings result.2
termination_by s.length
decreasing_by
  have := length_dropWhile_le Text.isBlank s
  have := statement_length_lt _h
  omega

/-- The reference that a text begins with behind a dollar sign and a brace: the name, the value that
stands for a variable that is not set, and what follows. -/
def reference? (s : List Char) : Option (String × List Char × List Char) :=
  let name := String.ofList (s.takeWhile fun c => c != '\x7d' && c != ':')
  match s.dropWhile fun c => c != '\x7d' && c != ':' with
  | ':' :: '-' :: rest =>
    match rest.dropWhile (· != '\x7d') with
    | _ :: after => some (name, rest.takeWhile (· != '\x7d'), after)
    | [] => none
  | '\x7d' :: after => some (name, [], after)
  | _ => none

theorem length_reference?_lt {s default after : List Char} {name : String}
    (h : reference? s = some (name, default, after)) : after.length < s.length := by
  have hs := length_dropWhile_le (fun c => c != '\x7d' && c != ':') s
  unfold reference? at h
  dsimp only at h
  split at h
  · rename_i rest heq
    have hr := length_dropWhile_le (· != '\x7d') rest
    simp only [heq, List.length_cons] at hs
    split at h
    · rename_i heq'
      cases h
      simp only [heq', List.length_cons] at hr
      omega
    · cases h
  · rename_i heq
    cases h
    simp only [heq, List.length_cons] at hs
    omega
  · cases h

/-- A value with the values that it refers to. -/
def expand (lookup : String → Option (List Char)) : List Char → List Char
  | '$' :: '\x7b' :: rest =>
    match _h : reference? rest with
    | some (name, default, after) => (lookup name).getD default ++ expand lookup after
    | none => '$' :: expand lookup ('\x7b' :: rest)
  | c :: rest => c :: expand lookup rest
  | [] => []
termination_by s => s.length
decreasing_by
  all_goals simp only [List.length_cons]
  · have := length_reference?_lt _h
    omega
  all_goals omega

/-- The names that a value refers to. -/
def references (s : List Char) : List String :=
  match s with
  | '$' :: '\x7b' :: rest =>
    match _h : reference? rest with
    | some (name, _, after) => name :: references after
    | none => references ('\x7b' :: rest)
  | _ :: rest => references rest
  | [] => []
termination_by s.length
decreasing_by
  all_goals simp only [List.length_cons]
  · have := length_reference?_lt _h
    omega
  all_goals omega

/-- Puts a name and its value in the place of an earlier value, or at the end. -/
def put (name : String) (value : Option (List Char)) : List Binding → List Binding
  | [] => [(name, value)]
  | (key, old) :: rest =>
    if key = name then (key, value) :: rest else (key, old) :: put name value rest

/-- The value of a name: that of the file so far, where a name without a value stands for nothing,
and else that of the environment. -/
def lookupIn (env : String → Option String) (done : List Binding) (name : String) :
    Option (List Char) :=
  match done.lookup name with
  | some value => some (value.getD [])
  | none => (env name).map String.toList

/-- What bindings come to behind those of `done`. -/
def resolve (env : String → Option String) (done : List Binding) : List Binding → List Binding
  | [] => done
  | (name, value) :: rest =>
    resolve env (put name (value.map (expand (lookupIn env done))) done) rest

/-- The names in a text and their values; the last value of a name counts. -/
def settings (env : String → Option String) (s : List Char) : Settings :=
  (resolve env [] (bindings s)).map fun (name, value) => (name, value.map String.ofList)

end QbLint.EnvFile
