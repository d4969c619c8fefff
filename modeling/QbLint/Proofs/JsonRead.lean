import QbLint.Proofs.JsonTokens

/-!
# JSON text read back

The values that JSON text stands for, and a reader of them. Numbers stay as they are written, and so
do the names of the other values that are neither texts nor collections; an object's keys are texts,
so that a document's other keys are read as the texts that they were written as.

* `Json.Value`: what JSON text stands for; `Json.valueOf`: what a document is written as;
* `Json.read?`: a reader of JSON text, by its tokens and a stack of open brackets;
* `Json.read?_render`: a document in either layout is read back as what it was written as.
-/

namespace QbLint.Json

/-- What JSON text stands for. -/
inductive Value
  /-- A number, a truth value or null, as it is written. -/
  | word (s : String)
  | text (s : String)
  | list (items : List Value)
  | map (entries : List (String × Value))
  deriving Inhabited

mutual

/-- What a document is written as. -/
def valueOf : Document → Value
  | .scalar (.text s) => .text s
  | .scalar s => .word (bare s)
  | .list items => .list (itemValues items)
  | .map entries => .map (entryValues entries)

/-- What the items of a list are written as. -/
def itemValues : List Document → List Value
  | [] => []
  | item :: rest => valueOf item :: itemValues rest

/-- What the entries of a mapping are written as. -/
def entryValues : List (Scalar × Document) → List (String × Value)
  | [] => []
  | (key, value) :: rest => (bare key, valueOf value) :: entryValues rest

end

/-! ## The reader -/

/-- A bracket that is open: what was read behind it. -/
inductive Frame
  | items (done : List Value)
  /-- The key belongs to the value that is being read. -/
  | entry (done : List (String × Value)) (key : String)

/-- Where a reader is within the innermost open bracket. -/
inductive Place
  /-- In front of a value. -/
  | value
  /-- Behind the opening bracket of a list. -/
  | firstItem
  /-- Behind the opening bracket of an object. -/
  | firstKey
  /-- In front of another key, behind some entries. -/
  | key (done : List (String × Value))
  /-- Behind a key. -/
  | colon (done : List (String × Value)) (key : String)
  /-- Behind a value. -/
  | behind (v : Value)

/-- A value begins with a token. -/
def begin? (frames : List Frame) : Token → Option (List Frame × Place)
  | .text s => some (frames, .behind (.text s))
  | .word s => some (frames, .behind (.word s))
  | .mark '[' => some (.items [] :: frames, .firstItem)
  | .mark '\x7b' => some (frames, .firstKey)
  | _ => none

/-- The brackets that are open behind a token, and where within them that is. -/
def step? : List Frame → Place → Token → Option (List Frame × Place)
  | frames, .value, token => begin? frames token
  | .items _ :: frames, .firstItem, .mark ']' => some (frames, .behind (.list []))
  | frames, .firstItem, token => begin? frames token
  | frames, .firstKey, .mark '\x7d' => some (frames, .behind (.map []))
  | frames, .firstKey, .text key => some (frames, .colon [] key)
  | frames, .key done, .text key => some (frames, .colon done key)
  | frames, .colon done key, .mark ':' => some (.entry done key :: frames, .value)
  | .items done :: frames, .behind v, .mark ',' => some (.items (done ++ [v]) :: frames, .value)
  | .items done :: frames, .behind v, .mark ']' => some (frames, .behind (.list (done ++ [v])))
  | .entry done key :: frames, .behind v, .mark ',' => some (frames, .key (done ++ [(key, v)]))
  | .entry done key :: frames, .behind v, .mark '\x7d' =>
    some (frames, .behind (.map (done ++ [(key, v)])))
  | _, _, _ => none

/-- The value that the rest of some tokens completes. -/
def valueFrom? : List Frame → Place → List Token → Option Value
  | [], .behind v, [] => some v
  | _, _, [] => none
  | frames, place, token :: rest =>
    (step? frames place token).bind fun (frames, place) => valueFrom? frames place rest

/-- The value that a text stands for. -/
def read? (s : String) : Option Value := (tokens? s).bind (valueFrom? [] .value)

/-! ## Reading documents -/

variable {frames : List Frame} {place : Place} {token : Token} {tokens : List Token} {v : Value}

theorem valueFrom?_cons {next : List Frame} {there : Place}
    (h : step? frames place token = some (next, there)) (rest : List Token) :
    valueFrom? frames place (token :: rest) = valueFrom? next there rest := by
  rw [valueFrom?, h, Option.bind_some]

theorem step?_eq_begin? (hplace : place = .value ∨ place = .firstItem) (h : token ≠ .mark ']') :
    step? frames place token = begin? frames token := by
  rcases hplace with rfl | rfl
  · simp [step?]
  · unfold step?
    split <;> simp_all

/-- Wherever the reader stands in front of a value, it goes over the tokens and stands behind the
value. -/
def Reads (tokens : List Token) (v : Value) : Prop :=
  ∀ frames place rest, place = .value ∨ place = .firstItem →
    valueFrom? frames place (tokens ++ rest) = valueFrom? frames (.behind v) rest

theorem reads_text (s : String) : Reads [.text s] (.text s) := by
  intro frames place rest hplace
  have hstep : step? frames place (.text s) = some (frames, .behind (.text s)) :=
    step?_eq_begin? hplace nofun
  exact valueFrom?_cons hstep rest

theorem reads_word (s : String) : Reads [.word s] (.word s) := by
  intro frames place rest hplace
  have hstep : step? frames place (.word s) = some (frames, .behind (.word s)) :=
    step?_eq_begin? hplace nofun
  exact valueFrom?_cons hstep rest

theorem valueFrom?_items {tokenss : List (List Token)} {values : List Value}
    (h : List.Forall₂ Reads tokenss values) (hne : tokenss ≠ []) (done : List Value)
    (hplace : place = .value ∨ place = .firstItem) (rest : List Token) :
    valueFrom? (.items done :: frames) place
        ([.mark ','].intercalate tokenss ++ .mark ']' :: rest) =
      valueFrom? frames (.behind (.list (done ++ values))) rest := by
  induction h generalizing done place with
  | nil => exact absurd rfl hne
  | @cons tokens v tokenss values hv hvalues ih =>
    cases hvalues with
    | nil =>
      rw [List.intercalate_singleton, hv _ _ _ hplace]
      exact valueFrom?_cons rfl rest
    | cons hnext hvalues =>
      rw [List.intercalate_cons_cons, List.append_assoc, List.append_assoc, hv _ _ _ hplace,
        List.singleton_append, valueFrom?_cons rfl, ih (by simp) (done ++ [v]) (.inl rfl),
        List.append_assoc, List.singleton_append]

theorem reads_list {tokenss : List (List Token)} {values : List Value}
    (h : List.Forall₂ Reads tokenss values) :
    Reads (.mark '[' :: ([.mark ','].intercalate tokenss ++ [.mark ']'])) (.list values) := by
  intro frames place rest hplace
  rw [List.cons_append, List.append_assoc, List.singleton_append,
    valueFrom?_cons (step?_eq_begin? hplace (by decide))]
  cases h with
  | nil => exact valueFrom?_cons rfl rest
  | cons hv hvalues => exact valueFrom?_items (.cons hv hvalues) (by simp) [] (.inr rfl) rest

/-- The tokens are those of a key, a colon and a value. -/
def ReadsEntry (tokens : List Token) (entry : String × Value) : Prop :=
  ∃ rest, tokens = .text entry.1 :: .mark ':' :: rest ∧ Reads rest entry.2

theorem valueFrom?_entries {tokenss : List (List Token)} {entries : List (String × Value)}
    (h : List.Forall₂ ReadsEntry tokenss entries) (hne : tokenss ≠ [])
    (done : List (String × Value))
    (hplace : ∀ key, step? frames place (.text key) = some (frames, .colon done key))
    (rest : List Token) :
    valueFrom? frames place ([.mark ','].intercalate tokenss ++ .mark '\x7d' :: rest) =
      valueFrom? frames (.behind (.map (done ++ entries))) rest := by
  induction h generalizing done place with
  | nil => exact absurd rfl hne
  | @cons tokens entry tokenss entries hentry hentries ih =>
    obtain ⟨value, rfl, hv⟩ := hentry
    have hkey (rest : List Token) :
        valueFrom? frames place (.text entry.1 :: .mark ':' :: value ++ rest) =
          valueFrom? (.entry done entry.1 :: frames) (.behind entry.2) rest := by
      rw [List.cons_append, List.cons_append, valueFrom?_cons (hplace _), valueFrom?_cons rfl]
      exact hv _ _ _ (.inl rfl)
    cases hentries with
    | nil =>
      rw [List.intercalate_singleton, hkey]
      exact valueFrom?_cons rfl rest
    | cons hnext hentries =>
      rw [List.intercalate_cons_cons, List.append_assoc, List.append_assoc, hkey,
        List.singleton_append, valueFrom?_cons rfl,
        ih (by simp) (done ++ [entry]) (fun _ => rfl), List.append_assoc, List.singleton_append]

theorem reads_map {tokenss : List (List Token)} {entries : List (String × Value)}
    (h : List.Forall₂ ReadsEntry tokenss entries) :
    Reads (.mark '\x7b' :: ([.mark ','].intercalate tokenss ++ [.mark '\x7d'])) (.map entries) := by
  intro frames place rest hplace
  rw [List.cons_append, List.append_assoc, List.singleton_append,
    valueFrom?_cons (step?_eq_begin? hplace (by decide))]
  cases h with
  | nil => exact valueFrom?_cons rfl rest
  | cons hentry hentries =>
    exact valueFrom?_entries (.cons hentry hentries) (by simp) [] (fun _ => rfl) rest

mutual

/-- The tokens of a document are read as what it is written as. -/
theorem reads_tokensOf : ∀ d : Document, Reads (tokensOf d) (valueOf d)
  | .scalar (.text s) => reads_text s
  | .scalar .null => reads_word _
  | .scalar (.bool _) => reads_word _
  | .scalar (.int _) => reads_word _
  | .scalar (.float _) => reads_word _
  | .list items => reads_list (reads_itemTokens items)
  | .map entries => reads_map (reads_entryTokens entries)

theorem reads_itemTokens :
    ∀ items : List Document, List.Forall₂ Reads (itemTokens items) (itemValues items)
  | [] => .nil
  | item :: rest => .cons (reads_tokensOf item) (reads_itemTokens rest)

theorem reads_entryTokens : ∀ entries : List (Scalar × Document),
    List.Forall₂ ReadsEntry (entryTokens entries) (entryValues entries)
  | [] => .nil
  | (_, value) :: rest => .cons ⟨_, rfl, reads_tokensOf value⟩ (reads_entryTokens rest)

end

/-- A document in either layout is read back as what it is written as. -/
theorem read?_render (layout : Layout) (level : Nat) (d : Document) :
    read? (render layout level d) = some (valueOf d) := by
  have hreads := reads_tokensOf d [] .value [] (.inl rfl)
  rw [List.append_nil] at hreads
  rw [read?, tokens?_render, Option.bind_some, hreads, valueFrom?]

end QbLint.Json
