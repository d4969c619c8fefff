import Mathlib.Data.List.Forall2
import QbLint.Bytes

/-!
# What is read where

The readers of a buffer, stated on the bytes themselves:

* `Bytes.Holds`: some bytes stand at a position; `Bytes.Denotes`: they denote a number;
* `Bytes.zeros`: how many zero bytes follow a position;
* `Bytes.number_eq_ok_iff`, `Bytes.goto_eq_ok_iff`, `Bytes.endOfZeros_eq`: what the readers answer,
  in these words.
-/

namespace QbLint

/-- A sequence of readings succeeds exactly if each of them does. -/
theorem except_bind_eq_ok_iff {ε α β : Type} {x : Except ε α} {f : α → Except ε β} {b : β} :
    x >>= f = .ok b ↔ ∃ a, x = .ok a ∧ f a = .ok b := by
  cases x with
  | error e => exact ⟨nofun, fun ⟨_, h, _⟩ => nomatch h⟩
  | ok a => exact ⟨fun h => ⟨a, rfl, h⟩, fun ⟨_, rfl, h⟩ => h⟩

/-- A sequence of readings fails exactly if one of them does. -/
theorem except_bind_eq_error_iff {ε α β : Type} {x : Except ε α} {f : α → Except ε β} {e : ε} :
    x >>= f = .error e ↔ x = .error e ∨ ∃ a, x = .ok a ∧ f a = .error e := by
  cases x with
  | error e' =>
    refine ⟨fun h => .inl (congrArg _ (Except.error.inj h)), ?_⟩
    rintro (h | ⟨_, h, _⟩)
    · exact congrArg _ (Except.error.inj h)
    · cases h
  | ok a =>
    refine ⟨fun h => .inr ⟨a, rfl, h⟩, ?_⟩
    rintro (h | ⟨_, h, hf⟩)
    · cases h
    · obtain rfl := Except.ok.inj h
      exact hf

/-- Doing something for each of a list succeeds exactly if it does for each. -/
theorem except_forM_eq_ok_iff {ε α : Type} {f : α → Except ε Unit} {l : List α} {u : Unit} :
    l.forM f = .ok u ↔ ∀ a ∈ l, f a = .ok () := by
  induction l with
  | nil => exact ⟨fun _ _ h => (nomatch h), fun _ => rfl⟩
  | cons a l ih =>
    change f a >>= (fun _ => l.forM f) = .ok () ↔ _
    rw [except_bind_eq_ok_iff, List.forall_mem_cons, ← ih]
    exact ⟨fun ⟨_, ha, hl⟩ => ⟨ha, hl⟩, fun ⟨ha, hl⟩ => ⟨(), ha, hl⟩⟩

/-- A list is mapped as by a function that is what the mapping succeeds with. -/
theorem except_mapM_eq_ok {ε α β : Type} {f : α → Except ε β} {g : α → β} {l : List α}
    (h : ∀ a ∈ l, f a = .ok (g a)) : l.mapM f = .ok (l.map g) := by
  induction l with
  | nil => rfl
  | cons a l ih =>
    rw [List.forall_mem_cons] at h
    rw [List.mapM_cons, h.1, ih h.2]
    rfl

/-- A list is mapped exactly to what its items are mapped to, one by one. -/
theorem except_mapM_eq_ok_iff {ε α β : Type} {f : α → Except ε β} {l : List α} {bs : List β} :
    l.mapM f = .ok bs ↔ List.Forall₂ (fun a b => f a = .ok b) l bs := by
  induction l generalizing bs with
  | nil =>
    rw [List.mapM_nil, List.forall₂_nil_left_iff]
    exact ⟨fun h => (Except.ok.inj h).symm, fun h => h ▸ rfl⟩
  | cons a l ih =>
    rw [List.mapM_cons, except_bind_eq_ok_iff, List.forall₂_cons_left_iff]
    simp only [except_bind_eq_ok_iff, ih]
    constructor
    · rintro ⟨b, hb, bs', hbs, h⟩
      exact ⟨b, bs', hb, hbs, (Except.ok.inj h).symm⟩
    · rintro ⟨b, bs', hb, hbs, rfl⟩
      exact ⟨b, hb, bs', hbs, rfl⟩

/-- A list that is mapped is mapped as by a function. -/
theorem exists_of_except_mapM_eq_ok {ε α β : Type} [Inhabited β] {f : α → Except ε β} {l : List α}
    {bs : List β} (h : l.mapM f = .ok bs) :
    ∃ g : α → β, (∀ a ∈ l, f a = .ok (g a)) ∧ bs = l.map g := by
  refine ⟨fun a => (f a).toOption.getD default, ?_⟩
  have hboth := except_mapM_eq_ok_iff.mp h
  clear h
  induction hboth with
  | nil => exact ⟨nofun, rfl⟩
  | cons hb _ ih =>
    have hvalue := congrArg (·.toOption.getD default) hb
    rw [List.forall_mem_cons, List.map_cons, ← ih.2]
    exact ⟨⟨hb.trans (congrArg _ hvalue.symm), ih.1⟩, congrArg (· :: _) hvalue.symm⟩

/-- Readings of a list fail with the first of its members that fails. -/
theorem except_mapM_eq_error_iff {ε α β : Type} {f : α → Except ε β} {l : List α} {e : ε} :
    l.mapM f = .error e ↔
      ∃ before a after, l = before ++ a :: after ∧ (∀ b ∈ before, ∃ c, f b = .ok c) ∧
        f a = .error e := by
  induction l with
  | nil => exact iff_of_false nofun fun ⟨before, _, _, h, _⟩ => by cases before <;> cases h
  | cons a l ih =>
    rw [List.mapM_cons, except_bind_eq_error_iff]
    constructor
    · rintro (ha | ⟨c, ha, hl⟩)
      · exact ⟨[], a, l, rfl, nofun, ha⟩
      · have hmap : l.mapM f = .error e := by
          rcases except_bind_eq_error_iff.mp hl with hl | ⟨_, -, hl⟩
          · exact hl
          · cases hl
        obtain ⟨before, b, after, rfl, hbefore, hb⟩ := ih.mp hmap
        exact ⟨a :: before, b, after, rfl, List.forall_mem_cons.mpr ⟨⟨c, ha⟩, hbefore⟩, hb⟩
    · rintro ⟨before, b, after, heq, hbefore, hb⟩
      cases before with
      | nil =>
        obtain ⟨rfl, rfl⟩ := List.cons.inj heq
        exact .inl hb
      | cons c before =>
        obtain ⟨rfl, rfl⟩ := List.cons.inj heq
        obtain ⟨⟨x, ha⟩, hbefore⟩ := List.forall_mem_cons.mp hbefore
        have hl := ih.mpr ⟨before, b, after, rfl, hbefore, hb⟩
        exact .inr ⟨x, ha, except_bind_eq_error_iff.mpr (.inl hl)⟩

namespace Bytes

/-- The bytes stand in the buffer from `position` on. -/
def Holds (data : Bytes) (position : Nat) (bytes : List UInt8) : Prop :=
  bytes <+: data.toList.drop position

instance (data : Bytes) (position : Nat) (bytes : List UInt8) :
    Decidable (data.Holds position bytes) :=
  inferInstanceAs (Decidable (_ <+: _))

/-- The number in the `width` bytes from `position` on, the least significant byte first. -/
def numeral (data : Bytes) (position width : Nat) : Nat :=
  littleEndian ((data.toList.drop position).take width)

/-- The `width` bytes from `position` on are there and denote `n`. -/
def Denotes (data : Bytes) (position width n : Nat) : Prop :=
  position + width ≤ data.size ∧ data.numeral position width = n

instance (data : Bytes) (position width n : Nat) : Decidable (data.Denotes position width n) :=
  inferInstanceAs (Decidable (_ ∧ _))

/-- How many zero bytes there are from `position` on before the first other byte. -/
def zeros (data : Bytes) (position : Nat) : Nat :=
  ((data.toList.drop position).takeWhile (· = 0)).length

variable {data : Bytes} {position width n : Nat} {bytes : List UInt8}

theorem Holds.add_length_le (h : data.Holds position bytes) (hb : bytes ≠ []) :
    position + bytes.length ≤ data.size := by
  have hl := h.length_le
  have := List.length_pos_iff.mpr hb
  simp only [List.length_drop, Array.length_toList] at hl
  omega

theorem holds_iff_extract (hb : bytes.length = width) :
    data.Holds position bytes ↔ (data.extract position (position + width)).toList = bytes := by
  rw [Holds, List.prefix_iff_eq_take, hb, Array.toList_extract, List.extract_eq_take_drop,
    Nat.add_sub_cancel_left, eq_comm]

theorem holds_singleton_iff {b : UInt8} : data.Holds position [b] ↔ data[position]? = some b := by
  rw [Holds, List.singleton_prefix_iff_head?_eq_some, List.head?_drop, Array.getElem?_toList]

/-- Bytes stand somewhere exactly if each of them stands in its place. -/
theorem holds_cons_iff {b : UInt8} :
    data.Holds position (b :: bytes) ↔
      data[position]? = some b ∧ data.Holds (position + 1) bytes := by
  rw [← holds_singleton_iff]
  constructor
  · rintro ⟨rest, hr⟩
    refine ⟨⟨bytes ++ rest, hr⟩, ⟨rest, ?_⟩⟩
    rw [← List.drop_drop, ← hr, List.cons_append, List.drop_one, List.tail_cons]
  · rintro ⟨⟨rest, hr⟩, ⟨rest', hr'⟩⟩
    rw [← List.drop_drop, ← hr, List.cons_append, List.drop_one, List.tail_cons,
      List.nil_append] at hr'
    exact ⟨rest', by rw [List.cons_append, hr', ← hr, List.cons_append, List.nil_append]⟩

theorem slice_eq_ok_iff {window : Bytes} :
    data.slice position width = .ok window ↔
      position + width ≤ data.size ∧ data.extract position (position + width) = window := by
  unfold slice
  split <;> simp [*]

theorem goto_eq_ok_iff {target : Int} {next : Nat} :
    data.goto position target = .ok next ↔ target = next ∧ next ≤ data.size := by
  unfold goto
  split
  · rw [Except.ok.injEq]
    omega
  · simp only [reduceCtorEq, false_iff]
    omega

theorem number_eq_ok_iff :
    data.number position width = .ok n ↔ data.Denotes position width n := by
  rw [number]
  by_cases h : position + width ≤ data.size
  · have hw : (data.extract position (position + width)).toList =
        (data.toList.drop position).take width := by
      rw [Array.toList_extract, List.extract_eq_take_drop, Nat.add_sub_cancel_left]
    rw [slice_eq_ok h, Denotes, and_iff_right h, numeral, ← hw]
    exact iff_of_eq (Except.ok.injEq ..)
  · rw [slice_eq_error (Nat.not_le.mp h)]
    exact ⟨nofun, fun hd => absurd hd.1 h⟩

/-- What a number's bytes are. -/
theorem Denotes.exists_holds (h : data.Denotes position width n) :
    ∃ bytes : List UInt8, bytes.length = width ∧ data.Holds position bytes ∧
      littleEndian bytes = n := by
  refine ⟨_, ?_, List.take_prefix width _, h.2⟩
  rw [List.length_take, List.length_drop, Array.length_toList]
  have := h.1
  omega

theorem Holds.denotes (h : data.Holds position bytes) (hb : bytes ≠ []) :
    data.Denotes position bytes.length (littleEndian bytes) := by
  refine ⟨h.add_length_le hb, ?_⟩
  rw [numeral, ← List.prefix_iff_eq_take.mp h]

theorem littleEndian_cons (b : UInt8) (bytes : List UInt8) :
    littleEndian (b :: bytes) = b.toNat + 256 * littleEndian bytes := rfl

/-- Runs of as many bytes denote different numbers. -/
theorem littleEndian_inj {others : List UInt8} (hl : bytes.length = others.length)
    (h : littleEndian bytes = littleEndian others) : bytes = others := by
  induction bytes generalizing others with
  | nil => exact (List.length_eq_zero_iff.mp hl.symm).symm
  | cons b bytes ih =>
    cases others with
    | nil => cases hl
    | cons c others =>
      rw [littleEndian_cons, littleEndian_cons] at h
      have := b.toNat_lt
      have := c.toNat_lt
      rw [ih (Nat.succ.inj hl) (by omega), UInt8.toNat_inj.mp (by omega : b.toNat = c.toNat)]

/-- A number is read exactly where its bytes stand. -/
theorem denotes_littleEndian_iff (hb : bytes ≠ []) :
    data.Denotes position bytes.length (littleEndian bytes) ↔ data.Holds position bytes := by
  refine ⟨fun h => ?_, fun h => h.denotes hb⟩
  obtain ⟨others, hl, hh, ho⟩ := h.exists_holds
  rwa [← littleEndian_inj hl ho]

/-- The place where a run of zeros ends is as far on as the run is long. -/
theorem endOfZeros_eq (data : Bytes) (position : Nat) :
    data.endOfZeros position = position + data.zeros position := by
  unfold endOfZeros zeros
  split
  · rename_i h
    rw [← Array.length_toList] at h
    rw [List.drop_eq_getElem_cons h, List.takeWhile_cons, Array.getElem_toList]
    split
    · rename_i hz
      rw [endOfZeros_eq data (position + 1), zeros]
      simp only [hz, decide_true, ↓reduceIte, List.length_cons]
      omega
    · rename_i hz
      simp [hz]
  · rename_i h
    rw [List.drop_eq_nil_of_le (by rw [Array.length_toList]; omega)]
    rfl
termination_by data.size - position

end Bytes

end QbLint
