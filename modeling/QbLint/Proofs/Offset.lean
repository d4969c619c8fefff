import Mathlib.Order.Bounds.Basic
import Mathlib.Tactic.Ring
import QbLint.Bytes
import QbLint.Proofs.Decimal
import QbLint.Proofs.Files
import QbLint.Proofs.Hex
import QbLint.Script.Diagnostic

/-!
# Offsets in texts

Offsets are shown in hexadecimal, and nothing of them is lost: a text shows one offset only, it is
as long as it has to be, and within 32 bits the texts come in the order of the offsets.

* `Hex.Shows`: how a text shows a number; `Hex.shows_padded`: zero-filled texts do;
* `Hex.lt_iff_of_valueFrom?`: of two runs of as many digits, the one that comes first denotes the
  smaller number; `Hex.compare_padded`: zero-filled texts of one length come in the order of their
  numbers;
* `OutOfBounds.offset?`: the offset that the message of a failure names;
* `Diagnostic.offsetText_faithful`: the offsets of diagnostics and of failures can be read back.
-/

namespace QbLint

namespace Hex

/-! ## Order -/

variable {s t : List Char} {a b m n width : Nat}

/-- Digits behind a number denote one that begins with it, by induction on the digits. -/
theorem valueFrom?_bounds (hs : ∀ c ∈ s, c ∈ upperDigits) (h : valueFrom? a s = some m) :
    a * 16 ^ s.length ≤ m ∧ m < (a + 1) * 16 ^ s.length := by
  induction s generalizing a with
  | nil =>
    obtain rfl : a = m := Option.some.inj h
    simp
  | cons c s ih =>
    obtain ⟨d, hd, rfl⟩ := mem_upperDigits_iff.mp (hs c List.mem_cons_self)
    rw [valueFrom?, digitValue?_upperDigit d hd, Option.bind_some] at h
    obtain ⟨hle, hlt⟩ := ih (fun c hc => hs c (List.mem_cons_of_mem _ hc)) h
    rw [List.length_cons, Nat.pow_succ]
    constructor
    · calc a * (16 ^ s.length * 16) = 16 * a * 16 ^ s.length := by ring
        _ ≤ (16 * a + d) * 16 ^ s.length := Nat.mul_le_mul_right _ (Nat.le_add_right _ _)
        _ ≤ m := hle
    · calc m < (16 * a + d + 1) * 16 ^ s.length := hlt
        _ ≤ 16 * (a + 1) * 16 ^ s.length := Nat.mul_le_mul_right _ (by omega)
        _ = (a + 1) * (16 ^ s.length * 16) := by ring

/-- The smaller beginning decides, whatever digits stand behind it. -/
theorem valueFrom?_lt_of_lt (hab : a < b) (hlength : s.length = t.length)
    (hs : ∀ c ∈ s, c ∈ upperDigits) (ht : ∀ c ∈ t, c ∈ upperDigits)
    (hm : valueFrom? a s = some m) (hn : valueFrom? b t = some n) : m < n :=
  calc m < (a + 1) * 16 ^ s.length := (valueFrom?_bounds hs hm).2
    _ ≤ b * 16 ^ t.length := hlength ▸ Nat.mul_le_mul_right _ hab
    _ ≤ n := (valueFrom?_bounds ht hn).1

/-- Of two runs of as many digits, the one that comes first denotes the smaller number: the first
digits decide if they differ, and else the rest. -/
theorem lt_iff_of_valueFrom? (hlength : s.length = t.length)
    (hs : ∀ c ∈ s, c ∈ upperDigits) (ht : ∀ c ∈ t, c ∈ upperDigits)
    (hm : valueFrom? a s = some m) (hn : valueFrom? a t = some n) : s < t ↔ m < n := by
  have hlt : ∀ d < 16, ∀ d' < 16, upperDigit d < upperDigit d' ↔ d < d' := by decide
  have heq : ∀ d < 16, ∀ d' < 16, upperDigit d = upperDigit d' ↔ d = d' := by decide
  induction s generalizing a t with
  | nil =>
    obtain rfl : t = [] := List.eq_nil_of_length_eq_zero hlength.symm
    obtain rfl : m = n := Option.some.inj (hm.symm.trans hn)
    simp
  | cons c s ih =>
    cases t with
    | nil => cases hlength
    | cons c' t =>
      obtain ⟨d, hd, rfl⟩ := mem_upperDigits_iff.mp (hs c List.mem_cons_self)
      obtain ⟨d', hd', rfl⟩ := mem_upperDigits_iff.mp (ht c' List.mem_cons_self)
      rw [valueFrom?, digitValue?_upperDigit d hd, Option.bind_some] at hm
      rw [valueFrom?, digitValue?_upperDigit d' hd', Option.bind_some] at hn
      have hrest : s.length = t.length := Nat.succ.inj hlength
      have hs' : ∀ c ∈ s, c ∈ upperDigits := fun c hc => hs c (List.mem_cons_of_mem _ hc)
      have ht' : ∀ c ∈ t, c ∈ upperDigits := fun c hc => ht c (List.mem_cons_of_mem _ hc)
      rw [List.cons_lt_cons_iff, hlt d hd d' hd', heq d hd d' hd']
      rcases Nat.lt_trichotomy d d' with hbefore | rfl | hbehind
      · have hvalue : m < n := valueFrom?_lt_of_lt (by omega) hrest hs' ht' hm hn
        exact iff_of_true (.inl hbefore) hvalue
      · simpa using ih hrest hs' ht' hm hn
      · have hvalue : n < m := valueFrom?_lt_of_lt (by omega) hrest.symm ht' hs' hn hm
        refine iff_of_false ?_ (Nat.lt_asymm hvalue)
        rintro (hbefore | ⟨rfl, -⟩) <;> omega

/-! ## Zero-filled texts -/

/-- The characters that a number needs: its digits, and its sign. -/
def neededWidth (n : Int) : Nat := (sign n).length + (Nat.log 16 n.natAbs + 1)

theorem length_padded (width : Nat) (n : Int) :
    (padded width n).length = max width (neededWidth n) := by
  have hsign : (sign n).length ≤ 1 := by
    rw [sign]
    split <;> simp
  -- The filling leaves room for the sign, so that both count.
  rw [← String.length_toList, toList_padded, List.length_append, length_zeroFill, length_digits,
    neededWidth]
  omega

/-- Digits that denote a number are as many as it has, or more. -/
theorem Spells.neededWidth_le {n : Int} (h : Spells s n) : neededWidth n ≤ s.length := by
  obtain ⟨digits, hne, rfl, hupper, hvalue⟩ := h
  have hlt : n.natAbs < 16 ^ digits.length := by
    simpa using (valueFrom?_bounds hupper hvalue).2
  have hlog : Nat.log 16 n.natAbs < digits.length :=
    Nat.log_lt_of_lt_pow' (mt List.eq_nil_of_length_eq_zero hne) hlt
  rw [neededWidth, List.length_append]
  omega

/-- No text that spells a number is shorter than the number needs. -/
theorem isLeast_neededWidth (n : Int) :
    IsLeast {k | ∃ s, Spells s n ∧ s.length = k} (neededWidth n) := by
  constructor
  · refine ⟨(padded 0 n).toList, spells_padded 0 n, ?_⟩
    rw [String.length_toList, length_padded, Nat.zero_max]
  · rintro k ⟨s, hs, rfl⟩
    exact hs.neededWidth_le

/-- A text shows a number, filled up to a width. -/
structure Shows (width : Nat) (text : String) (n : Int) : Prop where
  spells : Spells text.toList n
  /-- The text is as long as the shortest one that spells the number, but it has `width` characters
  at least. -/
  length : ∃ needed, IsLeast {k | ∃ s, Spells s n ∧ s.length = k} needed ∧
    text.length = max width needed
  /-- Read as a hexadecimal number, the text is the number again. -/
  value : signedValue? text.toList = some n

theorem shows_padded (width : Nat) (n : Int) : Shows width (padded width n) n where
  spells := spells_padded width n
  length := ⟨neededWidth n, isLeast_neededWidth n, length_padded width n⟩
  value := signedValue?_padded width n

/-- The sign takes up one of the characters. -/
example : padded 8 (-1) = "-0000001" ∧ padded 8 (-0x80000000) = "-80000000" := by decide +kernel

theorem padded_inj {m n : Int} : padded width m = padded width n ↔ m = n := by
  refine ⟨fun h => ?_, congrArg _⟩
  have hvalue := signedValue?_padded width m
  rw [h, signedValue?_padded] at hvalue
  exact (Option.some.inj hvalue).symm

theorem sign_eq_nil {n : Int} (h : 0 ≤ n) : sign n = [] := if_neg (by omega)

/-- Texts of one length come in the order of their numbers, if these are not below zero. -/
theorem compare_padded {m n : Int} (hm : 0 ≤ m) (hn : 0 ≤ n)
    (hlength : (padded width m).length = (padded width n).length) :
    compare (padded width m) (padded width n) = compare m n := by
  have hlt : padded width m < padded width n ↔ m < n := by
    obtain ⟨s, -, hs, hupper, hvalue⟩ := spells_padded width m
    obtain ⟨t, -, ht, hupper', hvalue'⟩ := spells_padded width n
    rw [sign_eq_nil hm, List.nil_append] at hs
    rw [sign_eq_nil hn, List.nil_append] at ht
    rw [← String.length_toList, ← String.length_toList, hs, ht] at hlength
    rw [String.lt_iff, hs, ht, lt_iff_of_valueFrom? hlength hupper hupper' hvalue hvalue']
    omega
  -- On both sides the comparison is made of the order and of equality.
  show compareOfLessAndEq _ _ = compareOfLessAndEq _ _
  simp only [compareOfLessAndEq, hlt, padded_inj]

/-- What needs no filling beyond a width, and no sign, takes up the width. -/
theorem length_padded_of_lt {n : Int} (hn : 0 ≤ n) (hlt : n.natAbs < 16 ^ (width + 1)) :
    (padded (width + 1) n).length = width + 1 := by
  have hlog : Nat.log 16 n.natAbs < width + 1 := Nat.log_lt_of_lt_pow' (Nat.succ_ne_zero width) hlt
  rw [length_padded, neededWidth, sign_eq_nil hn, List.length_nil]
  omega

end Hex

/-! ## Offsets in messages -/

namespace OutOfBounds

/-- The offset that a message names: the first word in it that is a hexadecimal number. -/
def offset? (message : String) : Option Nat :=
  (Text.split ' ' message.toList).findSome? fun word => Hex.prefixedValue? (String.ofList word)

/-- If nothing in front of a word names an offset, the word does, or else what stands behind it. -/
theorem offset?_append {first word : String} (rest : String) (hword : ' ' ∉ word.toList)
    (hfirst : offset? first = none) : offset? (first ++ " " ++ word ++ " " ++ rest) =
      (Hex.prefixedValue? word).or (offset? rest) := by
  have hsplit : Text.split ' ' (first ++ " " ++ word ++ " " ++ rest).toList =
      Text.split ' ' first.toList ++ word.toList :: Text.split ' ' rest.toList := by
    rw [← Text.split_append hword, ← Text.split_append_cons]
    simp
  rw [offset?] at hfirst
  rw [offset?, hsplit, List.findSome?_append, hfirst, Option.none_or, List.findSome?_cons,
    String.ofList_toList]
  cases Hex.prefixedValue? word <;> rfl

variable {failure : OutOfBounds}

theorem message_eq_of_neg (h : failure.requested < 0) :
    failure.message = "Seek to offset" ++ " " ++ toString failure.requested ++ " " ++
      "is before the start of the script" := by
  rw [message, if_pos h]
  apply String.toList_inj.mp
  simp [toString]

theorem message_eq_of_nonneg (h : 0 ≤ failure.requested) :
    failure.message = "Unexpected end of script: offset" ++ " " ++
      Hex.prefixed failure.requested.toNat ++ " " ++
      s!"is beyond the end of the buffer ({failure.length} bytes)" := by
  rw [message, if_neg (Int.not_lt.mpr h)]
  apply String.toList_inj.mp
  simp [toString]

/-- What is written in decimal digits behind a minus sign is no hexadecimal number. -/
theorem prefixedValue?_of_neg {n : Int} (h : n < 0) : Hex.prefixedValue? (toString n) = none := by
  obtain ⟨k, rfl⟩ := Int.eq_negSucc_of_lt_zero h
  have htext : (toString (Int.negSucc k)).toList = '-' :: (toString (k + 1)).toList := by
    show ("-" ++ toString (k + 1)).toList = _
    simp
  rw [Hex.prefixedValue?, htext]
  rfl

/-- A message names the offset that was asked for, unless that lies before the start. -/
theorem offset?_message (failure : OutOfBounds) (n : Nat) :
    offset? failure.message = some n ↔ failure.requested = n := by
  rcases Int.lt_or_le failure.requested 0 with hneg | hnonneg
  · have hblank : ' ' ∉ (toString failure.requested).toList := fun h =>
      absurd (Binary64.isNumeral_int _ ' ' h) (by decide)
    have hrest : offset? "is before the start of the script" = none := by decide
    rw [message_eq_of_neg hneg, offset?_append _ hblank (by decide), prefixedValue?_of_neg hneg,
      hrest]
    refine iff_of_false (by simp) ?_
    omega
  · have hblank : ' ' ∉ (Hex.prefixed failure.requested.toNat).toList :=
      Hex.not_mem_prefixed (by decide) (by decide)
    rw [message_eq_of_nonneg hnonneg, offset?_append _ hblank (by decide),
      Hex.prefixedValue?_prefixed, Option.some_or, Option.some_inj]
    omega

end OutOfBounds

/-! ## Offsets of diagnostics -/

namespace Diagnostic

/-- Offsets are not lost in the texts that show them. The text of a diagnostic's offset has eight
characters, or as many more as the number needs, and belongs to one offset only; the texts of
offsets of 32 bits have exactly eight characters and come in the order of the offsets. The message
of a failure names the offset that was asked for, unless that lies before the start. -/
theorem offsetText_faithful (d e : Diagnostic) (failure : OutOfBounds) :
    Hex.Shows 8 d.offsetText d.position ∧
    (d.offsetText = e.offsetText ↔ d.position = e.position) ∧
    (0 ≤ d.position ∧ d.position < 2 ^ 32 → 0 ≤ e.position ∧ e.position < 2 ^ 32 →
      d.offsetText.length = 8 ∧ e.offsetText.length = 8 ∧
      compare d.offsetText e.offsetText = compare d.position e.position) ∧
    ∀ n : Nat, OutOfBounds.offset? failure.message = some n ↔ failure.requested = n := by
  refine ⟨Hex.shows_padded 8 d.position, Hex.padded_inj, ?_, failure.offset?_message⟩
  rintro ⟨hd, hd'⟩ ⟨he, he'⟩
  have hlength : d.offsetText.length = 8 := Hex.length_padded_of_lt hd (by omega)
  have hlength' : e.offsetText.length = 8 := Hex.length_padded_of_lt he (by omega)
  exact ⟨hlength, hlength', Hex.compare_padded hd he (hlength.trans hlength'.symm)⟩

/-- The last offset of 32 bits comes behind a small one, and a message may name one with more
digits than eight. -/
theorem offsetText_faithful_last :
    (0 ≤ (10 : Int) ∧ (10 : Int) < 2 ^ 32) ∧
    (0 ≤ (0xFFFFFFFF : Int) ∧ (0xFFFFFFFF : Int) < 2 ^ 32) ∧
    compare (Rule.illegalOpcode.report "Illegal opcode: 02" 10).offsetText
      (Rule.illegalOpcode.report "Illegal opcode: 02" 0xFFFFFFFF).offsetText = .lt ∧
    OutOfBounds.offset? (OutOfBounds.message ⟨0, 0x123456789, 4⟩) = some 0x123456789 := by
  have hlow : 0 ≤ (10 : Int) ∧ (10 : Int) < 2 ^ 32 := by decide
  have hhigh : 0 ≤ (0xFFFFFFFF : Int) ∧ (0xFFFFFFFF : Int) < 2 ^ 32 := by decide
  obtain ⟨-, -, horder, hmessage⟩ := offsetText_faithful
    (Rule.illegalOpcode.report "Illegal opcode: 02" 10)
    (Rule.illegalOpcode.report "Illegal opcode: 02" 0xFFFFFFFF) ⟨0, 0x123456789, 4⟩
  exact ⟨hlow, hhigh, (horder hlow hhigh).2.2.trans (by decide), (hmessage _).mpr rfl⟩

end Diagnostic

end QbLint
