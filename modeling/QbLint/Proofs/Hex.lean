import Mathlib.Algebra.Group.Nat.Even
import Mathlib.Data.Nat.Log
import QbLint.Text.Hex

/-!
# Hexadecimal numbers read back

What the hexadecimal text of a number denotes.

* `Hex.valueFrom?`: the number that a run of digits denotes, most significant first;
* `Hex.valueFrom?_digits`: the digits of a number denote it, however each digit is written;
* `Hex.length_digits`: how many digits a number has;
* `Hex.prefixedValue?_prefixed`: the text of a number behind `0x` denotes it;
* `Hex.Spells`: a text that spells a number in upper case, with its sign; `Hex.spells_padded`,
  `Hex.signedValue?_padded`: so does its zero-filled text, which therefore denotes it.
-/

namespace QbLint.Hex

/-- The number that `n` and then a run of digits denote, the most significant digit first. -/
def valueFrom? (n : Nat) : List Char → Option Nat
  | [] => some n
  | c :: rest => (digitValue? c).bind fun d => valueFrom? (16 * n + d) rest

/-- The number that digits denote, behind a minus sign if it is below zero. -/
def signedValue? : List Char → Option Int
  | '-' :: digits => (valueFrom? 0 digits).map fun n : Nat => -(n : Int)
  | digits => (valueFrom? 0 digits).map fun n : Nat => (n : Int)

/-- The number that a text of digits behind `0x` denotes. -/
def prefixedValue? (s : String) : Option Nat :=
  match s.toList with
  | '0' :: 'x' :: digits => valueFrom? 0 digits
  | _ => none

theorem valueFrom?_append (n : Nat) (a b : List Char) :
    valueFrom? n (a ++ b) = (valueFrom? n a).bind fun m => valueFrom? m b := by
  induction a generalizing n with
  | nil => rfl
  | cons c a ih =>
    rw [List.cons_append, valueFrom?, valueFrom?, Option.bind_assoc]
    exact Option.bind_congr fun d _ => ih _

/-- The digits of a number denote it, by induction on the number without its last digit. -/
theorem valueFrom?_digits {digit : Nat → Char}
    (hdigit : ∀ d < 16, digitValue? (digit d) = some d) (n : Nat) :
    valueFrom? 0 (digits digit n) = some n := by
  rw [digits]
  split
  · rename_i h
    simp [valueFrom?, hdigit n h]
  · rename_i h
    have hlast : n % 16 < 16 := Nat.mod_lt n (by decide)
    rw [valueFrom?_append, valueFrom?_digits hdigit (n / 16)]
    simp [valueFrom?, hdigit _ hlast, Nat.div_add_mod]
termination_by n
decreasing_by omega

theorem valueFrom?_zeroFill (width : Nat) (text : List Char) :
    valueFrom? 0 (zeroFill width text) = valueFrom? 0 text := by
  have hzeros : ∀ k, valueFrom? 0 (List.replicate k '0') = some 0 := fun k => by
    induction k with
    | zero => rfl
    | succ k ih =>
      have hzero : digitValue? '0' = some 0 := by decide
      simp [List.replicate_succ, valueFrom?, hzero, ih]
  rw [zeroFill, valueFrom?_append, hzeros, Option.bind_some]

/-- The number of a number's digits, by induction on the number without its last digit. -/
theorem length_digits (digit : Nat → Char) (n : Nat) :
    (digits digit n).length = Nat.log 16 n + 1 := by
  rw [digits]
  split
  · rename_i h
    rw [Nat.log_of_lt h, List.length_singleton]
  · rename_i h
    rw [List.length_append, length_digits digit (n / 16), List.length_singleton,
      Nat.log_of_one_lt_of_le (by decide) (Nat.not_lt.mp h)]
termination_by n
decreasing_by omega

/-- A number below a power of sixteen has no more digits than the exponent says. -/
theorem length_digits_le {digit : Nat → Char} {k n : Nat} (h : n < 16 ^ (k + 1)) :
    (digits digit n).length ≤ k + 1 := by
  have hlog : Nat.log 16 n < k + 1 := Nat.log_lt_of_lt_pow' (Nat.succ_ne_zero k) h
  rw [length_digits]
  omega

theorem length_zeroFill (width : Nat) (text : List Char) :
    (zeroFill width text).length = max width text.length := by
  rw [zeroFill, List.length_append, List.length_replicate]
  omega

theorem digitValue?_lowerDigit : ∀ d < 16, digitValue? (lowerDigit d) = some d := by decide

theorem digitValue?_upperDigit : ∀ d < 16, digitValue? (upperDigit d) = some d := by decide

/-- The text of a number behind `0x` denotes it. -/
theorem prefixedValue?_prefixed (n : Nat) : prefixedValue? (prefixed n) = some n := by
  rw [prefixedValue?, prefixed, String.toList_ofList]
  simp only [valueFrom?_zeroFill, valueFrom?_digits digitValue?_lowerDigit]

/-! ## The characters of a number -/

variable {c : Char} {digit : Nat → Char} {width n : Nat} {text : List Char}

/-- The digits of a number are those below sixteen, by induction on the number without its last
digit. -/
theorem exists_of_mem_digits (n : Nat) (h : c ∈ digits digit n) : ∃ d < 16, c = digit d := by
  rw [digits] at h
  split at h
  · rename_i hn
    exact ⟨n, hn, List.mem_singleton.mp h⟩
  · rcases List.mem_append.mp h with h | h
    · exact exists_of_mem_digits (n / 16) h
    · exact ⟨n % 16, Nat.mod_lt n (by decide), List.mem_singleton.mp h⟩
termination_by n
decreasing_by omega

theorem mem_zeroFill (h : c ∈ zeroFill width text) : c = '0' ∨ c ∈ text :=
  (List.mem_append.mp h).imp_left List.eq_of_mem_replicate

theorem exists_of_mem_zeroFill_digits (hzero : digit 0 = '0')
    (h : c ∈ zeroFill width (digits digit n)) : ∃ d < 16, c = digit d := by
  rcases mem_zeroFill h with rfl | h
  · exact ⟨0, by decide, hzero.symm⟩
  · exact exists_of_mem_digits n h

/-- In the text of a number behind `0x` there are only lower-case digits and the `x`. -/
theorem not_mem_prefixed (hmark : c ≠ 'x') (hdigit : ∀ d < 16, lowerDigit d ≠ c) :
    c ∉ (prefixed n).toList := by
  intro h
  rw [prefixed, String.toList_ofList, List.mem_cons, List.mem_cons] at h
  rcases h with rfl | rfl | h
  · exact hdigit 0 (by decide) rfl
  · exact hmark rfl
  · obtain ⟨d, hd, rfl⟩ := exists_of_mem_zeroFill_digits rfl h
    exact hdigit d hd rfl

/-! ## Numbers with a sign -/

/-- The digits in upper case, in ascending order. -/
def upperDigits : List Char := "0123456789ABCDEF".toList

theorem mem_upperDigits_iff : c ∈ upperDigits ↔ ∃ d < 16, c = upperDigit d := by
  have hlist : upperDigits = (List.range 16).map upperDigit := by decide
  rw [hlist, List.mem_map]
  simp only [List.mem_range, eq_comm]

/-- What stands in front of the digits of a number. -/
def sign (n : Int) : List Char := if n < 0 then ['-'] else []

/-- A text spells a number: one digit or more, all in upper case, denote the number without its
sign, and the sign stands in front of them. -/
def Spells (s : List Char) (n : Int) : Prop :=
  ∃ digits ≠ [], s = sign n ++ digits ∧ (∀ c ∈ digits, c ∈ upperDigits) ∧
    valueFrom? 0 digits = some n.natAbs

theorem toList_padded (width : Nat) (n : Int) : (padded width n).toList =
    sign n ++ zeroFill (width - (sign n).length) (digits upperDigit n.natAbs) := by
  rw [padded, String.toList_ofList, sign]
  split <;> rfl

theorem zeroFill_ne_nil (h : text ≠ []) : zeroFill width text ≠ [] :=
  List.append_ne_nil_of_right_ne_nil _ h

/-- The zero-filled text of a number spells it. -/
theorem spells_padded (width : Nat) (n : Int) : Spells (padded width n).toList n := by
  have hne : digits upperDigit n.natAbs ≠ [] := by
    apply List.ne_nil_of_length_pos
    rw [length_digits]
    omega
  refine ⟨_, zeroFill_ne_nil hne, toList_padded width n, fun c hc => ?_, ?_⟩
  · exact mem_upperDigits_iff.mpr (exists_of_mem_zeroFill_digits rfl hc)
  · rw [valueFrom?_zeroFill, valueFrom?_digits digitValue?_upperDigit]

/-- In the zero-filled text of a number there are only upper-case digits and the sign. -/
theorem not_mem_padded {n : Int} (hsign : c ≠ '-') (hdigit : ∀ d < 16, upperDigit d ≠ c) :
    c ∉ (padded width n).toList := by
  intro h
  obtain ⟨digits, -, htext, hupper, -⟩ := spells_padded width n
  rw [htext, List.mem_append, sign] at h
  rcases h with h | h
  · split at h
    · exact hsign (List.mem_singleton.mp h)
    · cases h
  · obtain ⟨d, hd, rfl⟩ := mem_upperDigits_iff.mp (hupper c h)
    exact hdigit d hd rfl

theorem signedValue?_of_head?_ne {s : List Char} (h : s.head? ≠ some '-') :
    signedValue? s = (valueFrom? 0 s).map fun n : Nat => (n : Int) := by
  unfold signedValue?
  split
  · exact absurd rfl h
  · rfl

/-- A text that spells a number denotes it. -/
theorem Spells.signedValue? {s : List Char} {n : Int} (h : Spells s n) :
    Hex.signedValue? s = some n := by
  obtain ⟨digits, -, rfl, hupper, hvalue⟩ := h
  rw [sign]
  split
  · rw [List.singleton_append, Hex.signedValue?, hvalue, Option.map_some]
    exact congrArg some (by omega)
  · have hhead : digits.head? ≠ some '-' := fun hhead =>
      absurd (hupper '-' (List.mem_of_mem_head? hhead)) (by decide)
    rw [List.nil_append, signedValue?_of_head?_ne hhead, hvalue, Option.map_some]
    exact congrArg some (by omega)

/-- The zero-filled text of a number denotes it. -/
theorem signedValue?_padded (width : Nat) (n : Int) :
    signedValue? (padded width n).toList = some n := (spells_padded width n).signedValue?

end QbLint.Hex
