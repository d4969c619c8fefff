import QbLint.Number.Decimal

/-!
# Characters of numbers

A number is written with digits, a point, an exponent and signs, or else by a name.

* `Binary64.IsNumeral`: texts of such characters;
* `Binary64.isNumeral_int`, `Binary64.isNumeral_decimalText`: whole numbers and decimals;
* `Binary64.mem_text`: the characters of a floating-point number.
-/

namespace QbLint.Binary64

/-- Whether a character may stand in a number. -/
def isNumeralChar (c : Char) : Bool := c.isDigit || ['.', 'e', '+', '-'].contains c

/-- A text of characters that may stand in a number. -/
def IsNumeral (s : List Char) : Prop := ∀ c ∈ s, isNumeralChar c = true

instance : DecidablePred IsNumeral := fun s =>
  decidable_of_iff (s.all isNumeralChar = true) List.all_eq_true

theorem isNumeral_append {s t : List Char} : IsNumeral (s ++ t) ↔ IsNumeral s ∧ IsNumeral t :=
  List.forall_mem_append

theorem IsNumeral.of_subset {s t : List Char} (h : IsNumeral t) (hs : ∀ c ∈ s, c ∈ t) :
    IsNumeral s :=
  fun c hc => h c (hs c hc)

theorem isNumeral_repr (n : Nat) : IsNumeral (Nat.repr n).toList := by
  intro c hc
  rw [Nat.repr, String.toList_ofList] at hc
  rw [isNumeralChar, Nat.isDigit_of_mem_toDigits (by decide) (by decide) hc]
  rfl

theorem isNumeral_int (n : Int) : IsNumeral (toString n).toList := by
  cases n with
  | ofNat n => exact isNumeral_repr n
  | negSucc n =>
    show IsNumeral ("-" ++ Nat.repr (n + 1)).toList
    rw [String.toList_append, isNumeral_append]
    exact ⟨by decide, isNumeral_repr _⟩

theorem toString_int_ne (n : Int) : toString n ≠ "" := by
  cases n with
  | ofNat n => exact Nat.repr_ne_empty
  | negSucc n =>
    show "-" ++ Nat.repr (n + 1) ≠ ""
    simp [String.append_eq_empty_iff]

theorem isNumeral_zeros (n : Nat) : IsNumeral (zeros n).toList := by
  rw [zeros, String.toList_ofList]
  exact fun c hc => List.eq_of_mem_replicate hc ▸ (by decide : isNumeralChar '0' = true)

theorem isNumeral_decimalText (d : Decimal) : IsNumeral (decimalText d).toList := by
  have hdigits : IsNumeral (Nat.repr d.digits).toList := isNumeral_repr _
  have htake (k : Nat) : IsNumeral ((Nat.repr d.digits).toList.take k) :=
    hdigits.of_subset fun _ h => List.mem_of_mem_take h
  have hdrop (k : Nat) : IsNumeral ((Nat.repr d.digits).toList.drop k) :=
    hdigits.of_subset fun _ h => List.mem_of_mem_drop h
  unfold decimalText
  dsimp only
  repeat' split
  all_goals
    simp only [String.toList_append, String.toList_ofList, isNumeral_append, htake, hdrop, hdigits,
      isNumeral_zeros, isNumeral_repr, and_true, true_and]
    try decide

theorem decimalText_ne (d : Decimal) : decimalText d ≠ "" := by
  unfold decimalText
  dsimp only
  repeat' split
  all_goals simp [String.append_eq_empty_iff]

/-- A floating-point number is written as a number or by a name. -/
theorem mem_text {names : Names} {x : Binary64} {c : Char} (h : c ∈ (x.text names).toList) :
    isNumeralChar c = true ∨ c ∈ names.infinity.toList ∨ c ∈ names.nan.toList := by
  have hsign (negative : Bool) : IsNumeral (if negative then "-" else "").toList := by
    cases negative <;> decide
  unfold text at h
  split at h
  · rw [String.toList_append, List.mem_append] at h
    rcases h with h | h
    · exact .inl (hsign _ c h)
    · split at h
      · exact .inl ((by decide : IsNumeral "0.0".toList) c h)
      · exact .inl (isNumeral_decimalText _ c h)
  · rw [String.toList_append, List.mem_append] at h
    exact h.imp (hsign _ c) .inl
  · exact .inr (.inr h)

theorem text_ne {names : Names} (hinfinity : names.infinity ≠ "") (hnan : names.nan ≠ "")
    (x : Binary64) : x.text names ≠ "" := by
  unfold text
  split
  · intro h
    obtain ⟨-, h⟩ := String.append_eq_empty_iff.mp h
    split at h
    · exact absurd h (by decide)
    · exact decimalText_ne _ h
  · simp [String.append_eq_empty_iff, hinfinity]
  · exact hnan

end QbLint.Binary64
