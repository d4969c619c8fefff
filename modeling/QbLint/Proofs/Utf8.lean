import QbLint.Text.Utf8

/-!
# Texts as bytes and back

* `Utf8.decode_encode`: the bytes of a text are decoded to its characters;
* `Text.unifyLines_eq_self`: a text without carriage returns has its lines end as they are to.
-/

namespace QbLint

namespace Utf8

variable {position n : Nat} {done : List Char} {p : Pending} {rest : List UInt8}

theorem toNat_ofNat (h : n < 0x100) : (UInt8.ofNat n).toNat = n := UInt8.toNat_ofNat_of_lt h

theorem ofNat_lt_iff (h : n < 0x100) : UInt8.ofNat n < 0x80 ↔ n < 0x80 := by
  rw [UInt8.lt_iff_toNat_lt, toNat_ofNat h]
  rfl

theorem decodeOnto_ascii (h : n < 0x80) :
    decodeOnto position done none (UInt8.ofNat n :: rest) =
      decodeOnto (position + 1) (Char.ofNat n :: done) none rest := by
  rw [decodeOnto, if_pos ((ofNat_lt_iff (by omega)).mpr h), toNat_ofNat (by omega)]

theorem decodeOnto_first {p : Pending} (h : 0x80 ≤ n ∧ n < 0x100)
    (hp : Pending.ofByte? position (UInt8.ofNat n) = some p) :
    decodeOnto position done none (UInt8.ofNat n :: rest) =
      decodeOnto (position + 1) done (some p) rest := by
  rw [decodeOnto, if_neg fun hlt => Nat.not_lt.mpr h.1 ((ofNat_lt_iff h.2).mp hlt), hp]

section Continuation

variable {start value missing low high : Nat} {byte : UInt8}

theorem decodeOnto_next (hn : n < 0x40) (hlow : low ≤ n + 0x80) (hhigh : n + 0x80 ≤ high) :
    decodeOnto position done (some ⟨start, byte, value, missing + 2, low, high⟩)
        (UInt8.ofNat (n + 0x80) :: rest) =
      decodeOnto (position + 1) done (some ⟨start, byte, 64 * value + n, missing + 1, 0x80, 0xBF⟩)
        rest := by
  rw [decodeOnto, toNat_ofNat (by omega), if_pos ⟨hlow, hhigh⟩, if_neg (by simp), Nat.add_sub_cancel]
  rfl

theorem decodeOnto_last (hn : n < 0x40) (hlow : low ≤ n + 0x80) (hhigh : n + 0x80 ≤ high) :
    decodeOnto position done (some ⟨start, byte, value, 1, low, high⟩)
        (UInt8.ofNat (n + 0x80) :: rest) =
      decodeOnto (position + 1) (Char.ofNat (64 * value + n) :: done) none rest := by
  rw [decodeOnto, toNat_ofNat (by omega), if_pos ⟨hlow, hhigh⟩, if_pos rfl, Nat.add_sub_cancel]

end Continuation

theorem ofByte?_two (h : 2 ≤ n ∧ n < 0x20) :
    Pending.ofByte? position (UInt8.ofNat (n + 0xC0)) =
      some ⟨position, UInt8.ofNat (n + 0xC0), n, 1, 0x80, 0xBF⟩ := by
  unfold Pending.ofByte?
  rw [toNat_ofNat (by omega), if_neg (by omega), if_pos (by omega), Nat.add_sub_cancel]

theorem ofByte?_three (h : n < 0x10) :
    Pending.ofByte? position (UInt8.ofNat (n + 0xE0)) =
      some ⟨position, UInt8.ofNat (n + 0xE0), n, 2, if n = 0 then 0xA0 else 0x80,
        if n = 0xD then 0x9F else 0xBF⟩ := by
  have hlow : n + 0xE0 = 0xE0 ↔ n = 0 := by omega
  have hhigh : n + 0xE0 = 0xED ↔ n = 0xD := by omega
  unfold Pending.ofByte?
  rw [toNat_ofNat (by omega), if_neg (by omega), if_neg (by omega), if_pos (by omega),
    Nat.add_sub_cancel]
  simp only [hlow, hhigh]

theorem ofByte?_four (h : n < 5) :
    Pending.ofByte? position (UInt8.ofNat (n + 0xF0)) =
      some ⟨position, UInt8.ofNat (n + 0xF0), n, 3, if n = 0 then 0x90 else 0x80,
        if n = 4 then 0x8F else 0xBF⟩ := by
  have hlow : n + 0xF0 = 0xF0 ↔ n = 0 := by omega
  have hhigh : n + 0xF0 = 0xF4 ↔ n = 4 := by omega
  unfold Pending.ofByte?
  rw [toNat_ofNat (by omega), if_neg (by omega), if_neg (by omega), if_neg (by omega),
    if_pos (by omega), Nat.add_sub_cancel]
  simp only [hlow, hhigh]

/-- The bytes of a character are decoded to it. -/
theorem decodeOnto_encodeChar (c : Char) (position : Nat) (done : List Char) (rest : List UInt8) :
    ∃ next, decodeOnto position done none (String.utf8EncodeChar c ++ rest) =
      decodeOnto next (c :: done) none rest := by
  have hvalid : c.val.toNat < 0xD800 ∨ 0xDFFF < c.val.toNat ∧ c.val.toNat < 0x110000 := c.valid
  have hc : ∀ value, value = c.val.toNat → Char.ofNat value = c := fun _ h => h ▸ Char.ofNat_toNat c
  simp only [String.utf8EncodeChar]
  generalize c.val.toNat = v at hvalid hc ⊢
  split
  · rw [List.singleton_append, decodeOnto_ascii (by omega), hc v rfl]
    exact ⟨_, rfl⟩
  split
  · rw [List.cons_append, decodeOnto_first (by omega) (ofByte?_two (by omega)), List.singleton_append,
      decodeOnto_last (by omega) (by omega) (by omega), hc _ (by omega)]
    exact ⟨_, rfl⟩
  split
  · rw [List.cons_append, decodeOnto_first (by omega) (ofByte?_three (by omega)), List.cons_append,
      decodeOnto_next (by omega) (by split <;> omega) (by split <;> omega), List.singleton_append,
      decodeOnto_last (by omega) (by omega) (by omega), hc _ (by omega)]
    exact ⟨_, rfl⟩
  · rw [List.cons_append, decodeOnto_first (by omega) (ofByte?_four (by omega)), List.cons_append,
      decodeOnto_next (by omega) (by split <;> omega) (by split <;> omega), List.cons_append,
      decodeOnto_next (by omega) (by omega) (by omega), List.singleton_append,
      decodeOnto_last (by omega) (by omega) (by omega), hc _ (by omega)]
    exact ⟨_, rfl⟩

theorem decode_encode (s : String) : decode (encode s) = .ok s.toList := by
  have hbytes : (encode s).toList = s.toList.flatMap String.utf8EncodeChar := by
    rw [encode, String.toUTF8, ← String.utf8Encode_toList, List.utf8Encode, List.data_toByteArray]
  have hall : ∀ (chars done : List Char) (position : Nat),
      decodeOnto position done none (chars.flatMap String.utf8EncodeChar) =
        .ok (done.reverse ++ chars) := by
    intro chars
    induction chars with
    | nil => intro done position; simp [decodeOnto]
    | cons c chars ih =>
      intro done position
      obtain ⟨next, hnext⟩ := decodeOnto_encodeChar c position done (chars.flatMap String.utf8EncodeChar)
      rw [List.flatMap_cons, hnext, ih, List.reverse_cons, List.append_assoc, List.singleton_append]
  rw [decode, hbytes, hall, List.reverse_nil, List.nil_append]

end Utf8

theorem Text.unifyLines_eq_self {s : List Char} (h : '\r' ∉ s) : unifyLines s = s := by
  induction s with
  | nil => rfl
  | cons c s ih =>
    rw [List.mem_cons, not_or] at h
    rw [unifyLines, ih h.2]
    · exact fun rest hc => absurd hc.symm h.1
    · exact fun hc => absurd hc.symm h.1

end QbLint
