import Mathlib.Algebra.BigOperators.Ring.Finset
import Mathlib.Data.Int.ModEq
import Mathlib.Tactic.Ring
import QbLint.Proofs.Bytes
import QbLint.Script.Cursor

/-!
# Numbers that a cursor reads

A cursor reads numbers of two widths, with and without a sign. What it reads is fixed by the bytes
it passes, and reading undoes writing.

* `littleEndian_eq_sum`, `littleEndian_append`: the number that bytes denote;
* `Bytes.ofInt`: the bytes of a number; `Bytes.littleEndian_ofInt`: the number that these denote;
* `Cursor.NumberFormat`: the readings; `Cursor.NumberFormat.reads_iff`: what each of them reads;
* `Cursor.perform_number`: how the readings fit together, and that they undo the writing.
-/

namespace QbLint

/-! ## Bytes and the numbers they denote -/

/-- Each byte counts 256 times as much as the one before it. -/
theorem littleEndian_eq_sum (bytes : List UInt8) :
    littleEndian bytes = ∑ i ∈ Finset.range bytes.length, (bytes.getD i 0).toNat * 256 ^ i := by
  induction bytes with
  | nil => rfl
  | cons b bytes ih =>
    have hshift : ∀ i, ((b :: bytes).getD (i + 1) 0).toNat * 256 ^ (i + 1) =
        256 * ((bytes.getD i 0).toNat * 256 ^ i) := fun i => by
      rw [List.getD_cons_succ]
      ring
    rw [Bytes.littleEndian_cons, ih, List.length_cons, Finset.sum_range_succ', Finset.mul_sum,
      Finset.sum_congr rfl fun i _ => hshift i, List.getD_cons_zero, pow_zero, mul_one, add_comm]

theorem littleEndian_lt (bytes : List UInt8) : littleEndian bytes < 256 ^ bytes.length := by
  induction bytes with
  | nil => exact Nat.one_pos
  | cons b bytes ih =>
    have := b.toNat_lt
    rw [Bytes.littleEndian_cons, List.length_cons, pow_succ]
    omega

theorem littleEndian_append (bytes others : List UInt8) :
    littleEndian (bytes ++ others) =
      littleEndian bytes + 256 ^ bytes.length * littleEndian others := by
  induction bytes with
  | nil => simp [littleEndian]
  | cons b bytes ih =>
    rw [List.cons_append, Bytes.littleEndian_cons, Bytes.littleEndian_cons, ih, List.length_cons]
    ring

namespace Bytes

/-- The `width` bytes of a number, the least significant one first. What does not fit is dropped, so
that a number below zero becomes its two's complement. -/
def ofInt : Nat → Int → List UInt8
  | 0, _ => []
  | width + 1, n => UInt8.ofNat (n % 256).toNat :: ofInt width (n / 256)

theorem length_ofInt (width : Nat) (n : Int) : (ofInt width n).length = width := by
  induction width generalizing n with
  | zero => rfl
  | succ width ih => rw [ofInt, List.length_cons, ih]

/-- The bytes of a number denote it up to multiples of what does not fit. -/
theorem littleEndian_ofInt (width : Nat) (n : Int) :
    (littleEndian (ofInt width n) : Int) = n % 256 ^ width := by
  induction width generalizing n with
  | zero => simp [ofInt, littleEndian]
  | succ width ih =>
    have hbyte : ((UInt8.ofNat (n % 256).toNat).toNat : Int) = n % 256 := by
      have hlt : (n % 256).toNat < UInt8.size := by
        show (n % 256).toNat < 256
        omega
      rw [UInt8.toNat_ofNat_of_lt' hlt]
      omega
    have hquotient : n / 256 / 256 ^ width = n / 256 ^ (width + 1) := by
      rw [Int.ediv_ediv_of_nonneg (by omega), pow_succ']
    rw [ofInt, littleEndian_cons, Nat.cast_add, Nat.cast_mul, hbyte, ih, Int.emod_def n 256,
      Int.emod_def (n / 256), Int.emod_def n (256 ^ (width + 1)), hquotient, pow_succ']
    push_cast
    ring

theorem numeral_eq_sum {data : Bytes} {position width : Nat} (h : position + width ≤ data.size) :
    data.numeral position width =
      ∑ i ∈ Finset.range width, (data.getD (position + i) 0).toNat * 256 ^ i := by
  have hl : ((data.toList.drop position).take width).length = width := by
    rw [List.length_take, List.length_drop, Array.length_toList]
    omega
  rw [numeral, littleEndian_eq_sum, hl]
  refine Finset.sum_congr rfl fun i hi => ?_
  rw [List.getD_eq_getElem?_getD, List.getElem?_take_of_lt (Finset.mem_range.mp hi),
    List.getElem?_drop, Array.getElem?_toList, Array.getD_eq_getD_getElem?]

theorem numeral_lt (data : Bytes) (position width : Nat) :
    data.numeral position width < 256 ^ width := by
  refine Nat.lt_of_lt_of_le (littleEndian_lt _) (Nat.pow_le_pow_right (by decide) ?_)
  exact List.length_take_le ..

/-- A number is that of its first bytes and, further up, that of the bytes behind them. -/
theorem numeral_add {data : Bytes} {position width more : Nat}
    (h : position + width ≤ data.size) :
    data.numeral position (width + more) =
      data.numeral position width + 256 ^ width * data.numeral (position + width) more := by
  have hl : ((data.toList.drop position).take width).length = width := by
    rw [List.length_take, List.length_drop, Array.length_toList]
    omega
  rw [numeral, List.take_add, littleEndian_append, hl, List.drop_drop]
  rfl

end Bytes

/-! ## Readings -/

namespace Cursor

/-- The readings of numbers. -/
inductive NumberFormat
  | uint16 | uint32 | int16 | int32

namespace NumberFormat

/-- The operation that reads a number. -/
def op : NumberFormat → Op
  | uint16 => .uint16
  | uint32 => .uint32
  | int16 => .int16
  | int32 => .int32

/-- How many bytes a number has. -/
def width : NumberFormat → Nat
  | uint16 | int16 => 2
  | uint32 | int32 => 4

/-- The numbers that there are in a format. -/
def Represents (format : NumberFormat) (n : Int) : Prop :=
  match format with
  | uint16 => 0 ≤ n ∧ n < 2 ^ 16
  | uint32 => 0 ≤ n ∧ n < 2 ^ 32
  | int16 => -2 ^ 15 ≤ n ∧ n < 2 ^ 15
  | int32 => -2 ^ 31 ≤ n ∧ n < 2 ^ 31

/-- A number is read at a position, and the cursor then stands behind its bytes. -/
def Reads (format : NumberFormat) (data : Bytes) (position : Nat) (n : Int) : Prop :=
  format.op.perform data position = (.plain (.ok (.number n)), position + format.width)

/-- What a format makes of the number that the bytes denote. -/
def interpret (format : NumberFormat) (n : Nat) : Int :=
  match format with
  | uint16 | uint32 => n
  | int16 | int32 => (n : Int).bmod (256 ^ format.width)

variable {format : NumberFormat} {data : Bytes} {position : Nat} {n m : Int}

/-- There is one number in a format with given bytes. -/
theorem Represents.eq (hn : format.Represents n) (hm : format.Represents m)
    (h : n ≡ m [ZMOD 256 ^ format.width]) : n = m := by
  unfold Int.ModEq at h
  cases format <;> simp only [Represents, width] at hn hm h <;> omega

theorem interpret_modEq (format : NumberFormat) (n : Nat) :
    format.interpret n ≡ n [ZMOD 256 ^ format.width] := by
  have hmod := Int.bmod_emod (x := n) (m := 256 ^ format.width)
  push_cast at hmod
  cases format with
  | uint16 | uint32 => exact Int.ModEq.refl _
  | int16 | int32 => exact hmod

theorem represents_interpret {n : Nat} (h : n < 256 ^ format.width) :
    format.Represents (format.interpret n) := by
  have hpos : 0 < 256 ^ format.width := Nat.pow_pos (by decide)
  have hlow := Int.le_bmod (x := n) hpos
  have hhigh := Int.bmod_lt (x := n) hpos
  cases format with
  | uint16 | uint32 => simp only [Represents, interpret, width] at h ⊢; omega
  | int16 | int32 => simp only [Represents, interpret, width] at hlow hhigh ⊢; omega

theorem perform_of_le (h : position + format.width ≤ data.size) :
    format.op.perform data position =
      (.plain (.ok (.number (format.interpret (data.numeral position format.width)))),
        position + format.width) := by
  have hread : data.number position format.width = .ok (data.numeral position format.width) :=
    Bytes.number_eq_ok_iff.mpr ⟨h, rfl⟩
  cases format <;> simp only [op, Op.perform, unsigned, signed, width] at hread ⊢ <;>
    rw [hread] <;> rfl

theorem perform_of_lt (h : data.size < position + format.width) :
    ∃ failure, format.op.perform data position = (.plain (.error failure), position) := by
  have hread : data.number position format.width =
      .error ⟨position, (position + format.width : Nat), data.size⟩ := by
    rw [Bytes.number, Bytes.slice_eq_error h]
    rfl
  cases format <;> simp only [op, Op.perform, unsigned, signed, width] at hread ⊢ <;>
    rw [hread] <;> exact ⟨_, rfl⟩

/-- A reading succeeds exactly if there are as many bytes as it needs. -/
theorem failure?_eq_none_iff :
    (format.op.perform data position).1.failure? = none ↔
      position + format.width ≤ data.size := by
  by_cases h : position + format.width ≤ data.size
  · rw [perform_of_le h]
    exact iff_of_true rfl h
  · obtain ⟨failure, hf⟩ := perform_of_lt (Nat.lt_of_not_le h)
    rw [hf]
    exact iff_of_false nofun h

/-- The number that is read is the one of the format that the bytes denote, up to multiples of what
does not fit. -/
theorem reads_iff :
    format.Reads data position n ↔ position + format.width ≤ data.size ∧ format.Represents n ∧
      n ≡ data.numeral position format.width [ZMOD 256 ^ format.width] := by
  by_cases h : position + format.width ≤ data.size
  · have hr := represents_interpret (data.numeral_lt position format.width)
    have hm := format.interpret_modEq (data.numeral position format.width)
    rw [Reads, perform_of_le h]
    constructor
    · intro hn
      cases hn
      exact ⟨h, hr, hm⟩
    · rintro ⟨-, hn, hmod⟩
      rw [hn.eq hr (hmod.trans hm.symm)]
  · obtain ⟨failure, hf⟩ := perform_of_lt (Nat.lt_of_not_le h)
    rw [Reads, hf]
    exact iff_of_false nofun fun hn => h hn.1

/-- Without a sign the number is the one that the bytes denote. -/
theorem reads_iff_of_unsigned (format : NumberFormat) (hu : format.interpret = Nat.cast) :
    format.Reads data position n ↔
      position + format.width ≤ data.size ∧ n = data.numeral position format.width := by
  by_cases h : position + format.width ≤ data.size
  · rw [Reads, perform_of_le h, hu, and_iff_right h]
    constructor
    · intro hn
      cases hn
      rfl
    · rintro rfl
      rfl
  · obtain ⟨failure, hf⟩ := perform_of_lt (Nat.lt_of_not_le h)
    rw [Reads, hf]
    exact iff_of_false nofun fun hn => h hn.1

/-- A number with a sign is the one of its range that differs by a multiple of what does not fit
from the number that is read without a sign. -/
theorem reads_iff_of_signed (format plain : NumberFormat) (hu : plain.interpret = Nat.cast)
    (hw : plain.width = format.width) :
    format.Reads data position n ↔ ∃ m, plain.Reads data position m ∧ format.Represents n ∧
      n ≡ m [ZMOD 256 ^ format.width] := by
  rw [reads_iff, ← hw]
  simp only [reads_iff_of_unsigned plain hu]
  constructor
  · rintro ⟨hle, hn⟩
    exact ⟨_, ⟨hle, rfl⟩, hn⟩
  · rintro ⟨m, ⟨hle, rfl⟩, hn⟩
    exact ⟨hle, hn⟩

/-- A number is read where it was written. -/
theorem Represents.reads (h : format.Represents n) (before behind : Bytes) :
    format.Reads (before ++ (Bytes.ofInt format.width n).toArray ++ behind) before.size n := by
  have hl := Bytes.length_ofInt format.width n
  have hholds : Bytes.Holds (before ++ (Bytes.ofInt format.width n).toArray ++ behind) before.size
      (Bytes.ofInt format.width n) := by
    simp [Bytes.Holds]
  have hb : Bytes.ofInt format.width n ≠ [] := by
    cases format <;> exact List.cons_ne_nil _ _
  obtain ⟨hle, hnumeral⟩ := hholds.denotes hb
  rw [hl] at hle hnumeral
  refine reads_iff.mpr ⟨hle, h, ?_⟩
  rw [hnumeral, Bytes.littleEndian_ofInt]
  exact (Int.mod_modEq n _).symm

end NumberFormat

/-- The readings of numbers. Each succeeds exactly if enough bytes are left. Without a sign it reads
what these bytes denote, each counting 256 times as much as the one before, so that four bytes are
two bytes and 65536 times the next two; with a sign it reads the one number of its range that
differs from this by a multiple of what does not fit. And where a number was written, among whatever
other bytes, it is read, and the cursor then stands behind it. -/
theorem perform_number (data : Bytes) (position : Nat) :
    (∀ format : NumberFormat, (format.op.perform data position).1.failure? = none ↔
      position + format.width ≤ data.size) ∧
    (∀ n, NumberFormat.uint16.Reads data position n ↔ position + 2 ≤ data.size ∧
      n = ∑ i ∈ Finset.range 2, (data.getD (position + i) 0).toNat * 256 ^ i) ∧
    (∀ n, NumberFormat.uint32.Reads data position n ↔ position + 4 ≤ data.size ∧
      n = ∑ i ∈ Finset.range 4, (data.getD (position + i) 0).toNat * 256 ^ i) ∧
    (∀ n, NumberFormat.uint32.Reads data position n ↔ ∃ low high,
      NumberFormat.uint16.Reads data position low ∧
        NumberFormat.uint16.Reads data (position + 2) high ∧ n = low + 65536 * high) ∧
    (∀ n, NumberFormat.int16.Reads data position n ↔ ∃ m,
      NumberFormat.uint16.Reads data position m ∧
        -2 ^ 15 ≤ n ∧ n < 2 ^ 15 ∧ n ≡ m [ZMOD 2 ^ 16]) ∧
    (∀ n, NumberFormat.int32.Reads data position n ↔ ∃ m,
      NumberFormat.uint32.Reads data position m ∧
        -2 ^ 31 ≤ n ∧ n < 2 ^ 31 ∧ n ≡ m [ZMOD 2 ^ 32]) ∧
    ∀ (format : NumberFormat) (before behind : Bytes) (n : Int), format.Represents n →
      format.Reads (before ++ (Bytes.ofInt format.width n).toArray ++ behind) before.size n := by
  have hsum : ∀ format : NumberFormat, format.interpret = Nat.cast → ∀ n,
      format.Reads data position n ↔ position + format.width ≤ data.size ∧ n =
        ∑ i ∈ Finset.range format.width, (data.getD (position + i) 0).toNat * 256 ^ i := by
    intro format hu n
    rw [NumberFormat.reads_iff_of_unsigned format hu]
    refine and_congr_right fun hle => ?_
    rw [Bytes.numeral_eq_sum hle]
  refine ⟨fun format => NumberFormat.failure?_eq_none_iff, hsum .uint16 rfl, hsum .uint32 rfl,
    fun n => ?_, fun n => ?_, fun n => ?_, fun format before behind n h => h.reads before behind⟩
  · have hadd : position + 2 ≤ data.size → data.numeral position (2 + 2) =
        data.numeral position 2 + 256 ^ 2 * data.numeral (position + 2) 2 := Bytes.numeral_add
    simp only [NumberFormat.reads_iff_of_unsigned .uint16 rfl,
      NumberFormat.reads_iff_of_unsigned .uint32 rfl, NumberFormat.width]
    constructor
    · rintro ⟨hle, rfl⟩
      refine ⟨_, _, ⟨by omega, rfl⟩, ⟨by omega, rfl⟩, ?_⟩
      rw [hadd (by omega)]
      push_cast
      rfl
    · rintro ⟨low, high, ⟨hle, rfl⟩, ⟨hle', rfl⟩, rfl⟩
      refine ⟨by omega, ?_⟩
      rw [hadd hle]
      push_cast
      rfl
  · rw [NumberFormat.reads_iff_of_signed .int16 .uint16 rfl rfl]
    simp only [NumberFormat.Represents, and_assoc]
    rfl
  · rw [NumberFormat.reads_iff_of_signed .int32 .uint32 rfl rfl]
    simp only [NumberFormat.Represents, and_assoc]
    rfl

end Cursor

end QbLint
