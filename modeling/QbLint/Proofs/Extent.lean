import QbLint.Proofs.Bytes
import QbLint.Proofs.Check
import QbLint.Script.Instruction

/-!
# How far an instruction reaches

The bytes of a script alone say where each instruction ends, whatever is reported about it.

* `Instruction.extent`: the number of bytes of the instruction at an offset;
* `Instruction.check_value`: a check that does not stop comes to the end of its instruction, which
  lies inside the buffer.

A struct may declare a length below the size of its header, and a wide string a length of one; the
end is then still behind the opcode, because what precedes the header or the string counts too.
-/

namespace QbLint.Instruction

open Bytes (numeral zeros Denotes number_eq_ok_iff goto_eq_ok_iff endOfZeros_eq)
open Check (value_bind_eq_ok_iff value_read_eq_ok_iff)

/-- The number of bytes of the instruction at an offset. -/
def extent (data : Bytes) (start : Nat) : Nat :=
  match data[start]? with
  | some 0x16 | some 0x17 | some 0x18 | some 0x1A | some 0x2E => 1 + 4
  | some 0x1E => 1 + 12
  | some 0x1F => 1 + 8
  | some 0x1B | some 0x4C => 5 + data.numeral (start + 1) 4
  | some 0x2F => 3 + 8 * data.numeral (start + 1) 2
  | some 0x4A => 1 + data.zeros (start + 3) + data.numeral (start + 1) 2
  | some 0x47 | some 0x48 | some 0x49 => 3
  | some 0x27 => 5
  | some 0x3E => 4
  | _ => 1

variable {options : ScanOptions} {data : Bytes} {start next : Nat}

theorem value_then_pure {α : Type} {x : Check α} {after : Nat}
    (h : (x >>= fun _ => (pure after : Check Nat)).value = .ok next) :
    (∃ a, x.value = .ok a) ∧ next = after := by
  obtain ⟨a, ha, h⟩ := value_bind_eq_ok_iff.mp h
  exact ⟨⟨a, ha⟩, (Except.ok.inj h).symm⟩

theorem value_goto {position target : Nat}
    (h : (Check.read (data.goto position target)).value = .ok next) :
    next = target ∧ next ≤ data.size := by
  obtain ⟨ht, hle⟩ := goto_eq_ok_iff.mp (value_read_eq_ok_iff.mp h)
  exact ⟨(Int.ofNat_inj.mp ht).symm, hle⟩

theorem value_number {position width n : Nat}
    (h : (Check.read (data.number position width)).value = .ok n) :
    position + width ≤ data.size ∧ data.numeral position width = n :=
  number_eq_ok_iff.mp (value_read_eq_ok_iff.mp h)

theorem narrowString_value (h : (narrowString data start).value = .ok next) :
    next = start + (5 + data.numeral (start + 1) 4) ∧ next ≤ data.size := by
  obtain ⟨length, hl, h⟩ := value_bind_eq_ok_iff.mp h
  obtain ⟨hle, hn⟩ := value_number hl
  split at h
  · obtain ⟨-, rfl⟩ := value_then_pure h
    omega
  · obtain ⟨last, hg, h⟩ := value_bind_eq_ok_iff.mp h
    obtain ⟨terminator, hb, h⟩ := value_bind_eq_ok_iff.mp h
    obtain ⟨hlast, -⟩ := value_goto hg
    obtain ⟨hle', -⟩ := value_number hb
    obtain ⟨-, rfl⟩ := value_then_pure h
    omega

theorem wideString_value (h : (wideString data start).value = .ok next) :
    next = start + (5 + data.numeral (start + 1) 4) ∧ next ≤ data.size := by
  obtain ⟨length, hl, h⟩ := value_bind_eq_ok_iff.mp h
  obtain ⟨hle, hn⟩ := value_number hl
  split at h
  · obtain ⟨-, rfl⟩ := value_then_pure h
    omega
  · obtain ⟨-, -, h⟩ := value_bind_eq_ok_iff.mp h
    obtain ⟨last, hg, h⟩ := value_bind_eq_ok_iff.mp h
    obtain ⟨terminator, hb, h⟩ := value_bind_eq_ok_iff.mp h
    obtain ⟨hlast, -⟩ := value_goto hg
    obtain ⟨hle', -⟩ := value_number hb
    obtain ⟨-, rfl⟩ := value_then_pure h
    omega

theorem recordTable_value (h : (recordTable data start).value = .ok next) :
    next = start + (3 + 8 * data.numeral (start + 1) 2) ∧ next ≤ data.size := by
  obtain ⟨count, hl, h⟩ := value_bind_eq_ok_iff.mp h
  obtain ⟨hle, hn⟩ := value_number hl
  obtain ⟨hnext, hle'⟩ := value_goto h
  rw [recordSize] at hnext
  omega

theorem struct_value (h : (struct options data start).value = .ok next) :
    next = start + (1 + data.zeros (start + 3) + data.numeral (start + 1) 2) ∧
      next ≤ data.size := by
  obtain ⟨length, hl, h⟩ := value_bind_eq_ok_iff.mp h
  obtain ⟨hle, hn⟩ := value_number hl
  obtain ⟨-, -, h⟩ := value_bind_eq_ok_iff.mp h
  obtain ⟨found, hf, h⟩ := value_bind_eq_ok_iff.mp h
  split at h
  · obtain ⟨-, -, h⟩ := value_bind_eq_ok_iff.mp h
    obtain ⟨-, -, h⟩ := value_bind_eq_ok_iff.mp h
    obtain ⟨hnext, hle'⟩ := value_goto h
    rw [endOfZeros_eq] at hnext
    omega
  · cases h

/-- A jump that was looked at has its field inside the buffer. -/
theorem jump_value {field : Nat} {role : Jump.Role} {defect : Diagnostic}
    (h : (jump data field role defect).value = .ok ()) : field + 2 ≤ data.size := by
  obtain ⟨offset, ho, -⟩ := value_bind_eq_ok_iff.mp h
  exact (value_number ho).1

theorem elseifBranch_value (h : (elseifBranch data start).value = .ok next) :
    next = start + 5 ∧ next ≤ data.size := by
  obtain ⟨_, -, h⟩ := value_bind_eq_ok_iff.mp h
  obtain ⟨⟨_, hj⟩, rfl⟩ := value_then_pure h
  have := jump_value hj
  omega

theorem switchCase_value (h : (switchCase data start).value = .ok next) :
    next = start + 4 ∧ next ≤ data.size := by
  obtain ⟨_, -, h⟩ := value_bind_eq_ok_iff.mp h
  obtain ⟨_, -, h⟩ := value_bind_eq_ok_iff.mp h
  obtain ⟨⟨_, hj⟩, rfl⟩ := value_then_pure h
  have := jump_value hj
  omega

/-- The extent of an instruction by its form. -/
theorem extent_eq {code : UInt8} (hc : data[start]? = some code) :
    extent data start =
      match Form.ofOpcode code with
      | .operand size => 1 + size
      | .narrowString | .wideString => 5 + data.numeral (start + 1) 4
      | .recordTable => 3 + 8 * data.numeral (start + 1) 2
      | .struct => 1 + data.zeros (start + 3) + data.numeral (start + 1) 2
      | .ifBranch | .elseBranch | .switchJump => 3
      | .elseifBranch => 5
      | .switchCase => 4
      | .opening _ | .closing _ | .endOfScript | .bare => 1 := by
  rw [extent, hc]
  fun_cases Form.ofOpcode code
  case case24 => split <;> simp_all
  all_goals rfl

/-- A check that does not stop comes to the end of its instruction, inside the buffer. -/
theorem check_value {code : UInt8} (hc : data[start]? = some code)
    (h : (check options data start code).value = .ok next) :
    next = start + extent data start ∧ next ≤ data.size := by
  have hs := (Array.getElem?_eq_some_iff.mp hc).1
  rw [extent_eq hc]
  unfold check at h
  cases hf : Form.ofOpcode code <;> rw [hf] at h <;> dsimp only at h ⊢
  case opening | closing =>
    obtain rfl := Except.ok.inj h
    omega
  case endOfScript | bare =>
    obtain ⟨-, rfl⟩ := value_then_pure h
    omega
  case narrowString => exact narrowString_value h
  case wideString => exact wideString_value h
  case recordTable => exact recordTable_value h
  case struct => exact struct_value h
  case ifBranch | elseBranch | switchJump =>
    obtain ⟨⟨_, hj⟩, rfl⟩ := value_then_pure h
    have := jump_value hj
    omega
  case elseifBranch => exact elseifBranch_value h
  case switchCase => exact switchCase_value h
  case operand size =>
    rw [← Nat.add_assoc]
    exact value_goto h

/-- A struct that declares two bytes ends inside its own header. -/
example : extent #[0x4A, 0x02, 0x00, 0x00, 0x00, 0x01, 0x00] 0 = 5 := by decide

/-! ## Options -/

theorem value_bind_congr {α : Type} {x y : Check α} {f g : α → Check Nat}
    (hx : x.value = y.value) (hf : ∀ a, (f a).value = (g a).value) :
    (x >>= f).value = (y >>= g).value := by
  obtain ⟨_, value⟩ := x
  obtain rfl : value = y.value := hx
  obtain ⟨_, value⟩ := y
  cases value with
  | error e => rfl
  | ok a => exact hf a

/-- What a check comes to does not depend on the options. -/
theorem check_value_congr (options other : ScanOptions) (data : Bytes) (start : Nat)
    (code : UInt8) :
    (check options data start code).value = (check other data start code).value := by
  unfold check
  split
  case h_7 =>
    refine value_bind_congr rfl fun length => value_bind_congr rfl fun _ =>
      value_bind_congr rfl fun found => ?_
    split
    · exact value_bind_congr rfl fun _ => value_bind_congr rfl fun _ => rfl
    · rfl
  all_goals rfl

end QbLint.Instruction
