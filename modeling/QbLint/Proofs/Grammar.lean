import QbLint.Proofs.Balance
import QbLint.Proofs.Jump

/-!
# The grammar of instructions

What an instruction without defects is, said without its check.

* `Instruction.WellFormed`: the bytes from one offset to another are an instruction;
* `Instruction.Undersized`: they are a struct that declares less than the size of its header;
* `Instruction.eq_pure_of_wellFormed`: the check of a well-formed instruction is silent;
* `Instruction.wellFormed_of_eq_pure`: a check is silent on nothing else but undersized structs.

For each form, a `*_eq_pure_iff` says on which bytes its check is silent.
-/

namespace QbLint

open Bytes (number_eq_ok_iff goto_eq_ok_iff endOfZeros_eq)
open Check (bind_eq_pure_iff read_eq_pure_iff reportIf_eq_pure_iff pure_eq_pure_iff)

namespace Instruction

/-- The opcodes that pass over an operand without looking at it, with its size. -/
def operandSizes : List (UInt8 × Nat) :=
  [(0x16, 4), (0x17, 4), (0x18, 4), (0x1A, 4), (0x1E, 12), (0x1F, 8), (0x2E, 4)]

/-- The opcodes with a form of their own. -/
def formed : List UInt8 :=
  operandSizes.map (·.1) ++ [0x1B, 0x24, 0x27, 0x2F, 0x3E, 0x47, 0x48, 0x49, 0x4A, 0x4C]

/-- The bytes from `s` to `e` are an instruction. -/
inductive WellFormed (options : ScanOptions) (data : Bytes) (s e : Nat) : Prop
  /-- An operand of a fixed size. -/
  | operand {code : UInt8} {size : Nat} (hs : (code, size) ∈ operandSizes)
    (hc : data.Holds s [code]) (he : e = s + 1 + size)
  /-- A string of bytes, the last of them zero. -/
  | narrowString {length : Nat} (hc : data.Holds s [0x1B]) (hl : data.Denotes (s + 1) 4 length)
    (h1 : 1 ≤ length) (he : e = s + 5 + length) (hz : data.Holds (e - 1) [0])
  /-- A string of two-byte units, the last of them zero. -/
  | wideString {length : Nat} (hc : data.Holds s [0x4C]) (hl : data.Denotes (s + 1) 4 length)
    (h2 : 2 ≤ length) (heven : length % 2 = 0) (he : e = s + 5 + length)
    (hz : data.Holds (e - 2) [0, 0])
  /-- A table of records. -/
  | recordTable {count : Nat} (hc : data.Holds s [0x2F]) (hl : data.Denotes (s + 1) 2 count)
    (he : e = s + 3 + 8 * count)
  /-- A struct: `padding` zeros behind its length, of which its header begins with the last two. -/
  | struct {length padding : Nat} (hc : data.Holds s [0x4A]) (hl : data.Denotes (s + 1) 2 length)
    (h4 : 4 ≤ length) (hp : padding = data.zeros (s + 3))
    (hh : data.Holds (s + 1 + padding) [0, 0, 1, 0]) (haligned : (s + 5 + padding) % 4 = 0)
    (hmax : padding ≤ options.maxPadding) (he : e = s + 1 + padding + length)
  /-- The end of the script, which is the last byte. -/
  | endOfScript (hc : data.Holds s [0x24]) (he : e = s + 1) (hend : e = data.size)
  /-- An `if` with its jump. -/
  | ifBranch (hc : data.Holds s [0x47]) (hj : Jump.Reaches data (s + 1) .nextBranch)
    (he : e = s + 3)
  /-- An `else` with its jump. -/
  | elseBranch (hc : data.Holds s [0x48]) (hj : Jump.Reaches data (s + 1) .endif) (he : e = s + 3)
  /-- A short jump out of a switch. -/
  | switchJump (hc : data.Holds s [0x49]) (hj : Jump.Reaches data (s + 1) .endSwitch)
    (he : e = s + 3)
  /-- An `elseif` with its two jumps. -/
  | elseifBranch (hc : data.Holds s [0x27]) (hj : Jump.Reaches data (s + 1) .nextBranch)
    (hj' : Jump.Reaches data (s + 3) .endif) (he : e = s + 5)
  /-- A case: a short-jump byte and a jump. -/
  | switchCase (hc : data.Holds s [0x3E, 0x49]) (hj : Jump.Reaches data (s + 2) .nextCase)
    (he : e = s + 4)
  /-- Another known opcode, alone. -/
  | bare {code : UInt8} (hc : data.Holds s [code]) (hf : code ∉ formed)
    (hk : Opcode.isKnown options.correctedRanges code.toNat = true) (he : e = s + 1)

/-- The bytes at `s` are a struct that declares less than the size of its header, so that the walk
goes back into it, to `e`. -/
def Undersized (data : Bytes) (s e : Nat) : Prop :=
  data.Holds s [0x4A] ∧ data.Holds (s + 1 + data.zeros (s + 3)) [0, 0, 1, 0] ∧
    s + 1 + data.zeros (s + 3) ≤ e ∧ e < s + 5 + data.zeros (s + 3)

variable {options : ScanOptions} {data : Bytes} {s e : Nat} {code : UInt8}

theorem narrowString_eq_pure_iff :
    narrowString data s = pure e ↔ ∃ length, data.Denotes (s + 1) 4 length ∧ 1 ≤ length ∧
      e = s + 5 + length ∧ data.Holds (e - 1) [0] := by
  have hz : data.Denotes (e - 1) 1 0 ↔ data.Holds (e - 1) [0] :=
    Bytes.denotes_littleEndian_iff (List.cons_ne_nil 0 [])
  simp only [narrowString, bind_eq_pure_iff, read_eq_pure_iff, Bytes.uint32, number_eq_ok_iff]
  refine exists_congr fun length => and_congr_right fun _ => ?_
  split
  · refine ⟨fun h => ?_, fun h => by omega⟩
    obtain ⟨_, h, -⟩ := bind_eq_pure_iff.mp h
    exact absurd h Check.report_ne_pure
  · simp only [bind_eq_pure_iff, read_eq_pure_iff, goto_eq_ok_iff, Bytes.byte, number_eq_ok_iff,
      reportIf_eq_pure_iff, pure_eq_pure_iff]
    constructor
    · rintro ⟨last, ⟨hlast, -⟩, terminator, ht, -, h0, rfl⟩
      obtain rfl := not_not.mp h0
      refine ⟨by omega, rfl, hz.mp ?_⟩
      rwa [show s + 5 + length - 1 = last by omega]
    · rintro ⟨-, rfl, hh⟩
      have ht := hz.mpr hh
      have := ht.1
      exact ⟨_, ⟨by omega, by omega⟩, 0, ht, (), not_not.mpr rfl, rfl⟩

theorem wideString_eq_pure_iff :
    wideString data s = pure e ↔ ∃ length, data.Denotes (s + 1) 4 length ∧ 2 ≤ length ∧
      length % 2 = 0 ∧ e = s + 5 + length ∧ data.Holds (e - 2) [0, 0] := by
  have hz : data.Denotes (e - 2) 2 0 ↔ data.Holds (e - 2) [0, 0] :=
    Bytes.denotes_littleEndian_iff (List.cons_ne_nil 0 [0])
  simp only [wideString, bind_eq_pure_iff, read_eq_pure_iff, Bytes.uint32, number_eq_ok_iff]
  refine exists_congr fun length => and_congr_right fun _ => ?_
  split
  · refine ⟨fun h => ?_, fun h => by omega⟩
    obtain ⟨_, h, -⟩ := bind_eq_pure_iff.mp h
    exact absurd h Check.report_ne_pure
  · simp only [bind_eq_pure_iff, read_eq_pure_iff, goto_eq_ok_iff, Bytes.uint16, number_eq_ok_iff,
      reportIf_eq_pure_iff, pure_eq_pure_iff]
    constructor
    · rintro ⟨-, heven, last, ⟨hlast, -⟩, terminator, ht, -, h0, rfl⟩
      obtain rfl := not_not.mp h0
      refine ⟨by omega, by omega, rfl, hz.mp ?_⟩
      rwa [show s + 5 + length - 2 = last by omega]
    · rintro ⟨-, heven, rfl, hh⟩
      have ht := hz.mpr hh
      have := ht.1
      exact ⟨(), by omega, _, ⟨by omega, by omega⟩, 0, ht, (), not_not.mpr rfl, rfl⟩

theorem recordTable_eq_pure_iff :
    recordTable data s = pure e ↔ ∃ count, data.Denotes (s + 1) 2 count ∧
      e = s + 3 + 8 * count ∧ e ≤ data.size := by
  simp only [recordTable, bind_eq_pure_iff, read_eq_pure_iff, Bytes.uint16, number_eq_ok_iff,
    goto_eq_ok_iff, recordSize, Int.ofNat_inj, eq_comm (b := e)]

theorem denotes_structHeader_iff {position : Nat} :
    data.Denotes position 4 structHeader ↔ data.Holds position [0, 0, 1, 0] := by
  rw [show structHeader = littleEndian [0, 0, 1, 0] by decide]
  exact Bytes.denotes_littleEndian_iff (List.cons_ne_nil 0 [0, 1, 0])

theorem struct_eq_pure_iff :
    struct options data s = pure e ↔ ∃ length, data.Denotes (s + 1) 2 length ∧
      data.Holds (s + 1 + data.zeros (s + 3)) [0, 0, 1, 0] ∧ (s + 5 + data.zeros (s + 3)) % 4 = 0 ∧
      data.zeros (s + 3) ≤ options.maxPadding ∧
      e = s + 1 + data.zeros (s + 3) + length ∧ e ≤ data.size := by
  rw [← denotes_structHeader_iff]
  simp only [struct, bind_eq_pure_iff, read_eq_pure_iff, Bytes.uint16, Bytes.byte, Bytes.uint32,
    number_eq_ok_iff]
  simp only [endOfZeros_eq, Nat.add_sub_cancel_left]
  refine exists_congr fun length => and_congr_right fun _ => ?_
  constructor
  · rintro ⟨-, -, found, hf, h⟩
    split at h
    · rename_i heq
      rw [heq] at hf
      simp only [bind_eq_pure_iff, read_eq_pure_iff, goto_eq_ok_iff, reportIf_eq_pure_iff] at h
      obtain ⟨-, haligned, -, hmax, htarget, hle⟩ := h
      exact ⟨hf, by omega, by omega, by omega, hle⟩
    · exact absurd h Check.stop_ne_pure
  · rintro ⟨hf, haligned, hmax, rfl, hle⟩
    have := hf.1
    refine ⟨_, ⟨by omega, rfl⟩, _, hf, ?_⟩
    rw [if_pos rfl]
    simp only [bind_eq_pure_iff, read_eq_pure_iff, goto_eq_ok_iff, reportIf_eq_pure_iff]
    exact ⟨(), by omega, (), by omega, trivial, hle⟩

theorem jump_eq_pure_iff {field : Nat} {role : Jump.Role} {defect : Diagnostic} {u : Unit} :
    jump data field role defect = pure u ↔ Jump.Reaches data field role := by
  simp only [jump, bind_eq_pure_iff, read_eq_pure_iff, Check.readAside_eq_pure_iff, Bytes.uint16,
    number_eq_ok_iff, Jump.verify_eq_ok_iff, reportIf_eq_pure_iff, Jump.Reaches]
  refine exists_congr fun distance => and_congr_right fun _ => ?_
  constructor
  · rintro ⟨reached, ⟨hin, hreached⟩, ht⟩
    exact ⟨hin, hreached.mp (Bool.not_eq_false _ ▸ ht)⟩
  · rintro ⟨hin, hstands⟩
    exact ⟨true, ⟨hin, iff_of_true rfl hstands⟩, Bool.noConfusion⟩

theorem operand_eq_pure_iff {size : Nat} :
    operand size data s = pure e ↔ e = s + 1 + size ∧ e ≤ data.size := by
  rw [operand, read_eq_pure_iff, goto_eq_ok_iff, Int.ofNat_inj, eq_comm]

theorem bare_eq_pure_iff :
    bare options code s = pure e ↔
      Opcode.isKnown options.correctedRanges code.toNat = true ∧ e = s + 1 := by
  simp only [bare, bind_eq_pure_iff, reportIf_eq_pure_iff, pure_eq_pure_iff, Bool.not_eq_false,
    exists_const, eq_comm (b := e)]

theorem endOfScript_eq_pure_iff :
    endOfScript data s = pure e ↔ data.size ≤ s + 1 ∧ e = s + 1 := by
  simp only [endOfScript, bind_eq_pure_iff, reportIf_eq_pure_iff, pure_eq_pure_iff, Nat.not_lt,
    exists_const, eq_comm (b := e)]

theorem ifBranch_eq_pure_iff :
    ifBranch data s = pure e ↔ Jump.Reaches data (s + 1) .nextBranch ∧ e = s + 3 := by
  simp only [ifBranch, bind_eq_pure_iff, jump_eq_pure_iff, pure_eq_pure_iff, exists_const,
    eq_comm (b := e)]

theorem elseBranch_eq_pure_iff :
    elseBranch data s = pure e ↔ Jump.Reaches data (s + 1) .endif ∧ e = s + 3 := by
  simp only [elseBranch, bind_eq_pure_iff, jump_eq_pure_iff, pure_eq_pure_iff, exists_const,
    eq_comm (b := e)]

theorem switchJump_eq_pure_iff :
    switchJump data s = pure e ↔ Jump.Reaches data (s + 1) .endSwitch ∧ e = s + 3 := by
  simp only [switchJump, bind_eq_pure_iff, jump_eq_pure_iff, pure_eq_pure_iff, exists_const,
    eq_comm (b := e)]

theorem elseifBranch_eq_pure_iff :
    elseifBranch data s = pure e ↔ Jump.Reaches data (s + 1) .nextBranch ∧
      Jump.Reaches data (s + 3) .endif ∧ e = s + 5 := by
  simp only [elseifBranch, bind_eq_pure_iff, jump_eq_pure_iff, pure_eq_pure_iff, exists_const,
    eq_comm (b := e)]

theorem switchCase_eq_pure_iff :
    switchCase data s = pure e ↔ data.Holds (s + 1) [0x49] ∧
      Jump.Reaches data (s + 2) .nextCase ∧ e = s + 4 := by
  have hb : data.Denotes (s + 1) 1 Opcode.shortJump.toNat ↔ data.Holds (s + 1) [0x49] :=
    Bytes.denotes_littleEndian_iff (List.cons_ne_nil 0x49 [])
  simp only [switchCase, bind_eq_pure_iff, read_eq_pure_iff, Bytes.byte, number_eq_ok_iff,
    reportIf_eq_pure_iff, jump_eq_pure_iff, pure_eq_pure_iff, not_not, exists_const, ← hb,
    eq_comm (b := e)]
  constructor
  · rintro ⟨code, hd, rfl, hj, he⟩
    exact ⟨hd, hj, he⟩
  · rintro ⟨hd, hj, he⟩
    exact ⟨_, hd, rfl, hj, he⟩

/-! ## Silent checks -/

/-- The blocks' opcodes are known with all options. -/
theorem isKnown_of_block {corrected : Bool} {kind : BlockKind}
    (hf : Form.ofOpcode code = .opening kind ∨ Form.ofOpcode code = .closing kind) :
    Opcode.isKnown corrected code.toNat = true := by
  rcases hf with hf | hf
  · rw [Form.eq_opener hf]
    cases corrected <;> cases kind <;> decide
  · rw [Form.eq_closer hf]
    cases corrected <;> cases kind <;> decide

/-- An opcode without a form of its own is bare, or the beginning or end of a block. -/
theorem ofOpcode_of_not_mem_formed (h : code ∉ formed) : Form.ofOpcode code = .bare ∨
    ∃ kind, Form.ofOpcode code = .opening kind ∨ Form.ofOpcode code = .closing kind := by
  revert h
  fun_cases Form.ofOpcode code <;> simp [formed, operandSizes]

theorem ofOpcode_of_mem_operandSizes {size : Nat} (h : (code, size) ∈ operandSizes) :
    Form.ofOpcode code = .operand size := by
  simp only [operandSizes, List.mem_cons, Prod.mk.injEq, List.not_mem_nil, or_false] at h
  rcases h with ⟨rfl, rfl⟩ | ⟨rfl, rfl⟩ | ⟨rfl, rfl⟩ | ⟨rfl, rfl⟩ | ⟨rfl, rfl⟩ | ⟨rfl, rfl⟩ |
    ⟨rfl, rfl⟩ <;> rfl

/-- A check that is silent comes to the end of a well-formed instruction, or goes back into the
header of a struct. -/
theorem wellFormed_of_eq_pure (hc : data[s]? = some code)
    (h : check options data s code = pure e) :
    WellFormed options data s e ∨ Undersized data s e := by
  have hh : data.Holds s [code] := Bytes.holds_singleton_iff.mpr hc
  by_cases hf : code ∈ formed
  · simp only [formed, List.mem_append, List.mem_map, List.mem_cons, List.not_mem_nil,
      or_false] at hf
    rcases hf with ⟨⟨_, size⟩, hs, rfl⟩ | rfl | rfl | rfl | rfl | rfl | rfl | rfl | rfl | rfl | rfl
    · rw [check, ofOpcode_of_mem_operandSizes hs] at h
      exact .inl (.operand hs hh (operand_eq_pure_iff.mp h).1)
    · obtain ⟨length, hl, h1, he, hz⟩ := narrowString_eq_pure_iff.mp h
      exact .inl (.narrowString hh hl h1 he hz)
    · obtain ⟨hend, rfl⟩ := endOfScript_eq_pure_iff.mp h
      have := (Array.getElem?_eq_some_iff.mp hc).1
      exact .inl (.endOfScript hh rfl (by omega))
    · obtain ⟨hj, hj', he⟩ := elseifBranch_eq_pure_iff.mp h
      exact .inl (.elseifBranch hh hj hj' he)
    · obtain ⟨count, hl, he, -⟩ := recordTable_eq_pure_iff.mp h
      exact .inl (.recordTable hh hl he)
    · obtain ⟨hs, hj, he⟩ := switchCase_eq_pure_iff.mp h
      exact .inl (.switchCase (Bytes.holds_cons_iff.mpr ⟨hc, hs⟩) hj he)
    · obtain ⟨hj, he⟩ := ifBranch_eq_pure_iff.mp h
      exact .inl (.ifBranch hh hj he)
    · obtain ⟨hj, he⟩ := elseBranch_eq_pure_iff.mp h
      exact .inl (.elseBranch hh hj he)
    · obtain ⟨hj, he⟩ := switchJump_eq_pure_iff.mp h
      exact .inl (.switchJump hh hj he)
    · obtain ⟨length, hl, hheader, haligned, hmax, he, -⟩ := struct_eq_pure_iff.mp h
      by_cases h4 : 4 ≤ length
      · exact .inl (.struct hh hl h4 rfl hheader haligned hmax he)
      · exact .inr ⟨hh, hheader, by omega, by omega⟩
    · obtain ⟨length, hl, h2, heven, he, hz⟩ := wideString_eq_pure_iff.mp h
      exact .inl (.wideString hh hl h2 heven he hz)
  · rw [check] at h
    rcases ofOpcode_of_not_mem_formed hf with hform | ⟨kind, hform⟩
    · rw [hform] at h
      obtain ⟨hk, he⟩ := bare_eq_pure_iff.mp h
      exact .inl (.bare hh hf hk he)
    · refine .inl (.bare hh hf (isKnown_of_block hform) ?_)
      rcases hform with hform | hform <;> rw [hform] at h <;>
        exact (pure_eq_pure_iff.mp h).symm

/-- The check of a well-formed instruction inside the buffer is silent. -/
theorem eq_pure_of_wellFormed (h : WellFormed options data s e) (he : e ≤ data.size)
    (hc : data[s]? = some code) : check options data s code = pure e := by
  have hcode : ∀ {c : UInt8} {rest : List UInt8}, data.Holds s (c :: rest) → code = c :=
    fun hh => Option.some.inj (hc.symm.trans (Bytes.holds_cons_iff.mp hh).1)
  cases h with
  | operand hs hh he' =>
    rw [check, hcode hh, ofOpcode_of_mem_operandSizes hs]
    exact operand_eq_pure_iff.mpr ⟨he', he⟩
  | narrowString hh hl h1 he' hz =>
    rw [hcode hh]
    exact narrowString_eq_pure_iff.mpr ⟨_, hl, h1, he', hz⟩
  | wideString hh hl h2 heven he' hz =>
    rw [hcode hh]
    exact wideString_eq_pure_iff.mpr ⟨_, hl, h2, heven, he', hz⟩
  | recordTable hh hl he' =>
    rw [hcode hh]
    exact recordTable_eq_pure_iff.mpr ⟨_, hl, he', he⟩
  | struct hh hl h4 hp hheader haligned hmax he' =>
    subst hp
    rw [hcode hh]
    exact struct_eq_pure_iff.mpr ⟨_, hl, hheader, haligned, hmax, he', he⟩
  | endOfScript hh he' hend =>
    rw [hcode hh]
    exact endOfScript_eq_pure_iff.mpr ⟨by omega, he'⟩
  | ifBranch hh hj he' =>
    rw [hcode hh]
    exact ifBranch_eq_pure_iff.mpr ⟨hj, he'⟩
  | elseBranch hh hj he' =>
    rw [hcode hh]
    exact elseBranch_eq_pure_iff.mpr ⟨hj, he'⟩
  | switchJump hh hj he' =>
    rw [hcode hh]
    exact switchJump_eq_pure_iff.mpr ⟨hj, he'⟩
  | elseifBranch hh hj hj' he' =>
    rw [hcode hh]
    exact elseifBranch_eq_pure_iff.mpr ⟨hj, hj', he'⟩
  | switchCase hh hj he' =>
    rw [hcode hh]
    exact switchCase_eq_pure_iff.mpr ⟨(Bytes.holds_cons_iff.mp hh).2, hj, he'⟩
  | bare hh hf hk he' =>
    rw [← hcode hh] at hf hk
    rw [check]
    rcases ofOpcode_of_not_mem_formed hf with hform | ⟨kind, hform | hform⟩ <;> rw [hform]
    · exact bare_eq_pure_iff.mpr ⟨hk, he'⟩
    · exact pure_eq_pure_iff.mpr he'.symm
    · exact pure_eq_pure_iff.mpr he'.symm

end Instruction

end QbLint
