import QbLint.Script.Check
import QbLint.Script.Jump

/-!
# Instructions

The checks of one instruction, by the form of what follows its opcode. Each is given the offset of
the opcode and comes to the offset of the next one, which the bytes alone decide; the options decide
only what is reported on the way.

* `Instruction.check`: the check of the instruction at an offset, blocks apart;
* `Instruction.check_yields_gt`: the next instruction lies further on. A struct may declare a length
  below the size of its header, and then the walk goes back, but never to the struct's own opcode.
-/

namespace QbLint

/-- What a scan accepts. -/
structure ScanOptions where
  /-- Whether codes 38 and 39 are known beside 37. -/
  correctedRanges : Bool := false
  /-- Whether blocks still open at the end are reported. -/
  checkBalance : Bool := false
  /-- The longest run of zeros before a struct header's first other byte, the two zeros that belong
  to the header included. -/
  maxPadding : Int := 5
  deriving DecidableEq, Inhabited

namespace Instruction

/-- The size of a record. -/
def recordSize : Nat := 8

/-- The four header bytes of a struct as a number. -/
def structHeader : Nat := 0x00010000

/-- The end of the script is the last byte. -/
def endOfScript (data : Bytes) (start : Nat) : Check Nat := do
  Check.reportIf (start + 1 < data.size)
    (Rule.endBeforeEof.report "End of script found before end of file." start)
  return start + 1

/-- A narrow string has as many bytes as it says, and the last of them is zero. -/
def narrowString (data : Bytes) (start : Nat) : Check Nat := do
  let length ← Check.read (data.uint32 (start + 1))
  if length = 0 then
    Check.report (Rule.zeroLengthString.report "Zero-length string (no null terminator)" start)
    return start + 5
  else
    let last ← Check.read (data.goto (start + 5) (start + 4 + length : Nat))
    let terminator ← Check.read (data.byte last)
    Check.reportIf (terminator ≠ 0)
      (Rule.narrowStringUnterminated.report "Narrow string not null-terminated" start)
    return start + 5 + length

/-- A wide string has as many bytes as it says, an even number, and the last two of them are
zero. -/
def wideString (data : Bytes) (start : Nat) : Check Nat := do
  let length ← Check.read (data.uint32 (start + 1))
  if length = 0 then
    Check.report (Rule.zeroLengthString.report "Zero-length wide string (no null terminator)" start)
    return start + 5
  else
    Check.reportIf (length % 2 ≠ 0)
      (Rule.wideStringOddLength.report "Invalid string length for wide string" start)
    let last ← Check.read (data.goto (start + 5) (start + 3 + length : Nat))
    let terminator ← Check.read (data.uint16 last)
    Check.reportIf (terminator ≠ 0)
      (Rule.wideStringUnterminated.report "Wide string missing null terminator" start)
    return start + 5 + length

/-- A record table has as many records as it says. -/
def recordTable (data : Bytes) (start : Nat) : Check Nat := do
  let count ← Check.read (data.uint16 (start + 1))
  Check.read (data.goto (start + 3) (start + 3 + recordSize * count : Nat))

/-- A struct's length is followed by zero padding up to its header, whose first two bytes are zero
and count as padding; the header ends on a multiple of four. The length counts from the header. -/
def struct (options : ScanOptions) (data : Bytes) (start : Nat) : Check Nat := do
  let length ← Check.read (data.uint16 (start + 1))
  let endOfPadding := data.endOfZeros (start + 3)
  let _ ← Check.read (data.byte endOfPadding)
  let padding := endOfPadding - (start + 3)
  let header := start + 1 + padding
  let found ← Check.read (data.uint32 header)
  if found = structHeader then
    Check.reportIf ((header + 4) % 4 ≠ 0)
      (Rule.structMisaligned.report "Struct is not 4-aligned" header)
    Check.reportIf (options.maxPadding < padding)
      (Rule.structPaddingTooLong.report "Padding unnecessarily long for struct" (start + 3 : Nat))
    Check.read (data.goto (header + 4) (header + length : Nat))
  else
    Check.stop (.structHeader header found)

/-- The jump whose field is at an offset reaches what its role asks for; else `defect` is
reported. -/
def jump (data : Bytes) (field : Nat) (role : Jump.Role) (defect : Diagnostic) : Check Unit := do
  let offset ← Check.read (data.uint16 field)
  let reached ← Check.readAside (field + 2) (Jump.verify data (field + 2) field offset role)
  Check.reportIf (reached = false) defect

/-- An `if` jumps to the next branch. -/
def ifBranch (data : Bytes) (start : Nat) : Check Nat := do
  jump data (start + 1) .nextBranch
    (Rule.nextBranchOffset.report "Incorrect next branch offset in if" (start + 1 : Nat))
  return start + 3

/-- An `elseif` jumps to the next branch and to the end of the statement. -/
def elseifBranch (data : Bytes) (start : Nat) : Check Nat := do
  jump data (start + 1) .nextBranch
    (Rule.nextBranchOffset.report "Incorrect next branch offset in elseif" (start + 1 : Nat))
  jump data (start + 3) .endif
    (Rule.endifOffset.report "Incorrect endif offset in elseif" (start + 3 : Nat))
  return start + 5

/-- An `else` jumps to the end of the statement. -/
def elseBranch (data : Bytes) (start : Nat) : Check Nat := do
  jump data (start + 1) .endif
    (Rule.endifOffset.report "Incorrect endif offset in else" (start + 1 : Nat))
  return start + 3

/-- A short jump leads to the end of the switch. -/
def switchJump (data : Bytes) (start : Nat) : Check Nat := do
  jump data (start + 1) .endSwitch
    (Rule.switchJumpTarget.report "Short jump does not point to end switch" start)
  return start + 3

/-- A case is followed by a short-jump byte and a jump to the next case. -/
def switchCase (data : Bytes) (start : Nat) : Check Nat := do
  let code ← Check.read (data.byte (start + 1))
  Check.reportIf (code ≠ Opcode.shortJump.toNat)
    (Rule.caseMissingShortJump.report "Case is missing short jump" start)
  jump data (start + 2) .nextCase
    (Rule.caseJumpTarget.report "Case's short jump does not point to next branch" (start + 2 : Nat))
  return start + 4

/-- An operand of a fixed size is passed over. -/
def operand (size : Nat) (data : Bytes) (start : Nat) : Check Nat :=
  Check.read (data.goto (start + 1) (start + 1 + size : Nat))

/-- A bare instruction is a known opcode. -/
def bare (options : ScanOptions) (code : UInt8) (start : Nat) : Check Nat := do
  Check.reportIf (Opcode.isKnown options.correctedRanges code.toNat = false)
    (Rule.illegalOpcode.report ("Illegal opcode: " ++ Hex.padded 2 code.toNat) start)
  return start + 1

/-- The check of the instruction that begins with `code` at an offset, blocks apart. -/
def check (options : ScanOptions) (data : Bytes) (start : Nat) (code : UInt8) : Check Nat :=
  match Form.ofOpcode code with
  | .opening _ | .closing _ => return start + 1
  | .endOfScript => endOfScript data start
  | .narrowString => narrowString data start
  | .wideString => wideString data start
  | .recordTable => recordTable data start
  | .struct => struct options data start
  | .ifBranch => ifBranch data start
  | .elseifBranch => elseifBranch data start
  | .elseBranch => elseBranch data start
  | .switchJump => switchJump data start
  | .switchCase => switchCase data start
  | .operand size => operand size data start
  | .bare => bare options code start

/-! ## The next instruction lies further on -/

theorem yields_goto_gt {data : Bytes} {start position target : Nat} (h : start < target) :
    (Check.read (data.goto position target)).Yields (start < ·) := by
  intro next hn
  unfold Bytes.goto at hn
  split at hn
  · cases hn
    simpa using h
  · cases hn

theorem yields_then_pure {α : Type} {start next : Nat} {x : Check α} (h : start < next) :
    (x >>= fun _ => (pure next : Check Nat)).Yields (start < ·) :=
  Check.yields_bind fun _ _ => Check.yields_pure h

theorem narrowString_yields_gt (data : Bytes) (start : Nat) :
    (narrowString data start).Yields (start < ·) := by
  refine Check.yields_bind fun length _ => ?_
  split
  · exact yields_then_pure (by omega)
  · exact Check.yields_bind fun _ _ => Check.yields_bind fun _ _ => yields_then_pure (by omega)

theorem wideString_yields_gt (data : Bytes) (start : Nat) :
    (wideString data start).Yields (start < ·) := by
  refine Check.yields_bind fun length _ => ?_
  split
  · exact yields_then_pure (by omega)
  · exact Check.yields_bind fun _ _ => Check.yields_bind fun _ _ =>
      Check.yields_bind fun _ _ => yields_then_pure (by omega)

theorem struct_yields_gt (options : ScanOptions) (data : Bytes) (start : Nat) :
    (struct options data start).Yields (start < ·) := by
  refine Check.yields_bind fun length _ => Check.yields_bind fun _ _ =>
    Check.yields_bind fun found _ => ?_
  split
  · exact Check.yields_bind fun _ _ => Check.yields_bind fun _ _ => yields_goto_gt (by omega)
  · exact Check.yields_stop

theorem check_yields_gt (options : ScanOptions) (data : Bytes) (start : Nat) (code : UInt8) :
    (check options data start code).Yields (start < ·) := by
  unfold check
  split
  case h_1 | h_2 => exact Check.yields_pure (by omega)
  case h_3 => exact yields_then_pure (by omega)
  case h_4 => exact narrowString_yields_gt data start
  case h_5 => exact wideString_yields_gt data start
  case h_6 => exact Check.yields_bind fun _ _ => yields_goto_gt (by omega)
  case h_7 => exact struct_yields_gt options data start
  case h_9 | h_12 => exact Check.yields_bind fun _ _ => yields_then_pure (by omega)
  case h_13 => exact yields_goto_gt (by omega)
  all_goals exact yields_then_pure (by omega)

end Instruction

end QbLint
