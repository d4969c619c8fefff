import QbLint.Script.Nesting

/-!
# Opcodes

Every instruction begins with one byte. The byte decides the form of what follows; a byte without a
form of its own is a bare instruction, legal exactly if it is in the table of known opcodes.

* `Form.ofOpcode`: what follows an opcode byte;
* `Opcode.isKnown`: the table, whose entry 37 stands for 37 to 39 in the corrected table.
-/

namespace QbLint

namespace Opcode

/-- A line break, the first byte of most jump markers. -/
abbrev newline : UInt8 := 0x01

/-- The first opcode of an if statement's second and later branches. -/
abbrev elseif : UInt8 := 0x27

/-- The end of an if statement. -/
abbrev endif : UInt8 := 0x28

/-- The end of a switch. -/
abbrev endSwitch : UInt8 := 0x3D

/-- A case of a switch. -/
abbrev case : UInt8 := 0x3E

/-- The default case of a switch. -/
abbrev default : UInt8 := 0x3F

/-- The last branch of an if statement. -/
abbrev otherwise : UInt8 := 0x48

/-- A jump out of a switch, also the byte that follows a case opcode. -/
abbrev shortJump : UInt8 := 0x49

/-- The known opcodes as inclusive ranges. -/
def ranges (corrected : Bool) : List (Nat × Nat) :=
  [(0x01, 0x01), (0x03, 0x0F), (0x12, 0x18), (0x1A, 0x1B), (0x1E, 0x22), (0x24, 0x24),
    (0x27, 0x29), (0x2C, 0x34), (0x37, if corrected then 0x39 else 0x37), (0x3C, 0x42),
    (0x47, 0x4D)]

/-- Whether a code is in the table of known opcodes. -/
def isKnown (corrected : Bool) (code : Int) : Bool :=
  (ranges corrected).any fun (low, high) => low ≤ code && code ≤ high

end Opcode

/-- What follows an opcode byte. -/
inductive Form
  /-- The beginning of a block. -/
  | opening (kind : BlockKind)
  /-- The end of a block. -/
  | closing (kind : BlockKind)
  /-- The end of the script. -/
  | endOfScript
  /-- A four-byte length and a string of bytes. -/
  | narrowString
  /-- A four-byte length and a string of two-byte units. -/
  | wideString
  /-- A two-byte count and that many records. -/
  | recordTable
  /-- A two-byte length, zero padding, a header and the items. -/
  | struct
  /-- A jump to the next branch. -/
  | ifBranch
  /-- A jump to the next branch and one to the end of the statement. -/
  | elseifBranch
  /-- A jump to the end of the statement. -/
  | elseBranch
  /-- A jump to the end of a switch. -/
  | switchJump
  /-- A short-jump byte and a jump to the next case. -/
  | switchCase
  /-- An operand of a fixed size. -/
  | operand (size : Nat)
  /-- Nothing. -/
  | bare
  deriving DecidableEq, Inhabited

/-- The form of the instruction that begins with a byte. -/
def Form.ofOpcode (code : UInt8) : Form :=
  match code with
  | 0x03 => opening .dict
  | 0x04 => closing .dict
  | 0x05 => opening .array
  | 0x06 => closing .array
  | 0x0E => opening .paren
  | 0x0F => closing .paren
  | 0x16 | 0x17 | 0x18 | 0x1A | 0x2E => operand 4
  | 0x1E => operand 12
  | 0x1F => operand 8
  | 0x1B => narrowString
  | 0x4C => wideString
  | 0x2F => recordTable
  | 0x4A => struct
  | 0x24 => endOfScript
  | 0x47 => ifBranch
  | 0x27 => elseifBranch
  | 0x48 => elseBranch
  | 0x49 => switchJump
  | 0x3E => switchCase
  | _ => bare

end QbLint
