import QbLint.Bytes
import QbLint.Script.Opcode

/-!
# Jumps

A jump holds an unsigned distance, counted from the field that holds it. What it must reach depends
on its role, and is recognised by a marker: a byte pattern at a fixed shift from the landing point.
A jump past an `else` lands behind that opcode's own distance field, four bytes after the line break
that precedes it; one past an `endif` lands right behind it; one to an `elseif` lands on it.

* `Jump.Role.markers`: what a role looks for;
* `Jump.verify`: whether some marker of the role is there. Every marker is read, so that a window
  outside the buffer fails even behind a marker that was found.
-/

namespace QbLint.Jump

/-- What a jump must reach. -/
inductive Role
  | nextBranch | endif | endSwitch | nextCase
  deriving DecidableEq, Inhabited

/-- A byte pattern expected at `shift` from the landing point. -/
structure Marker where
  shift : Int
  pattern : Bytes
  deriving DecidableEq

namespace Role

/-- The name of a role in log messages. -/
def name : Role → String
  | nextBranch => "next branch"
  | endif => "endif"
  | endSwitch => "end switch"
  | nextCase => "next case"

/-- The markers of a role, in the order in which they are read. -/
def markers : Role → List Marker
  | nextBranch =>
    [⟨-4, #[Opcode.newline, Opcode.otherwise]⟩, ⟨-2, #[Opcode.newline, Opcode.endif]⟩,
      ⟨0, #[Opcode.elseif]⟩]
  | endif => [⟨-2, #[Opcode.newline, Opcode.endif]⟩]
  | endSwitch => [⟨-2, #[Opcode.newline, Opcode.endSwitch]⟩]
  | nextCase => [⟨0, #[Opcode.endSwitch]⟩, ⟨0, #[Opcode.case]⟩, ⟨0, #[Opcode.default]⟩]

end Role

/-- Where a jump with its field at `origin` lands. -/
def landing (origin offset : Int) : Int := origin + offset

/-- Whether some marker stands where a jump lands; a reader at `position` goes from each marker's
window to the next. -/
def anyMarker (data : Bytes) (position : Nat) (landing : Int) :
    List Marker → Except OutOfBounds Bool
  | [] => return false
  | marker :: rest => do
    let window ← data.goto position (landing + marker.shift)
    let found ← data.slice window marker.pattern.size
    let others ← anyMarker data (window + marker.pattern.size) landing rest
    return found == marker.pattern || others

/-- Whether a jump lands on one of the markers of its role, found by a reader at `position`. -/
def verify (data : Bytes) (position : Nat) (origin offset : Int) (role : Role) :
    Except OutOfBounds Bool :=
  anyMarker data position (landing origin offset) role.markers

end QbLint.Jump
