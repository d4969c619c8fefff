import QbLint.Text.Hex

/-!
# Script bytes

The bytes of a compiled script and the two ways of getting at them by offset: reading a slice and
going to an offset. Both refuse to leave the buffer, and say where they stood and what they asked
for; neither clamps.

* `Bytes.slice`: the bytes of a window, exactly when the window ends inside the buffer;
* `Bytes.goto`: an offset, exactly when it is one of the buffer's positions or its end;
* `littleEndian`: the number that a run of bytes denotes, least significant byte first;
* `Bytes.endOfZeros`: where a run of zero bytes ends.
-/

namespace QbLint

/-- The bytes of a compiled script. -/
abbrev Bytes := Array UInt8

/-- A read or a move that leaves the buffer: the position it was made from, the offset it needed
and the number of bytes there are. -/
structure OutOfBounds where
  position : Nat
  requested : Int
  length : Nat
  deriving DecidableEq

/-- The failure in words. -/
def OutOfBounds.message (failure : OutOfBounds) : String :=
  if failure.requested < 0 then
    s!"Seek to offset {failure.requested} is before the start of the script"
  else
    s!"Unexpected end of script: offset {Hex.prefixed failure.requested.toNat} is beyond " ++
      s!"the end of the buffer ({failure.length} bytes)"

/-- The number that a run of bytes denotes, least significant byte first. -/
def littleEndian (bytes : List UInt8) : Nat :=
  bytes.foldr (fun b n => b.toNat + 256 * n) 0

namespace Bytes

/-- The `width` bytes from `position` on. -/
def slice (data : Bytes) (position width : Nat) : Except OutOfBounds Bytes :=
  if position + width ≤ data.size then .ok (data.extract position (position + width))
  else .error ⟨position, (position + width : Nat), data.size⟩

/-- An offset that a reader at `position` moves to; the end of the buffer is allowed. -/
def goto (data : Bytes) (position : Nat) (target : Int) : Except OutOfBounds Nat :=
  if 0 ≤ target ∧ target ≤ data.size then .ok target.toNat
  else .error ⟨position, target, data.size⟩

/-- The unsigned number in the `width` bytes from `position` on. -/
def number (data : Bytes) (position width : Nat) : Except OutOfBounds Nat := do
  let bytes ← data.slice position width
  return littleEndian bytes.toList

/-- The byte at a position. -/
def byte (data : Bytes) (position : Nat) : Except OutOfBounds Nat := data.number position 1

/-- The unsigned number in two bytes. -/
def uint16 (data : Bytes) (position : Nat) : Except OutOfBounds Nat := data.number position 2

/-- The unsigned number in four bytes. -/
def uint32 (data : Bytes) (position : Nat) : Except OutOfBounds Nat := data.number position 4

/-- Where the zero bytes that begin at `position` end: the first other byte, or the end of the
buffer. -/
def endOfZeros (data : Bytes) (position : Nat) : Nat :=
  if h : position < data.size then
    if data[position] = 0 then endOfZeros data (position + 1) else position
  else position
termination_by data.size - position

theorem slice_eq_ok {data : Bytes} {position width : Nat} (h : position + width ≤ data.size) :
    data.slice position width = .ok (data.extract position (position + width)) := by
  simp [slice, h]

theorem slice_eq_error {data : Bytes} {position width : Nat} (h : data.size < position + width) :
    data.slice position width = .error ⟨position, (position + width : Nat), data.size⟩ := by
  simp [slice, Nat.not_le.mpr h]

theorem goto_eq_ok {data : Bytes} {position : Nat} {target : Int}
    (h : 0 ≤ target) (h' : target ≤ data.size) : data.goto position target = .ok target.toNat := by
  simp [goto, h, h']

end Bytes

end QbLint
