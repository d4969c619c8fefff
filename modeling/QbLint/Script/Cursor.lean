import QbLint.Script.Jump

/-!
# Cursors

A cursor is a position in a script. Programs of cursor operations read and move; an operation that
fails leaves the position as it was, except that a jump whose field was read stays behind the field.
A block of operations is performed aside: it ends at its first failure, and the position is then the
one before the block however it ended.

* `Cursor.Op.perform`: one operation;
* `Cursor.performAll`: a program, which goes on behind failures.
-/

namespace QbLint.Cursor

/-- Why an operation failed. -/
inductive Failure
  /-- A count of bytes was below zero. -/
  | negativeCount (count : Int)
  /-- A read or a move left the buffer. -/
  | outOfBounds (failure : OutOfBounds)
  deriving DecidableEq

/-- The failure in words. -/
def Failure.message : Failure → String
  | negativeCount count => s!"count must be non-negative, got {count}"
  | outOfBounds failure => failure.message

/-- What an operation comes to. -/
inductive Value
  | nothing
  | number (n : Int)
  | flag (b : Bool)
  | bytes (data : Bytes)
  /-- The position of a jump's field, and whether the jump was found to reach its marker. -/
  | jump (field : Nat) (reached : Bool)
  deriving DecidableEq

/-- The operations. -/
inductive Op
  | byte
  | uint16
  | uint32
  | int16
  | int32
  | bytes (count : Int)
  | skip (count : Int)
  | seek (target : Int)
  | seekAhead (offset : Int)
  | atEnd
  | length
  | remaining
  | contents
  | verify (origin offset : Int) (role : Jump.Role)
  | readAndVerify (role : Jump.Role)
  /-- Operations performed aside. -/
  | lookaside (body : List Op)
  deriving Inhabited

/-- The answer of an operation: its value or failure, or for a block the positions and answers of
its operations up to the failure that ended it. -/
inductive Answer
  | plain (result : Except Failure Value)
  | block (inner : List (Nat × Answer)) (failure : Option Failure)

/-- The failure that an answer holds. -/
def Answer.failure? : Answer → Option Failure
  | plain (.error e) => some e
  | plain (.ok _) => none
  | block _ failure => failure

/-- The unsigned number in `width` bytes, and the position behind it. -/
def unsigned (data : Bytes) (position width : Nat) : Answer × Nat :=
  match data.number position width with
  | .ok n => (.plain (.ok (.number n)), position + width)
  | .error e => (.plain (.error (.outOfBounds e)), position)

/-- The number in `width` bytes whose highest bit is a sign, and the position behind it. -/
def signed (data : Bytes) (position width : Nat) : Answer × Nat :=
  match data.number position width with
  | .ok n => (.plain (.ok (.number ((n : Int).bmod (1 <<< (8 * width))))), position + width)
  | .error e => (.plain (.error (.outOfBounds e)), position)

/-- A move, whose value is made from the new position. -/
def move (data : Bytes) (position : Nat) (target : Int) (value : Nat → Value) : Answer × Nat :=
  match data.goto position target with
  | .ok next => (.plain (.ok (value next)), next)
  | .error e => (.plain (.error (.outOfBounds e)), position)

/-- The field of a jump at `position`, and whether the jump reaches its marker. -/
def readAndVerify (data : Bytes) (position : Nat) (role : Jump.Role) : Answer × Nat :=
  match data.uint16 position with
  | .error e => (.plain (.error (.outOfBounds e)), position)
  | .ok offset =>
    match Jump.verify data (position + 2) position offset role with
    | .ok reached => (.plain (.ok (.jump position reached)), position + 2)
    | .error e => (.plain (.error (.outOfBounds e)), position + 2)

mutual

/-- The answer of an operation at a position, and the position after it. -/
def Op.perform (data : Bytes) (position : Nat) : Op → Answer × Nat
  | .byte => unsigned data position 1
  | .uint16 => unsigned data position 2
  | .uint32 => unsigned data position 4
  | .int16 => signed data position 2
  | .int32 => signed data position 4
  | .bytes count =>
    if count < 0 then (.plain (.error (.negativeCount count)), position)
    else
      match data.slice position count.toNat with
      | .ok bytes => (.plain (.ok (.bytes bytes)), position + count.toNat)
      | .error e => (.plain (.error (.outOfBounds e)), position)
  | .skip count => move data position (position + count) fun _ => .nothing
  | .seek target => move data position target fun next => .number next
  | .seekAhead offset => move data position (position + offset) fun next => .number next
  | .atEnd => (.plain (.ok (.flag (data.size ≤ position))), position)
  | .length => (.plain (.ok (.number data.size)), position)
  | .remaining => (.plain (.ok (.number (data.size - position : Int))), position)
  | .contents => (.plain (.ok (.bytes data)), position)
  | .verify origin offset role =>
    match Jump.verify data position origin offset role with
    | .ok reached => (.plain (.ok (.flag reached)), position)
    | .error e => (.plain (.error (.outOfBounds e)), position)
  | .readAndVerify role => readAndVerify data position role
  | .lookaside body =>
    let (inner, failure) := performBlock data position body
    (.block inner failure, position)

/-- The answers of operations up to the first failure, each with the position after it, and that
failure. -/
def performBlock (data : Bytes) (position : Nat) : List Op → List (Nat × Answer) × Option Failure
  | [] => ([], none)
  | op :: rest =>
    let (answer, after) := op.perform data position
    match answer.failure? with
    | some failure => ([], some failure)
    | none =>
      let (entries, failure) := performBlock data after rest
      ((after, answer) :: entries, failure)

end

/-- The answers of a program, each with the position after it. -/
def performAll (data : Bytes) (position : Nat) : List Op → List (Nat × Answer)
  | [] => []
  | op :: rest =>
    let (answer, after) := op.perform data position
    (after, answer) :: performAll data after rest

end QbLint.Cursor
