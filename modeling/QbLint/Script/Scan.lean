import QbLint.Script.Instruction

/-!
# The scan

A scan walks over a script from its first byte, one instruction a step, until the bytes end or a
step has to stop. What it found is what its steps found, in their order, and then either the
reason for stopping or the blocks still open.

* `Scan.walk`: the steps;
* `Scan.walkOnto_eq_append`: the walk from an offset does not depend on how it got there;
* `Scan.run`: what a scan finds.
-/

namespace QbLint

/-- The fatal diagnostic of a step at `start` that had to stop. -/
def Abort.diagnostic (start : Nat) : Abort → Diagnostic
  | .outOfBounds _ failure =>
    Rule.truncatedScript.abort failure.message start [("requested", .int failure.requested)]
  | .structHeader position header =>
    Rule.structHeaderInvalid.abort "Invalid struct header" position
      [("header", .text (Hex.prefixed header)), ("reason", .text "Cannot continue decompilation")]

/-- Where the reader of a step stands when the step has to stop. -/
def Abort.reader : Abort → Nat
  | .outOfBounds reader _ => reader
  | .structHeader position _ => position + 4

/-- One instruction of a walk: where it begins, what it found, where the next one begins unless it
had to stop, and the depths behind it. -/
structure Step where
  start : Nat
  found : List Diagnostic
  next : Except Abort Nat
  depths : Depths

/-- The step at an offset that holds `code`, from given depths. -/
def Step.take (options : ScanOptions) (data : Bytes) (start : Nat) (code : UInt8)
    (depths : Depths) : Step :=
  let check := Instruction.check options data start code
  match Form.ofOpcode code with
  | .opening kind => ⟨start, check.found, check.value, depths.enter kind⟩
  | .closing kind =>
    let (depths, found) := depths.close kind start
    ⟨start, check.found ++ found, check.value, depths⟩
  | _ => ⟨start, check.found, check.value, depths⟩

theorem Step.take_next (options : ScanOptions) (data : Bytes) (start : Nat) (code : UInt8)
    (depths : Depths) :
    (Step.take options data start code depths).next =
      (Instruction.check options data start code).value := by
  unfold Step.take
  dsimp only
  split <;> rfl

/-- Where the reader stands after a step. -/
def Step.reader (step : Step) : Nat :=
  match step.next with
  | .ok next => next
  | .error abort => abort.reader

namespace Scan

/-- The steps from an offset on, behind those of `done`, which are in reverse order. -/
def walkOnto (options : ScanOptions) (data : Bytes) (start : Nat) (depths : Depths)
    (done : List Step) : List Step :=
  if h : start < data.size then
    let step := Step.take options data start data[start] depths
    match hn : step.next with
    | .ok next => walkOnto options data next step.depths (step :: done)
    | .error _ => (step :: done).reverse
  else done.reverse
termination_by data.size - start
decreasing_by
  have : start < next :=
    Instruction.check_yields_gt options data start _ next ((Step.take_next ..).symm.trans hn)
  omega

theorem walkOnto_of_ok {options : ScanOptions} {data : Bytes} {start next : Nat} {depths : Depths}
    {done : List Step} (h : start < data.size)
    (hn : (Step.take options data start data[start] depths).next = .ok next) :
    walkOnto options data start depths done =
      walkOnto options data next (Step.take options data start data[start] depths).depths
        (Step.take options data start data[start] depths :: done) := by
  rw [walkOnto, dif_pos h]
  dsimp only
  split
  · rename_i next' hn'
    cases hn.symm.trans hn'
    rfl
  · rename_i hn'
    cases hn.symm.trans hn'

theorem walkOnto_of_error {options : ScanOptions} {data : Bytes} {start : Nat} {abort : Abort}
    {depths : Depths} {done : List Step} (h : start < data.size)
    (hn : (Step.take options data start data[start] depths).next = .error abort) :
    walkOnto options data start depths done =
      (Step.take options data start data[start] depths :: done).reverse := by
  rw [walkOnto, dif_pos h]
  dsimp only
  split
  · rename_i hn'
    cases hn.symm.trans hn'
  · rfl

theorem walkOnto_of_end {options : ScanOptions} {data : Bytes} {start : Nat} {depths : Depths}
    {done : List Step} (h : ¬ start < data.size) :
    walkOnto options data start depths done = done.reverse := by
  rw [walkOnto, dif_neg h]

theorem walkOnto_eq_append (options : ScanOptions) (data : Bytes) (start : Nat) (depths : Depths)
    (done : List Step) :
    walkOnto options data start depths done =
      done.reverse ++ walkOnto options data start depths [] := by
  by_cases h : start < data.size
  · cases hn : (Step.take options data start data[start] depths).next with
    | ok next =>
      have : start < next :=
        Instruction.check_yields_gt options data start _ next ((Step.take_next ..).symm.trans hn)
      rw [walkOnto_of_ok h hn, walkOnto_of_ok h hn, walkOnto_eq_append _ _ next,
        walkOnto_eq_append _ _ next _ [_]]
      simp
    | error abort => simp [walkOnto_of_error h hn]
  · simp [walkOnto_of_end h]
termination_by data.size - start

/-- The steps of a scan. -/
def walk (options : ScanOptions) (data : Bytes) : List Step := walkOnto options data 0 {} []

/-- What the end of a walk adds: the reason why its last step stopped, or else the blocks still
open if the options ask for them. -/
def closing (options : ScanOptions) (data : Bytes) (last : Option Step) : List Diagnostic :=
  match last with
  | some ⟨start, _, .error abort, _⟩ => [abort.diagnostic start]
  | some ⟨_, _, .ok _, depths⟩ => if options.checkBalance then depths.unclosed data.size else []
  | none => []

/-- How far a walk came: past all of its steps but one that had to stop. -/
def reach (last : Option Step) : Nat :=
  match last with
  | some ⟨start, _, .error _, _⟩ => start
  | some ⟨_, _, .ok next, _⟩ => next
  | none => 0

/-- What a scan finds in a script. -/
def run (options : ScanOptions) (data : Bytes) : Outcome :=
  let steps := walk options data
  let last := steps.getLast?
  { diagnostics := steps.flatMap (·.found) ++ closing options data last
    bytesScanned := reach last }

end Scan

end QbLint
