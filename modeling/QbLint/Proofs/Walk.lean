import QbLint.Script.Scan

/-!
# Walks

The steps of a scan as a relation: a walk from an offset, with given depths, goes on to the end of
the bytes or to the first step that has to stop.

* `Walks`: the relation, on which proofs about scans are by induction;
* `Walks.eq_nil`, `Walks.of_stop`, `Walks.of_next`: what a walk is at the end of the bytes, and from
  a byte whose step is known;
* `walks_walkOnto`, `Walks.unique`: every walk comes to an end, and in one way only.
-/

namespace QbLint

/-- The steps lead from an offset, with given depths, to the end of the bytes or to a step that has
to stop. -/
inductive Walks (options : ScanOptions) (data : Bytes) : Nat → Depths → List Step → Prop
  /-- There is no byte left. -/
  | done {start : Nat} {depths : Depths} (hs : data.size ≤ start) :
    Walks options data start depths []
  /-- The step has to stop. -/
  | stop {start : Nat} {depths : Depths} {code : UInt8} {abort : Abort}
    (hc : data[start]? = some code)
    (hn : (Step.take options data start code depths).next = .error abort) :
    Walks options data start depths [Step.take options data start code depths]
  /-- The step comes to the offset from which the walk goes on. -/
  | step {start next : Nat} {depths : Depths} {code : UInt8} {steps : List Step}
    (hc : data[start]? = some code)
    (hn : (Step.take options data start code depths).next = .ok next)
    (rest : Walks options data next (Step.take options data start code depths).depths steps) :
    Walks options data start depths (Step.take options data start code depths :: steps)

variable {options : ScanOptions} {data : Bytes} {start next : Nat} {depths : Depths}
  {code : UInt8} {steps : List Step}

/-- A step that does not stop comes to an offset further on. -/
theorem Step.lt_of_next (hn : (Step.take options data start code depths).next = .ok next) :
    start < next :=
  Instruction.check_yields_gt options data start code next ((Step.take_next ..).symm.trans hn)

/-- From every offset there is a walk, by induction on the bytes that are left. -/
theorem walks_walkOnto (options : ScanOptions) (data : Bytes) (start : Nat) (depths : Depths) :
    Walks options data start depths (Scan.walkOnto options data start depths []) := by
  by_cases h : start < data.size
  · have hc : data[start]? = some data[start] := Array.getElem?_eq_getElem h
    cases hn : (Step.take options data start data[start] depths).next with
    | error abort =>
      rw [Scan.walkOnto_of_error h hn]
      exact .stop hc hn
    | ok next =>
      have := Step.lt_of_next hn
      rw [Scan.walkOnto_of_ok h hn, Scan.walkOnto_eq_append]
      exact .step hc hn (walks_walkOnto options data next _)
  · rw [Scan.walkOnto_of_end h]
    exact .done (Nat.not_lt.mp h)
termination_by data.size - start

theorem walks_walk (options : ScanOptions) (data : Bytes) :
    Walks options data 0 {} (Scan.walk options data) :=
  walks_walkOnto options data 0 {}

/-- At the end of the bytes there are no steps. -/
theorem Walks.eq_nil (h : Walks options data start depths steps) (hs : data.size ≤ start) :
    steps = [] := by
  cases h with
  | done => rfl
  | stop hc _ | step hc _ _ => rw [Array.getElem?_eq_none hs] at hc; cases hc

/-- A step that has to stop is the only one. -/
theorem Walks.of_stop {abort : Abort} (h : Walks options data start depths steps)
    (hc : data[start]? = some code)
    (hn : (Step.take options data start code depths).next = .error abort) :
    steps = [Step.take options data start code depths] := by
  cases h with
  | done hs => rw [Array.getElem?_eq_none hs] at hc; cases hc
  | stop hc' _ => cases hc.symm.trans hc'; rfl
  | step hc' hn' _ => cases hc.symm.trans hc'; cases hn.symm.trans hn'

/-- Behind a step the walk goes on from where the step came to. -/
theorem Walks.of_next (h : Walks options data start depths steps) (hc : data[start]? = some code)
    (hn : (Step.take options data start code depths).next = .ok next) :
    ∃ rest, steps = Step.take options data start code depths :: rest ∧
      Walks options data next (Step.take options data start code depths).depths rest := by
  cases h with
  | done hs => rw [Array.getElem?_eq_none hs] at hc; cases hc
  | stop hc' hn' => cases hc.symm.trans hc'; cases hn.symm.trans hn'
  | step hc' hn' rest =>
    cases hc.symm.trans hc'
    cases hn.symm.trans hn'
    exact ⟨_, rfl, rest⟩

/-- There is only one walk. -/
theorem Walks.unique {others : List Step} (h : Walks options data start depths steps)
    (h' : Walks options data start depths others) : steps = others := by
  induction h generalizing others with
  | done hs => exact (h'.eq_nil hs).symm
  | stop hc hn => exact (h'.of_stop hc hn).symm
  | step hc hn _ ih =>
    obtain ⟨rest, rfl, hrest⟩ := h'.of_next hc hn
    rw [ih hrest]

end QbLint
