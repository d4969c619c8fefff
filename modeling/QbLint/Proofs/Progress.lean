import Mathlib.Data.List.Chain
import QbLint.Proofs.Extent
import QbLint.Proofs.Walk

/-!
# Progress

A scan comes to an end, and the bytes alone say which offsets it visits. Of a walk, by induction:

* `Walks.mem_take`, `Walks.chain`: each step is taken where the one before it came to;
* `Walks.le_start`, `Walks.pairwise`: its steps begin further and further on;
* `Walks.nexts_congr`: the options do not matter to it;
* `Walks.reach`: it covers the whole buffer unless its last step stops;
* `Walks.of_newline`: over a line break it goes on, and reports nothing.

`Scan.run_progress` states this of a scan, with the number of bytes each step passes over.
-/

namespace QbLint

@[simp] theorem Step.take_start (options : ScanOptions) (data : Bytes) (start : Nat) (code : UInt8)
    (depths : Depths) : (Step.take options data start code depths).start = start := by
  unfold Step.take
  dsimp only
  split <;> rfl

variable {options other : ScanOptions} {data : Bytes} {start next : Nat} {depths depths' : Depths}
  {code : UInt8} {steps steps' : List Step}

/-- A step that does not stop comes to the end of its instruction, inside the buffer. -/
theorem Step.next_eq (hc : data[start]? = some code)
    (hn : (Step.take options data start code depths).next = .ok next) :
    next = start + Instruction.extent data start ∧ next ≤ data.size :=
  Instruction.check_value hc ((Step.take_next ..).symm.trans hn)

/-- Each step of a walk is taken where it begins. -/
theorem Walks.mem_take (h : Walks options data start depths steps) {step : Step}
    (hs : step ∈ steps) : ∃ code depths, data[step.start]? = some code ∧
      step = Step.take options data step.start code depths := by
  induction h with
  | done => cases hs
  | @stop _ depths code _ hc _ =>
    obtain rfl := List.mem_singleton.mp hs
    exact ⟨code, depths, by rwa [Step.take_start], by rw [Step.take_start]⟩
  | @step _ _ depths code _ hc _ _ ih =>
    rcases List.mem_cons.mp hs with rfl | hs
    · exact ⟨code, depths, by rwa [Step.take_start], by rw [Step.take_start]⟩
    · exact ih hs

/-- A walk with steps begins inside the buffer. -/
theorem Walks.lt_size (h : Walks options data start depths steps) (hs : steps ≠ []) :
    start < data.size := by
  cases h with
  | done => exact absurd rfl hs
  | stop hc _ | step hc _ _ => exact (Array.getElem?_eq_some_iff.mp hc).1

/-- A walk from a byte begins at it. -/
theorem Walks.head?_start (h : Walks options data start depths steps) (hs : start < data.size) :
    steps.head?.map (·.start) = some start := by
  cases h with
  | done hs' => omega
  | stop | step => simp

/-- Each step begins where the one before it came to. -/
theorem Walks.chain (h : Walks options data start depths steps) :
    steps.IsChain fun step step' => step.next = .ok step'.start := by
  induction h with
  | done => exact .nil
  | stop => exact .singleton _
  | step _ hn rest ih =>
    cases rest with
    | done => exact .singleton _
    | stop | step => exact .cons_cons (by simpa using hn) ih

theorem Walks.le_start (h : Walks options data start depths steps) {step : Step}
    (hs : step ∈ steps) : start ≤ step.start := by
  induction h with
  | done => cases hs
  | stop =>
    obtain rfl := List.mem_singleton.mp hs
    simp
  | step _ hn _ ih =>
    rcases List.mem_cons.mp hs with rfl | hs
    · simp
    · have := Step.lt_of_next hn
      have := ih hs
      omega

/-- The steps of a walk begin further and further on. -/
theorem Walks.pairwise (h : Walks options data start depths steps) :
    (steps.map (·.start)).Pairwise (· < ·) := by
  induction h with
  | done => exact .nil
  | stop => exact List.pairwise_singleton ..
  | step _ hn rest ih =>
    refine List.pairwise_cons.mpr ⟨fun start' hs => ?_, ih⟩
    obtain ⟨step, hm, rfl⟩ := List.mem_map.mp hs
    have := Step.lt_of_next hn
    have := rest.le_start hm
    change (Step.take ..).start < _
    rw [Step.take_start]
    omega

/-- Walks with other options and other depths begin their steps at the same offsets, and come to the
same. -/
theorem Walks.nexts_congr (h : Walks options data start depths steps)
    (h' : Walks other data start depths' steps') :
    steps.map (fun step => (step.start, step.next)) =
      steps'.map (fun step => (step.start, step.next)) := by
  have hnext : ∀ start code depths depths',
      (Step.take options data start code depths).next =
        (Step.take other data start code depths').next := fun start code depths depths' => by
    rw [Step.take_next, Step.take_next, Instruction.check_value_congr]
  induction h generalizing depths' steps' with
  | done hs => rw [h'.eq_nil hs, List.map_nil]
  | @stop _ depths _ _ hc hn =>
    rw [h'.of_stop hc ((hnext _ _ depths depths').symm.trans hn), List.map_singleton,
      List.map_singleton, hnext _ _ depths depths', Step.take_start, Step.take_start]
  | @step _ _ depths _ _ hc hn _ ih =>
    obtain ⟨rest, rfl, hrest⟩ := h'.of_next hc ((hnext _ _ depths depths').symm.trans hn)
    rw [List.map_cons, List.map_cons, ih hrest, hnext _ _ depths depths', Step.take_start,
      Step.take_start]

/-- A walk comes to the end of the buffer, unless its last step stops. -/
theorem Walks.reach (h : Walks options data start depths steps) (hle : start ≤ data.size) :
    ((∀ step ∈ steps, ∃ next, step.next = .ok next) ∧
        (steps = [] ∧ start = data.size ∨
          ∃ last ∈ steps.getLast?, last.next = .ok data.size)) ∨
      ∃ last ∈ steps.getLast?, ∃ abort, last.next = .error abort ∧ last.start < data.size := by
  induction h with
  | done hs => exact .inl ⟨nofun, .inl ⟨rfl, Nat.le_antisymm hle hs⟩⟩
  | stop hc hn =>
    have hs := (Array.getElem?_eq_some_iff.mp hc).1
    exact .inr ⟨Step.take .., rfl, _, hn, by rwa [Step.take_start]⟩
  | step hc hn rest ih =>
    rcases ih (Step.next_eq hc hn).2 with ⟨hok, hl⟩ | ⟨last, hl, hab⟩
    · refine .inl ⟨List.forall_mem_cons.mpr ⟨⟨_, hn⟩, hok⟩, .inr ?_⟩
      rcases hl with ⟨rfl, rfl⟩ | ⟨last, hl, hlast⟩
      · exact ⟨_, rfl, hn⟩
      · exact ⟨last, List.mem_getLast?_cons hl, hlast⟩
    · exact .inr ⟨last, List.mem_getLast?_cons hl, hab⟩

/-! ## Line breaks -/

theorem Step.take_newline (options : ScanOptions) (data : Bytes) (start : Nat) (depths : Depths) :
    Step.take options data start Opcode.newline depths = ⟨start, [], .ok (start + 1), depths⟩ := by
  have hk : Opcode.isKnown options.correctedRanges Opcode.newline.toNat = true := by
    cases options.correctedRanges <;> decide
  have hb : Instruction.bare options Opcode.newline start = ⟨[], .ok (start + 1)⟩ := by
    simp [Instruction.bare, Check.bind_def, Check.andThen, Check.reportIf, Check.pure_def, hk]
  change Step.mk start (Instruction.bare options Opcode.newline start).found
    (Instruction.bare options Opcode.newline start).value depths = _
  rw [hb]

/-- Over a line break a walk goes on, and reports nothing. -/
theorem Walks.of_newline (h : Walks options data start depths steps)
    (hc : data[start]? = some Opcode.newline) :
    ∃ rest, steps = ⟨start, [], .ok (start + 1), depths⟩ :: rest ∧
      Walks options data (start + 1) depths rest := by
  obtain ⟨rest, rfl, hrest⟩ := h.of_next hc (by rw [Step.take_newline])
  rw [Step.take_newline] at hrest ⊢
  exact ⟨rest, rfl, hrest⟩

/-! ## Scans -/

namespace Scan

theorem reach_of_ok {step : Step} (hn : step.next = .ok next) : reach (some step) = next := by
  obtain ⟨_, _, _, _⟩ := step
  obtain rfl := hn
  rfl

theorem reach_of_error {step : Step} {abort : Abort} (hn : step.next = .error abort) :
    reach (some step) = step.start := by
  obtain ⟨_, _, _, _⟩ := step
  obtain rfl := hn
  rfl

/-- A scan comes to an end, in one way only: its steps begin at the first byte, each begins where
the one before it came to, and they begin further and further on. A step that does not stop passes
over as many bytes as the bytes say, at least one and none beyond the buffer; with other options the
steps begin at the same offsets and come to the same. The scan has passed over the whole buffer, or
its last step stopped and it has come to where that step begins. -/
theorem run_progress (options : ScanOptions) (data : Bytes) :
    (∃! steps, Walks options data 0 {} steps) ∧ Walks options data 0 {} (walk options data) ∧
    (0 < data.size → (walk options data).head?.map (·.start) = some 0) ∧
    (walk options data).IsChain (fun step step' => step.next = .ok step'.start) ∧
    ((walk options data).map (·.start)).Pairwise (· < ·) ∧
    (∀ step ∈ walk options data, ∀ next, step.next = .ok next →
      next = step.start + Instruction.extent data step.start ∧
        step.start < next ∧ next ≤ data.size) ∧
    (∀ other, (walk other data).map (fun step => (step.start, step.next)) =
      (walk options data).map (fun step => (step.start, step.next))) ∧
    ((∀ step ∈ walk options data, ∃ next, step.next = .ok next) ∧
        (∀ last ∈ (walk options data).getLast?, last.next = .ok data.size) ∧
        (run options data).bytesScanned = data.size ∨
      ∃ last ∈ (walk options data).getLast?, (∃ abort, last.next = .error abort) ∧
        (run options data).bytesScanned = last.start ∧ last.start < data.size) := by
  have h := walks_walk options data
  refine ⟨⟨_, h, fun steps h' => h'.unique h⟩, h, h.head?_start, h.chain, h.pairwise,
    fun step hs next hn => ?_, fun other => (walks_walk other data).nexts_congr h, ?_⟩
  · obtain ⟨code, depths, hc, hstep⟩ := h.mem_take hs
    rw [hstep] at hn
    have := Step.next_eq hc hn
    have := Step.lt_of_next hn
    omega
  · rcases h.reach (Nat.zero_le _) with ⟨hok, hl⟩ | ⟨last, hl, abort, hab, hlt⟩
    · refine .inl ⟨hok, ?_⟩
      rcases hl with ⟨hnil, hsize⟩ | ⟨last, hl, hlast⟩
      · simp [run, hnil, reach, ← hsize]
      · refine ⟨fun last' hl' => ?_, ?_⟩
        · cases hl.symm.trans hl'
          exact hlast
        · rw [run, Option.mem_def.mp hl, reach_of_ok hlast]
    · refine .inr ⟨last, hl, ⟨abort, hab⟩, ?_, hlt⟩
      rw [run, Option.mem_def.mp hl, reach_of_error hab]

end Scan

end QbLint
