import QbLint.Proofs.Outcome
import QbLint.Proofs.Replay

/-!
# Scripts with bytes behind them

What a scan finds in a script it also finds, first of all, in the script with more bytes behind it.
The reads that succeed are the same; one that fails at the end of the script may succeed behind it,
but one that fails before its beginning fails again, and so does one of a struct's header.

* `Abort.Final`: the reasons to stop that more bytes do not remove;
* `Agreement.extension`, `replays_append`: the comparison of a script with an extension of it;
* `Scan.EndsScript`: a script that ends with the end of a script, the one instruction that looks at
  what follows;
* `Scan.walk_append_of_not_aborted`, `Scan.run_append_of_final`: what the first scan came to decides
  how far the second one follows it;
* `Scan.run_append`: the comparison of the two scans.
-/

namespace QbLint

/-- More bytes behind a script do not remove the reason to stop. -/
def Abort.Final : Abort → Prop
  | .outOfBounds _ failure => failure.requested < 0
  | .structHeader _ _ => True

theorem Abort.final_of_diagnostic {abort : Abort} {start : Nat}
    (h : (abort.diagnostic start).ruleId = Rule.structHeaderInvalid.id ∨
      ∃ requested < 0, ("requested", .int requested) ∈ (abort.diagnostic start).metadata) :
    abort.Final := by
  have hne : Rule.truncatedScript.id ≠ Rule.structHeaderInvalid.id := by decide
  rw [← beforeStart_iff] at h
  cases abort with
  | outOfBounds reader failure => exact h.resolve_left hne
  | structHeader position header => trivial

/-- A failure before the beginning of a script reads the same whatever its length. -/
theorem OutOfBounds.message_of_neg {failure other : OutOfBounds} (h : failure.requested < 0)
    (hr : other.requested = failure.requested) : other.message = failure.message := by
  rw [message, message, hr, if_pos h, if_pos h]

/-- The second run reports what the first one does, and if the first stops for good, it stops with
the same diagnostic. -/
def Agreement.extension : Agreement where
  same f f' := f' = f
  stopped f e f' r := f <+: f' ∧ (e.Final → f' = f ∧ ∃ e', r = some e' ∧
    ∀ start, e'.diagnostic start = e.diagnostic start)
  same_nil := rfl
  same_append := by
    rintro a b a' b' rfl rfl
    rfl
  stopped_append := by
    rintro a b a' b' e r hs ⟨hp, hf⟩
    obtain rfl : a = a' := hs.symm
    refine ⟨(List.prefix_append_right_inj a).mpr hp, fun hfinal => ?_⟩
    obtain ⟨rfl, hr⟩ := hf hfinal
    exact ⟨rfl, hr⟩
  stopped_more := by
    rintro a a' b' e r ⟨hp, hf⟩
    refine ⟨hp.trans (List.prefix_append ..), fun hfinal => ?_⟩
    obtain ⟨-, e', hnone, -⟩ := hf hfinal
    cases hnone

namespace Bytes

variable {a b : Bytes} {position width : Nat}

theorem getElem?_append_of_some {code : UInt8} (h : a[position]? = some code) :
    (a ++ b)[position]? = some code := by
  rw [Array.getElem?_append_left (Array.getElem?_eq_some_iff.mp h).1, h]

theorem slice_append (h : position + width ≤ a.size) :
    (a ++ b).slice position width = a.slice position width := by
  have hb : position + width ≤ (a ++ b).size := by rw [Array.size_append]; omega
  have hempty : b.extract (position - a.size) (position + width - a.size) = #[] := by
    rw [Array.extract_eq_empty_iff]
    omega
  rw [slice_eq_ok h, slice_eq_ok hb, Array.extract_append, hempty, Array.append_empty]

/-- A run of zeros that ends at another byte ends there whatever follows. -/
theorem endOfZeros_append (h : a.endOfZeros position < a.size) :
    (a ++ b).endOfZeros position = a.endOfZeros position := by
  rw [endOfZeros_eq] at h ⊢
  rw [endOfZeros_eq]
  have hne : ((a.toList.drop position).takeWhile (· = 0)).length ≠
      (a.toList.drop position).length := by
    have hl : a.toList.length = a.size := Array.length_toList
    rw [List.length_drop, hl]
    unfold zeros at h
    omega
  rw [zeros, Array.toList_append,
    List.drop_append_of_le_length (by rw [Array.length_toList]; omega), List.takeWhile_append,
    if_neg hne, zeros]

end Bytes

open Check (Agrees agrees_report agrees_reportIf agrees_bind agrees_pure readAside)

theorem reads_append (a b : Bytes) : Reads .extension a (a ++ b) 0 where
  slice reader width position position' hp := by
    obtain rfl : position = position' := hp.symm
    by_cases h : position + width ≤ a.size
    · rw [Nat.add_zero, Bytes.slice_append h, Bytes.slice_eq_ok h]
      exact agrees_pure rfl
    · rw [Bytes.slice_eq_error (Nat.not_le.mp h)]
      refine ⟨List.nil_prefix, fun hfinal => ?_⟩
      exact absurd hfinal (Int.not_lt.mpr (Int.natCast_nonneg _))
  goto reader position position' target target' hp ht := by
    obtain rfl : position = position' := hp.symm
    obtain rfl : target = target' := (ht.trans (Int.add_zero target)).symm
    by_cases h : 0 ≤ target ∧ target ≤ a.size
    · have hb : target ≤ (a ++ b).size := by rw [Array.size_append]; omega
      rw [Bytes.goto_eq_ok h.1 h.2, Bytes.goto_eq_ok h.1 hb]
      exact agrees_pure rfl
    · rw [Bytes.goto, if_neg h]
      refine ⟨List.nil_prefix, fun hfinal => ⟨Check.found_readAside .., ?_⟩⟩
      have hneg : target < 0 := hfinal
      rw [Bytes.goto, if_neg (by omega)]
      have hm : OutOfBounds.message ⟨position, target, (a ++ b).size⟩ =
          OutOfBounds.message ⟨position, target, a.size⟩ := OutOfBounds.message_of_neg hneg rfl
      exact ⟨_, rfl, fun start => by rw [Abort.diagnostic, Abort.diagnostic, hm]⟩

/-- The checks of a script with more bytes behind it follow those of the script. -/
theorem replays_append (options : ScanOptions) (a b : Bytes) :
    Replays .extension options options a (a ++ b) 0 where
  toReads := reads_append a b
  aligned := rfl
  endOfZeros {position position'} hp := by
    obtain rfl : position = position' := hp.symm
    by_cases h : a.endOfZeros position < a.size
    · rw [Bytes.endOfZeros_append h]
      exact Check.agrees_mono ((reads_append a b).read_number 1 rfl) fun _ _ _ => rfl
    · have hb : a.byte (a.endOfZeros position) =
          .error ⟨a.endOfZeros position, (a.endOfZeros position + 1 : Nat), a.size⟩ := by
        rw [Bytes.byte, Bytes.number, Bytes.slice_eq_error (by omega)]
        rfl
      rw [hb]
      refine ⟨List.nil_prefix, fun hfinal => ?_⟩
      exact absurd hfinal (Int.not_lt.mpr (Int.natCast_nonneg _))
  structHeader _ _ := ⟨List.nil_prefix, fun _ => ⟨rfl, _, rfl, fun _ => rfl⟩⟩
  report rule message {position position'} hp := by
    obtain rfl : position = position' := hp.symm
    rfl
  tooLong padding {position position'} hp := by
    obtain rfl : position = position' := hp.symm
    exact agrees_reportIf Iff.rfl rfl
  bare code start :=
    agrees_bind (agrees_reportIf Iff.rfl rfl) fun _ _ _ => agrees_pure rfl

/-! ## Steps -/

variable {options : ScanOptions} {a b : Bytes} {step step' : Step} {next : Nat}

theorem Form.eq_endOfScript {code : UInt8} (h : Form.ofOpcode code = .endOfScript) :
    code = 0x24 := by
  revert h
  fun_cases Form.ofOpcode code <;> rintro ⟨⟩
  rfl

/-- The diagnostic of an end of a script that has bytes behind it. -/
def earlyEnd (position : Nat) : Diagnostic :=
  Rule.endBeforeEof.report "End of script found before end of file." position

theorem Step.take_endOfScript (options : ScanOptions) (data : Bytes) (start : Nat)
    (depths : Depths) : Step.take options data start 0x24 depths =
      ⟨start, if start + 1 < data.size then [earlyEnd start] else [], .ok (start + 1), depths⟩ := by
  change Step.mk start (Instruction.endOfScript data start).found
    (Instruction.endOfScript data start).value depths = _
  simp [Instruction.endOfScript, Check.bind_def, Check.andThen, Check.reportIf, Check.pure_def,
    earlyEnd]

/-- The step is over the end of a script, on the last byte. -/
def Step.AtEnd (data : Bytes) (step : Step) : Prop :=
  data[step.start]? = some 0x24 ∧ step.start + 1 = data.size

instance (data : Bytes) (step : Step) : Decidable (step.AtEnd data) :=
  inferInstanceAs (Decidable (_ ∧ _))

/-- The step beside another follows it, but for the end of the script on the last byte, which alone
looks at what is behind it. -/
theorem Step.Beside.agrees_append (h : Step.Beside options options a (a ++ b) 0 step step')
    (hend : ¬ step.AtEnd a) :
    Agrees .extension (fun next next' => next' = next) step.outcome step'.outcome := by
  obtain ⟨start, code, depths, hc, rfl, rfl⟩ := h
  have hstart := (Array.getElem?_eq_some_iff.mp hc).1
  refine Step.take_agrees (replays_append options a b) fun hform => ?_
  have : start + 1 ≠ a.size := fun hsize => by
    obtain rfl := Form.eq_endOfScript hform
    exact hend ⟨by rwa [Step.take_start], by rwa [Step.take_start]⟩
  rw [Array.size_append]
  omega

theorem Step.Beside.atEnd_append (h : Step.Beside options options a (a ++ b) 0 step step')
    (hend : step.AtEnd a) :
    step.found = [] ∧ step.next = .ok a.size ∧
      step'.found = (if b ≠ #[] then [earlyEnd (a.size - 1)] else []) ∧
      step'.next = .ok a.size := by
  obtain ⟨start, code, depths, hc, rfl, rfl⟩ := h
  obtain ⟨hcode, hsize⟩ := hend
  rw [Step.take_start] at hcode hsize
  cases hc.symm.trans hcode
  have hbytes : b ≠ #[] ↔ start + 1 < (a ++ b).size := by
    rw [Array.size_append, ne_eq, ← Array.size_eq_zero_iff]
    omega
  simp only [Step.take_endOfScript, hbytes, ← hsize, Nat.add_zero, Nat.add_sub_cancel,
    Nat.lt_irrefl, if_false, true_and]

theorem Step.Beside.next_append (h : Step.Beside options options a (a ++ b) 0 step step')
    (hn : step.next = .ok next) : step'.next = .ok next := by
  by_cases hend : step.AtEnd a
  · obtain ⟨-, hn', -, hnext'⟩ := h.atEnd_append hend
    cases hn.symm.trans hn'
    exact hnext'
  · obtain ⟨_, hnext', rfl, -⟩ := (h.agrees_append hend).of_ok hn
    exact hnext'

/-- Where a step begins, what it comes to and the depths behind it. -/
def Step.view (step : Step) : Nat × Except Abort Nat × Depths :=
  (step.start, step.next, step.depths)

theorem Step.Beside.view_append (h : Step.Beside options options a (a ++ b) 0 step step')
    (hn : step.next = .ok next) : step.view = step'.view := by
  rw [view, view, h.start_eq, h.depths_eq, hn, h.next_append hn, Nat.add_zero]

theorem Step.Beside.found_append (h : Step.Beside options options a (a ++ b) 0 step step')
    (hn : step.next = .ok next) :
    step'.found = step.found ++ if b ≠ #[] ∧ step.AtEnd a then [earlyEnd (a.size - 1)] else [] := by
  by_cases hend : step.AtEnd a
  · obtain ⟨hnil, -, hfound, -⟩ := h.atEnd_append hend
    simp only [hfound, hnil, List.nil_append, hend, and_true]
  · obtain ⟨_, -, -, hsame⟩ := (h.agrees_append hend).of_ok hn
    rw [if_neg fun h => hend h.2, List.append_nil]
    exact hsame

theorem Step.Beside.found_prefix_append (h : Step.Beside options options a (a ++ b) 0 step step') :
    step.found <+: step'.found := by
  cases hn : step.next with
  | ok next =>
    rw [h.found_append hn]
    exact List.prefix_append ..
  | error abort =>
    by_cases hend : step.AtEnd a
    · rw [(h.atEnd_append hend).1]
      exact List.nil_prefix
    · exact ((h.agrees_append hend).of_error hn).1

/-- Where a step stops for good, so does the one beside it, and in the same way. -/
theorem Step.Beside.stops_append (h : Step.Beside options options a (a ++ b) 0 step step')
    {abort : Abort} (hn : step.next = .error abort) (hfinal : abort.Final) :
    step'.found = step.found ∧ ∃ abort', step'.next = .error abort' ∧
      ∀ start, abort'.diagnostic start = abort.diagnostic start := by
  have hend : ¬ step.AtEnd a := fun hend => by cases hn.symm.trans (h.atEnd_append hend).2.1
  obtain ⟨hfound, abort', hr, hd⟩ := ((h.agrees_append hend).of_error hn).2 hfinal
  exact ⟨hfound, abort', Check.abort?_eq_some_iff.mp hr, hd⟩

/-! ## Scans -/

namespace Scan

/-- The last instruction of a script is the end of the script, on its last byte. -/
def EndsScript (options : ScanOptions) (data : Bytes) : Prop :=
  ∃ last ∈ (walk options data).getLast?, last.AtEnd data

instance (options : ScanOptions) (data : Bytes) : Decidable (EndsScript options data) :=
  inferInstanceAs (Decidable (∃ last ∈ (walk options data).getLast?, _))

/-- The steps of a script that has bytes, beside those of the script with more bytes behind it. -/
theorem walk_append (options : ScanOptions) (a b : Bytes) :
    walk options a = [] ∨
      ∃ before last before' last' after, walk options a = before ++ [last] ∧
        walk options (a ++ b) = before' ++ last' :: after ∧
        before.map Step.view = before'.map Step.view ∧
        before'.flatMap (·.found) = before.flatMap (·.found) ∧
        Step.Beside options options a (a ++ b) 0 last last' ∧
        ∀ abort, last'.next = .error abort → after = [] := by
  have h := walks_walk options a
  rcases h.alongside (walks_walk options (a ++ b)) Bytes.getElem?_append_of_some
    (fun hbeside _ hn => hbeside.next_append hn) with
    ⟨hnil, -⟩ | ⟨before, last, before', last', after, hw, hw', hbefore, hlast, hstop, -⟩
  · exact .inl hnil
  · refine .inr ⟨before, last, before', last', after, hw, hw', ?_, ?_, hlast, hstop⟩
    · rw [← List.forall₂_eq_eq_eq, List.forall₂_map_left_iff, List.forall₂_map_right_iff]
      refine hbefore.imp ?_
      rintro step step' ⟨hbeside, next, -, hn⟩
      exact hbeside.view_append hn
    · refine Agreement.extension.same_flatMap (hbefore.imp ?_)
      rintro step step' ⟨hbeside, next, hlt, hn⟩
      have hend : ¬ step.AtEnd a := fun hend => by
        cases hn.symm.trans (hbeside.atEnd_append hend).2.1
        exact Nat.lt_irrefl _ hlt
      rw [hbeside.found_append hn, if_neg fun h => hend h.2, List.append_nil]
      rfl

theorem found_prefix_append (options : ScanOptions) (a b : Bytes) :
    (walk options a).flatMap (·.found) <+: (walk options (a ++ b)).flatMap (·.found) := by
  rcases walk_append options a b with
    hnil | ⟨before, last, before', last', after, hw, hw', -, hfound, hlast, -⟩
  · rw [hnil]
    exact List.nil_prefix
  · rw [hw, hw', List.flatMap_append, List.flatMap_append, List.flatMap_cons, List.flatMap_cons,
      List.flatMap_nil, List.append_nil, hfound, List.prefix_append_right_inj]
    exact hlast.found_prefix_append.trans (List.prefix_append ..)

/-- If the scan of a script does not abort, its steps are the first ones of the longer scan. -/
theorem walk_append_of_not_aborted {options : ScanOptions} {a : Bytes} (b : Bytes)
    (hab : (run options a).aborted = false) :
    ∃ steps after, walk options (a ++ b) = steps ++ after ∧
      (walk options a).map Step.view = steps.map Step.view ∧
      steps.flatMap (·.found) = (walk options a).flatMap (·.found) ++
        if b ≠ #[] ∧ EndsScript options a then [earlyEnd (a.size - 1)] else [] := by
  rcases walk_append options a b with
    hnil | ⟨before, last, before', last', after, hw, hw', hview, hfound, hlast, -⟩
  · refine ⟨[], _, rfl, by rw [hnil], ?_⟩
    rw [hnil, if_neg]
    · rfl
    · rintro ⟨-, last, hl, -⟩
      rw [hnil] at hl
      cases hl
  · have hl : last ∈ (walk options a).getLast? := by rw [hw, List.getLast?_concat]; rfl
    have hends : EndsScript options a ↔ last.AtEnd a := by
      rw [EndsScript, Option.mem_def.mp hl]
      simp
    cases hn : last.next with
    | error abort => rw [aborted_iff.mpr ⟨last, hl, abort, hn⟩] at hab; cases hab
    | ok next =>
      refine ⟨before' ++ [last'], after, by rw [hw', List.append_assoc]; rfl, ?_, ?_⟩
      · rw [hw, List.map_append, List.map_append, hview, List.map_singleton, List.map_singleton,
          hlast.view_append hn]
      · rw [hw, List.flatMap_append, List.flatMap_append, hfound, List.flatMap_singleton,
          List.flatMap_singleton, hlast.found_append hn, List.append_assoc]
        simp only [hends]

/-- If the scan of a script aborts for good, the longer scan does not differ. -/
theorem run_append_of_final {options : ScanOptions} {a : Bytes} (b : Bytes) {last : Step}
    {abort : Abort} (hl : last ∈ (walk options a).getLast?) (hn : last.next = .error abort)
    (hfinal : abort.Final) : run options (a ++ b) = run options a := by
  rcases walk_append options a b with
    hnil | ⟨before, last₀, before', last', after, hw, hw', -, hfound, hlast, hstop⟩
  · rw [hnil] at hl
    cases hl
  · have hl₀ : last₀ ∈ (walk options a).getLast? := by rw [hw, List.getLast?_concat]; rfl
    cases hl.symm.trans hl₀
    obtain ⟨hfound', abort', hn', hdiagnostic⟩ := hlast.stops_append hn hfinal
    obtain rfl := hstop abort' hn'
    have hl' : last' ∈ (walk options (a ++ b)).getLast? := by rw [hw', List.getLast?_concat]; rfl
    rw [run_of_stop hl hn, run_of_stop hl' hn', hw, hw', List.flatMap_append, List.flatMap_append,
      hfound, List.flatMap_singleton, List.flatMap_singleton, hfound', hdiagnostic,
      hlast.start_eq, Nat.add_zero]

/-- What a scan finds in a script it finds first in the script with more bytes behind it, the reason
to abort apart. If it does not abort, its steps are the first ones of the longer scan, and these
find the same but for an end of the script that is no more the last byte. If it aborts for good, the
longer scan does not differ. -/
theorem run_append (options : ScanOptions) (a b : Bytes) (hb : options.checkBalance = false) :
    (run options a).diagnostics.filter (!·.fatal) <+: (run options (a ++ b)).diagnostics ∧
    ((run options a).aborted = false →
      ∃ steps after, walk options (a ++ b) = steps ++ after ∧
        (walk options a).map Step.view = steps.map Step.view ∧
        steps.flatMap (·.found) = (run options a).diagnostics ++
          if b ≠ #[] ∧ EndsScript options a then [earlyEnd (a.size - 1)] else []) ∧
    ((∃ d ∈ (run options a).diagnostics, d.fatal = true ∧
        (d.ruleId = Rule.structHeaderInvalid.id ∨
          ∃ requested < 0, ("requested", .int requested) ∈ d.metadata)) →
      run options (a ++ b) = run options a) := by
  refine ⟨?_, fun hab => ?_, ?_⟩
  · rw [filter_diagnostics hb]
    exact (found_prefix_append options a b).trans (List.prefix_append ..)
  · rw [diagnostics_of_not_aborted hb hab]
    exact walk_append_of_not_aborted b hab
  · rintro ⟨d, hd, hfatal, hreason⟩
    obtain ⟨last, hl, abort, hn, rfl⟩ := exists_stop_of_fatal hd hfatal
    exact run_append_of_final b hl hn (Abort.final_of_diagnostic hreason)

/-- The end of a script is a defect once a byte follows it. -/
theorem run_append_endOfScript : ({} : ScanOptions).checkBalance = false ∧
    ∃ steps after, walk {} (#[0x24] ++ #[0x01]) = steps ++ after ∧
      (walk {} #[0x24]).map Step.view = steps.map Step.view ∧
      steps.flatMap (·.found) = (run {} #[0x24]).diagnostics ++ [earlyEnd 0] := by
  have h := (run_append {} #[0x24] #[0x01] rfl).2.1 (by decide +kernel)
  have hend : (#[0x01] : Bytes) ≠ #[] ∧ EndsScript {} #[0x24] := by decide +kernel
  rw [if_pos hend] at h
  exact ⟨rfl, h⟩

end Scan

end QbLint
