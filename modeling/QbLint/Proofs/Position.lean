import QbLint.Proofs.Brackets
import QbLint.Proofs.Stop

/-!
# Where defects are reported

The diagnostics of a scan lie inside the buffer, in the order of its steps, and none is said twice.

* `Check.Reports`: what a check reports has a property, and is of different rules in a given order;
* `Diagnostic.LiesIn`: a diagnostic lies in the instruction at an offset. It may lie where the next
  one begins if that is a zero byte, which a struct comes to that goes back into its own header;
* `Instruction.check_reports`, `Step.liesIn_of_mem`, `Step.nodup_reports`: what a step reports lies
  in its instruction and is of different rules;
* `Walks.pairwise_reports`: defects of one rule are reported further and further on;
* `Scan.run_positions`: the positions of the diagnostics of a scan.
-/

namespace QbLint

/-! ## What a check reports -/

namespace Check

variable {α β : Type} {r s : List Rule} {p : Diagnostic → Prop}

/-- The check reports diagnostics with the property, at most one of each of the rules and in their
order. -/
structure Reports (x : Check α) (r : List Rule) (p : Diagnostic → Prop) : Prop where
  rules : (x.found.map (·.ruleId)).Sublist (r.map (·.id))
  each : x.Finds p

theorem reports_of_found_eq_nil {x : Check α} (h : x.found = []) : x.Reports r p := by
  refine ⟨?_, ?_⟩
  · rw [h]
    exact List.nil_sublist _
  · simp [Finds, h]

theorem reports_pure (a : α) : (pure a : Check α).Reports r p := reports_of_found_eq_nil rfl

theorem reports_stop (e : Abort) : (stop e : Check α).Reports r p := reports_of_found_eq_nil rfl

theorem reports_read (x : Except OutOfBounds α) : (read x).Reports r p :=
  reports_of_found_eq_nil (found_read x)

theorem reports_readAside (position : Nat) (x : Except OutOfBounds α) :
    (readAside position x).Reports r p :=
  reports_of_found_eq_nil (found_readAside position x)

theorem reports_reportIf {c : Prop} [Decidable c] {rule : Rule} {message : String} {position : Int}
    (h : c → p (rule.report message position)) :
    (reportIf c (rule.report message position)).Reports [rule] p := by
  by_cases hc : c
  · exact ⟨by simp [reportIf, hc, Rule.report], by simpa [Finds, reportIf, hc] using h hc⟩
  · exact reports_of_found_eq_nil (by simp [reportIf, hc])

theorem reports_report {rule : Rule} {message : String} {position : Int}
    (h : p (rule.report message position)) :
    (report (rule.report message position)).Reports [rule] p :=
  ⟨List.Sublist.refl _, by simpa [Finds, report] using h⟩

theorem Reports.mono {x : Check α} (h : x.Reports r p) (hle : r.Sublist s) : x.Reports s p :=
  ⟨h.rules.trans (hle.map _), h.each⟩

/-- What a sequence of checks reports: the later ones start from the values of the earlier ones. -/
theorem reports_bind {x : Check α} {f : α → Check β} (hx : x.Reports r p)
    (hf : ∀ a, x.value = .ok a → (f a).Reports s p) : (x >>= f).Reports (r ++ s) p := by
  obtain ⟨found, value⟩ := x
  cases value with
  | error e =>
    obtain ⟨hrules, heach⟩ := hx.mono (List.sublist_append_left r s)
    exact ⟨hrules, heach⟩
  | ok a =>
    have hfound : ((⟨found, .ok a⟩ : Check α) >>= f).found = found ++ (f a).found := rfl
    refine ⟨?_, fun d hd => ?_⟩
    · rw [hfound, List.map_append, List.map_append]
      exact hx.rules.append (hf a rfl).rules
    · rw [hfound] at hd
      rcases List.mem_append.mp hd with hd | hd
      · exact hx.each d hd
      · exact (hf a rfl).each d hd

theorem reports_read_bind {x : Except OutOfBounds α} {f : α → Check β}
    (hf : ∀ a, (read x).value = .ok a → (f a).Reports s p) : (read x >>= f).Reports s p :=
  reports_bind (r := []) (reports_read x) hf

theorem reports_bind_silent {x : Check α} {f : α → Check β} (hx : x.Reports r p)
    (hf : ∀ a, (f a).Reports [] p) : (x >>= f).Reports r p := by
  have h : (x >>= f).Reports (r ++ []) p := reports_bind hx fun a _ => hf a
  rwa [List.append_nil] at h

end Check

/-! ## Instructions -/

open Check (reports_pure reports_stop reports_read reports_readAside reports_report
  reports_reportIf reports_bind reports_read_bind
  reports_bind_silent value_read_eq_ok_iff)

/-- The diagnostic lies inside the buffer and in the instruction at an offset, or just behind it
where a zero byte is taken for the next opcode. -/
structure Diagnostic.LiesIn (data : Bytes) (start : Nat) (d : Diagnostic) : Prop where
  ge_start : start ≤ d.position
  lt_size : d.position < data.size
  lt_next : d.position < start + Instruction.extent data start ∨
    d.position = start + Instruction.extent data start ∧
      data[start + Instruction.extent data start]? = some 0 ∧ d.ruleId ≠ Rule.illegalOpcode.id

theorem Diagnostic.liesIn_report {data : Bytes} {start place : Nat} {rule : Rule} {message : String}
    (hge : start ≤ place) (hsize : place < data.size)
    (hnext : place < start + Instruction.extent data start ∨
      place = start + Instruction.extent data start ∧ data[place]? = some 0 ∧
        rule ≠ .illegalOpcode) : (rule.report message (place : Nat)).LiesIn data start := by
  refine ⟨Int.ofNat_le.mpr hge, Int.ofNat_lt.mpr hsize, ?_⟩
  show (place : Int) < _ ∨ (place : Int) = _ ∧ _
  rcases hnext with hlt | ⟨heq, hzero, hrule⟩
  · exact .inl (by omega)
  · rw [heq] at hzero
    exact .inr ⟨by omega, hzero, fun h => hrule (Rule.id_injective h)⟩

namespace Instruction

variable {options : ScanOptions} {data : Bytes} {start : Nat} {code : UInt8}
  {p : Diagnostic → Prop}

theorem extent_pos (data : Bytes) (start : Nat) : 0 < extent data start := by
  unfold extent
  split <;> omega

theorem jump_reports {field : Nat} {role : Jump.Role} {rule : Rule} {message : String}
    {position : Int} (h : field + 2 ≤ data.size → p (rule.report message position)) :
    (jump data field role (rule.report message position)).Reports [rule] p := by
  refine reports_read_bind fun distance hd => ?_
  have hfield := (value_number hd).1
  exact reports_bind (r := []) (reports_readAside _ _) fun _ _ => reports_reportIf fun _ => h hfield

theorem narrowString_reports (h : ∀ rule message, p (Rule.report rule message start)) :
    (narrowString data start).Reports Form.narrowString.rules p := by
  refine reports_read_bind fun length _ => ?_
  split
  · exact reports_bind (r := [.zeroLengthString]) (reports_report (h _ _)) fun _ _ => reports_pure _
  · refine reports_bind (r := [.zeroLengthString]) (reports_read _) fun _ _ => ?_
    refine reports_read_bind fun _ _ => ?_
    exact reports_bind_silent (reports_reportIf fun _ => h _ _) fun _ => reports_pure _

theorem wideString_reports (h : ∀ rule message, p (Rule.report rule message start)) :
    (wideString data start).Reports Form.wideString.rules p := by
  refine reports_read_bind fun length _ => ?_
  split
  · exact reports_bind (r := [.zeroLengthString]) (reports_report (h _ _)) fun _ _ => reports_pure _
  · refine Check.Reports.mono (r := [.wideStringOddLength, .wideStringUnterminated]) ?_
      (List.sublist_cons_self _ _)
    refine reports_bind (r := [.wideStringOddLength])
      (reports_reportIf fun _ => h _ _) fun _ _ => ?_
    refine reports_read_bind fun _ _ => ?_
    refine reports_read_bind fun _ _ => ?_
    exact reports_bind_silent (reports_reportIf fun _ => h _ _) fun _ => reports_pure _

/-- The defects of a struct lie at its header and at its padding. -/
theorem struct_reports
    (hheader : ∀ message, data.Holds (start + 1 + data.zeros (start + 3)) [0, 0, 1, 0] →
      p (Rule.structMisaligned.report message (start + 1 + data.zeros (start + 3) : Nat)))
    (hpadding : ∀ message, data.Holds (start + 1 + data.zeros (start + 3)) [0, 0, 1, 0] →
      options.maxPadding < data.zeros (start + 3) →
      p (Rule.structPaddingTooLong.report message (start + 3 : Nat))) :
    (struct options data start).Reports Form.struct.rules p := by
  refine reports_read_bind fun length _ => ?_
  refine reports_read_bind fun _ _ => ?_
  refine reports_read_bind fun found hf => ?_
  have hdenotes := Bytes.number_eq_ok_iff.mp (value_read_eq_ok_iff.mp hf)
  rw [Bytes.endOfZeros_eq, Nat.add_sub_cancel_left] at hdenotes ⊢
  split
  · rename_i heq
    rw [heq, denotes_structHeader_iff] at hdenotes
    refine reports_bind (r := [.structMisaligned])
      (reports_reportIf fun _ => hheader _ hdenotes) fun _ _ => ?_
    exact reports_bind_silent (reports_reportIf fun h => hpadding _ hdenotes h)
      fun _ => reports_read _
  · exact reports_stop _

/-- What an instruction reports lies in it. -/
theorem check_reports (hp : 1 ≤ options.maxPadding) (hc : data[start]? = some code) :
    (check options data start code).Reports (Form.ofOpcode code).rules
      (Diagnostic.LiesIn data start) := by
  have hstart := (Array.getElem?_eq_some_iff.mp hc).1
  have hextent := extent_eq hc
  have hpos := extent_pos data start
  have hat : ∀ rule message, (Rule.report rule message (start : Nat)).LiesIn data start :=
    fun rule message => Diagnostic.liesIn_report (Nat.le_refl _) hstart (.inl (by omega))
  have hfield : ∀ rule message field, start ≤ field → field < start + extent data start →
      field + 2 ≤ data.size → (Rule.report rule message (field : Nat)).LiesIn data start :=
    fun rule message field hge hlt hsize =>
      Diagnostic.liesIn_report hge (by omega) (.inl hlt)
  unfold check
  cases hf : Form.ofOpcode code <;> rw [hf] at hextent <;> dsimp only at hextent ⊢
  case opening | closing => exact reports_pure _
  case endOfScript | bare =>
    exact reports_bind_silent (reports_reportIf fun _ => hat _ _)
      fun _ => reports_pure _
  case narrowString => exact narrowString_reports hat
  case wideString => exact wideString_reports hat
  case recordTable => exact reports_read_bind fun _ _ => reports_read _
  case struct =>
    have hextent : extent data start =
        1 + data.zeros (start + 3) + data.numeral (start + 1) 2 := hextent
    have hsize : data.Holds (start + 1 + data.zeros (start + 3)) [0, 0, 1, 0] →
        start + 1 + data.zeros (start + 3) + 4 ≤ data.size := fun hh =>
      hh.add_length_le (List.cons_ne_nil 0 [0, 1, 0])
    refine struct_reports (fun message hh => ?_) (fun message hh hlong => ?_)
    · have hzero := (Bytes.holds_cons_iff.mp hh).1
      have hle := hsize hh
      refine Diagnostic.liesIn_report (by omega) (by omega) ?_
      rcases Nat.eq_zero_or_pos (data.numeral (start + 1) 2) with h0 | h0
      · exact .inr ⟨by omega, hzero, by decide⟩
      · exact .inl (by omega)
    · have hzero := (Bytes.holds_cons_iff.mp hh).1
      have hle := hsize hh
      -- There are two zeros or more, so the padding does not begin behind the header.
      have htwo : 2 ≤ data.zeros (start + 3) := by omega
      refine Diagnostic.liesIn_report (by omega) (by omega) ?_
      by_cases hnext : start + 3 < start + extent data start
      · exact .inl hnext
      · rw [show start + 1 + data.zeros (start + 3) = start + 3 by omega] at hzero
        exact .inr ⟨by omega, hzero, by decide⟩
  case ifBranch | elseBranch =>
    exact reports_bind_silent (jump_reports fun h => hfield _ _ _ (by omega) (by omega) h)
      fun _ => reports_pure _
  case switchJump =>
    exact reports_bind_silent (jump_reports fun _ => hat _ _) fun _ => reports_pure _
  case elseifBranch =>
    refine reports_bind (r := [.nextBranchOffset])
      (jump_reports fun h => hfield _ _ _ (by omega) (by omega) h) fun _ _ => ?_
    exact reports_bind_silent (jump_reports fun h => hfield _ _ _ (by omega) (by omega) h)
      fun _ => reports_pure _
  case switchCase =>
    refine reports_read_bind fun _ _ => ?_
    refine reports_bind (r := [.caseMissingShortJump])
      (reports_reportIf fun _ => hat _ _) fun _ _ => ?_
    exact reports_bind_silent (jump_reports fun h => hfield _ _ _ (by omega) (by omega) h)
      fun _ => reports_pure _
  case operand => exact reports_read _

end Instruction

/-! ## Steps -/

variable {options : ScanOptions} {data : Bytes} {start next : Nat} {code : UInt8} {depths : Depths}
  {steps : List Step} {step : Step} {d : Diagnostic}

/-- The reason why a step stops, if it does. -/
def Step.stopping (step : Step) : List Diagnostic :=
  match step.next with
  | .ok _ => []
  | .error abort => [abort.diagnostic step.start]

/-- What a step reports, the reason why it stops included. -/
def Step.reports (step : Step) : List Diagnostic := step.found ++ step.stopping

theorem Step.reports_of_ok (hn : step.next = .ok next) : step.reports = step.found := by
  rw [reports, stopping, hn, List.append_nil]

theorem Step.reports_of_error {abort : Abort} (hn : step.next = .error abort) :
    step.reports = step.found ++ [abort.diagnostic step.start] := by
  rw [reports, stopping, hn]

/-- What a step reports lies in its instruction. -/
theorem Step.liesIn_of_mem (hp : 1 ≤ options.maxPadding) (hc : data[start]? = some code)
    (hd : d ∈ (Step.take options data start code depths).found) : d.LiesIn data start := by
  rcases mem_found_iff.mp hd with hd | ⟨ended, -, hd⟩
  · exact (Instruction.check_reports hp hc).each d hd
  · have hposition := (Depths.of_mem_unbalanced hd).2
    have hsize := (Array.getElem?_eq_some_iff.mp hc).1
    have hpos := Instruction.extent_pos data start
    exact ⟨by omega, by omega, .inl (by omega)⟩

theorem Abort.Justified.position_mem {abort : Abort} (h : abort.Justified data start code)
    (hs : start < data.size) : start ≤ (abort.diagnostic start).position ∧
      (abort.diagnostic start).position < data.size := by
  cases abort with
  | outOfBounds reader failure => exact ⟨Int.le_refl _, Int.ofNat_lt.mpr hs⟩
  | structHeader position header =>
    obtain ⟨-, hlt, hheader, -⟩ := h
    have hle := hheader.1
    exact ⟨Int.ofNat_le.mpr (by omega), Int.ofNat_lt.mpr (by omega)⟩

/-- What a step reports lies inside the buffer, and not before the step. -/
theorem Step.position_mem_of_mem (hp : 1 ≤ options.maxPadding) (hc : data[start]? = some code)
    (hd : d ∈ (Step.take options data start code depths).reports) :
    start ≤ d.position ∧ d.position < data.size := by
  rcases List.mem_append.mp hd with hd | hd
  · have h := liesIn_of_mem hp hc hd
    exact ⟨h.ge_start, h.lt_size⟩
  · unfold stopping at hd
    split at hd
    · cases hd
    · rename_i abort hn
      rw [take_next] at hn
      have h := Instruction.check_stops options data start code abort hn
      rw [List.mem_singleton.mp hd, take_start]
      exact h.position_mem (Array.getElem?_eq_some_iff.mp hc).1

theorem Form.nodup_rules (form : Form) : (form.rules.map (·.id)).Nodup := by
  cases form with
  | opening | closing | operand => exact .nil
  | _ => decide

/-- What a step reports is of different rules. -/
theorem Step.nodup_reports (hp : 1 ≤ options.maxPadding) (hc : data[start]? = some code) :
    ((Step.take options data start code depths).reports.map (·.ruleId)).Nodup := by
  have hfound : ((Step.take options data start code depths).found.map (·.ruleId)).Nodup := by
    have hcheck : ((Instruction.check options data start code).found.map (·.ruleId)).Sublist
        ((Form.ofOpcode code).rules.map (·.id)) := (Instruction.check_reports hp hc).rules
    rw [take_found, List.map_append]
    split
    · rename_i kind hf
      rw [hf] at hcheck
      rw [List.sublist_nil.mp hcheck, Depths.unbalanced]
      split <;> simp
    · rw [List.map_nil, List.append_nil]
      exact hcheck.nodup (Form.nodup_rules _)
  cases hn : (Step.take options data start code depths).next with
  | ok next => rwa [reports_of_ok hn]
  | error abort =>
    rw [reports_of_error hn, List.map_append, List.map_singleton]
    refine hfound.append (List.nodup_singleton _) fun id hid hstop => ?_
    obtain ⟨d, hd, rfl⟩ := List.mem_map.mp hid
    obtain ⟨rule, message, position, hgoes, rfl⟩ := isReport_of_mem hd
    exact abort.ruleId_ne _ hgoes (List.mem_singleton.mp hstop).symm

theorem Step.reports_zero (options : ScanOptions) (data : Bytes) (start : Nat) (depths : Depths) :
    (Step.take options data start 0 depths).reports = [illegalZero start] := by
  rw [take_zero]
  rfl

/-! ## Scans -/

/-- Along a walk, what is reported lies further and further on, and for defects of one rule strictly
so. -/
theorem Walks.pairwise_reports (h : Walks options data start depths steps)
    (hp : 1 ≤ options.maxPadding) : steps.Pairwise fun step step' =>
      ∀ d ∈ step.reports, ∀ d' ∈ step'.reports,
        d.position ≤ d'.position ∧ (d.ruleId = d'.ruleId → d.position < d'.position) := by
  induction h with
  | done => exact .nil
  | stop => exact List.pairwise_singleton ..
  | @step start next depths code steps hc hn rest ih =>
    refine List.pairwise_cons.mpr ⟨fun step' hs d hd d' hd' => ?_, ih⟩
    rw [Step.reports_of_ok hn] at hd
    have hlies := Step.liesIn_of_mem hp hc hd
    have hnext := (Step.next_eq hc hn).1
    have hle := rest.le_start hs
    obtain ⟨code', depths', hc', hstep⟩ := rest.mem_take hs
    rw [hstep] at hd'
    have hge := (Step.position_mem_of_mem hp hc' hd').1
    rcases hlies.lt_next with hlt | ⟨heq, hzero, hrule⟩
    · exact ⟨by omega, fun _ => by omega⟩
    · refine ⟨by omega, fun hsame => ?_⟩
      by_cases hlast : step'.start = next
      · -- The next step begins at the zero byte, and reports it as an illegal opcode.
        rw [hlast, hnext, hzero] at hc'
        obtain rfl := Option.some.inj hc'
        rw [Step.reports_zero] at hd'
        rw [hsame, List.mem_singleton.mp hd'] at hrule
        exact absurd rfl hrule
      · omega

/-- What a step of a walk reports lies inside the buffer, between the beginnings of the step and of
the next one. -/
theorem Walks.position_mem (h : Walks options data start depths steps) (hp : 1 ≤ options.maxPadding)
    (hs : step ∈ steps) (hd : d ∈ step.reports) : step.start ≤ d.position ∧
      d.position < data.size ∧ ∀ next, step.next = .ok next → d.position ≤ next := by
  obtain ⟨code, depths, hc, hstep⟩ := h.mem_take hs
  have hd' := hd
  rw [hstep] at hd'
  have hmem := Step.position_mem_of_mem hp hc hd'
  refine ⟨hmem.1, hmem.2, fun next hn => ?_⟩
  rw [Step.reports_of_ok hn, hstep] at hd
  rw [hstep] at hn
  have hnext := (Step.next_eq hc hn).1
  rcases (Step.liesIn_of_mem hp hc hd).lt_next with hlt | ⟨heq, -⟩ <;> omega

theorem Walks.reports_ne_unclosedNesting (h : Walks options data start depths steps)
    (hs : step ∈ steps) (hd : d ∈ step.reports) : d.ruleId ≠ Rule.unclosedNesting.id := by
  rcases List.mem_append.mp hd with hd | hd
  · exact h.ruleId_ne_unclosedNesting hs hd
  · unfold Step.stopping at hd
    split at hd
    · cases hd
    · rename_i abort _
      rw [List.mem_singleton.mp hd]
      exact abort.ruleId_ne step.start rfl

/-- The steps of a walk report nothing twice: one step reports defects of different rules, and two
steps defects of one rule in different places. -/
theorem Walks.nodup_reports (h : Walks options data start depths steps)
    (hp : 1 ≤ options.maxPadding) :
    ((steps.flatMap Step.reports).map fun d => (d.ruleId, d.position, d.message)).Nodup := by
  refine List.pairwise_map.mpr (List.pairwise_flatMap.mpr ⟨fun step hs => ?_, ?_⟩)
  · obtain ⟨code, depths, hc, hstep⟩ := h.mem_take hs
    have hrules : (step.reports.map (·.ruleId)).Nodup := by
      rw [hstep]
      exact Step.nodup_reports hp hc
    exact (List.pairwise_map.mp hrules).imp fun hne heq => hne (congrArg (·.1) heq)
  · refine (h.pairwise_reports hp).imp fun hlt d hd d' hd' heq => ?_
    have hposition : d.position = d'.position := congrArg (·.2.1) heq
    have := (hlt d hd d' hd').2 (congrArg (·.1) heq)
    omega

/-- The last step of a walk is the only one that can stop. -/
theorem Walks.flatMap_reports (h : Walks options data start depths steps) :
    steps.flatMap Step.reports =
      steps.flatMap (·.found) ++ (steps.getLast?.map Step.stopping).getD [] := by
  induction h with
  | done => rfl
  | stop => simp [Step.reports]
  | @step _ _ _ _ steps hc hn rest ih =>
    rw [List.flatMap_cons, List.flatMap_cons, ih, Step.reports_of_ok hn, List.append_assoc]
    cases steps with
    | nil => simp [Step.stopping, hn]
    | cons => rw [List.getLast?_cons_cons]

namespace Scan

/-- The diagnostics of a scan are what its steps report, and then the blocks still open. -/
theorem exists_diagnostics_eq (options : ScanOptions) (data : Bytes) :
    ∃ rest, (run options data).diagnostics = (walk options data).flatMap Step.reports ++ rest ∧
      (rest = [] ∨ ∃ depths : Depths, rest = depths.unclosed data.size) := by
  rw [(walks_walk options data).flatMap_reports, run]
  dsimp only
  cases (walk options data).getLast? with
  | none => exact ⟨[], by simp [closing], .inl rfl⟩
  | some last =>
    obtain ⟨start, found, next, depths⟩ := last
    cases next with
    | error abort => exact ⟨[], by simp [closing, Step.stopping], .inl rfl⟩
    | ok next =>
      refine ⟨closing options data (some ⟨start, found, .ok next, depths⟩),
        by simp [Step.stopping], ?_⟩
      rw [closing]
      split
      · exact .inr ⟨depths, rfl⟩
      · exact .inl rfl

theorem nodup_unclosed (depths : Depths) (position : Int) :
    ((depths.unclosed position).map fun d => (d.ruleId, d.position, d.message)).Nodup := by
  have hname : ∀ a b : BlockKind, "Unclosed " ++ a.name ++ " at end of script" =
      "Unclosed " ++ b.name ++ " at end of script" → a = b := fun a b => by
    cases a <;> cases b <;> decide
  rw [Depths.unclosed_eq_map, List.map_map]
  have hkinds : BlockKind.all.Nodup := by decide
  refine (hkinds.filter _).map fun a b hab => hname a b ?_
  exact congrArg (·.2.2) hab

/-- Where the diagnostics of a scan lie that accepts a zero as padding: inside the buffer, or at its
end if they are about blocks that are still open. What a step reports does not lie before the step
nor behind the beginning of the next one, so that the steps report further and further on; and no
two diagnostics agree in rule, position and message. -/
theorem run_positions (options : ScanOptions) (data : Bytes) (hp : 1 ≤ options.maxPadding) :
    (∀ d ∈ (run options data).diagnostics,
      if d.ruleId = Rule.unclosedNesting.id then d.position = data.size
      else 0 ≤ d.position ∧ d.position < data.size) ∧
    (∃ rest, (run options data).diagnostics =
        (walk options data).flatMap Step.reports ++ rest ∧
      ∀ d ∈ rest, d.ruleId = Rule.unclosedNesting.id) ∧
    (∀ step ∈ walk options data, ∀ d ∈ step.reports, step.start ≤ d.position ∧
      ∀ next, step.next = .ok next → d.position ≤ next) ∧
    ((walk options data).Pairwise fun step step' =>
      ∀ d ∈ step.reports, ∀ d' ∈ step'.reports, d.position ≤ d'.position) ∧
    ((run options data).diagnostics.map fun d => (d.ruleId, d.position, d.message)).Nodup := by
  have h := walks_walk options data
  obtain ⟨rest, hdiagnostics, hrest⟩ := exists_diagnostics_eq options data
  have hunclosed : ∀ d ∈ rest, d.ruleId = Rule.unclosedNesting.id ∧ d.position = data.size := by
    intro d hd
    rcases hrest with rfl | ⟨depths, rfl⟩
    · cases hd
    · exact Depths.of_mem_unclosed hd
  refine ⟨fun d hd => ?_, ⟨rest, hdiagnostics, fun d hd => (hunclosed d hd).1⟩,
    fun step hs d hd => ?_, ?_, ?_⟩
  · rw [hdiagnostics] at hd
    rcases List.mem_append.mp hd with hd | hd
    · obtain ⟨step, hs, hd⟩ := List.mem_flatMap.mp hd
      have hmem := h.position_mem hp hs hd
      rw [if_neg (h.reports_ne_unclosedNesting hs hd)]
      omega
    · rw [if_pos (hunclosed d hd).1]
      exact (hunclosed d hd).2
  · have hmem := h.position_mem hp hs hd
    exact ⟨hmem.1, hmem.2.2⟩
  · exact (h.pairwise_reports hp).imp fun hle d hd d' hd' => (hle d hd d' hd').1
  · rw [hdiagnostics, List.map_append]
    refine (h.nodup_reports hp).append ?_ fun key hkey hopen => ?_
    · rcases hrest with rfl | ⟨depths, rfl⟩
      · exact .nil
      · exact nodup_unclosed depths data.size
    · obtain ⟨d, hd, rfl⟩ := List.mem_map.mp hkey
      obtain ⟨step, hs, hd⟩ := List.mem_flatMap.mp hd
      obtain ⟨d', hd', heq⟩ := List.mem_map.mp hopen
      have hid : d'.ruleId = d.ruleId := congrArg (·.1) heq
      exact h.reports_ne_unclosedNesting hs hd (hid ▸ (hunclosed d' hd').1)

/-- The step of a struct may report its header before the padding that precedes the header. -/
theorem run_positions_longPadding : (1 : Int) ≤ ({} : ScanOptions).maxPadding ∧
    (run {} #[0x4A, 0x04, 0x00, 0, 0, 0, 0, 0, 0, 0x01, 0x00]).diagnostics.map (·.position) =
      [7, 3] ∧
    ∀ step ∈ walk {} #[0x4A, 0x04, 0x00, 0, 0, 0, 0, 0, 0, 0x01, 0x00], ∀ d ∈ step.reports,
      step.start ≤ d.position ∧ ∀ next, step.next = .ok next → d.position ≤ next :=
  ⟨by decide, by decide +kernel, (run_positions {} _ (by decide)).2.2.1⟩

/-- An `elseif` is cut off at its own offset, behind the report about its first field. -/
example : (run {} #[0x27, 0x03, 0x00, 0xFF, 0xFF]).diagnostics.map (·.position) = [1, 0] := by
  decide +kernel

/-- If no zero is accepted as padding, a struct may report one behind the next instruction. -/
example : (run { maxPadding := 0 } #[0x4A, 0, 0, 0, 0x01, 0]).diagnostics.map (·.position) =
    [2, 3, 2, 3, 5] := by decide +kernel

end Scan

end QbLint
