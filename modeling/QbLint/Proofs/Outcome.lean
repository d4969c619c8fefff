import QbLint.Proofs.Balance
import QbLint.Proofs.Check

/-!
# What an outcome is made of

The diagnostics of a scan are what its steps report, none of it fatal, and then what its end adds:
the one fatal diagnostic if the last step stopped.

* `Instruction.check_finds_defects`: an instruction reports only defects that its form can have;
  `Instruction.check_finds`: so they are of the rules for its form;
* `Step.isReport_of_mem`: everything that a step reports is a `Rule.report`, of a rule whose defects
  do not end a scan;
* `Scan.run_of_stop`, `Scan.run_of_end`: the outcome of a scan by its last step;
* `Scan.isReport_or_stop`, `Scan.aborted_iff`: what a scan finds, and that it aborts exactly if its
  last step stops.
-/

namespace QbLint

open Check (finds_pure finds_stop finds_read finds_readAside finds_report finds_reportIf finds_bind)

/-! ## What a step reports -/

/-- The rules whose defects the check of an instruction can report. -/
def Form.rules : Form → List Rule
  | .opening _ | .closing _ | .recordTable | .operand _ => []
  | .endOfScript => [.endBeforeEof]
  | .narrowString => [.zeroLengthString, .narrowStringUnterminated]
  | .wideString => [.zeroLengthString, .wideStringOddLength, .wideStringUnterminated]
  | .struct => [.structMisaligned, .structPaddingTooLong]
  | .ifBranch => [.nextBranchOffset]
  | .elseifBranch => [.nextBranchOffset, .endifOffset]
  | .elseBranch => [.endifOffset]
  | .switchJump => [.switchJumpTarget]
  | .switchCase => [.caseMissingShortJump, .caseJumpTarget]
  | .bare => [.illegalOpcode]

/-- The defects that the check of an instruction can report, each by its rule and its message. -/
def Form.defects (code : UInt8) : Form → List (Rule × String)
  | .opening _ | .closing _ | .recordTable | .operand _ => []
  | .endOfScript => [(.endBeforeEof, "End of script found before end of file.")]
  | .narrowString =>
    [(.zeroLengthString, "Zero-length string (no null terminator)"),
      (.narrowStringUnterminated, "Narrow string not null-terminated")]
  | .wideString =>
    [(.zeroLengthString, "Zero-length wide string (no null terminator)"),
      (.wideStringOddLength, "Invalid string length for wide string"),
      (.wideStringUnterminated, "Wide string missing null terminator")]
  | .struct =>
    [(.structMisaligned, "Struct is not 4-aligned"),
      (.structPaddingTooLong, "Padding unnecessarily long for struct")]
  | .ifBranch => [(.nextBranchOffset, "Incorrect next branch offset in if")]
  | .elseifBranch =>
    [(.nextBranchOffset, "Incorrect next branch offset in elseif"),
      (.endifOffset, "Incorrect endif offset in elseif")]
  | .elseBranch => [(.endifOffset, "Incorrect endif offset in else")]
  | .switchJump => [(.switchJumpTarget, "Short jump does not point to end switch")]
  | .switchCase =>
    [(.caseMissingShortJump, "Case is missing short jump"),
      (.caseJumpTarget, "Case's short jump does not point to next branch")]
  | .bare => [(.illegalOpcode, "Illegal opcode: " ++ Hex.padded 2 code.toNat)]

theorem Form.map_defects (form : Form) (code : UInt8) :
    (form.defects code).map Prod.fst = form.rules := by
  cases form <;> rfl

theorem Form.not_fatal_of_mem_rules {form : Form} {rule : Rule} (h : rule ∈ form.rules) :
    rule.fatal = false := by
  revert rule
  cases form with
  | opening _ | closing _ | operand _ => exact nofun
  | _ => decide

/-- A scan goes on behind the diagnostic, which says nothing but what is wrong and where. -/
def Diagnostic.IsReport (d : Diagnostic) : Prop :=
  ∃ (rule : Rule) (message : String) (position : Int), rule.fatal = false ∧
    d = rule.report message position

namespace Instruction

variable {p : Diagnostic → Prop}

theorem jump_finds {data : Bytes} {field : Nat} {role : Jump.Role} {defect : Diagnostic}
    (h : p defect) : (jump data field role defect).Finds p :=
  finds_bind (finds_read _) fun _ =>
    finds_bind (finds_readAside _ _) fun _ => finds_reportIf h

theorem narrowString_finds {data : Bytes} {start : Nat} {code : UInt8}
    (h : ∀ rule message, (rule, message) ∈ Form.narrowString.defects code →
      ∀ position, p (rule.report message position)) :
    (narrowString data start).Finds p := by
  refine finds_bind (finds_read _) fun length => ?_
  split
  · exact finds_bind (finds_report (h _ _ (by simp [Form.defects]) _)) fun _ => finds_pure _
  · exact finds_bind (finds_read _) fun _ => finds_bind (finds_read _) fun _ =>
      finds_bind (finds_reportIf (h _ _ (by simp [Form.defects]) _)) fun _ => finds_pure _

theorem wideString_finds {data : Bytes} {start : Nat} {code : UInt8}
    (h : ∀ rule message, (rule, message) ∈ Form.wideString.defects code →
      ∀ position, p (rule.report message position)) :
    (wideString data start).Finds p := by
  refine finds_bind (finds_read _) fun length => ?_
  split
  · exact finds_bind (finds_report (h _ _ (by simp [Form.defects]) _)) fun _ => finds_pure _
  · exact finds_bind (finds_reportIf (h _ _ (by simp [Form.defects]) _)) fun _ =>
      finds_bind (finds_read _) fun _ => finds_bind (finds_read _) fun _ =>
        finds_bind (finds_reportIf (h _ _ (by simp [Form.defects]) _)) fun _ => finds_pure _

theorem struct_finds {options : ScanOptions} {data : Bytes} {start : Nat} {code : UInt8}
    (h : ∀ rule message, (rule, message) ∈ Form.struct.defects code →
      ∀ position, p (rule.report message position)) :
    (struct options data start).Finds p := by
  refine finds_bind (finds_read _) fun length => finds_bind (finds_read _) fun _ =>
    finds_bind (finds_read _) fun found => ?_
  split
  · exact finds_bind (finds_reportIf (h _ _ (by simp [Form.defects]) _)) fun _ =>
      finds_bind (finds_reportIf (h _ _ (by simp [Form.defects]) _)) fun _ => finds_read _
  · exact finds_stop _

/-- Everything that the check of an instruction reports is a defect that its form can have. -/
theorem check_finds_defects (options : ScanOptions) (data : Bytes) (start : Nat) (code : UInt8)
    (h : ∀ rule message, (rule, message) ∈ (Form.ofOpcode code).defects code →
      ∀ position, p (rule.report message position)) :
    (check options data start code).Finds p := by
  unfold check
  revert h
  cases Form.ofOpcode code with
  | opening kind | closing kind => exact fun _ => finds_pure _
  | endOfScript | bare =>
    exact fun h => finds_bind (finds_reportIf (h _ _ (by simp [Form.defects]) _)) fun _ =>
      finds_pure _
  | narrowString => exact narrowString_finds
  | wideString => exact wideString_finds
  | recordTable => exact fun _ => finds_bind (finds_read _) fun _ => finds_read _
  | struct => exact struct_finds
  | ifBranch | elseBranch | switchJump =>
    exact fun h => finds_bind (jump_finds (h _ _ (by simp [Form.defects]) _)) fun _ => finds_pure _
  | elseifBranch =>
    exact fun h => finds_bind (jump_finds (h _ _ (by simp [Form.defects]) _)) fun _ =>
      finds_bind (jump_finds (h _ _ (by simp [Form.defects]) _)) fun _ => finds_pure _
  | switchCase =>
    exact fun h => finds_bind (finds_read _) fun _ =>
      finds_bind (finds_reportIf (h _ _ (by simp [Form.defects]) _)) fun _ =>
        finds_bind (jump_finds (h _ _ (by simp [Form.defects]) _)) fun _ => finds_pure _
  | operand size => exact fun _ => finds_read _

/-- Everything that the check of an instruction reports is a report of a rule for its form. -/
theorem check_finds (options : ScanOptions) (data : Bytes) (start : Nat) (code : UInt8)
    (h : ∀ rule ∈ (Form.ofOpcode code).rules, ∀ message position,
      p (rule.report message position)) :
    (check options data start code).Finds p := by
  refine check_finds_defects options data start code fun rule message hdefect => h rule ?_ message
  rw [← Form.map_defects _ code]
  exact List.mem_map_of_mem hdefect

end Instruction

variable {options : ScanOptions} {data : Bytes} {s next : Nat} {depths : Depths} {code : UInt8}
  {steps : List Step} {last step : Step} {abort : Abort} {d : Diagnostic}

/-- Everything that a step reports is a report of some rule. -/
theorem Step.isReport_of_mem (hd : d ∈ (Step.take options data s code depths).found) :
    d.IsReport := by
  rw [Step.take_found, List.mem_append] at hd
  rcases hd with hd | hd
  · refine Instruction.check_finds (p := Diagnostic.IsReport) options data s code ?_ d hd
    exact fun rule hr message position =>
      ⟨rule, message, position, Form.not_fatal_of_mem_rules hr, rfl⟩
  · split at hd
    · unfold Depths.unbalanced at hd
      split at hd
      · exact ⟨_, _, _, rfl, List.mem_singleton.mp hd⟩
      · cases hd
    · cases hd

theorem Walks.isReport_of_mem (h : Walks options data s depths steps) (hs : step ∈ steps)
    (hd : d ∈ step.found) : d.IsReport := by
  obtain ⟨code, depths, -, hstep⟩ := h.mem_take hs
  rw [hstep] at hd
  exact Step.isReport_of_mem hd

/-! ## Outcomes -/

/-- The step needed bytes before the beginning of the script. -/
def Abort.BeforeStart : Abort → Prop
  | .outOfBounds _ failure => failure.requested < 0
  | .structHeader _ _ => False

theorem Abort.beforeStart_iff {abort : Abort} (start : Nat) :
    abort.BeforeStart ↔
      ∃ requested < 0, ("requested", .int requested) ∈ (abort.diagnostic start).metadata := by
  cases abort with
  | outOfBounds reader failure =>
    constructor
    · intro h
      exact ⟨_, h, List.mem_singleton_self _⟩
    · rintro ⟨requested, hneg, hm⟩
      cases List.mem_singleton.mp hm
      exact hneg
  | structHeader position header =>
    refine iff_of_false id ?_
    rintro ⟨requested, -, hm⟩
    simp [diagnostic, Rule.abort] at hm

theorem Abort.diagnostic_fatal (abort : Abort) (start : Nat) :
    (abort.diagnostic start).fatal = true := by
  cases abort <;> rfl

namespace Scan

theorem run_of_stop (hl : last ∈ (walk options data).getLast?) (hn : last.next = .error abort) :
    run options data =
      ⟨(walk options data).flatMap (·.found) ++ [abort.diagnostic last.start], last.start⟩ := by
  obtain ⟨_, _, _, _⟩ := last
  obtain rfl := hn
  rw [run, Option.mem_def.mp hl, closing, reach]

theorem run_of_end (hl : last ∈ (walk options data).getLast?) (hn : last.next = .ok next) :
    run options data =
      ⟨(walk options data).flatMap (·.found) ++
        (if options.checkBalance then last.depths.unclosed data.size else []), next⟩ := by
  obtain ⟨_, _, _, _⟩ := last
  obtain rfl := hn
  rw [run, Option.mem_def.mp hl, closing, reach]

theorem run_of_nil (hw : walk options data = []) : run options data = ⟨[], 0⟩ := by
  simp [run, hw, closing, reach]

/-- No diagnostic but that of the end of a scan is fatal. -/
theorem not_fatal_of_mem_found (hd : d ∈ (walk options data).flatMap (·.found)) :
    d.fatal = false := by
  obtain ⟨step, hs, hd⟩ := List.mem_flatMap.mp hd
  obtain ⟨rule, message, position, -, rfl⟩ := (walks_walk options data).isReport_of_mem hs hd
  rfl

theorem isReport_of_mem_unclosed {position : Int} (hd : d ∈ depths.unclosed position) :
    d.IsReport := by
  obtain ⟨kind, -, hk⟩ := List.mem_filterMap.mp hd
  split at hk
  · exact ⟨_, _, _, rfl, (Option.some.inj hk).symm⟩
  · cases hk

/-- What a scan finds are reports, and the diagnostic of the last step if that has stopped. -/
theorem isReport_or_stop (hd : d ∈ (run options data).diagnostics) :
    d.IsReport ∨ ∃ last ∈ (walk options data).getLast?, ∃ abort, last.next = .error abort ∧
      d = abort.diagnostic last.start := by
  rcases List.mem_append.mp hd with hd | hd
  · obtain ⟨step, hs, hd⟩ := List.mem_flatMap.mp hd
    exact .inl ((walks_walk options data).isReport_of_mem hs hd)
  · unfold closing at hd
    split at hd
    · rename_i hl
      exact .inr ⟨_, hl, _, rfl, List.mem_singleton.mp hd⟩
    · split at hd
      · exact .inl (isReport_of_mem_unclosed hd)
      · cases hd
    · cases hd

/-- A fatal diagnostic is that of the last step, which has stopped. -/
theorem exists_stop_of_fatal (hd : d ∈ (run options data).diagnostics) (hf : d.fatal = true) :
    ∃ last ∈ (walk options data).getLast?, ∃ abort, last.next = .error abort ∧
      d = abort.diagnostic last.start := by
  refine (isReport_or_stop hd).resolve_left ?_
  rintro ⟨rule, message, position, -, rfl⟩
  cases hf

/-- A scan aborts exactly if its last step stops. -/
theorem aborted_iff : (run options data).aborted = true ↔
    ∃ last ∈ (walk options data).getLast?, ∃ abort, last.next = .error abort := by
  rw [Outcome.aborted, List.any_eq_true]
  constructor
  · rintro ⟨d, hd, hf⟩
    obtain ⟨last, hl, abort, hn, -⟩ := exists_stop_of_fatal hd hf
    exact ⟨last, hl, abort, hn⟩
  · rintro ⟨last, hl, abort, hn⟩
    rw [run_of_stop hl hn]
    exact ⟨_, List.mem_append_right _ (List.mem_singleton_self _), abort.diagnostic_fatal _⟩

/-- A scan that does not abort comes to the end of the script. -/
theorem bytesScanned_of_not_aborted (hab : (run options data).aborted = false) :
    (run options data).bytesScanned = data.size := by
  rcases (walks_walk options data).reach (Nat.zero_le _) with
    ⟨-, ⟨hnil, hsize⟩ | ⟨last, hl, hn⟩⟩ | ⟨last, hl, abort, hn, -⟩
  · rw [run_of_nil hnil, ← hsize]
    rfl
  · rw [run_of_end hl hn]
  · rw [aborted_iff.mpr ⟨last, hl, abort, hn⟩] at hab
    cases hab

/-- The diagnostics that are not fatal are what the steps report, unless the options ask for the
blocks still open. -/
theorem filter_diagnostics (hb : options.checkBalance = false) :
    (run options data).diagnostics.filter (!·.fatal) =
      (walk options data).flatMap (·.found) := by
  have hfound : ∀ d ∈ (walk options data).flatMap (·.found), (!d.fatal) = true := fun d hd => by
    rw [not_fatal_of_mem_found hd, Bool.not_false]
  rw [run, List.filter_append, List.filter_eq_self.mpr hfound]
  refine List.append_right_eq_self.mpr ?_
  unfold closing
  split
  · rename_i abort _ _
    rw [List.filter_cons_of_neg (by simp [abort.diagnostic_fatal]), List.filter_nil]
  · rw [if_neg (by simp [hb]), List.filter_nil]
  · rw [List.filter_nil]

theorem diagnostics_of_not_aborted (hb : options.checkBalance = false)
    (hab : (run options data).aborted = false) :
    (run options data).diagnostics = (walk options data).flatMap (·.found) := by
  rw [← filter_diagnostics hb, eq_comm, List.filter_eq_self]
  intro d hd
  rw [Outcome.aborted, List.any_eq_false] at hab
  simpa using hab d hd

end Scan

end QbLint
