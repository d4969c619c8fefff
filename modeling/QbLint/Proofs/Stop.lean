import QbLint.Proofs.Hex
import QbLint.Proofs.Jump
import QbLint.Proofs.Outcome

/-!
# Why a scan stops

A scan that cannot go on says so once, as the last thing it says, and what it says can be read off
the bytes.

* `Bytes.number_error`, `Bytes.goto_error`, `Jump.anyMarker_error`: readings and moves fail only
  outside the buffer, and before its beginning only the markers of a jump can lie;
* `Instruction.check_stops`: an instruction stops for a reason that its bytes bear out;
* `Diagnostic.IsTruncation`, `Diagnostic.IsBadHeader`: what a fatal diagnostic says;
* `Scan.run_abort`: the fatal diagnostic of a scan.
-/

namespace QbLint

/-- The offset that was needed lies behind the end of the buffer. -/
def OutOfBounds.PastEnd (data : Bytes) (failure : OutOfBounds) : Prop :=
  failure.length = data.size ∧ data.size < failure.requested

/-! ## Readings and moves that fail -/

namespace Bytes

variable {data : Bytes} {position width : Nat} {failure : OutOfBounds}

theorem slice_error (h : data.slice position width = .error failure) : failure.PastEnd data := by
  unfold slice at h
  split at h
  · cases h
  · rename_i hw
    obtain rfl := Except.error.inj h
    exact ⟨rfl, Int.ofNat_lt.mpr (Nat.not_le.mp hw)⟩

theorem number_error (h : data.number position width = .error failure) : failure.PastEnd data := by
  rcases except_bind_eq_error_iff.mp h with h | ⟨_, -, h⟩
  · exact slice_error h
  · cases h

theorem goto_error {target : Int} (h : data.goto position target = .error failure) :
    failure.length = data.size ∧ failure.requested = target ∧
      (target < 0 ∨ data.size < target) := by
  unfold goto at h
  split at h
  · cases h
  · obtain rfl := Except.error.inj h
    exact ⟨rfl, rfl, by omega⟩

end Bytes

/-- The markers of a jump are looked for one by one, so the first one outside the buffer decides. -/
theorem Jump.anyMarker_error {data : Bytes} {position : Nat} {landing : Int} {markers : List Marker}
    {failure : OutOfBounds} (h : anyMarker data position landing markers = .error failure) :
    failure.PastEnd data ∨ failure.length = data.size ∧ failure.requested < 0 ∧
      ∃ marker ∈ markers, failure.requested = landing + marker.shift := by
  induction markers generalizing position with
  | nil => cases h
  | cons marker rest ih =>
    rw [anyMarker] at h
    rcases except_bind_eq_error_iff.mp h with h | ⟨window, -, h⟩
    · obtain ⟨hl, hr, hneg | hpast⟩ := Bytes.goto_error h
      · exact .inr ⟨hl, by omega, marker, List.mem_cons_self, hr⟩
      · exact .inl ⟨hl, by omega⟩
    · rcases except_bind_eq_error_iff.mp h with h | ⟨found, -, h⟩
      · exact .inl (Bytes.slice_error h)
      · rcases except_bind_eq_error_iff.mp h with h | ⟨others, -, h⟩
        · refine (ih h).imp_right ?_
          rintro ⟨hl, hneg, other, hm, hr⟩
          exact ⟨hl, hneg, other, List.mem_cons_of_mem _ hm, hr⟩
        · cases h

/-! ## Instructions that stop -/

/-- The instruction with `code` at `start` is a jump to the first bytes of the script, before which
the markers of its role would begin. -/
def Jump.LooksBack (data : Bytes) (start : Nat) (code : UInt8) : Prop :=
  code ∈ [0x47, 0x27, 0x48, 0x49] ∧
    ∃ distance, data.Denotes (start + 1) 2 distance ∧ start + distance ≤ 2

/-- The bytes bear out the reason why the instruction with `code` at `start` stops. -/
def Abort.Justified (data : Bytes) (start : Nat) (code : UInt8) : Abort → Prop
  | .outOfBounds _ failure =>
    failure.PastEnd data ∨
      failure.length = data.size ∧ failure.requested < 0 ∧ Jump.LooksBack data start code
  | .structHeader position header =>
    code = 0x4A ∧ start < position ∧ data.Denotes position 4 header ∧
      header ≠ Instruction.structHeader

theorem Form.mem_of_jump {code : UInt8}
    (h : Form.ofOpcode code ∈ [ifBranch, elseifBranch, elseBranch, switchJump]) :
    code ∈ [0x47, 0x27, 0x48, 0x49] := by
  revert h
  fun_cases Form.ofOpcode code <;> simp

theorem Form.eq_struct {code : UInt8} (h : Form.ofOpcode code = .struct) : code = 0x4A := by
  revert h
  fun_cases Form.ofOpcode code <;> rintro ⟨⟩
  rfl

namespace Instruction

open Check (stops_pure stops_report stops_reportIf stops_stop stops_read stops_readAside stops_bind
  value_read_eq_ok_iff)
open Bytes (number_eq_ok_iff)

section Forms

variable {data : Bytes} {p : Abort → Prop}
  (hpast : ∀ reader failure, failure.PastEnd data → p (.outOfBounds reader failure))
include hpast

theorem number_stops (position width : Nat) : (Check.read (data.number position width)).Stops p :=
  stops_read fun _ h => hpast _ _ (Bytes.number_error h)

theorem goto_stops (position target : Nat) : (Check.read (data.goto position target)).Stops p :=
  stops_read fun failure h => by
    obtain ⟨hl, hr, hout⟩ := Bytes.goto_error h
    exact hpast _ _ ⟨hl, by omega⟩

/-- A jump stops behind the end of the buffer, or where one of its markers begins too early. -/
theorem jump_stops (field : Nat) (role : Jump.Role) (defect : Diagnostic)
    (hback : ∀ reader failure distance, failure.length = data.size → failure.requested < 0 →
      data.Denotes field 2 distance →
      (∃ marker ∈ role.markers, failure.requested = field + distance + marker.shift) →
      p (.outOfBounds reader failure)) :
    (jump data field role defect).Stops p := by
  refine stops_bind (number_stops hpast _ _) fun distance hd => ?_
  have hdenotes := number_eq_ok_iff.mp (value_read_eq_ok_iff.mp hd)
  refine stops_bind (stops_readAside fun failure h => ?_) fun _ _ => stops_reportIf _ _
  rcases Jump.anyMarker_error h with hfail | ⟨hl, hneg, hmarker⟩
  · exact hpast _ _ hfail
  · exact hback _ _ distance hl hneg hdenotes hmarker

variable (start : Nat)

theorem narrowString_stops : (narrowString data start).Stops p := by
  refine stops_bind (number_stops hpast _ _) fun length _ => ?_
  split
  · exact stops_bind (stops_report _) fun _ _ => stops_pure _
  · exact stops_bind (goto_stops hpast _ _) fun _ _ =>
      stops_bind (number_stops hpast _ _) fun _ _ =>
        stops_bind (stops_reportIf _ _) fun _ _ => stops_pure _

theorem wideString_stops : (wideString data start).Stops p := by
  refine stops_bind (number_stops hpast _ _) fun length _ => ?_
  split
  · exact stops_bind (stops_report _) fun _ _ => stops_pure _
  · exact stops_bind (stops_reportIf _ _) fun _ _ => stops_bind (goto_stops hpast _ _) fun _ _ =>
      stops_bind (number_stops hpast _ _) fun _ _ => stops_bind (stops_reportIf _ _) fun _ _ =>
        stops_pure _

/-- A struct stops behind the end of the buffer, or at four bytes behind its opcode that are no
header. -/
theorem struct_stops (options : ScanOptions)
    (hheader : ∀ position header, start < position → data.Denotes position 4 header →
      header ≠ structHeader → p (.structHeader position header)) :
    (struct options data start).Stops p := by
  refine stops_bind (number_stops hpast _ _) fun length _ => ?_
  refine stops_bind (number_stops hpast _ _) fun _ _ => ?_
  refine stops_bind (number_stops hpast _ _) fun found hf => ?_
  have hdenotes := number_eq_ok_iff.mp (value_read_eq_ok_iff.mp hf)
  split
  · exact stops_bind (stops_reportIf _ _) fun _ _ => stops_bind (stops_reportIf _ _) fun _ _ =>
      goto_stops hpast _ _
  · rename_i hne
    exact stops_stop (hheader _ found (by omega) hdenotes hne)

end Forms

/-- An instruction stops for a reason that its bytes bear out. -/
theorem check_stops (options : ScanOptions) (data : Bytes) (start : Nat) (code : UInt8) :
    (check options data start code).Stops (Abort.Justified data start code) := by
  have hpast : ∀ reader failure, failure.PastEnd data →
      Abort.Justified data start code (.outOfBounds reader failure) := fun _ _ h => .inl h
  have hshift : ∀ role : Jump.Role, ∀ marker ∈ role.markers, -4 ≤ marker.shift := fun role => by
    cases role <;> decide
  -- The first field of a jump is close enough to the beginning for its markers to lie before it.
  have hfirst : ∀ role defect,
      Form.ofOpcode code ∈ [.ifBranch, .elseifBranch, .elseBranch, .switchJump] →
      (jump data (start + 1) role defect).Stops (Abort.Justified data start code) := by
    intro role defect hform
    refine jump_stops hpast _ _ _ ?_
    rintro reader failure distance hl hneg hdenotes ⟨marker, hm, hr⟩
    have := hshift role marker hm
    exact .inr ⟨hl, hneg, Form.mem_of_jump hform, distance, hdenotes, by omega⟩
  unfold check
  cases hf : Form.ofOpcode code with
  | opening kind | closing kind => exact stops_pure _
  | endOfScript | bare => exact stops_bind (stops_reportIf _ _) fun _ _ => stops_pure _
  | narrowString => exact narrowString_stops hpast start
  | wideString => exact wideString_stops hpast start
  | recordTable => exact stops_bind (number_stops hpast _ _) fun _ _ => goto_stops hpast _ _
  | struct =>
    exact struct_stops hpast start options fun position header hs hd hne =>
      ⟨Form.eq_struct hf, hs, hd, hne⟩
  | ifBranch | elseBranch | switchJump =>
    exact stops_bind (hfirst _ _ (by simp [hf])) fun _ _ => stops_pure _
  | elseifBranch =>
    refine stops_bind (hfirst _ _ (by simp [hf])) fun _ _ => ?_
    refine stops_bind (jump_stops hpast _ _ _ ?_) fun _ _ => stops_pure _
    rintro reader failure distance hl hneg hdenotes ⟨marker, hm, hr⟩
    have hendif : ∀ marker ∈ Jump.Role.markers .endif, -2 ≤ marker.shift := by decide
    have := hendif marker hm
    omega
  | switchCase =>
    refine stops_bind (number_stops hpast _ _) fun _ _ => ?_
    refine stops_bind (stops_reportIf _ _) fun _ _ => ?_
    refine stops_bind (jump_stops hpast _ _ _ ?_) fun _ _ => stops_pure _
    rintro reader failure distance hl hneg hdenotes ⟨marker, hm, hr⟩
    have hcase : ∀ marker ∈ Jump.Role.markers .nextCase, 0 ≤ marker.shift := by decide
    have := hcase marker hm
    omega
  | operand size => exact goto_stops hpast _ _

end Instruction

/-! ## Fatal diagnostics -/

/-- A failure is told as one before the beginning of the script exactly if it is one. -/
theorem OutOfBounds.message_eq_beforeStart_iff (failure : OutOfBounds) :
    failure.message = s!"Seek to offset {failure.requested} is before the start of the script" ↔
      failure.requested < 0 := by
  rw [message]
  split
  · simp [*]
  · rename_i h
    refine iff_of_false (fun heq => ?_) h
    -- The two texts differ in their first character.
    have hhead := congrArg (fun s => s.toList.head?) heq
    simp [toString] at hhead

/-- The diagnostic says that the instruction with `code` at `start` needs the offset `requested`,
and that is outside the buffer. -/
structure Diagnostic.IsTruncation (data : Bytes) (start : Nat) (code : UInt8) (requested : Int)
    (d : Diagnostic) : Prop where
  ruleId : d.ruleId = Rule.truncatedScript.id
  position : d.position = start
  metadata : d.metadata = [("requested", .int requested)]
  outside : requested < 0 ∨ data.size < requested
  beforeStart :
    d.message = s!"Seek to offset {requested} is before the start of the script" ↔ requested < 0
  pastEnd : 0 ≤ requested → d.message =
    s!"Unexpected end of script: offset {Hex.prefixed requested.toNat} is beyond " ++
      s!"the end of the buffer ({data.size} bytes)"
  looksBack : requested < 0 → Jump.LooksBack data start code

/-- The diagnostic says that the four bytes at `place`, behind the opcode of a struct at `start`,
are no header, and they are none. -/
structure Diagnostic.IsBadHeader (data : Bytes) (start : Nat) (code : UInt8) (place : Nat)
    (d : Diagnostic) : Prop where
  struct : code = 0x4A
  ruleId : d.ruleId = Rule.structHeaderInvalid.id
  position : d.position = place
  message : d.message = "Invalid struct header"
  start_lt : start < place
  le_size : place + 4 ≤ data.size
  metadata : ∃ header text, d.metadata =
      [("header", .text text), ("reason", .text "Cannot continue decompilation")] ∧
    Hex.prefixedValue? text = some header ∧ data.Denotes place 4 header ∧ header ≠ 0x00010000

/-- The diagnostic of a justified stop says why the instruction stopped. -/
theorem Abort.Justified.diagnostic {data : Bytes} {start : Nat} {code : UInt8} {abort : Abort}
    (h : abort.Justified data start code) :
    (∃ requested, (abort.diagnostic start).IsTruncation data start code requested) ∨
      ∃ place, (abort.diagnostic start).IsBadHeader data start code place := by
  cases abort with
  | outOfBounds reader failure =>
    refine .inl ⟨failure.requested, ⟨rfl, rfl, rfl, ?_, failure.message_eq_beforeStart_iff, ?_, ?_⟩⟩
    · exact h.symm.imp (fun h => h.2.1) fun h => h.2
    · intro hnonneg
      have hlength : failure.length = data.size := h.elim (fun h => h.1) fun h => h.1
      change failure.message = _
      rw [OutOfBounds.message, if_neg (Int.not_lt.mpr hnonneg), hlength]
    · intro hneg
      rcases h with ⟨-, hpast⟩ | ⟨-, -, hback⟩
      · omega
      · exact hback
  | structHeader position header =>
    obtain ⟨hcode, hs, hd, hne⟩ := h
    exact .inr ⟨position, hcode, rfl, rfl, rfl, hs, hd.1, header, Hex.prefixed header, rfl,
      Hex.prefixedValue?_prefixed header, hd, hne⟩

namespace Scan

variable {options : ScanOptions} {data : Bytes}

/-- The last step of a scan stops for a reason that its bytes bear out. -/
theorem justified_of_stop {last : Step} {abort : Abort}
    (hl : last ∈ (walk options data).getLast?) (hn : last.next = .error abort) :
    ∃ code, data[last.start]? = some code ∧ abort.Justified data last.start code := by
  obtain ⟨code, depths, hc, hstep⟩ :=
    (walks_walk options data).mem_take (List.mem_of_mem_getLast? hl)
  rw [hstep, Step.take_next] at hn
  exact ⟨code, hc, Instruction.check_stops options data last.start code abort hn⟩

/-- A scan has one fatal diagnostic if it aborts, and else none. -/
theorem countP_fatal (options : ScanOptions) (data : Bytes) :
    (run options data).diagnostics.countP (·.fatal) =
      if (run options data).aborted then 1 else 0 := by
  cases hab : (run options data).aborted with
  | false =>
    rw [Outcome.aborted, List.any_eq_false] at hab
    simpa [List.countP_eq_zero] using hab
  | true =>
    obtain ⟨last, hl, abort, hn⟩ := aborted_iff.mp hab
    have hfound : ((walk options data).flatMap (·.found)).countP (·.fatal) = 0 := by
      rw [List.countP_eq_zero]
      intro d hd
      rw [not_fatal_of_mem_found hd]
      exact Bool.false_ne_true
    simp [run_of_stop hl hn, hfound, abort.diagnostic_fatal]

/-- A scan has one fatal diagnostic if it aborts, which it does exactly if a step stops, and else
none. The fatal diagnostic is the last one, behind everything that the steps reported, the step
that stopped included; the scan came to where that step begins. It says that the script is cut off
or that a struct has no header, and the bytes bear it out. -/
theorem run_abort (options : ScanOptions) (data : Bytes) :
    (run options data).diagnostics.countP (·.fatal) =
        (if (run options data).aborted then 1 else 0) ∧
    ((run options data).aborted = true ↔
      ∃ step ∈ walk options data, ∃ abort, step.next = .error abort) ∧
    ∀ d ∈ (run options data).diagnostics, d.fatal = true →
      ∃ before last code, walk options data = before ++ [last] ∧
        data[last.start]? = some code ∧ (∃ abort, last.next = .error abort) ∧
        (run options data).bytesScanned = last.start ∧
        (run options data).diagnostics =
          before.flatMap (·.found) ++ last.found ++ [d] ∧
        (∀ d' ∈ before.flatMap (·.found) ++ last.found, d'.fatal = false) ∧
        ((∃ requested, d.IsTruncation data last.start code requested) ∨
          ∃ place, d.IsBadHeader data last.start code place) := by
  refine ⟨countP_fatal options data, ?_, fun d hd hf => ?_⟩
  · rw [aborted_iff]
    constructor
    · rintro ⟨last, hl, abort, hn⟩
      exact ⟨last, List.mem_of_mem_getLast? hl, abort, hn⟩
    · rintro ⟨step, hs, abort, hn⟩
      rcases (walks_walk options data).reach (Nat.zero_le _) with
        ⟨hgo, -⟩ | ⟨last, hl, abort, hn, -⟩
      · obtain ⟨next, hnext⟩ := hgo step hs
        cases hn.symm.trans hnext
      · exact ⟨last, hl, abort, hn⟩
  · obtain ⟨last, hl, abort, hn, rfl⟩ := exists_stop_of_fatal hd hf
    obtain ⟨code, hc, hjustified⟩ := justified_of_stop hl hn
    obtain ⟨before, hw⟩ := List.getLast?_eq_some_iff.mp hl
    have hfound : (walk options data).flatMap (·.found) =
        before.flatMap (·.found) ++ last.found := by
      rw [hw, List.flatMap_append, List.flatMap_singleton]
    refine ⟨before, last, code, hw, hc, ⟨abort, hn⟩, ?_, ?_, ?_, hjustified.diagnostic⟩
    · rw [run_of_stop hl hn]
    · rw [run_of_stop hl hn, hfound]
    · rw [← hfound]
      exact fun d' hd' => not_fatal_of_mem_found hd'

/-- A wide string that is cut off has its odd length reported all the same. -/
example : (run {} #[0x01, 0x4C, 0x03, 0x00, 0x00, 0x00]).diagnostics.map (·.ruleId) =
    [Rule.wideStringOddLength.id, Rule.truncatedScript.id] := by decide +kernel

end Scan

end QbLint
