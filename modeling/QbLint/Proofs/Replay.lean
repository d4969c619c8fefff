import Mathlib.Data.List.Forall2
import QbLint.Proofs.Agreement
import QbLint.Proofs.Balance

/-!
# A script read again

The steps through one buffer, followed by those through another at offsets further on. `Reads` and
`Replays` list what a comparison of the two must know of single readings, moves and reports; from
this, proved once here, it follows for

* `Instruction.check_agrees`: the check of an instruction;
* `Step.take_agrees`: a step of a scan.

`Walks.alongside` puts the steps of two walks side by side.

Checks look at the size of a buffer only where they leave it, but for the end of a script, which
asks whether it is the last byte; so this is a condition of its own.
-/

namespace QbLint

open Check (Agrees agrees_pure agrees_report agrees_reportIf agrees_bind readAside)

/-- Reading and moving in `copy`, `k` bytes further on, follows reading and moving in `data`. -/
structure Reads (A : Agreement) (data copy : Bytes) (k : Nat) : Prop where
  slice (reader width : Nat) {position position' : Nat} : position' = position + k →
    Agrees A (· = ·) (readAside reader (data.slice position width))
      (readAside (reader + k) (copy.slice position' width))
  goto (reader : Nat) {position position' : Nat} {target target' : Int} :
    position' = position + k → target' = target + k →
    Agrees A (fun next next' => next' = next + k) (readAside reader (data.goto position target))
      (readAside (reader + k) (copy.goto position' target'))

/-- The reports of the two follow each other as well, though they depend on the options. -/
structure Replays (A : Agreement) (options other : ScanOptions) (data copy : Bytes) (k : Nat) : Prop
    extends Reads A data copy k where
  aligned : k % 4 = 0
  /-- Both come to the end of a run of zeros. -/
  endOfZeros {position position' : Nat} : position' = position + k →
    Agrees A (fun _ _ => copy.endOfZeros position' = data.endOfZeros position + k)
      (Check.read (data.byte (data.endOfZeros position)))
      (Check.read (copy.byte (copy.endOfZeros position')))
  structHeader (position header : Nat) :
    A.stopped [] (.structHeader position header) [] (some (.structHeader (position + k) header))
  report (rule : Rule) (message : String) {position position' : Nat} : position' = position + k →
    A.same [rule.report message position] [rule.report message position']
  tooLong (padding : Nat) {position position' : Nat} : position' = position + k →
    Agrees A (fun _ _ => True)
      (Check.reportIf (options.maxPadding < padding)
        (Rule.structPaddingTooLong.report "Padding unnecessarily long for struct" position))
      (Check.reportIf (other.maxPadding < padding)
        (Rule.structPaddingTooLong.report "Padding unnecessarily long for struct" position'))
  bare (code : UInt8) (start : Nat) :
    Agrees A (fun next next' => next' = next + k) (Instruction.bare options code start)
      (Instruction.bare other code (start + k))

namespace Reads

variable {A : Agreement} {data copy : Bytes} {k : Nat} (R : Reads A data copy k)
include R

theorem number (reader width : Nat) {position position' : Nat} (hp : position' = position + k) :
    Agrees A (· = ·) (readAside reader (data.number position width))
      (readAside (reader + k) (copy.number position' width)) := by
  rw [Bytes.number, Bytes.number, Check.readAside_bind, Check.readAside_bind]
  refine agrees_bind (R.slice reader width hp) ?_
  rintro bytes _ rfl
  exact agrees_pure rfl

theorem read_number (width : Nat) {position position' : Nat} (hp : position' = position + k) :
    Agrees A (· = ·) (Check.read (data.number position width))
      (Check.read (copy.number position' width)) := by
  have hread : ∀ (data : Bytes) (position : Nat),
      Check.read (data.number position width) =
        readAside position (data.number position width) := fun data position => by
    unfold Bytes.number Bytes.slice
    split <;> rfl
  rw [hread, hread, hp]
  exact R.number position width rfl

theorem read_goto {position position' target target' : Nat} (hp : position' = position + k)
    (ht : target' = target + k) :
    Agrees A (fun next next' => next' = next + k) (Check.read (data.goto position target))
      (Check.read (copy.goto position' target')) := by
  have hread : ∀ (data : Bytes) (position : Nat) (target : Int),
      Check.read (data.goto position target) = readAside position (data.goto position target) :=
    fun data position target => by
      unfold Bytes.goto
      split <;> rfl
  rw [hread, hread, hp]
  exact R.goto position rfl (by omega)

/-- A jump finds the same markers, by induction on those of its role. -/
theorem anyMarker (reader : Nat) (markers : List Jump.Marker) {position position' : Nat}
    {landing landing' : Int} (hp : position' = position + k) (hl : landing' = landing + k) :
    Agrees A (· = ·) (readAside reader (Jump.anyMarker data position landing markers))
      (readAside (reader + k) (Jump.anyMarker copy position' landing' markers)) := by
  induction markers generalizing position position' with
  | nil => exact agrees_pure rfl
  | cons marker rest ih =>
    simp only [Jump.anyMarker, Check.readAside_bind]
    refine agrees_bind (R.goto reader hp (by omega)) fun window window' hw => ?_
    refine agrees_bind (R.slice reader _ hw) ?_
    rintro found _ rfl
    refine agrees_bind (ih (by omega)) ?_
    rintro others _ rfl
    exact agrees_pure rfl

end Reads

namespace Replays

variable {A : Agreement} {options other : ScanOptions} {data copy : Bytes} {k : Nat}
  (R : Replays A options other data copy k)
include R

theorem jump (role : Jump.Role) (rule : Rule) (message : String) {field field' : Nat}
    {position position' : Nat} (hf : field' = field + k) (hp : position' = position + k) :
    Agrees A (fun _ _ => True)
      (Instruction.jump data field role (rule.report message position))
      (Instruction.jump copy field' role (rule.report message position')) := by
  refine agrees_bind (R.read_number 2 hf) ?_
  rintro offset _ rfl
  have hreader : field' + 2 = field + 2 + k := by omega
  rw [hreader]
  refine agrees_bind (R.anyMarker (field + 2) _ rfl (by rw [Jump.landing, Jump.landing]; omega)) ?_
  rintro reached _ rfl
  exact agrees_reportIf Iff.rfl (R.report rule message hp)

end Replays

namespace Instruction

variable {A : Agreement} {options other : ScanOptions} {data copy : Bytes} {k : Nat}
  (R : Replays A options other data copy k) (start : Nat)
include R

theorem narrowString_agrees : Agrees A (fun next next' => next' = next + k)
    (narrowString data start) (narrowString copy (start + k)) := by
  refine agrees_bind (R.read_number 4 (by omega)) ?_
  rintro length _ rfl
  split
  · exact agrees_bind (agrees_report (R.report _ _ rfl)) fun _ _ _ => agrees_pure (by omega)
  · refine agrees_bind (R.read_goto (by omega) (by omega)) fun last last' hl => ?_
    refine agrees_bind (R.read_number 1 hl) ?_
    rintro terminator _ rfl
    exact agrees_bind (agrees_reportIf Iff.rfl (R.report _ _ rfl)) fun _ _ _ =>
      agrees_pure (by omega)

theorem wideString_agrees : Agrees A (fun next next' => next' = next + k)
    (wideString data start) (wideString copy (start + k)) := by
  refine agrees_bind (R.read_number 4 (by omega)) ?_
  rintro length _ rfl
  split
  · exact agrees_bind (agrees_report (R.report _ _ rfl)) fun _ _ _ => agrees_pure (by omega)
  · refine agrees_bind (agrees_reportIf Iff.rfl (R.report _ _ rfl)) fun _ _ _ => ?_
    refine agrees_bind (R.read_goto (by omega) (by omega)) fun last last' hl => ?_
    refine agrees_bind (R.read_number 2 hl) ?_
    rintro terminator _ rfl
    exact agrees_bind (agrees_reportIf Iff.rfl (R.report _ _ rfl)) fun _ _ _ =>
      agrees_pure (by omega)

theorem recordTable_agrees : Agrees A (fun next next' => next' = next + k)
    (recordTable data start) (recordTable copy (start + k)) := by
  refine agrees_bind (R.read_number 2 (by omega)) ?_
  rintro count _ rfl
  exact R.read_goto (by omega) (by omega)

theorem struct_agrees : Agrees A (fun next next' => next' = next + k)
    (struct options data start) (struct other copy (start + k)) := by
  refine agrees_bind (R.read_number 2 (by omega)) ?_
  rintro length _ rfl
  refine agrees_bind (R.endOfZeros (by omega)) fun _ _ hz => ?_
  have hpadding : copy.endOfZeros (start + k + 3) - (start + k + 3) =
      data.endOfZeros (start + 3) - (start + 3) := by omega
  dsimp only
  rw [hpadding]
  refine agrees_bind (R.read_number 4 (by omega)) ?_
  rintro found _ rfl
  have := R.aligned
  split
  · refine agrees_bind (agrees_reportIf (by omega) (R.report _ _ (by omega))) fun _ _ _ => ?_
    refine agrees_bind (R.tooLong _ (by omega)) fun _ _ _ => ?_
    exact R.read_goto (by omega) (by omega)
  · rw [show start + k + 1 + (data.endOfZeros (start + 3) - (start + 3)) =
      start + 1 + (data.endOfZeros (start + 3) - (start + 3)) + k by omega]
    exact R.structHeader _ _

/-- The check of an instruction follows the check of the same instruction further on. -/
theorem check_agrees {code : UInt8}
    (hend : Form.ofOpcode code = .endOfScript →
      (start + 1 < data.size ↔ start + k + 1 < copy.size)) :
    Agrees A (fun next next' => next' = next + k) (check options data start code)
      (check other copy (start + k) code) := by
  unfold check
  cases hf : Form.ofOpcode code with
  | opening kind | closing kind => exact agrees_pure (by omega)
  | endOfScript =>
    exact agrees_bind (agrees_reportIf (hend hf) (R.report _ _ rfl)) fun _ _ _ =>
      agrees_pure (by omega)
  | narrowString => exact narrowString_agrees R start
  | wideString => exact wideString_agrees R start
  | recordTable => exact recordTable_agrees R start
  | struct => exact struct_agrees R start
  | ifBranch | elseBranch =>
    exact agrees_bind (R.jump _ _ _ (by omega) (by omega)) fun _ _ _ => agrees_pure (by omega)
  | switchJump =>
    exact agrees_bind (R.jump _ _ _ (by omega) rfl) fun _ _ _ => agrees_pure (by omega)
  | elseifBranch =>
    refine agrees_bind (R.jump _ _ _ (by omega) (by omega)) fun _ _ _ => ?_
    exact agrees_bind (R.jump _ _ _ (by omega) (by omega)) fun _ _ _ => agrees_pure (by omega)
  | switchCase =>
    refine agrees_bind (R.read_number 1 (by omega)) ?_
    rintro code _ rfl
    refine agrees_bind (agrees_reportIf Iff.rfl (R.report _ _ rfl)) fun _ _ _ => ?_
    exact agrees_bind (R.jump _ _ _ (by omega) (by omega)) fun _ _ _ => agrees_pure (by omega)
  | operand size => exact R.read_goto (by omega) (by omega)
  | bare => exact R.bare code start

end Instruction

/-! ## Steps -/

/-- What a step reports, and what it comes to. -/
def Step.outcome (step : Step) : Check Nat := ⟨step.found, step.next⟩

section Steps

variable {A : Agreement} {options other : ScanOptions} {data copy : Bytes} {k start : Nat}
  {code : UInt8} {depths : Depths} {steps steps' : List Step}

/-- A step follows the step over the same opcode further on. -/
theorem Step.take_agrees (R : Replays A options other data copy k)
    (hend : Form.ofOpcode code = .endOfScript →
      (start + 1 < data.size ↔ start + k + 1 < copy.size)) :
    Agrees A (fun next next' => next' = next + k)
      (Step.take options data start code depths).outcome
      (Step.take other copy (start + k) code depths).outcome := by
  have hcheck := Instruction.check_agrees R start hend
  rw [outcome, outcome, take_next, take_next, take_found, take_found]
  split
  · rename_i kind hf
    -- The check of an end of a block is silent, and the depths are the same in both.
    simp only [Instruction.check, hf]
    refine ⟨_, rfl, by omega, ?_⟩
    rw [Check.pure_def, Check.pure_def, List.nil_append, List.nil_append, Depths.unbalanced,
      Depths.unbalanced]
    split
    · exact R.report _ _ rfl
    · exact A.same_nil
  · simpa only [List.append_nil] using hcheck

/-- The two steps are over the same opcode and from the same depths, the second `k` bytes further
on. -/
def Step.Beside (options other : ScanOptions) (data copy : Bytes) (k : Nat) (step step' : Step) :
    Prop :=
  ∃ start code depths, data[start]? = some code ∧ step = Step.take options data start code depths ∧
    step' = Step.take other copy (start + k) code depths

theorem Step.Beside.start_eq {step step' : Step}
    (h : Step.Beside options other data copy k step step') : step'.start = step.start + k := by
  obtain ⟨start, code, depths, -, rfl, rfl⟩ := h
  rw [Step.take_start, Step.take_start]

theorem Step.Beside.depths_eq {step step' : Step}
    (h : Step.Beside options other data copy k step step') : step'.depths = step.depths := by
  obtain ⟨start, code, depths, -, rfl, rfl⟩ := h
  rw [Step.take_depths, Step.take_depths]

/-- Steps that report the same, each of them, report the same together. -/
theorem Agreement.same_flatMap (A : Agreement)
    (h : List.Forall₂ (fun step step' => A.same step.found step'.found) steps steps') :
    A.same (steps.flatMap (·.found)) (steps'.flatMap (·.found)) := by
  induction h with
  | nil => exact A.same_nil
  | cons hs _ ih => exact A.same_append hs ih

/-- Two walks side by side, where the second goes on as long as the first does. The steps of the
first but for its last come to a byte of the first buffer; behind the one beside the last, the
second walk goes on from where that one came to. -/
theorem Walks.alongside (h : Walks options data start depths steps)
    (h' : Walks other copy (start + k) depths steps')
    (hbyte : ∀ {i code}, data[i]? = some code → copy[i + k]? = some code)
    (hnext : ∀ {step step'}, Step.Beside options other data copy k step step' →
      ∀ {next}, step.next = .ok next → step'.next = .ok (next + k)) :
    steps = [] ∧ data.size ≤ start ∨
      ∃ before last before' last' after, steps = before ++ [last] ∧
        steps' = before' ++ last' :: after ∧
        List.Forall₂ (fun step step' => Step.Beside options other data copy k step step' ∧
          ∃ next < data.size, step.next = .ok next) before before' ∧
        Step.Beside options other data copy k last last' ∧
        (∀ abort, last'.next = .error abort → after = []) ∧
        ∀ next, last.next = .ok next →
          data.size ≤ next ∧ Walks other copy (next + k) last.depths after := by
  induction h generalizing steps' with
  | done hs => exact .inl ⟨rfl, hs⟩
  | @stop s depths code _ hc hn =>
    have hbeside : Step.Beside options other data copy k (Step.take options data s code depths)
        (Step.take other copy (s + k) code depths) := ⟨_, _, _, hc, rfl, rfl⟩
    cases hn' : (Step.take other copy (s + k) code depths).next with
    | error abort =>
      obtain rfl := h'.of_stop (hbyte hc) hn'
      exact .inr ⟨[], _, [], _, [], rfl, rfl, .nil, hbeside, fun _ _ => rfl,
        fun _ hok => (nomatch hn.symm.trans hok)⟩
    | ok next =>
      obtain ⟨rest', rfl, -⟩ := h'.of_next (hbyte hc) hn'
      exact .inr ⟨[], _, [], _, rest', rfl, rfl, .nil, hbeside,
        fun _ herr => (nomatch hn'.symm.trans herr), fun _ hok => (nomatch hn.symm.trans hok)⟩
  | @step s next depths code steps hc hn rest ih =>
    have hbeside : Step.Beside options other data copy k (Step.take options data s code depths)
        (Step.take other copy (s + k) code depths) := ⟨_, _, _, hc, rfl, rfl⟩
    have hn' := hnext hbeside hn
    obtain ⟨rest', rfl, hrest'⟩ := h'.of_next (hbyte hc) hn'
    rw [Step.take_depths, ← Step.take_depths options data s] at hrest'
    rcases ih hrest' with ⟨rfl, hs⟩ | ⟨before, last, before', last', after, rfl, rfl, hb, hl⟩
    · refine .inr ⟨[], _, [], _, rest', rfl, rfl, .nil, hbeside,
        fun _ herr => (nomatch hn'.symm.trans herr), fun _ hok => ?_⟩
      cases hn.symm.trans hok
      exact ⟨hs, hrest'⟩
    · have hlt : next < data.size :=
        rest.lt_size (List.append_ne_nil_of_right_ne_nil before (List.cons_ne_nil last []))
      exact .inr ⟨_ :: before, last, _ :: before', last', after, rfl, rfl,
        .cons ⟨hbeside, next, hlt, hn⟩ hb, hl⟩

end Steps

end QbLint
