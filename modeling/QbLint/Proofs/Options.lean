import Mathlib.Data.List.Nodup
import QbLint.Proofs.Prefix

/-!
# Scans with other options

The options of a scan decide what is reported on the way and at the end, and nothing else: scans of
the same bytes take the same steps, and what they find differs by diagnostics of three rules.

* `Likeness`: a relation between what two runs report that goes piece by piece;
* `Likeness.Accounts`: what such a relation must know of two sets of options, which is only how the
  two instructions that look at them report;
* `Walks.alike`: the steps of two scans, one by one;
* `Diagnostic.IsOptional`: the diagnostics that depend on the options;
* `Scan.run_congr_options`: any two scans of the same bytes, and each of the options by itself.
-/

namespace QbLint

/-- A relation between what two runs report that holds of the whole if it holds of its pieces. -/
structure Likeness where
  like : List Diagnostic → List Diagnostic → Prop
  refl (a : List Diagnostic) : like a a
  append {a b a' b' : List Diagnostic} : like a a' → like b b' → like (a ++ b) (a' ++ b')

/-- The two report the same apart from what is not kept. -/
def Likeness.filter (keep : Diagnostic → Bool) : Likeness where
  like a a' := a.filter keep = a'.filter keep
  refl _ := rfl
  append ha hb := by rw [List.filter_append, List.filter_append, ha, hb]

/-- The second reports the same as the first apart from some of what is not kept. -/
def Likeness.thin (keep : Diagnostic → Bool) : Likeness where
  like a a' := a'.Sublist a ∧ a.filter keep = a'.filter keep
  refl a := ⟨List.Sublist.refl a, rfl⟩
  append ha hb := ⟨ha.1.append hb.1, (Likeness.filter keep).append ha.2 hb.2⟩

/-- Both runs go on as long as the other does, and stop for the same reason. -/
def Likeness.agreement (L : Likeness) : Agreement where
  same := L.like
  stopped f e f' r := L.like f f' ∧ r = some e
  same_nil := L.refl []
  same_append := L.append
  stopped_append hs h := ⟨L.append hs h.1, h.2⟩
  stopped_more h := nomatch h.2

open Check (Agrees agrees_bind)

theorem Likeness.agrees_self (L : Likeness) {α : Type} (x : Check α) :
    Agrees L.agreement (· = ·) x x := by
  obtain ⟨found, value⟩ := x
  cases value with
  | ok a => exact ⟨a, rfl, rfl, L.refl found⟩
  | error e => exact ⟨L.refl found, rfl⟩

/-- The relation accounts for the differences between two sets of options, which are how opcodes
without operands and the padding of structs are judged. -/
structure Likeness.Accounts (L : Likeness) (options other : ScanOptions) (data : Bytes) : Prop where
  bare {start : Nat} {code : UInt8} : data[start]? = some code →
    L.like (Instruction.bare options code start).found (Instruction.bare other code start).found
  padding (padding position : Nat) :
    L.like
      (Check.reportIf (options.maxPadding < padding)
        (Rule.structPaddingTooLong.report "Padding unnecessarily long for struct" position)).found
      (Check.reportIf (other.maxPadding < padding)
        (Rule.structPaddingTooLong.report "Padding unnecessarily long for struct" position)).found

section Steps

variable {L : Likeness} {options other : ScanOptions} {data : Bytes} {start : Nat} {code : UInt8}
  {depths : Depths} {steps steps' : List Step}

theorem Instruction.struct_alike (h : L.Accounts options other data) (start : Nat) :
    Agrees L.agreement (· = ·) (struct options data start) (struct other data start) := by
  refine agrees_bind (L.agrees_self _) ?_
  rintro length _ rfl
  refine agrees_bind (L.agrees_self _) fun _ _ _ => ?_
  refine agrees_bind (L.agrees_self _) ?_
  rintro found _ rfl
  split
  · refine agrees_bind (L.agrees_self _) fun _ _ _ => ?_
    have hpadding : Agrees L.agreement (fun _ _ => True) (Check.reportIf _ _)
        (Check.reportIf _ _) :=
      ⟨(), rfl, trivial, h.padding (data.endOfZeros (start + 3) - (start + 3)) (start + 3)⟩
    exact agrees_bind hpadding fun _ _ _ => L.agrees_self _
  · exact L.agrees_self _

/-- Only two forms of instructions look at the options. -/
theorem Instruction.check_alike (h : L.Accounts options other data)
    (hc : data[start]? = some code) :
    Agrees L.agreement (· = ·) (check options data start code) (check other data start code) := by
  unfold check
  cases Form.ofOpcode code with
  | struct => exact struct_alike h start
  | bare => exact ⟨start + 1, rfl, rfl, h.bare hc⟩
  | _ => exact L.agrees_self _

theorem Instruction.found_alike (h : L.Accounts options other data)
    (hc : data[start]? = some code) :
    L.like (check options data start code).found (check other data start code).found := by
  have hcheck := check_alike h hc
  cases hv : (check options data start code).value with
  | ok next =>
    obtain ⟨_, -, -, hlike⟩ := hcheck.of_ok hv
    exact hlike
  | error e => exact (hcheck.of_error hv).1

theorem Step.take_alike (h : L.Accounts options other data) (hc : data[start]? = some code)
    (depths : Depths) :
    (Step.take options data start code depths).view =
        (Step.take other data start code depths).view ∧
      L.like (Step.take options data start code depths).found
        (Step.take other data start code depths).found := by
  constructor
  · rw [view, view, take_start, take_start, take_next, take_next, take_depths, take_depths,
      Instruction.check_value_congr]
  · rw [take_found, take_found]
    exact L.append (Instruction.found_alike h hc) (L.refl _)

/-- Two walks over the same bytes take the same steps, and each two of these report alike. -/
theorem Walks.alike (h : L.Accounts options other data) (hw : Walks options data start depths steps)
    (hw' : Walks other data start depths steps') :
    List.Forall₂ (fun step step' => step.view = step'.view ∧ L.like step.found step'.found)
      steps steps' := by
  induction hw generalizing steps' with
  | done hs =>
    rw [hw'.eq_nil hs]
    exact .nil
  | @stop _ depths _ _ hc hn =>
    have hstep := Step.take_alike h hc depths
    have hnext := congrArg (fun view => view.2.1) hstep.1
    rw [hw'.of_stop hc (hnext.symm.trans hn)]
    exact .cons hstep .nil
  | @step _ _ depths _ _ hc hn _ ih =>
    have hstep := Step.take_alike h hc depths
    have hnext := congrArg (fun view => view.2.1) hstep.1
    have hdepths := congrArg (fun view => view.2.2) hstep.1
    obtain ⟨rest, rfl, hrest⟩ := hw'.of_next hc (hnext.symm.trans hn)
    rw [← show _ = (Step.take other ..).depths from hdepths] at hrest
    exact .cons hstep (ih hrest)

end Steps

/-! ## Diagnostics that depend on the options -/

/-- The diagnostic is about an opcode that only the corrected table knows. -/
def Diagnostic.IsCorrectable (data : Bytes) (d : Diagnostic) : Bool :=
  d.ruleId == Rule.illegalOpcode.id &&
    (data[d.position.toNat]? == some 0x38 || data[d.position.toNat]? == some 0x39)

/-- The diagnostic depends on the options. -/
def Diagnostic.IsOptional (data : Bytes) (d : Diagnostic) : Bool :=
  d.IsCorrectable data || d.ruleId == Rule.structPaddingTooLong.id ||
    d.ruleId == Rule.unclosedNesting.id

/-- The two tables of opcodes differ in two codes. -/
theorem Opcode.isKnown_congr {code : UInt8} (h : code ≠ 0x38) (h' : code ≠ 0x39) (a b : Bool) :
    isKnown a code.toNat = isKnown b code.toNat := by
  have hne : code.toNat ≠ 0x38 := fun heq => h (UInt8.toNat_inj.mp heq)
  have hne' : code.toNat ≠ 0x39 := fun heq => h' (UInt8.toNat_inj.mp heq)
  have hall : ∀ c : Bool, isKnown c code.toNat = isKnown false code.toNat := fun c => by
    cases c with
    | false => rfl
    | true =>
      rw [Bool.eq_iff_iff]
      simp only [isKnown, ranges, List.any_cons, List.any_nil, Bool.or_eq_true, Bool.and_eq_true,
        decide_eq_true_eq, if_true, if_false, Bool.false_eq_true, or_false]
      omega
  rw [hall a, hall b]

theorem Instruction.bare_found (options : ScanOptions) (code : UInt8) (start : Nat) :
    (bare options code start).found =
      if Opcode.isKnown options.correctedRanges code.toNat = false then
        [Rule.illegalOpcode.report ("Illegal opcode: " ++ Hex.padded 2 code.toNat) start]
      else [] := by
  simp [bare, Check.bind_def, Check.andThen, Check.reportIf, Check.pure_def]

theorem Depths.unclosed_eq_map (depths : Depths) (position : Int) :
    depths.unclosed position = (BlockKind.all.filter fun kind => 0 < depths.of kind).map fun kind =>
      Rule.unclosedNesting.report ("Unclosed " ++ kind.name ++ " at end of script") position := by
  rw [unclosed, ← List.filterMap_eq_map, List.filterMap_filter]
  simp only [decide_eq_true_eq, Function.comp_apply]

theorem Rule.id_injective : Function.Injective Rule.id := by
  have hid : ∀ rule : Rule, ofId? rule.id = some rule := fun rule => by cases rule <;> decide
  intro a b h
  have := hid a
  rw [h, hid b] at this
  exact (Option.some.inj this).symm

theorem Form.illegalOpcode_not_mem_rules {form : Form} (h : form ≠ .bare) :
    Rule.illegalOpcode ∉ form.rules := by
  cases form <;> simp_all [rules]

/-! ## Comparisons of options -/

section Comparisons

variable {keep : Diagnostic → Bool} {options other : ScanOptions} {data : Bytes} {d : Diagnostic}

/-- If reports about the two codes in which the tables differ are not kept, the tables do not
matter. -/
theorem Instruction.filter_bare_found {start : Nat} {code : UInt8}
    (hkeep : ∀ d : Diagnostic, d.IsReport → d.IsCorrectable data = true → keep d = false)
    (hc : data[start]? = some code) :
    (bare options code start).found.filter keep = (bare other code start).found.filter keep := by
  rw [bare_found, bare_found]
  by_cases hcode : code = 0x38 ∨ code = 0x39
  · have hdrop := hkeep
      (Rule.illegalOpcode.report ("Illegal opcode: " ++ Hex.padded 2 code.toNat) start)
      ⟨_, _, _, rfl, rfl⟩ (by
        rcases hcode with rfl | rfl <;> simp [Diagnostic.IsCorrectable, Rule.report, hc])
    split <;> split <;> simp [hdrop]
  · rw [not_or] at hcode
    rw [Opcode.isKnown_congr hcode.1 hcode.2 options.correctedRanges other.correctedRanges]

/-- If nothing that depends on the options is kept, they do not matter. -/
theorem Likeness.accounts_filter
    (hkeep : ∀ d : Diagnostic, d.IsReport → d.IsOptional data = true → keep d = false) :
    (Likeness.filter keep).Accounts options other data where
  bare hc := Instruction.filter_bare_found
    (fun d hd hcorrectable => hkeep d hd (by simp [Diagnostic.IsOptional, hcorrectable])) hc
  padding padding position := by
    have hdrop := hkeep
      (Rule.structPaddingTooLong.report "Padding unnecessarily long for struct" position)
      ⟨_, _, _, rfl, rfl⟩ (by simp [Diagnostic.IsOptional, Rule.report])
    change List.filter keep (if _ then _ else _) = List.filter keep (if _ then _ else _)
    split <;> split <;> simp [hdrop]

/-- The tables of opcodes matter to the reports about two codes. -/
theorem Likeness.accounts_corrected (options : ScanOptions) (a b : Bool) (data : Bytes) :
    (Likeness.filter (!·.IsCorrectable data)).Accounts { options with correctedRanges := a }
      { options with correctedRanges := b } data where
  bare hc := Instruction.filter_bare_found (fun d _ h => by simp [h]) hc
  padding _ _ := rfl

/-- A higher limit for the padding of structs takes reports of long padding away. -/
theorem Likeness.accounts_padding (options : ScanOptions) (more : Nat) (data : Bytes) :
    (Likeness.thin (·.ruleId != Rule.structPaddingTooLong.id)).Accounts options
      { options with maxPadding := options.maxPadding + more } data where
  bare _ := (Likeness.thin _).refl _
  padding padding position := by
    by_cases h : options.maxPadding + more < padding
    · have h' : options.maxPadding < padding := by omega
      simpa [Check.reportIf, h, h'] using (Likeness.thin _).refl _
    · by_cases h' : options.maxPadding < padding
      · simp [Likeness.thin, Check.reportIf, h, h', Rule.report]
      · simpa [Check.reportIf, h, h'] using (Likeness.thin _).refl _

/-- The balance of blocks matters to no step. -/
theorem Likeness.accounts_balance (L : Likeness) (options : ScanOptions) (a b : Bool)
    (data : Bytes) :
    L.Accounts { options with checkBalance := a } { options with checkBalance := b } data where
  bare _ := L.refl _
  padding _ _ := L.refl _

/-- A step reports no code as illegal that the corrected table knows, if that is the one in use. -/
theorem Step.not_isCorrectable {start : Nat} {code : UInt8} {depths : Depths}
    (ho : options.correctedRanges = true) (hc : data[start]? = some code)
    (hd : d ∈ (Step.take options data start code depths).found) : d.IsCorrectable data = false := by
  have hother : ∀ rule ≠ Rule.illegalOpcode, ∀ message position,
      (rule.report message position).IsCorrectable data = false := by
    intro rule hne message position
    have hid : rule.id ≠ Rule.illegalOpcode.id := fun h => hne (Rule.id_injective h)
    simp [Diagnostic.IsCorrectable, Rule.report, hid]
  rw [Step.take_found, List.mem_append] at hd
  rcases hd with hd | hd
  · by_cases hf : Form.ofOpcode code = .bare
    · have hcheck : Instruction.check options data start code =
          Instruction.bare options code start := by rw [Instruction.check, hf]
      rw [hcheck, Instruction.bare_found, ho] at hd
      split at hd
      · rename_i hunknown
        obtain rfl := List.mem_singleton.mp hd
        have h38 : code ≠ 0x38 := by rintro rfl; revert hunknown; decide
        have h39 : code ≠ 0x39 := by rintro rfl; revert hunknown; decide
        simp [Diagnostic.IsCorrectable, Rule.report, hc, h38, h39]
      · cases hd
    · refine Instruction.check_finds (p := fun d => d.IsCorrectable data = false) options data
        start code (fun rule hr => ?_) d hd
      exact hother rule fun h => Form.illegalOpcode_not_mem_rules hf (h ▸ hr)
  · split at hd
    · unfold Depths.unbalanced at hd
      split at hd
      · obtain rfl := List.mem_singleton.mp hd
        exact hother _ (by decide) _ _
      · cases hd
    · cases hd

end Comparisons

/-! ## Scans -/

namespace Scan

variable {L : Likeness} {options other : ScanOptions} {data : Bytes}

theorem walk_alike (h : L.Accounts options other data) :
    List.Forall₂ (fun step step' => step.view = step'.view ∧ L.like step.found step'.found)
      (walk options data) (walk other data) :=
  (walks_walk options data).alike h (walks_walk other data)

/-- The options do not matter to where a scan goes. -/
theorem map_view_walk_congr (options other : ScanOptions) (data : Bytes) :
    (walk options data).map Step.view = (walk other data).map Step.view := by
  have h : (Likeness.filter fun _ => false).Accounts options other data :=
    Likeness.accounts_filter fun _ _ _ => rfl
  rw [← List.forall₂_eq_eq_eq, List.forall₂_map_left_iff, List.forall₂_map_right_iff]
  exact (walk_alike h).imp fun _ _ h => h.1

theorem getLast?_view_congr (options other : ScanOptions) (data : Bytes) :
    (walk options data).getLast?.map Step.view = (walk other data).getLast?.map Step.view := by
  rw [← List.getLast?_map, ← List.getLast?_map, map_view_walk_congr options other]

theorem found_alike (h : L.Accounts options other data) :
    L.like ((walk options data).flatMap (·.found)) ((walk other data).flatMap (·.found)) :=
  L.agreement.same_flatMap ((walk_alike h).imp fun _ _ h => h.2)

/-- Two last steps that came to the same differ only in what they report. -/
theorem last_cases {last last' : Option Step} (h : last.map Step.view = last'.map Step.view) :
    last = none ∧ last' = none ∨ ∃ start found found' next depths,
      last = some ⟨start, found, next, depths⟩ ∧ last' = some ⟨start, found', next, depths⟩ := by
  cases last with
  | none => exact .inl ⟨rfl, Option.map_eq_none_iff.mp h.symm⟩
  | some step =>
    obtain ⟨⟨_, found', _, _⟩, rfl, hview⟩ := Option.map_eq_some_iff.mp h.symm
    cases hview
    exact .inr ⟨_, _, found', _, _, rfl, rfl⟩

theorem reach_congr {last last' : Option Step} (h : last.map Step.view = last'.map Step.view) :
    reach last = reach last' := by
  obtain ⟨rfl, rfl⟩ | ⟨start, _, _, next, depths, rfl, rfl⟩ := last_cases h
  · rfl
  · cases next <;> rfl

/-- What the ends of two walks add is alike if the blocks still open are reported alike. -/
theorem closing_alike {last last' : Option Step} (h : last.map Step.view = last'.map Step.view)
    (hopen : ∀ depths : Depths,
      L.like (if options.checkBalance then depths.unclosed data.size else [])
        (if other.checkBalance then depths.unclosed data.size else [])) :
    L.like (closing options data last) (closing other data last') := by
  obtain ⟨rfl, rfl⟩ | ⟨start, _, _, next, depths, rfl, rfl⟩ := last_cases h
  · exact L.refl []
  · cases next with
    | error abort => exact L.refl _
    | ok next => exact hopen depths

theorem diagnostics_alike (h : L.Accounts options other data)
    (hopen : ∀ depths : Depths,
      L.like (if options.checkBalance then depths.unclosed data.size else [])
        (if other.checkBalance then depths.unclosed data.size else [])) :
    L.like (run options data).diagnostics (run other data).diagnostics :=
  L.append (found_alike h) (closing_alike (getLast?_view_congr options other data) hopen)

/-- If nothing that depends on the options is kept of what two scans find, they find the same. -/
theorem filter_diagnostics_congr {keep : Diagnostic → Bool} (options other : ScanOptions)
    (hkeep : ∀ d : Diagnostic, d.IsReport → d.IsOptional data = true → keep d = false) :
    (run options data).diagnostics.filter keep = (run other data).diagnostics.filter keep := by
  have hopen : ∀ (b : Bool) (depths : Depths),
      (if b then depths.unclosed data.size else []).filter keep = [] := by
    intro b depths
    rw [List.filter_eq_nil_iff]
    intro d hd
    split at hd
    · rw [Depths.unclosed_eq_map] at hd
      obtain ⟨kind, -, rfl⟩ := List.mem_map.mp hd
      rw [hkeep _ ⟨_, _, _, rfl, rfl⟩ (by simp [Diagnostic.IsOptional, Rule.report])]
      exact Bool.false_ne_true
    · cases hd
  refine diagnostics_alike (L := .filter keep) (Likeness.accounts_filter hkeep) fun depths => ?_
  change List.filter keep _ = List.filter keep _
  rw [hopen, hopen]

theorem not_isCorrectable {d : Diagnostic} (ho : options.correctedRanges = true)
    (hd : d ∈ (run options data).diagnostics) : d.IsCorrectable data = false := by
  have hother : ∀ d : Diagnostic, d.ruleId ≠ Rule.illegalOpcode.id →
      d.IsCorrectable data = false := fun d hne => by simp [Diagnostic.IsCorrectable, hne]
  rcases List.mem_append.mp hd with hd | hd
  · obtain ⟨step, hs, hd⟩ := List.mem_flatMap.mp hd
    obtain ⟨code, depths, hc, hstep⟩ := (walks_walk options data).mem_take hs
    rw [hstep] at hd
    exact Step.not_isCorrectable ho hc hd
  · unfold closing at hd
    split at hd
    · rename_i abort _ _
      obtain rfl := List.mem_singleton.mp hd
      cases abort with
      | outOfBounds => exact hother _ (show Rule.truncatedScript.id ≠ _ by decide)
      | structHeader => exact hother _ (show Rule.structHeaderInvalid.id ≠ _ by decide)
    · split at hd
      · rw [Depths.unclosed_eq_map] at hd
        obtain ⟨kind, -, rfl⟩ := List.mem_map.mp hd
        exact hother _ (show Rule.unclosedNesting.id ≠ _ by decide)
      · cases hd
    · cases hd

theorem diagnostics_corrected (options : ScanOptions) (data : Bytes) :
    (run { options with correctedRanges := true } data).diagnostics =
      (run { options with correctedRanges := false } data).diagnostics.filter
        (!·.IsCorrectable data) := by
  have hall : ∀ d ∈ (run { options with correctedRanges := true } data).diagnostics,
      (!d.IsCorrectable data) = true := fun d hd => by rw [not_isCorrectable rfl hd, Bool.not_false]
  have halike := diagnostics_alike (Likeness.accounts_corrected options false true data)
    fun _ => rfl
  exact (List.filter_eq_self.mpr hall).symm.trans (Eq.symm halike)

theorem diagnostics_padding (options : ScanOptions) (more : Nat) (data : Bytes) :
    (run { options with maxPadding := options.maxPadding + more } data).diagnostics.Sublist
        (run options data).diagnostics ∧
      (run { options with maxPadding := options.maxPadding + more } data).diagnostics.filter
          (·.ruleId != Rule.structPaddingTooLong.id) =
        (run options data).diagnostics.filter (·.ruleId != Rule.structPaddingTooLong.id) := by
  have halike := diagnostics_alike (Likeness.accounts_padding options more data)
    fun _ => (Likeness.thin _).refl _
  exact ⟨halike.1, halike.2.symm⟩

theorem diagnostics_balance (options : ScanOptions) (data : Bytes) :
    ∃ kinds : List BlockKind, kinds.Nodup ∧
      ((run { options with checkBalance := true } data).aborted = true → kinds = []) ∧
      (run { options with checkBalance := true } data).diagnostics =
        (run { options with checkBalance := false } data).diagnostics ++ kinds.map fun kind =>
          Rule.unclosedNesting.report ("Unclosed " ++ kind.name ++ " at end of script")
            data.size := by
  have hfound : (walk { options with checkBalance := true } data).flatMap (·.found) =
      (walk { options with checkBalance := false } data).flatMap (·.found) :=
    found_alike (L := ⟨Eq, fun _ => rfl, congrArg₂ _⟩)
      (Likeness.accounts_balance _ options true false data)
  obtain ⟨hl, hl'⟩ | ⟨start, _, _, next, depths, hl, hl'⟩ := last_cases <|
    getLast?_view_congr { options with checkBalance := true }
      { options with checkBalance := false } data
  · exact ⟨[], .nil, fun _ => rfl, by simp [run, hl, hl', hfound, closing]⟩
  · cases next with
    | error abort => exact ⟨[], .nil, fun _ => rfl, by simp [run, hl, hl', hfound, closing]⟩
    | ok next =>
      refine ⟨BlockKind.all.filter fun kind => 0 < depths.of kind, ?_, fun hab => ?_, ?_⟩
      · exact List.Nodup.filter _ (by decide)
      · obtain ⟨_, hlast, abort, hn⟩ := aborted_iff.mp hab
        cases hl.symm.trans hlast
        cases hn
      · simp [run, hl, hl', hfound, closing, Depths.unclosed_eq_map]

/-- Whatever its options, a scan of the same bytes takes the same steps, comes as far, and ends with
the same fatal diagnostic if it ends with one; what it finds is the same but for opcodes that only
the corrected table knows, long padding and open blocks. The corrected table takes the former away
and nothing else; a higher limit takes only reports of long padding away; and the balance of blocks
is reported behind everything else, each kind at most once, unless the scan aborts. -/
theorem run_congr_options (options other : ScanOptions) (data : Bytes) :
    (walk options data).map Step.view = (walk other data).map Step.view ∧
    (run options data).bytesScanned = (run other data).bytesScanned ∧
    (run options data).aborted = (run other data).aborted ∧
    (run options data).diagnostics.filter (·.fatal) =
      (run other data).diagnostics.filter (·.fatal) ∧
    (run options data).diagnostics.filter (!·.IsOptional data) =
      (run other data).diagnostics.filter (!·.IsOptional data) ∧
    (run { options with correctedRanges := true } data).diagnostics =
      (run { options with correctedRanges := false } data).diagnostics.filter
        (!·.IsCorrectable data) ∧
    (∀ more : Nat,
      (run { options with maxPadding := options.maxPadding + more } data).diagnostics.Sublist
          (run options data).diagnostics ∧
        (run { options with maxPadding := options.maxPadding + more } data).diagnostics.filter
            (·.ruleId != Rule.structPaddingTooLong.id) =
          (run options data).diagnostics.filter (·.ruleId != Rule.structPaddingTooLong.id)) ∧
    ∃ kinds : List BlockKind, kinds.Nodup ∧
      ((run { options with checkBalance := true } data).aborted = true → kinds = []) ∧
      (run { options with checkBalance := true } data).diagnostics =
        (run { options with checkBalance := false } data).diagnostics ++ kinds.map fun kind =>
          Rule.unclosedNesting.report ("Unclosed " ++ kind.name ++ " at end of script")
            data.size := by
  have hfatal : (run options data).diagnostics.filter (·.fatal) =
      (run other data).diagnostics.filter (·.fatal) := by
    refine filter_diagnostics_congr options other ?_
    rintro _ ⟨rule, message, position, -, rfl⟩ -
    rfl
  have haborted : ∀ options, (run options data).aborted =
      ((run options data).diagnostics.filter (·.fatal)).any (·.fatal) := fun options => by
    simp [Outcome.aborted]
  refine ⟨map_view_walk_congr options other data, ?_, ?_, hfatal, ?_,
    diagnostics_corrected options data, fun more => diagnostics_padding options more data,
    diagnostics_balance options data⟩
  · exact congrArg (fun n : Nat => (n : Int)) (reach_congr (getLast?_view_congr options other data))
  · rw [haborted, haborted, hfatal]
  · exact filter_diagnostics_congr options other fun d _ h => by rw [h, Bool.not_true]

end Scan

end QbLint
