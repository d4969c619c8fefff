import Mathlib.Combinatorics.Enumerative.DyckWord
import QbLint.Proofs.Acceptance
import QbLint.Proofs.Options

/-!
# Blocks as brackets

The beginnings and ends of the blocks of one kind, as a scan comes by them, are a word of brackets.
What a scan says about the kind can be read off that word, whatever stands between its brackets.

* `WellBracketed`: the words in which every bracket has its partner; `wellBracketed_iff`: in such a
  word nothing is closed before it is opened, and all that is opened is closed;
* `Depths.of_foldl_pass_eq_surplus`, `Walks.depth_eq`: a depth is what was opened less what was
  closed;
* `Walks.exists_isUnbalanced_iff`: a step reports the end of a block exactly if it is one and the
  depth behind it is below zero;
* `BlockKind.surplus_nonneg_iff`: it is enough to look at the depths behind the ends of blocks;
* `Scan.run_nesting`: what a scan reports about a kind of block.
-/

namespace QbLint

open DyckStep (U D)

/-! ## Words of brackets -/

/-- Every bracket of the word has its partner: the word is empty, or a pair of brackets around such
a word, or one such word behind another. -/
inductive WellBracketed : List DyckStep → Prop
  | nil : WellBracketed []
  | enclose {inner : List DyckStep} (h : WellBracketed inner) :
    WellBracketed ([U] ++ inner ++ [D])
  | append {left right : List DyckStep} (hl : WellBracketed left) (hr : WellBracketed right) :
    WellBracketed (left ++ right)

theorem WellBracketed.exists_dyckWord {word : List DyckStep} (h : WellBracketed word) :
    ∃ p : DyckWord, p.toList = word := by
  induction h with
  | nil => exact ⟨0, rfl⟩
  | enclose _ ih =>
    obtain ⟨p, rfl⟩ := ih
    exact ⟨p.nest, rfl⟩
  | append _ _ ihl ihr =>
    obtain ⟨p, rfl⟩ := ihl
    obtain ⟨q, rfl⟩ := ihr
    exact ⟨p + q, rfl⟩

/-- A Dyck word is well bracketed, by induction on its length: what its first bracket encloses and
what follows the partner of that bracket are shorter ones. -/
theorem wellBracketed_toList (p : DyckWord) : WellBracketed p.toList := by
  by_cases h : p = 0
  · rw [h]
    exact .nil
  · have hinside := DyckWord.semilength_insidePart_lt h
    have houtside := DyckWord.semilength_outsidePart_lt h
    have hsplit : p.toList = ([U] ++ p.insidePart.toList ++ [D]) ++ p.outsidePart.toList :=
      congrArg DyckWord.toList (DyckWord.nest_insidePart_add_outsidePart h).symm
    rw [hsplit]
    exact (wellBracketed_toList p.insidePart).enclose.append (wellBracketed_toList p.outsidePart)
termination_by p.semilength

theorem wellBracketed_iff {word : List DyckStep} : WellBracketed word ↔
    (∀ before, before <+: word → before.count D ≤ before.count U) ∧
      word.count U ≤ word.count D := by
  constructor
  · intro h
    obtain ⟨p, rfl⟩ := h.exists_dyckWord
    refine ⟨fun before hp => ?_, p.count_U_eq_count_D.le⟩
    have := p.count_D_le_count_U before.length
    rwa [← List.prefix_iff_eq_take.mp hp] at this
  · intro ⟨hbefore, hall⟩
    have hle := hbefore word (List.prefix_refl word)
    exact wellBracketed_toList
      ⟨word, Nat.le_antisymm hall hle, fun i => hbefore _ (List.take_prefix i word)⟩

/-! ## The word of a kind of block -/

namespace BlockKind

/-- What an opcode is to the blocks of a kind. -/
def bracket? (kind : BlockKind) (code : UInt8) : Option DyckStep :=
  if code = kind.opener then some U else if code = kind.closer then some D else none

/-- The beginnings and ends of the blocks of a kind among some opcodes. -/
def brackets (kind : BlockKind) (codes : List UInt8) : List DyckStep :=
  codes.filterMap kind.bracket?

/-- How many more blocks of a kind begin than end. -/
def surplus (kind : BlockKind) (codes : List UInt8) : Int :=
  codes.count kind.opener - codes.count kind.closer

variable {kind : BlockKind} {codes : List UInt8}

theorem opener_ne_closer (kind : BlockKind) : kind.opener ≠ kind.closer := by
  cases kind <;> decide

theorem count_brackets (kind : BlockKind) (codes : List UInt8) :
    (kind.brackets codes).count U = codes.count kind.opener ∧
      (kind.brackets codes).count D = codes.count kind.closer := by
  induction codes with
  | nil => exact ⟨rfl, rfl⟩
  | cons code codes ih =>
    have hne := kind.opener_ne_closer
    obtain ⟨hu, hd⟩ := ih
    rw [brackets] at hu hd ⊢
    by_cases ho : code = kind.opener
    · have hb : kind.bracket? code = some U := by simp [bracket?, ho]
      rw [List.filterMap_cons_some hb]
      simp [hu, hd, ho, hne]
    · by_cases hc : code = kind.closer
      · have hb : kind.bracket? code = some D := by simp [bracket?, hc, hne.symm]
        rw [List.filterMap_cons_some hb]
        simp [hu, hd, hc, hne.symm]
      · have hb : kind.bracket? code = none := by simp [bracket?, ho, hc]
        rw [List.filterMap_cons_none hb]
        simp [hu, hd, ho, hc]

/-- A kind's word is well bracketed exactly if its depth never falls below zero and ends there. -/
theorem wellBracketed_brackets_iff : WellBracketed (kind.brackets codes) ↔
    (∀ before, before <+: codes → 0 ≤ kind.surplus before) ∧ kind.surplus codes ≤ 0 := by
  have hcount := kind.count_brackets
  rw [wellBracketed_iff, (hcount codes).1, (hcount codes).2]
  simp only [surplus]
  constructor
  · intro ⟨hbefore, hall⟩
    refine ⟨fun before hp => ?_, by omega⟩
    have := hbefore _ (hp.filterMap kind.bracket?)
    have := hcount before
    simp only [brackets] at this
    omega
  · intro ⟨hbefore, hall⟩
    refine ⟨fun word hp => ?_, by omega⟩
    obtain ⟨before, hb, rfl⟩ := List.prefix_filterMap_iff.mp hp
    have := hbefore before hb
    have := hcount before
    simp only [brackets] at this
    omega

end BlockKind

variable {options : ScanOptions} {data : Bytes} {start next : Nat} {depths : Depths}
  {code : UInt8} {kind : BlockKind} {steps before : List Step} {step : Step}

/-- A depth that begins at zero is what was opened less what was closed. -/
theorem Depths.of_foldl_pass_eq_surplus (codes : List UInt8) (kind : BlockKind) :
    (codes.foldl pass {}).of kind = kind.surplus codes := by
  have hzero : ({} : Depths).of kind = 0 := by cases kind <;> rfl
  rw [of_foldl_pass, hzero, BlockKind.surplus]
  omega

theorem Walks.depth_eq (h : Walks options data start {} steps) (hp : before ++ [step] <+: steps)
    (kind : BlockKind) :
    step.depths.of kind = kind.surplus (opcodes data ((before ++ [step]).map (·.start))) := by
  rw [h.depths_eq hp, Depths.of_foldl_pass_eq_surplus, opcodes, List.filterMap_map]
  rfl

/-! ## What is said about a kind -/

/-- The diagnostic says that a block of a kind ends that did not begin. -/
def Diagnostic.IsUnbalanced (kind : BlockKind) (d : Diagnostic) : Prop :=
  d.ruleId = Rule.unbalancedNesting.id ∧ d.message = "Unbalanced end " ++ kind.name

/-- The diagnostic says that a block of a kind is open at the end. -/
def Diagnostic.IsUnclosed (kind : BlockKind) (d : Diagnostic) : Prop :=
  d.ruleId = Rule.unclosedNesting.id ∧
    d.message = "Unclosed " ++ kind.name ++ " at end of script"

/-- The check of an instruction says nothing about blocks. -/
theorem Instruction.check_finds_not_nesting (options : ScanOptions) (data : Bytes) (start : Nat)
    (code : UInt8) : (check options data start code).Finds fun d =>
      d.ruleId ≠ Rule.unbalancedNesting.id ∧ d.ruleId ≠ Rule.unclosedNesting.id := by
  refine check_finds options data start code fun rule hr message position => ?_
  have hne : rule ≠ Rule.unbalancedNesting ∧ rule ≠ Rule.unclosedNesting := by
    generalize Form.ofOpcode code = form at hr
    revert rule
    cases form <;> simp [Form.rules]
  exact ⟨fun h => hne.1 (Rule.id_injective h), fun h => hne.2 (Rule.id_injective h)⟩

theorem Depths.exists_isUnbalanced_iff {ended : BlockKind} {position place : Int} :
    (∃ d ∈ depths.unbalanced ended position, d.IsUnbalanced kind ∧ d.position = place) ↔
      place = position ∧ ended = kind ∧ depths.of kind < 0 := by
  have hname : "Unbalanced end " ++ ended.name = "Unbalanced end " ++ kind.name ↔ ended = kind := by
    cases ended <;> cases kind <;> decide
  unfold unbalanced
  split
  · rename_i hneg
    simp only [List.mem_singleton, exists_eq_left, Diagnostic.IsUnbalanced, Rule.report, hname,
      true_and]
    constructor
    · rintro ⟨rfl, rfl⟩
      exact ⟨rfl, rfl, hneg⟩
    · rintro ⟨rfl, rfl, -⟩
      exact ⟨rfl, rfl⟩
  · rename_i hneg
    simp only [List.not_mem_nil, false_and, exists_false, false_iff]
    rintro ⟨-, rfl, h⟩
    exact hneg h

/-- What a step reports is found by the check of its instruction, or is about the block that the
instruction ends. -/
theorem Step.mem_found_iff {d : Diagnostic} : d ∈ (Step.take options data start code depths).found ↔
    d ∈ (Instruction.check options data start code).found ∨
      ∃ ended, Form.ofOpcode code = .closing ended ∧
        d ∈ (depths.pass code).unbalanced ended start := by
  rw [Step.take_found, List.mem_append]
  refine or_congr_right ?_
  split
  · rename_i ended hf
    constructor
    · intro hd
      exact ⟨ended, hf, hd⟩
    · intro ⟨other, ho, hd⟩
      rwa [Form.closing.inj (hf.symm.trans ho)]
  · rename_i hf
    constructor
    · intro hd
      cases hd
    · intro ⟨ended, h, _⟩
      exact absurd h (hf ended)

/-- A step says of a kind that a block ends that did not begin exactly if it ends a block of the
kind and the depth behind it is below zero. -/
theorem Step.exists_isUnbalanced_iff {position : Int} :
    (∃ d ∈ (Step.take options data start code depths).found,
        d.IsUnbalanced kind ∧ d.position = position) ↔
      position = start ∧ code = kind.closer ∧
        (Step.take options data start code depths).depths.of kind < 0 := by
  rw [Step.take_depths]
  constructor
  · intro ⟨d, hd, hu, hposition⟩
    rcases Step.mem_found_iff.mp hd with hd | ⟨ended, hf, hd⟩
    · exact absurd hu.1 (Instruction.check_finds_not_nesting options data start code d hd).1
    · obtain ⟨hplace, hkind, hneg⟩ :=
        Depths.exists_isUnbalanced_iff.mp ⟨d, hd, hu, hposition⟩
      rw [hkind] at hf
      exact ⟨hplace, Form.eq_closer hf, hneg⟩
  · intro ⟨hplace, hcode, hneg⟩
    obtain ⟨d, hd, hu⟩ := Depths.exists_isUnbalanced_iff.mpr ⟨hplace, rfl, hneg⟩
    have hf : Form.ofOpcode code = .closing kind := by rw [hcode, Form.ofOpcode_closer]
    exact ⟨d, Step.mem_found_iff.mpr (.inr ⟨kind, hf, hd⟩), hu⟩

theorem Walks.exists_isUnbalanced_iff (h : Walks options data start depths steps)
    (hs : step ∈ steps) {position : Int} :
    (∃ d ∈ step.found, d.IsUnbalanced kind ∧ d.position = position) ↔
      position = step.start ∧ data[step.start]? = some kind.closer ∧ step.depths.of kind < 0 := by
  obtain ⟨code, depths, hc, hstep⟩ := h.mem_take hs
  rw [hstep, Step.exists_isUnbalanced_iff, Step.take_start, hc, Option.some.injEq]

/-- The depth of a kind nowhere falls below zero if it does not at the ends of its blocks. -/
theorem BlockKind.surplus_nonneg_iff {data : Bytes} {kind : BlockKind} {steps : List Step} :
    (∀ codes, codes <+: opcodes data (steps.map (·.start)) → 0 ≤ kind.surplus codes) ↔
      ∀ before step, before ++ [step] <+: steps → data[step.start]? = some kind.closer →
        0 ≤ kind.surplus (opcodes data ((before ++ [step]).map (·.start))) := by
  have hcodes : ∀ steps : List Step, opcodes data (steps.map (·.start)) =
      steps.filterMap fun step => data[step.start]? := fun steps => List.filterMap_map
  simp only [hcodes]
  constructor
  · intro h before step hp _
    exact h _ (hp.filterMap _)
  · intro h codes hp
    obtain ⟨before, hb, rfl⟩ := List.prefix_filterMap_iff.mp hp
    clear hp
    -- Along the steps, only the ends of blocks of the kind lower its depth.
    induction before using List.reverseRecOn with
    | nil => simp [BlockKind.surplus]
    | append_singleton before step ih =>
      by_cases hc : data[step.start]? = some kind.closer
      · exact h before step hb hc
      · have hle := ih ((List.prefix_append before [step]).trans hb)
        rw [List.filterMap_append, BlockKind.surplus, List.count_append, List.count_append]
        rw [BlockKind.surplus] at hle
        have hnone : ([step].filterMap fun step => data[step.start]?).count kind.closer = 0 := by
          rw [List.count_eq_zero, List.mem_filterMap]
          rintro ⟨_, hstep, hcloser⟩
          rw [List.mem_singleton.mp hstep] at hcloser
          exact hc hcloser
        omega

theorem Depths.of_mem_unclosed {position : Int} {d : Diagnostic}
    (hd : d ∈ depths.unclosed position) :
    d.ruleId = Rule.unclosedNesting.id ∧ d.position = position := by
  rw [unclosed_eq_map] at hd
  obtain ⟨_, -, rfl⟩ := List.mem_map.mp hd
  exact ⟨rfl, rfl⟩

theorem Depths.of_mem_unbalanced {position : Int} {d : Diagnostic}
    (hd : d ∈ depths.unbalanced kind position) :
    d.ruleId = Rule.unbalancedNesting.id ∧ d.position = position := by
  unfold unbalanced at hd
  split at hd
  · rw [List.mem_singleton.mp hd]
    exact ⟨rfl, rfl⟩
  · cases hd

/-- The diagnostic that ends a scan is of none of the rules that let it go on. -/
theorem Abort.ruleId_ne (abort : Abort) (start : Nat) {rule : Rule} (hr : rule.fatal = false) :
    (abort.diagnostic start).ruleId ≠ rule.id := by
  have hstops : ∃ stop : Rule, stop.fatal = true ∧ (abort.diagnostic start).ruleId = stop.id := by
    cases abort with
    | outOfBounds => exact ⟨.truncatedScript, rfl, rfl⟩
    | structHeader => exact ⟨.structHeaderInvalid, rfl, rfl⟩
  obtain ⟨stop, hfatal, hid⟩ := hstops
  intro h
  rw [Rule.id_injective (hid.symm.trans h), hr] at hfatal
  cases hfatal

/-- No step speaks of blocks that are open at the end. -/
theorem Walks.ruleId_ne_unclosedNesting (h : Walks options data start depths steps)
    (hs : step ∈ steps) {d : Diagnostic} (hd : d ∈ step.found) :
    d.ruleId ≠ Rule.unclosedNesting.id := by
  obtain ⟨code, depths, -, hstep⟩ := h.mem_take hs
  rw [hstep] at hd
  rcases Step.mem_found_iff.mp hd with hd | ⟨ended, -, hd⟩
  · exact (Instruction.check_finds_not_nesting _ _ _ _ d hd).2
  · rw [(Depths.of_mem_unbalanced hd).1]
    decide

theorem Depths.exists_isUnclosed_iff {position : Int} :
    (∃ d ∈ depths.unclosed position, d.IsUnclosed kind) ↔ 0 < depths.of kind := by
  have hname : ∀ other : BlockKind, "Unclosed " ++ other.name ++ " at end of script" =
      "Unclosed " ++ kind.name ++ " at end of script" ↔ other = kind := fun other => by
    cases other <;> cases kind <;> decide
  have hall : kind ∈ BlockKind.all := by cases kind <;> decide
  rw [unclosed_eq_map]
  simp [Diagnostic.IsUnclosed, Rule.report, hname, hall]

/-! ## Scans -/

namespace Scan

theorem exists_isUnbalanced_iff {position : Int} :
    (∃ d ∈ (run options data).diagnostics, d.IsUnbalanced kind ∧ d.position = position) ↔
      ∃ step ∈ walk options data, ∃ d ∈ step.found,
        d.IsUnbalanced kind ∧ d.position = position := by
  have hclosing : ∀ d ∈ closing options data (walk options data).getLast?,
      d.ruleId ≠ Rule.unbalancedNesting.id := by
    intro d hd
    unfold closing at hd
    split at hd
    · rename_i start _ abort _ _
      rw [List.mem_singleton.mp hd]
      exact abort.ruleId_ne start rfl
    · split at hd
      · rw [(Depths.of_mem_unclosed hd).1]
        decide
      · cases hd
    · cases hd
  constructor
  · rintro ⟨d, hd, hu, hposition⟩
    rcases List.mem_append.mp hd with hd | hd
    · obtain ⟨step, hs, hd⟩ := List.mem_flatMap.mp hd
      exact ⟨step, hs, d, hd, hu, hposition⟩
    · exact absurd hu.1 (hclosing d hd)
  · rintro ⟨step, hs, d, hd, hu⟩
    exact ⟨d, List.mem_append_left _ (List.mem_flatMap.mpr ⟨step, hs, hd⟩), hu⟩

/-- A scan that does not abort ends with the blocks still open, if the options ask for them. -/
theorem closing_of_not_aborted (hab : (run options data).aborted = false) :
    closing options data (walk options data).getLast? =
      if options.checkBalance then
        ((opcodes data ((walk options data).map (·.start))).foldl Depths.pass {}).unclosed data.size
      else [] := by
  have h := walks_walk options data
  rcases h.reach (Nat.zero_le _) with ⟨-, ⟨hnil, -⟩ | ⟨last, hl, hn⟩⟩ | ⟨last, hl, abort, hn, -⟩
  · rw [hnil]
    cases options.checkBalance <;> rfl
  · rw [← h.depths_getLast? hl, Option.mem_def.mp hl]
    obtain ⟨_, _, _, _⟩ := last
    obtain rfl := hn
    rfl
  · rw [aborted_iff.mpr ⟨last, hl, abort, hn⟩] at hab
    cases hab

theorem exists_isUnclosed_iff (hb : options.checkBalance = true)
    (hab : (run options data).aborted = false) :
    (∃ d ∈ (run options data).diagnostics, d.IsUnclosed kind) ↔
      0 < kind.surplus (opcodes data ((walk options data).map (·.start))) := by
  have hfound : ∀ d ∈ (walk options data).flatMap (·.found),
      d.ruleId ≠ Rule.unclosedNesting.id := by
    intro d hd
    obtain ⟨step, hs, hd⟩ := List.mem_flatMap.mp hd
    exact (walks_walk options data).ruleId_ne_unclosedNesting hs hd
  rw [← Depths.of_foldl_pass_eq_surplus, ← Depths.exists_isUnclosed_iff, run]
  dsimp only
  rw [closing_of_not_aborted hab, if_pos hb]
  constructor
  · rintro ⟨d, hd, hu⟩
    rcases List.mem_append.mp hd with hd | hd
    · exact absurd hu.1 (hfound d hd)
    · exact ⟨d, hd, hu⟩
  · rintro ⟨d, hd, hu⟩
    exact ⟨d, List.mem_append_right _ hd, hu⟩

/-- What a scan says about a kind of block. Behind every step the depth of the kind is the number of
its beginnings less that of its ends at the offsets visited so far. An end is reported as one that
had no beginning exactly where a block of the kind ends and this number is then below zero. If the
options ask for open blocks and the scan does not abort, nothing is said about the kind exactly if
its beginnings and ends, whatever stands between them, are a well-bracketed word. -/
theorem run_nesting (options : ScanOptions) (data : Bytes) (kind : BlockKind) :
    (∀ before step, before ++ [step] <+: walk options data →
      step.depths.of kind = kind.surplus (opcodes data ((before ++ [step]).map (·.start)))) ∧
    (∀ position : Int,
      (∃ d ∈ (run options data).diagnostics, d.IsUnbalanced kind ∧ d.position = position) ↔
        ∃ before step, before ++ [step] <+: walk options data ∧ position = step.start ∧
          data[step.start]? = some kind.closer ∧
          kind.surplus (opcodes data ((before ++ [step]).map (·.start))) < 0) ∧
    (options.checkBalance = true → (run options data).aborted = false →
      ((∀ d ∈ (run options data).diagnostics, ¬ d.IsUnbalanced kind ∧ ¬ d.IsUnclosed kind) ↔
        WellBracketed (kind.brackets (opcodes data ((walk options data).map (·.start)))))) := by
  have h := walks_walk options data
  have hunbalanced : ∀ position : Int,
      (∃ d ∈ (run options data).diagnostics, d.IsUnbalanced kind ∧ d.position = position) ↔
        ∃ before step, before ++ [step] <+: walk options data ∧ position = step.start ∧
          data[step.start]? = some kind.closer ∧
          kind.surplus (opcodes data ((before ++ [step]).map (·.start))) < 0 := by
    intro position
    rw [exists_isUnbalanced_iff]
    constructor
    · rintro ⟨step, hs, hd⟩
      obtain ⟨before, after, hw⟩ := List.append_of_mem hs
      have hp : before ++ [step] <+: walk options data := ⟨after, by simp [hw]⟩
      obtain ⟨hposition, hc, hneg⟩ := (h.exists_isUnbalanced_iff hs).mp hd
      exact ⟨before, step, hp, hposition, hc, h.depth_eq hp kind ▸ hneg⟩
    · rintro ⟨before, step, hp, hposition, hc, hneg⟩
      have hs : step ∈ walk options data := hp.subset (by simp)
      exact ⟨step, hs, (h.exists_isUnbalanced_iff hs).mpr
        ⟨hposition, hc, (h.depth_eq hp kind).symm ▸ hneg⟩⟩
  refine ⟨fun before step hp => h.depth_eq hp kind, hunbalanced, fun hb hab => ?_⟩
  rw [BlockKind.wellBracketed_brackets_iff, BlockKind.surplus_nonneg_iff, forall₂_and]
  refine and_congr ?_ ?_
  · constructor
    · intro hnone before step hp hc
      by_contra hneg
      obtain ⟨d, hd, hu, -⟩ := (hunbalanced step.start).mpr
        ⟨before, step, hp, rfl, hc, Int.not_le.mp hneg⟩
      exact hnone d hd hu
    · intro hnonneg d hd hu
      obtain ⟨before, step, hp, -, hc, hneg⟩ := (hunbalanced d.position).mp ⟨d, hd, hu, rfl⟩
      exact Int.not_le.mpr hneg (hnonneg before step hp hc)
  · rw [← Int.not_lt, ← exists_isUnclosed_iff hb hab]
    simp only [not_exists, not_and]

/-- Blocks of different kinds may overlap. -/
example : (run { checkBalance := true } #[0x03, 0x05, 0x04, 0x06]).isClean = true := by
  decide +kernel

end Scan

end QbLint
