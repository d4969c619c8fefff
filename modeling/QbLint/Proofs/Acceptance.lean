import QbLint.Proofs.Grammar

/-!
# The scripts without defects

A scan finds nothing exactly in the scripts that are a sequence of well-formed instructions with
balanced blocks.

* `Segmented`, `Balanced`: the two conditions on a script;
* `Walks.exists_illegal`: a walk over the header of a struct reports it, so that a struct that
  declares less than the size of its header is no instruction of such a script;
* `Walks.segmented`, `Walks.nonneg`: the steps of a walk that reports nothing are such a sequence;
* `Walks.of_segmented`: such a sequence is walked over silently;
* `Scan.isClean_iff`: the two together.
-/

namespace QbLint

/-! ## Headers that are walked over -/

variable {options : ScanOptions} {data : Bytes} {s e header : Nat} {code : UInt8} {depths : Depths}
  {steps : List Step}

/-- The diagnostic of a zero byte that is taken for an opcode. -/
def illegalZero (position : Nat) : Diagnostic :=
  Rule.illegalOpcode.report "Illegal opcode: 00" position

theorem Step.take_zero (options : ScanOptions) (data : Bytes) (s : Nat) (depths : Depths) :
    Step.take options data s 0 depths = ⟨s, [illegalZero s], .ok (s + 1), depths⟩ := by
  have hk : Opcode.isKnown options.correctedRanges 0 = false := by
    cases options.correctedRanges <;> decide
  have hm : Hex.padded 2 0 = "00" := by decide +kernel
  have hb : Instruction.bare options 0 s = ⟨[illegalZero s], .ok (s + 1)⟩ := by
    simp [Instruction.bare, Check.bind_def, Check.andThen, Check.reportIf, Check.pure_def, hk, hm,
      illegalZero]
  change Step.mk s (Instruction.bare options 0 s).found (Instruction.bare options 0 s).value
    depths = _
  rw [hb]

/-- A walk from a zero byte reports it. -/
theorem Walks.exists_illegal_zero (h : Walks options data s depths steps)
    (hz : data[s]? = some 0) : ∃ step ∈ steps, illegalZero s ∈ step.found := by
  obtain ⟨rest, rfl, -⟩ := h.of_next hz (by rw [Step.take_zero])
  exact ⟨_, List.mem_cons_self, by simp [Step.take_zero]⟩

/-- A walk that goes over the header of a struct reports one of its zero bytes. -/
theorem Walks.exists_illegal (h : Walks options data s depths steps)
    (hh : data.Holds header [0, 0, 1, 0]) (hle : header ≤ s) (hlt : s < header + 4) :
    ∃ step ∈ steps, ∃ position, header ≤ position ∧ position < header + 4 ∧
      illegalZero position ∈ step.found := by
  simp only [Bytes.holds_cons_iff] at hh
  obtain ⟨h0, h1, h2, h3, -⟩ := hh
  have hzero : ∀ {s depths steps}, Walks options data s depths steps → header ≤ s →
      s < header + 4 → data[s]? = some 0 → ∃ step ∈ steps, ∃ position, header ≤ position ∧
        position < header + 4 ∧ illegalZero position ∈ step.found := fun h hle hlt hz => by
    obtain ⟨step, hs, hi⟩ := h.exists_illegal_zero hz
    exact ⟨step, hs, _, hle, hlt, hi⟩
  rcases (by omega : s = header ∨ s = header + 1 ∨ s = header + 1 + 1 ∨ s = header + 1 + 1 + 1) with
    rfl | rfl | rfl | rfl
  · exact hzero h hle hlt h0
  · exact hzero h hle hlt h1
  · -- The third byte is a line break, which is no defect; the walk goes on to the fourth.
    obtain ⟨rest, rfl, hrest⟩ := h.of_newline h2
    obtain ⟨step, hs, hi⟩ := hzero hrest (by omega) (by omega) h3
    exact ⟨step, List.mem_cons_of_mem _ hs, hi⟩
  · exact hzero h hle hlt h3

/-! ## Scripts -/

/-- The offsets divide the whole buffer into well-formed instructions. -/
structure Segmented (options : ScanOptions) (data : Bytes) (first : Nat) (offsets : List Nat) :
    Prop where
  head : offsets.head? = some first
  last : offsets.getLast? = some data.size
  each : offsets.IsChain fun s e => s < e ∧ Instruction.WellFormed options data s e

/-- The opcodes at some offsets. -/
def opcodes (data : Bytes) (offsets : List Nat) : List UInt8 := offsets.filterMap (data[·]?)

/-- No block ends before it begins, and if the options ask for it, none is left open. -/
def Balanced (options : ScanOptions) (codes : List UInt8) : Prop :=
  ∀ kind : BlockKind,
    (∀ before, before <+: codes → before.count kind.closer ≤ before.count kind.opener) ∧
      (options.checkBalance = true → codes.count kind.opener ≤ codes.count kind.closer)

theorem segmented_singleton_iff : Segmented options data s [e] ↔ e = s ∧ e = data.size := by
  constructor
  · rintro ⟨hh, hl, -⟩
    exact ⟨Option.some.inj hh, Option.some.inj hl⟩
  · rintro ⟨rfl, rfl⟩
    exact ⟨rfl, rfl, .singleton _⟩

theorem segmented_cons_cons_iff {t : Nat} {offsets : List Nat} :
    Segmented options data s (t :: e :: offsets) ↔
      t = s ∧ s < e ∧ Instruction.WellFormed options data s e ∧
        Segmented options data e (e :: offsets) := by
  constructor
  · rintro ⟨hh, hl, hc⟩
    obtain rfl := Option.some.inj hh
    obtain ⟨⟨hlt, hw⟩, hc⟩ := List.isChain_cons_cons.mp hc
    exact ⟨rfl, hlt, hw, rfl, by rwa [List.getLast?_cons_cons] at hl, hc⟩
  · rintro ⟨rfl, hlt, hw, -, hl, hc⟩
    exact ⟨rfl, by rwa [List.getLast?_cons_cons], List.isChain_cons_cons.mpr ⟨⟨hlt, hw⟩, hc⟩⟩

/-- The offsets lie inside the buffer. -/
theorem Segmented.le_size {offsets : List Nat} (h : Segmented options data s offsets) :
    s ≤ data.size := by
  induction offsets generalizing s with
  | nil => cases h.head
  | cons t offsets ih =>
    cases offsets with
    | nil =>
      obtain ⟨rfl, rfl⟩ := segmented_singleton_iff.mp h
      exact Nat.le_refl _
    | cons e offsets =>
      obtain ⟨-, hlt, -, h⟩ := segmented_cons_cons_iff.mp h
      have := ih h
      omega

/-- Nothing has ended that had not begun. -/
def Depths.Nonneg (depths : Depths) : Prop := ∀ kind, 0 ≤ depths.of kind

/-- A step that reports nothing leaves no end of a block without its beginning. -/
theorem Step.nonneg_pass (hf : (Step.take options data s code depths).found = [])
    (hd : depths.Nonneg) : (depths.pass code).Nonneg := by
  intro kind
  by_cases hc : code = kind.closer
  · rw [Step.take_found, hc, Form.ofOpcode_closer, List.append_eq_nil_iff] at hf
    rw [hc]
    exact Depths.unbalanced_eq_nil_iff.mp hf.2
  · have := hd kind
    rw [Depths.of_pass, if_neg hc]
    split <;> omega

/-- A step reports nothing and goes on if its check does and it leaves no end of a block without its
beginning. -/
theorem Step.found_eq_nil (hcheck : Instruction.check options data s code = pure e)
    (hd : (depths.pass code).Nonneg) : (Step.take options data s code depths).found = [] := by
  rw [Step.take_found, hcheck]
  split
  · exact Depths.unbalanced_eq_nil_iff.mpr (hd _)
  · rfl

theorem Step.check_eq_pure (hf : (Step.take options data s code depths).found = [])
    (hn : (Step.take options data s code depths).next = .ok e) :
    Instruction.check options data s code = pure e := by
  rw [Step.take_found, List.append_eq_nil_iff] at hf
  rw [Step.take_next] at hn
  rw [Check.pure_def, ← hf.1, ← hn]

/-- The steps of a walk that reports nothing divide the buffer into well-formed instructions. -/
theorem Walks.segmented (h : Walks options data s depths steps) (hle : s ≤ data.size)
    (hf : ∀ step ∈ steps, step.found = []) (hn : ∀ step ∈ steps, ∃ next, step.next = .ok next) :
    Segmented options data s (steps.map (·.start) ++ [data.size]) := by
  induction h with
  | done hs => exact segmented_singleton_iff.mpr ⟨by omega, rfl⟩
  | stop _ herr =>
    obtain ⟨_, hok⟩ := hn _ (List.mem_singleton_self _)
    cases herr.symm.trans hok
  | @step s next _ _ _ hc hok rest ih =>
    obtain ⟨hfirst, hf⟩ := List.forall_mem_cons.mp hf
    have hseg := ih (Step.next_eq hc hok).2 hf (List.forall_mem_cons.mp hn).2
    obtain ⟨offsets, ho⟩ := List.head?_eq_some_iff.mp hseg.head
    rw [ho] at hseg
    rw [List.map_cons, Step.take_start, List.cons_append, ho]
    refine segmented_cons_cons_iff.mpr ⟨rfl, Step.lt_of_next hok, ?_, hseg⟩
    rcases Instruction.wellFormed_of_eq_pure hc (Step.check_eq_pure hfirst hok) with hw | hu
    · exact hw
    · obtain ⟨-, hh, hle, hlt⟩ := hu
      obtain ⟨step, hs, position, -, -, hi⟩ := rest.exists_illegal hh hle (by omega)
      rw [hf step hs] at hi
      cases hi

/-- Wherever a walk that reports nothing has come to, no block has ended before it began. -/
theorem Walks.nonneg (h : Walks options data s depths steps) (hd : depths.Nonneg)
    (hf : ∀ step ∈ steps, step.found = []) {before : List UInt8}
    (hb : before <+: opcodes data (steps.map (·.start))) :
    (before.foldl Depths.pass depths).Nonneg := by
  induction h generalizing before with
  | done =>
    rw [List.prefix_nil.mp hb]
    exact hd
  | stop hc _ =>
    rw [List.map_singleton, Step.take_start, opcodes, List.filterMap_cons_some hc,
      List.filterMap_nil] at hb
    have hpass := Step.nonneg_pass (hf _ List.mem_cons_self) hd
    rcases List.prefix_cons_iff.mp hb with rfl | ⟨rest, rfl, hrest⟩
    · exact hd
    · rw [List.prefix_nil.mp hrest]
      exact hpass
  | step hc _ _ ih =>
    rw [List.map_cons, Step.take_start, opcodes, List.filterMap_cons_some hc] at hb
    obtain ⟨hfirst, hf⟩ := List.forall_mem_cons.mp hf
    have hpass := Step.nonneg_pass hfirst hd
    rcases List.prefix_cons_iff.mp hb with rfl | ⟨rest, rfl, hrest⟩
    · exact hd
    · rw [List.foldl_cons, ← Step.take_depths options data]
      exact ih (by rwa [Step.take_depths]) hf hrest

/-- The first instruction of a sequence is one whose check is silent. -/
theorem Segmented.exists_next {offsets : List Nat} (h : Segmented options data s offsets)
    (hc : data[s]? = some code) : ∃ e rest, offsets = s :: e :: rest ∧
      Instruction.check options data s code = pure e ∧ Segmented options data e (e :: rest) := by
  rcases offsets with _ | ⟨t, _ | ⟨e, rest⟩⟩
  · cases h.head
  · obtain ⟨rfl, rfl⟩ := segmented_singleton_iff.mp h
    have := (Array.getElem?_eq_some_iff.mp hc).1
    omega
  · obtain ⟨rfl, -, hw, h⟩ := segmented_cons_cons_iff.mp h
    exact ⟨e, rest, rfl, Instruction.eq_pure_of_wellFormed hw h.le_size hc, h⟩

/-- Well-formed instructions up to the end of the buffer, with balanced blocks, are the steps of a
walk that reports nothing. -/
theorem Walks.of_segmented (h : Walks options data s depths steps) {offsets : List Nat}
    (hseg : Segmented options data s offsets)
    (hb : ∀ before, before <+: opcodes data offsets → (before.foldl Depths.pass depths).Nonneg) :
    offsets = steps.map (·.start) ++ [data.size] ∧
      ∀ step ∈ steps, step.found = [] ∧ ∃ next, step.next = .ok next := by
  induction h generalizing offsets with
  | done hs =>
    rcases offsets with _ | ⟨t, _ | ⟨e, offsets⟩⟩
    · cases hseg.head
    · obtain ⟨-, rfl⟩ := segmented_singleton_iff.mp hseg
      exact ⟨rfl, nofun⟩
    · obtain ⟨-, hlt, -, hseg⟩ := segmented_cons_cons_iff.mp hseg
      have := hseg.le_size
      omega
  | stop hc hn =>
    obtain ⟨e, rest, -, hcheck, -⟩ := hseg.exists_next hc
    rw [Step.take_next, hcheck] at hn
    cases hn
  | step hc hn _ ih =>
    obtain ⟨e, rest, rfl, hcheck, hseg⟩ := hseg.exists_next hc
    have hn' := hn
    rw [Step.take_next, hcheck] at hn'
    obtain rfl := Except.ok.inj hn'
    rw [opcodes, List.filterMap_cons_some hc] at hb
    have hd := hb [_] (List.cons_prefix_cons.mpr ⟨rfl, List.nil_prefix⟩)
    obtain ⟨ho, hf⟩ := ih hseg fun before hp => by
      rw [Step.take_depths]
      exact hb _ (List.cons_prefix_cons.mpr ⟨rfl, hp⟩)
    exact ⟨by rw [List.map_cons, Step.take_start, List.cons_append, ho],
      List.forall_mem_cons.mpr ⟨⟨Step.found_eq_nil hcheck hd, _, hn⟩, hf⟩⟩

/-- The depths behind the last step of a walk are made of all its opcodes. -/
theorem Walks.depths_getLast? (h : Walks options data s depths steps) {last : Step}
    (hl : last ∈ steps.getLast?) :
    last.depths = (opcodes data (steps.map (·.start))).foldl Depths.pass depths := by
  obtain ⟨before, rfl⟩ := List.getLast?_eq_some_iff.mp hl
  rw [h.depths_eq (List.prefix_refl _), opcodes, List.filterMap_map]
  rfl

/-- The end of a scan adds nothing exactly if no step stopped and, where the options ask for it, no
block is left open. -/
theorem Walks.closing_eq_nil_iff (h : Walks options data s {} steps) (hle : s ≤ data.size) :
    Scan.closing options data steps.getLast? = [] ↔
      (∀ step ∈ steps, ∃ next, step.next = .ok next) ∧
        (options.checkBalance = true → ∀ kind,
          ((opcodes data (steps.map (·.start))).foldl Depths.pass {}).of kind ≤ 0) := by
  rcases h.reach hle with ⟨hok, hl⟩ | ⟨last, hl, abort, hab, -⟩
  · rw [and_iff_right hok]
    rcases hl with ⟨rfl, -⟩ | ⟨last, hl, hn⟩
    · refine iff_of_true rfl fun _ kind => ?_
      cases kind <;> exact Int.le_refl 0
    · rw [← h.depths_getLast? hl, Option.mem_def.mp hl]
      obtain ⟨_, _, next, depths⟩ := last
      obtain rfl := hn
      simp only [Scan.closing]
      split
      · rename_i hb
        rw [Depths.unclosed_eq_nil_iff, forall_prop_of_true hb]
      · rename_i hb
        exact iff_of_true rfl fun h => absurd h hb
  · refine iff_of_false (fun hnil => ?_) (fun hok => ?_)
    · rw [Option.mem_def.mp hl] at hnil
      obtain ⟨_, _, next, depths⟩ := last
      obtain rfl := hab
      cases hnil
    · obtain ⟨_, hn⟩ := hok.1 last (List.mem_of_getLast? hl)
      cases hab.symm.trans hn

theorem balanced_iff {codes : List UInt8} : Balanced options codes ↔
    (∀ before, before <+: codes → (before.foldl Depths.pass {}).Nonneg) ∧
      (options.checkBalance = true → ∀ kind, (codes.foldl Depths.pass {}).of kind ≤ 0) := by
  have hcount : ∀ (codes : List UInt8) (kind : BlockKind), (codes.foldl Depths.pass {}).of kind =
      codes.count kind.opener - codes.count kind.closer := fun codes kind => by
    rw [Depths.of_foldl_pass]
    cases kind <;> exact congrArg (· - _) (Int.zero_add _)
  simp only [Balanced, Depths.Nonneg, hcount]
  constructor
  · intro h
    refine ⟨fun before hp kind => ?_, fun hb kind => ?_⟩
    · have := (h kind).1 before hp
      omega
    · have := (h kind).2 hb
      omega
  · rintro ⟨hn, hb⟩ kind
    refine ⟨fun before hp => ?_, fun hcheck => ?_⟩
    · have := hn before hp kind
      omega
    · have := hb hcheck kind
      omega

namespace Scan

theorem isClean_iff_diagnostics {outcome : Outcome} :
    outcome.isClean = true ↔ outcome.diagnostics = [] := by
  rw [Outcome.isClean, List.isEmpty_iff]

/-- A scan finds nothing exactly in the scripts that offsets divide into well-formed instructions
with balanced blocks. -/
theorem isClean_iff (options : ScanOptions) (data : Bytes) :
    (run options data).isClean = true ↔
      ∃ offsets, Segmented options data 0 offsets ∧ Balanced options (opcodes data offsets) := by
  have h := walks_walk options data
  have hopcodes : opcodes data ((walk options data).map (·.start) ++ [data.size]) =
      opcodes data ((walk options data).map (·.start)) := by
    rw [opcodes, List.filterMap_append, List.filterMap_cons_none (by simp), List.filterMap_nil,
      List.append_nil, opcodes]
  rw [isClean_iff_diagnostics, run, List.append_eq_nil_iff, List.flatMap_eq_nil_iff,
    h.closing_eq_nil_iff (Nat.zero_le _)]
  constructor
  · rintro ⟨hf, hn, hb⟩
    refine ⟨_, h.segmented (Nat.zero_le _) hf hn, ?_⟩
    rw [hopcodes]
    have hzero : ({} : Depths).Nonneg := fun kind => by cases kind <;> decide
    exact balanced_iff.mpr ⟨fun before hp => h.nonneg hzero hf hp, hb⟩
  · rintro ⟨offsets, hseg, hb⟩
    obtain ⟨hnonneg, hb⟩ := balanced_iff.mp hb
    obtain ⟨rfl, hf⟩ := h.of_segmented hseg hnonneg
    rw [hopcodes] at hb
    exact ⟨fun step hs => (hf step hs).1, fun step hs => (hf step hs).2, hb⟩

/-- The well-formed instructions alone do not make a script without defects: the end of a block that
did not begin is one. -/
theorem not_isClean_iff_segmented : ¬ ∀ (options : ScanOptions) (data : Bytes),
    (run options data).isClean = true ↔ ∃ offsets, Segmented options data 0 offsets := by
  intro h
  have hseg : Segmented {} #[0x04] 0 [0, 1] :=
    segmented_cons_cons_iff.mpr ⟨rfl, Nat.zero_lt_one,
      .bare (show Bytes.Holds _ _ [0x04] by decide) (by decide) (by decide) rfl,
      segmented_singleton_iff.mpr ⟨rfl, rfl⟩⟩
  have hclean := (h {} #[0x04]).mpr ⟨_, hseg⟩
  exact absurd hclean (by decide +kernel)

end Scan

end QbLint
