import QbLint.Proofs.Progress

/-!
# Open blocks along a walk

The depth of a kind of block is the number of its beginnings less that of its ends among the opcodes
that a walk has come by.

* `Depths.of_pass`: what one opcode does to a depth; `Depths.of_foldl_pass`: what many do;
* `Walks.depths_eq`: the depths behind a step of a walk;
* `Step.take_found`: what a step reports, the end of a block included.
-/

namespace QbLint

/-- The opcode that begins a block of a kind. -/
def BlockKind.opener : BlockKind → UInt8
  | .dict => 0x03
  | .array => 0x05
  | .paren => 0x0E

/-- The opcode that ends a block of a kind. -/
def BlockKind.closer : BlockKind → UInt8
  | .dict => 0x04
  | .array => 0x06
  | .paren => 0x0F

theorem Form.ofOpcode_opener (kind : BlockKind) : Form.ofOpcode kind.opener = .opening kind := by
  cases kind <;> rfl

theorem Form.ofOpcode_closer (kind : BlockKind) : Form.ofOpcode kind.closer = .closing kind := by
  cases kind <;> rfl

theorem Form.eq_opener {code : UInt8} {kind : BlockKind} (h : Form.ofOpcode code = .opening kind) :
    code = kind.opener := by
  revert h
  fun_cases Form.ofOpcode code <;> rintro ⟨⟩ <;> rfl

theorem Form.eq_closer {code : UInt8} {kind : BlockKind} (h : Form.ofOpcode code = .closing kind) :
    code = kind.closer := by
  revert h
  fun_cases Form.ofOpcode code <;> rintro ⟨⟩ <;> rfl

namespace Depths

/-- The depths behind an opcode. -/
def pass (depths : Depths) (code : UInt8) : Depths :=
  match Form.ofOpcode code with
  | .opening kind => depths.enter kind
  | .closing kind => depths.leave kind
  | _ => depths

theorem of_pass (depths : Depths) (code : UInt8) (kind : BlockKind) :
    (depths.pass code).of kind = depths.of kind + (if code = kind.opener then 1 else 0) -
      if code = kind.closer then 1 else 0 := by
  have hne : ∀ kind : BlockKind, kind.opener ≠ kind.closer := fun kind => by cases kind <;> decide
  unfold pass
  split
  · rename_i kind' hf
    by_cases hk : kind = kind'
    · subst hk
      simp [Form.eq_opener hf, enter, hne kind]
    · have ho : code ≠ kind.opener := fun h => by
        rw [h, Form.ofOpcode_opener] at hf
        exact hk (Form.opening.inj hf)
      have hc : code ≠ kind.closer := fun h => by
        rw [h, Form.ofOpcode_closer] at hf
        cases hf
      simp [ho, hc, enter, of_add_of_ne depths hk]
  · rename_i kind' hf
    by_cases hk : kind = kind'
    · subst hk
      simp [Form.eq_closer hf, leave, (hne kind).symm, Int.sub_eq_add_neg]
    · have ho : code ≠ kind.opener := fun h => by
        rw [h, Form.ofOpcode_opener] at hf
        cases hf
      have hc : code ≠ kind.closer := fun h => by
        rw [h, Form.ofOpcode_closer] at hf
        exact hk (Form.closing.inj hf)
      simp [ho, hc, leave, of_add_of_ne depths hk]
  · rename_i ho hc
    have ho' : code ≠ kind.opener := fun h => ho kind (by rw [h, Form.ofOpcode_opener])
    have hc' : code ≠ kind.closer := fun h => hc kind (by rw [h, Form.ofOpcode_closer])
    simp [ho', hc']

/-- The depth of a kind behind some opcodes: the beginnings among them count up, the ends down. -/
theorem of_foldl_pass (depths : Depths) (codes : List UInt8) (kind : BlockKind) :
    (codes.foldl pass depths).of kind =
      depths.of kind + codes.count kind.opener - codes.count kind.closer := by
  induction codes generalizing depths with
  | nil => simp
  | cons code codes ih =>
    rw [List.foldl_cons, ih, of_pass, List.count_cons, List.count_cons]
    simp only [beq_iff_eq]
    split <;> split <;> omega

theorem unbalanced_eq_nil_iff {depths : Depths} {kind : BlockKind} {position : Int} :
    depths.unbalanced kind position = [] ↔ 0 ≤ depths.of kind := by
  unfold unbalanced
  split <;> simp <;> omega

theorem unclosed_eq_nil_iff {depths : Depths} {position : Int} :
    depths.unclosed position = [] ↔ ∀ kind, depths.of kind ≤ 0 := by
  have hall : ∀ kind, kind ∈ BlockKind.all := fun kind => by cases kind <;> decide
  rw [unclosed, List.filterMap_eq_nil_iff]
  constructor
  · intro h kind
    have := h kind (hall kind)
    split at this
    · cases this
    · omega
  · intro h kind _
    rw [if_neg (Int.not_lt.mpr (h kind))]

end Depths

variable {options : ScanOptions} {data : Bytes} {start next : Nat} {depths : Depths}
  {code : UInt8} {steps : List Step}

@[simp] theorem Step.take_depths (options : ScanOptions) (data : Bytes) (start : Nat) (code : UInt8)
    (depths : Depths) : (Step.take options data start code depths).depths = depths.pass code := by
  unfold Step.take Depths.pass
  cases Form.ofOpcode code <;> rfl

/-- A step that ends a block reports it if it had no beginning; otherwise a step reports what its
check does. -/
theorem Step.take_found (options : ScanOptions) (data : Bytes) (start : Nat) (code : UInt8)
    (depths : Depths) :
    (Step.take options data start code depths).found =
      (Instruction.check options data start code).found ++
        match Form.ofOpcode code with
        | .closing kind => (depths.pass code).unbalanced kind start
        | _ => [] := by
  unfold Step.take
  cases hf : Form.ofOpcode code <;> simp [Depths.close, Depths.pass, hf]

/-- The depths behind a step of a walk are made of the opcodes up to it. -/
theorem Walks.depths_eq (h : Walks options data start depths steps) {before : List Step}
    {step : Step} (hp : before ++ [step] <+: steps) :
    step.depths =
      ((before ++ [step]).filterMap fun step => data[step.start]?).foldl Depths.pass depths := by
  induction h generalizing before with
  | done => exact absurd (List.prefix_nil.mp hp) (by simp)
  | stop hc _ =>
    cases before with
    | nil =>
      obtain ⟨rfl, -⟩ := List.cons_prefix_cons.mp hp
      simp [hc]
    | cons => simp at hp
  | step hc _ _ ih =>
    cases before with
    | nil =>
      obtain ⟨rfl, -⟩ := List.cons_prefix_cons.mp hp
      simp [hc]
    | cons first before =>
      rw [List.cons_append] at hp ⊢
      obtain ⟨rfl, hrest⟩ := List.cons_prefix_cons.mp hp
      rw [ih hrest, List.filterMap_cons_some (by rwa [Step.take_start]),
        List.foldl_cons, Step.take_depths]

end QbLint
