import QbLint.Config.Basic
import QbLint.Proofs.Bytes

/-!
# What decides a configuration

A field of a configuration is meant to be what was passed for it, else what its variable comes to,
else its default. A passed value that equals the default counts as not passed, though, so that a
variable that says something else comes before it. Only the policy, which has no default, is safe
from that.

* `Config.InOrder`: a field that is what this order makes of it;
* `Config.Overridden`: a field whose passed value is the default while its variable says something
  else;
* `Config.of_eq_ok_iff`: when there is a configuration, and which one it is;
* `Config.of_settled`: the fields of a configuration are in order except those that are overridden.
-/

namespace QbLint

theorem OutputFormat.ofName?_eq_some_iff {s : String} {format : OutputFormat} :
    ofName? s = some format ↔ format.name = s := by
  constructor
  · intro h
    simpa using List.find?_some h
  · rintro rfl
    cases format <;> rfl

namespace Config

/-! ## A single field -/

section Fields

variable {α : Type} {passed fromVariable : Option α} {default value : α}

/-- A field is what was passed for it, else what its variable comes to, else its default. -/
def InOrder (passed fromVariable : Option α) (default value : α) : Prop :=
  value = (passed <|> fromVariable).getD default

/-- The default was passed for a field, and its variable says something else. -/
def Overridden (passed fromVariable : Option α) (default : α) : Prop :=
  passed = some default ∧ ∃ other, fromVariable = some other ∧ other ≠ default

/-- A field is in order unless it is overridden, and then it is what its variable comes to. -/
def Settled (passed fromVariable : Option α) (default value : α) : Prop :=
  (InOrder passed fromVariable default value ↔ ¬ Overridden passed fromVariable default) ∧
    (Overridden passed fromVariable default → fromVariable = some value)

variable [DecidableEq α]

instance : Decidable (InOrder passed fromVariable default value) :=
  inferInstanceAs (Decidable (_ = _))

/-- A field is what it would be if its default could not be passed. -/
def Decided (passed fromVariable : Option α) (default value : α) : Prop :=
  value = (passed.filter (· ≠ default) <|> fromVariable).getD default

theorem decided_choose (passed fromVariable : Option α) (default : α) :
    Decided passed fromVariable default (choose passed default fromVariable) := by
  cases passed with
  | none => simp [Decided, choose]
  | some given => by_cases h : given = default <;> simp [Decided, choose, Option.filter, h]

theorem Decided.unique {other : α} (h : Decided passed fromVariable default value)
    (h' : Decided passed fromVariable default other) : other = value :=
  h'.trans h.symm

theorem Decided.settled (h : Decided passed fromVariable default value) :
    Settled passed fromVariable default value := by
  unfold Settled
  subst h
  cases passed with
  | none => simp [InOrder, Overridden]
  | some given =>
    by_cases hgiven : given = default
    · subst hgiven
      cases fromVariable <;> simp [InOrder, Overridden, Option.filter]
    · simp [InOrder, Overridden, Option.filter, hgiven]

end Fields

/-! ## What variables come to -/

section Variables

variable (env : String → Option String)

/-- The size limit that a variable sets, if its text is a number. -/
def sizeFrom : Option Int := (nonempty? env Variable.maxMegabytes).bind Text.parseInt?

/-- The endings that a variable sets. -/
def suffixesFrom : Option (List String) := (nonempty? env Variable.suffixes).map suffixList

/-- The name of the format that a variable sets. -/
def formatFrom : Option String := (nonempty? env Variable.format).map Text.lower

/-- The name of the level that a variable sets. -/
def logLevelFrom : Option String := (nonempty? env Variable.logLevel).map Text.upper

end Variables

variable {env : String → Option String} {given : Given} {config : Config}

/-- The variable for the size limit counts and is no number. -/
def SizeFails (env : String → Option String) (given : Given) : Prop :=
  (given.maxMegabytes = none ∨ given.maxMegabytes = some 10) ∧
    (nonempty? env Variable.maxMegabytes).isSome ∧ sizeFrom env = none

theorem chooseSize_eq_ok_iff {n : Int} :
    chooseSize env given.maxMegabytes = .ok n ↔
      ¬ SizeFails env given ∧ Decided given.maxMegabytes (sizeFrom env) 10 n := by
  unfold chooseSize SizeFails Decided sizeFrom
  dsimp only
  by_cases hcounts : given.maxMegabytes = none ∨ given.maxMegabytes = some 10
  · -- Nothing but the default was passed, so the variable is looked at.
    have hgiven : given.maxMegabytes.getD 10 = 10 := by
      rcases hcounts with h | h <;> rw [h] <;> rfl
    have hfilter : given.maxMegabytes.filter (· ≠ 10) = none := by
      rcases hcounts with h | h <;> rw [h] <;> rfl
    rw [if_pos hgiven, hfilter]
    cases nonempty? env Variable.maxMegabytes with
    | none => simp [eq_comm]
    | some text =>
      dsimp only [Option.bind_some]
      cases Text.parseInt? text with
      | none => simp [hcounts]
      | some m => simp [@eq_comm Int n]
  · cases hgiven : given.maxMegabytes with
    | none => exact absurd (.inl hgiven) hcounts
    | some m =>
      have hm : m ≠ 10 := fun hm => hcounts (.inr (hm ▸ hgiven))
      simp [hm, Option.filter, @eq_comm Int n]

/-- The configuration is what passed values and variables come to. -/
structure IsOf (env : String → Option String) (given : Given) (config : Config) : Prop where
  policy : config.policy = (given.policy <|> nonempty? env Variable.policy)
  maxMegabytes : Decided given.maxMegabytes (sizeFrom env) 10 config.maxMegabytes
  suffixes : Decided given.suffixes (suffixesFrom env) [".qb"] config.suffixes
  format : Decided given.format (formatFrom env) "summary" config.format.name
  logLevel : Decided given.logLevel (logLevelFrom env) "WARNING" config.logLevel

/-- There is a configuration unless the size limit is no number or the format does not exist. -/
theorem of_eq_ok_iff :
    of env given = .ok config ↔ ¬ SizeFails env given ∧ IsOf env given config := by
  have hformat := decided_choose given.format (formatFrom env) "summary"
  have hsuffixes := decided_choose given.suffixes (suffixesFrom env) [".qb"]
  have hlogLevel := decided_choose given.logLevel (logLevelFrom env) "WARNING"
  unfold of
  simp only [except_bind_eq_ok_iff, chooseSize_eq_ok_iff]
  constructor
  · rintro ⟨n, ⟨hn, hsize⟩, h⟩
    split at h
    · cases h
    · rename_i format hname
      obtain rfl := Except.ok.inj h
      refine ⟨hn, rfl, hsize, hsuffixes, ?_, hlogLevel⟩
      rwa [OutputFormat.ofName?_eq_some_iff.mp hname]
  · rintro ⟨hn, h⟩
    obtain ⟨policy, n, suffixes, format, logLevel⟩ := config
    obtain rfl : policy = _ := h.policy
    obtain rfl : suffixes = _ := hsuffixes.unique h.suffixes
    obtain rfl : logLevel = _ := hlogLevel.unique h.logLevel
    refine ⟨n, ⟨hn, h.maxMegabytes⟩, ?_⟩
    have hname : OutputFormat.ofName? (choose given.format ({} : Config).format.name
        ((nonempty? env Variable.format).map Text.lower)) = some format :=
      OutputFormat.ofName?_eq_some_iff.mpr (hformat.unique h.format)
    rw [hname]
    rfl

theorem exists_of_iff (env : String → Option String) (given : Given) :
    (∃ config, of env given = .ok config) ↔ ¬ SizeFails env given ∧
      ∃ format : OutputFormat, Decided given.format (formatFrom env) "summary" format.name := by
  constructor
  · rintro ⟨config, h⟩
    obtain ⟨hsize, hof⟩ := of_eq_ok_iff.mp h
    exact ⟨hsize, config.format, hof.format⟩
  · rintro ⟨hsize, format, hformat⟩
    refine ⟨{
      policy := given.policy <|> nonempty? env Variable.policy
      maxMegabytes := (given.maxMegabytes.filter (· ≠ 10) <|> sizeFrom env).getD 10
      suffixes := choose given.suffixes [".qb"] (suffixesFrom env)
      format
      logLevel := choose given.logLevel "WARNING" (logLevelFrom env) },
      of_eq_ok_iff.mpr ⟨hsize, ?_⟩⟩
    exact ⟨rfl, rfl, decided_choose .., hformat, decided_choose ..⟩

/-- The fields of a configuration. The policy is what was passed, else what its variable comes to.
The others are what was passed, else what their variables come to, else their defaults, unless the
default was passed and the variable says something else: there the variable comes first. -/
theorem of_settled (env : String → Option String) (given : Given) :
    ((∃ config, of env given = .ok config) ↔ ¬ SizeFails env given ∧
      ∃ format : OutputFormat, Decided given.format (formatFrom env) "summary" format.name) ∧
    ∀ config, of env given = .ok config →
      config.policy = (given.policy <|> nonempty? env Variable.policy) ∧
      Settled given.maxMegabytes (sizeFrom env) 10 config.maxMegabytes ∧
      Settled given.suffixes (suffixesFrom env) [".qb"] config.suffixes ∧
      Settled given.format (formatFrom env) "summary" config.format.name ∧
      Settled given.logLevel (logLevelFrom env) "WARNING" config.logLevel := by
  refine ⟨exists_of_iff env given, fun config h => ?_⟩
  obtain ⟨-, hof⟩ := of_eq_ok_iff.mp h
  exact ⟨hof.policy, hof.maxMegabytes.settled, hof.suffixes.settled, hof.format.settled,
    hof.logLevel.settled⟩

/-- Environment variables that ask for another level and another format. -/
def outspoken (name : String) : Option String :=
  [("QBSCRIPT_LINTER_LOG_LEVEL", "debug"), ("QBSCRIPT_LINTER_FORMAT", "JSON")].lookup name

/-- Of a level that is the default and a format that is not, the format alone keeps its place. -/
theorem of_settled_outspoken :
    let given : Given := { logLevel := some "WARNING", format := some "sarif" }
    ∃ config, of outspoken given = .ok config ∧ config.logLevel = "DEBUG" ∧
      InOrder given.format (formatFrom outspoken) "summary" config.format.name := by
  intro given
  have hof := (of_settled outspoken given).2 { logLevel := "DEBUG", format := .sarif } rfl
  refine ⟨_, rfl, rfl, hof.2.2.2.1.1.mpr ?_⟩
  rintro ⟨h, -⟩
  exact absurd h (by decide)

/-- A level that is passed does not decide if it is the default. -/
theorem not_inOrder_default : ¬ ∀ (env : String → Option String) (given : Given) (config : Config),
    of env given = .ok config →
      InOrder given.logLevel (logLevelFrom env) "WARNING" config.logLevel := by
  intro h
  have hlevel := h outspoken { logLevel := some "WARNING" }
    { logLevel := "DEBUG", format := .json } rfl
  exact absurd hlevel (by decide +kernel)

end Config

end QbLint
