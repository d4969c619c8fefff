import Mathlib.Data.List.Basic
import QbLint.Config.Load
import QbLint.Proofs.Machine

/-!
# The environment of a run

The configuration depends on the environment variables of a machine, and an environment file sets
those of them that are not set. It changes nothing else on the machine, but for what its reader says
where errors go.

* `Config.answer_read`: the configuration that the variables of a machine come to;
* `Config.keeps_supplyFile`: what reading an environment file leaves as it is;
* `Config.answer_ofFile`: the configuration behind an environment file.
-/

namespace QbLint

/-- Texts that are empty count as not given. -/
theorem filter_nonempty_eq_some_iff {given? : Option String} {s : String} :
    given?.filter (!·.isEmpty) = some s ↔ given? = some s ∧ s ≠ "" := by
  simp [Option.filter_eq_some_iff]

namespace Config

variable {env env' : String → Option String} {machine : Machine} {given : Given}

/-- A configuration depends on no other variables than its own. -/
theorem of_congr (h : ∀ name ∈ Variable.all, env name = env' name) (given : Given) :
    of env given = of env' given := by
  have hvalue : ∀ name ∈ Variable.all, nonempty? env name = nonempty? env' name :=
    fun name hname => congrArg (Option.filter _) (h name hname)
  simp only [Variable.all, List.forall_mem_cons] at hvalue
  obtain ⟨hpolicy, hsize, hsuffixes, hformat, hlevel, -⟩ := hvalue
  unfold of chooseSize
  rw [hpolicy, hsize, hsuffixes, hformat, hlevel]

theorem answer_valuesOf {names : List String} {name : String} (h : name ∈ names)
    (machine : Machine) :
    machine.answer (valuesOf names) name = machine.environment.lookup name := by
  have hvalues : ∀ names : List String,
      machine.answer (names.mapM fun name => do return (name, ← Host.valueOf name)) =
        names.map fun name => (name, machine.environment.lookup name) := by
    intro names
    induction names with
    | nil => rfl
    | cons name names ih =>
      rw [List.mapM_cons]
      exact congrArg (_ :: ·) ih
  have hanswer : machine.answer (valuesOf names) name =
      ((machine.answer (names.mapM fun name => do return (name, ← Host.valueOf name))).lookup
        name).join :=
    rfl
  rw [hanswer, hvalues, List.lookup_graph _ h, Option.join_some]

/-- The configuration that the variables of a machine come to. -/
theorem answer_read (machine : Machine) (given : Given) :
    machine.answer (read given) =
      (of (fun name => machine.environment.lookup name) given).mapError .config :=
  congrArg (Except.mapError _) (of_congr (fun _ hname => answer_valuesOf hname machine) given)

/-! ## Environment files -/

section Files

variable {β : Type} {part : Machine → β}

theorem keeps_valuesOf (names : List String) : Keeps part (valuesOf names) :=
  .bind (.mapM (fun _ => .bind (.valueOf _) fun _ => .pure _) names) fun _ => .pure _

theorem keeps_read (given : Given) : Keeps part (read given) :=
  .bind (keeps_valuesOf _) fun _ => .pure _

variable (hset : ∀ machine name value, part (Machine.setVariable machine name value) = part machine)
include hset

theorem keeps_setVariable (name value : String) : Keeps part (Host.setVariable name value) :=
  .modify _ fun machine => hset machine name value

theorem keeps_supply (settings : Settings) : Keeps part (supply settings) := by
  induction settings with
  | nil => exact .pure _
  | cons setting settings ih =>
    obtain ⟨name, value?⟩ := setting
    cases value? with
    | none => exact ih
    | some value =>
      refine .bind (.valueOf name) fun old => ?_
      split
      · split
        · exact .pure _
        · exact .bind (keeps_setVariable hset _ _) fun _ => ih
      · exact ih

/-- Reading an environment file leaves as it is whatever setting a variable and telling an error
do. -/
theorem keeps_supplyFile
    (htell : ∀ (machine : Machine) (errors : String), part { machine with errors } = part machine)
    (path : Path) : Keeps part (supplyFile path) := by
  refine .bind (.entryAt path) fun entry => ?_
  split
  · exact .pure _
  · refine .bind (.read path) fun data => ?_
    split
    · exact .pure _
    · refine .bind (.readSettings htell _) fun settings => ?_
      split
      · exact .pure _
      · exact keeps_supply hset _
  · exact .pure _

end Files

/-- The configuration behind an environment file. -/
theorem answer_ofFile (machine : Machine) (path : Path) :
    machine.answer (ofFile path) =
      match machine.answer (supplyFile path) with
      | .error e => .error e
      | .ok () =>
        (of (fun name => (machine.after (supplyFile path)).environment.lookup name) {}).mapError
          .config := by
  rw [ofFile, Machine.answer_bind]
  cases machine.answer (supplyFile path) with
  | error e => rfl
  | ok => exact answer_read _ _

end Config

end QbLint
