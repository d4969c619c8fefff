import QbLint.Script.Check

/-!
# Outcomes of checks

What a sequence of checks reports and comes to, from what each of them reports and comes to:

* `Check.bind_eq_pure_iff`: it is silent exactly if each of them is;
* `Check.value_bind_eq_ok_iff`: it comes to a value exactly if each of them does;
* `Check.Finds`: a property of everything that is reported, `Check.finds_bind`;
* `Check.Stops`: a property of the reason to stop, `Check.stops_bind`.

A silent check is `pure` of its value.
-/

namespace QbLint.Check

variable {α β : Type}

theorem pure_def (a : α) : (pure a : Check α) = ⟨[], .ok a⟩ := rfl

theorem bind_def (x : Check α) (f : α → Check β) : x >>= f = x.andThen f := rfl

/-! ## Silent checks -/

theorem pure_eq_pure_iff {a b : α} : (pure a : Check α) = pure b ↔ a = b := by
  simp [pure_def]

theorem bind_eq_pure_iff {x : Check α} {f : α → Check β} {b : β} :
    x >>= f = pure b ↔ ∃ a, x = pure a ∧ f a = pure b := by
  obtain ⟨found, value⟩ := x
  cases value with
  | error e => simp [bind_def, andThen, pure_def]
  | ok a =>
    cases hf : f a with
    | mk found' value' =>
      simp only [bind_def, andThen, pure_def, mk.injEq, List.append_eq_nil_iff, Except.ok.injEq, hf]
      constructor
      · rintro ⟨⟨rfl, rfl⟩, rfl⟩
        exact ⟨a, ⟨rfl, rfl⟩, hf⟩
      · rintro ⟨a', ⟨rfl, rfl⟩, h⟩
        rw [hf, mk.injEq] at h
        exact ⟨⟨rfl, h.1⟩, h.2⟩

theorem report_ne_pure {d : Diagnostic} {u : Unit} : report d ≠ pure u := by
  simp [report, pure_def]

theorem reportIf_eq_pure_iff {p : Prop} [Decidable p] {d : Diagnostic} {u : Unit} :
    reportIf p d = pure u ↔ ¬ p := by
  by_cases h : p <;> simp [reportIf, pure_def, h]

theorem stop_ne_pure {e : Abort} {a : α} : stop e ≠ pure a := by
  simp [stop, pure_def]

theorem read_eq_pure_iff {x : Except OutOfBounds α} {a : α} : read x = pure a ↔ x = .ok a := by
  cases x <;> simp [read, pure_def]

theorem readAside_eq_pure_iff {position : Nat} {x : Except OutOfBounds α} {a : α} :
    readAside position x = pure a ↔ x = .ok a := by
  cases x <;> simp [readAside, pure_def]

/-! ## Values -/

theorem value_bind_eq_ok_iff {x : Check α} {f : α → Check β} {b : β} :
    (x >>= f).value = .ok b ↔ ∃ a, x.value = .ok a ∧ (f a).value = .ok b := by
  obtain ⟨found, value⟩ := x
  cases value <;> simp [bind_def, andThen]

theorem value_read_eq_ok_iff {x : Except OutOfBounds α} {a : α} :
    (read x).value = .ok a ↔ x = .ok a := by
  cases x <;> simp [read]

/-! ## Reasons to stop -/

/-- If the check stops, the reason has the property. -/
def Stops (x : Check α) (p : Abort → Prop) : Prop := ∀ e, x.value = .error e → p e

theorem stops_pure {p : Abort → Prop} (a : α) : (pure a : Check α).Stops p := nofun

theorem stops_report {p : Abort → Prop} (d : Diagnostic) : (report d).Stops p := nofun

theorem stops_reportIf {p : Abort → Prop} (c : Prop) [Decidable c] (d : Diagnostic) :
    (reportIf c d).Stops p := nofun

theorem stops_stop {p : Abort → Prop} {e : Abort} (h : p e) : (stop e : Check α).Stops p := by
  rintro _ ⟨⟩
  exact h

theorem stops_read {p : Abort → Prop} {x : Except OutOfBounds α}
    (h : ∀ failure, x = .error failure → p (.outOfBounds failure.position failure)) :
    (read x).Stops p := by
  intro e he
  cases x with
  | ok a => cases he
  | error failure =>
    obtain rfl := Except.error.inj he
    exact h failure rfl

theorem stops_readAside {p : Abort → Prop} {position : Nat} {x : Except OutOfBounds α}
    (h : ∀ failure, x = .error failure → p (.outOfBounds position failure)) :
    (readAside position x).Stops p := by
  intro e he
  cases x with
  | ok a => cases he
  | error failure =>
    obtain rfl := Except.error.inj he
    exact h failure rfl

/-- A sequence of checks stops where one of them does, and the later ones start from the values of
the earlier ones. -/
theorem stops_bind {p : Abort → Prop} {x : Check α} {f : α → Check β} (hx : x.Stops p)
    (hf : ∀ a, x.value = .ok a → (f a).Stops p) : (x >>= f).Stops p := by
  obtain ⟨found, value⟩ := x
  cases value with
  | error e =>
    rintro _ ⟨⟩
    exact hx e rfl
  | ok a => exact hf a rfl

/-! ## What is reported -/

/-- Everything that the check reports has the property. -/
def Finds (x : Check α) (p : Diagnostic → Prop) : Prop := ∀ d ∈ x.found, p d

theorem finds_pure {p : Diagnostic → Prop} (a : α) : (pure a : Check α).Finds p := nofun

theorem finds_stop {p : Diagnostic → Prop} (e : Abort) : (stop e : Check α).Finds p := nofun

theorem found_read (x : Except OutOfBounds α) : (read x).found = [] := by
  cases x <;> rfl

theorem found_readAside (position : Nat) (x : Except OutOfBounds α) :
    (readAside position x).found = [] := by
  cases x <;> rfl

theorem finds_read {p : Diagnostic → Prop} (x : Except OutOfBounds α) : (read x).Finds p := by
  simp [Finds, found_read]

theorem finds_readAside {p : Diagnostic → Prop} (position : Nat) (x : Except OutOfBounds α) :
    (readAside position x).Finds p := by
  simp [Finds, found_readAside]

theorem finds_report {d : Diagnostic} {p : Diagnostic → Prop} (h : p d) : (report d).Finds p := by
  simpa [Finds, report] using h

theorem finds_reportIf {c : Prop} [Decidable c] {d : Diagnostic} {p : Diagnostic → Prop}
    (h : p d) : (reportIf c d).Finds p := by
  by_cases hc : c <;> simp [Finds, reportIf, hc, h]

theorem finds_bind {x : Check α} {f : α → Check β} {p : Diagnostic → Prop} (hx : x.Finds p)
    (hf : ∀ a, (f a).Finds p) : (x >>= f).Finds p := by
  obtain ⟨found, value⟩ := x
  cases value with
  | error e => exact hx
  | ok a =>
    intro d hd
    rcases List.mem_append.mp hd with hd | hd
    · exact hx d hd
    · exact hf a d hd

end QbLint.Check
