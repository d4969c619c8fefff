import QbLint.Proofs.Check

/-!
# Two runs of a check

How a check can be compared with another run of it, on other bytes or with other options: the second
run follows the first as long as that one goes on, and what becomes of it when the first stops is a
matter of the comparison.

* `Agreement`: what a comparison asks of two runs;
* `Check.Agrees`: two checks meet it and come to related values;
* `Check.agrees_bind`: a sequence of checks meets it if each of them does.
-/

namespace QbLint

/-- A comparison of two runs by what they report. -/
structure Agreement where
  /-- What the two report as long as both go on. -/
  same : List Diagnostic → List Diagnostic → Prop
  /-- What the second reports, and the reason why it stops if it does, when the first has stopped
  after reporting the first list. -/
  stopped : List Diagnostic → Abort → List Diagnostic → Option Abort → Prop
  same_nil : same [] []
  same_append {a b a' b' : List Diagnostic} : same a a' → same b b' → same (a ++ b) (a' ++ b')
  /-- What both reported before does not matter. -/
  stopped_append {a b a' b' : List Diagnostic} {e : Abort} {r : Option Abort} :
    same a a' → stopped b e b' r → stopped (a ++ b) e (a' ++ b') r
  /-- If the second run may go on when the first stops, it may report and come to anything. -/
  stopped_more {a a' b' : List Diagnostic} {e : Abort} {r : Option Abort} :
    stopped a e a' none → stopped a e (a' ++ b') r

namespace Check

variable {A : Agreement} {α β γ δ : Type}

/-- The reason why the check stops, if it does. -/
def abort? (x : Check α) : Option Abort :=
  match x.value with
  | .ok _ => none
  | .error e => some e

theorem abort?_eq_some_iff {x : Check α} {e : Abort} : x.abort? = some e ↔ x.value = .error e := by
  unfold abort?
  split <;> simp [*]

/-- The second check follows the first, to a related value. -/
def Agrees (A : Agreement) (V : α → β → Prop) (x : Check α) (y : Check β) : Prop :=
  match x.value with
  | .ok a => ∃ b, y.value = .ok b ∧ V a b ∧ A.same x.found y.found
  | .error e => A.stopped x.found e y.found y.abort?

/-- As long as the first check goes on, so does the second. -/
theorem Agrees.of_ok {V : α → β → Prop} {x : Check α} {y : Check β} {a : α} (h : Agrees A V x y)
    (hx : x.value = .ok a) : ∃ b, y.value = .ok b ∧ V a b ∧ A.same x.found y.found := by
  unfold Agrees at h
  rwa [hx] at h

theorem Agrees.of_error {V : α → β → Prop} {x : Check α} {y : Check β} {e : Abort}
    (h : Agrees A V x y) (hx : x.value = .error e) : A.stopped x.found e y.found y.abort? := by
  unfold Agrees at h
  rwa [hx] at h

theorem agrees_pure {V : α → β → Prop} {a : α} {b : β} (h : V a b) :
    Agrees A V (pure a) (pure b) :=
  ⟨b, rfl, h, A.same_nil⟩

theorem agrees_report {d d' : Diagnostic} (h : A.same [d] [d']) :
    Agrees A (fun _ _ => True) (report d) (report d') :=
  ⟨(), rfl, trivial, h⟩

theorem agrees_reportIf {p q : Prop} [Decidable p] [Decidable q] {d d' : Diagnostic}
    (hpq : p ↔ q) (h : A.same [d] [d']) :
    Agrees A (fun _ _ => True) (reportIf p d) (reportIf q d') := by
  refine ⟨(), rfl, trivial, ?_⟩
  by_cases hp : p
  · simpa [reportIf, hp, hpq.mp hp] using h
  · simpa [reportIf, hp, mt hpq.mpr hp] using A.same_nil

theorem agrees_mono {V W : α → β → Prop} {x : Check α} {y : Check β} (h : Agrees A V x y)
    (hVW : ∀ a b, V a b → W a b) : Agrees A W x y := by
  unfold Agrees at h ⊢
  split
  · rename_i hx
    simp only [hx] at h
    obtain ⟨b, hb, hV, hs⟩ := h
    exact ⟨b, hb, hVW _ _ hV, hs⟩
  · rename_i hx
    simpa only [hx] using h

/-- Sequences of checks agree if their parts do. -/
theorem agrees_bind {V : α → β → Prop} {W : γ → δ → Prop} {x : Check α} {y : Check β}
    {f : α → Check γ} {g : β → Check δ} (h : Agrees A V x y)
    (hf : ∀ a b, V a b → Agrees A W (f a) (g b)) : Agrees A W (x >>= f) (y >>= g) := by
  obtain ⟨found, value⟩ := x
  obtain ⟨found', value'⟩ := y
  cases value with
  | ok a =>
    obtain ⟨b, rfl, hV, hs⟩ := h
    have := hf a b hV
    simp only [bind_def, andThen, Agrees] at this ⊢
    cases hfa : (f a).value with
    | ok c =>
      simp only [hfa] at this ⊢
      obtain ⟨d, hd, hW, hs'⟩ := this
      exact ⟨d, hd, hW, A.same_append hs hs'⟩
    | error e =>
      simp only [hfa] at this ⊢
      exact A.stopped_append hs this
  | error e =>
    cases value' with
    | ok b => exact A.stopped_more h
    | error e' => exact h

/-- A look elsewhere at several things is one at each of them. -/
theorem readAside_bind (reader : Nat) (x : Except OutOfBounds α)
    (f : α → Except OutOfBounds β) :
    readAside reader (x >>= f) = readAside reader x >>= fun a => readAside reader (f a) := by
  cases x with
  | error e => rfl
  | ok a =>
    change readAside reader (f a) = andThen ⟨[], .ok a⟩ fun a => readAside reader (f a)
    simp [andThen]

end Check

end QbLint
