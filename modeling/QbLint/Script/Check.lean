import QbLint.Bytes
import QbLint.Script.Diagnostic

/-!
# Checks

A check reads a piece of a script and reports what is wrong with it. What it has reported stays
reported when it cannot go on.

* `Check`: the diagnostics reported so far, and a value or the reason to stop;
* `Check.Yields`: a property of every value that a check can come to, which holds of a sequence of
  checks if it holds of the last one.
-/

namespace QbLint

/-- Why a scan cannot go on: bytes were needed that are not there, or a struct's header is not what
it must be. -/
inductive Abort
  /-- A reader that stood at `reader` left the buffer. -/
  | outOfBounds (reader : Nat) (failure : OutOfBounds)
  /-- Four bytes at a position are no struct header. -/
  | structHeader (position header : Nat)
  deriving DecidableEq

/-- What a check reported, and its value unless it had to stop. -/
structure Check (α : Type) where
  found : List Diagnostic
  value : Except Abort α

namespace Check

/-- Goes on with the value of a check, behind what it reported. -/
def andThen {α β : Type} (x : Check α) (f : α → Check β) : Check β :=
  match x.value with
  | .ok a => ⟨x.found ++ (f a).found, (f a).value⟩
  | .error e => ⟨x.found, .error e⟩

instance : Monad Check where
  pure a := ⟨[], .ok a⟩
  bind := andThen

/-- Reports a defect and goes on. -/
def report (d : Diagnostic) : Check Unit := ⟨[d], .ok ()⟩

/-- Reports a defect if there is one, and goes on. -/
def reportIf (defective : Prop) [Decidable defective] (d : Diagnostic) : Check Unit :=
  ⟨if defective then [d] else [], .ok ()⟩

/-- Stops. -/
def stop {α : Type} (e : Abort) : Check α := ⟨[], .error e⟩

/-- The value of a reading. A failed one stops the check with the reader where it stood. -/
def read {α : Type} (x : Except OutOfBounds α) : Check α :=
  match x with
  | .ok a => ⟨[], .ok a⟩
  | .error e => ⟨[], .error (.outOfBounds e.position e)⟩

/-- The value of a look elsewhere, after which the reader is back at `position`. -/
def readAside {α : Type} (position : Nat) (x : Except OutOfBounds α) : Check α :=
  match x with
  | .ok a => ⟨[], .ok a⟩
  | .error e => ⟨[], .error (.outOfBounds position e)⟩

/-- Every value that the check can come to has the property. -/
def Yields {α : Type} (x : Check α) (p : α → Prop) : Prop := ∀ a, x.value = .ok a → p a

theorem yields_pure {α : Type} {p : α → Prop} {a : α} (h : p a) : (pure a : Check α).Yields p := by
  rintro b ⟨⟩
  exact h

theorem yields_bind {α β : Type} {p : β → Prop} {x : Check α} {f : α → Check β}
    (h : ∀ a, x.value = .ok a → (f a).Yields p) : (x >>= f).Yields p := by
  intro b hb
  change (andThen x f).value = _ at hb
  unfold andThen at hb
  split at hb
  · exact h _ ‹_› b hb
  · cases hb

theorem yields_stop {α : Type} {p : α → Prop} {e : Abort} : (stop e : Check α).Yields p := by
  rintro a ⟨⟩

end Check

end QbLint
