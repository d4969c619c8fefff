import QbLint.Proofs.Bytes
import QbLint.Script.Jump

/-!
# What a jump reaches

The verification of a jump, stated on the bytes around its landing point.

* `Jump.Marker.Inside`, `Jump.Marker.Stands`: the window of a marker lies in the buffer; its bytes
  stand there;
* `Jump.verify_eq_ok_iff`: a jump is verified if all windows of its role lie in the buffer, and the
  answer is whether one of the markers stands in its window.
-/

namespace QbLint.Jump

/-- The window of a marker lies in the buffer. -/
def Marker.Inside (data : Bytes) (landing : Int) (marker : Marker) : Prop :=
  0 ≤ landing + marker.shift ∧ landing + marker.shift + marker.pattern.size ≤ data.size

instance (data : Bytes) (landing : Int) (marker : Marker) :
    Decidable (marker.Inside data landing) :=
  inferInstanceAs (Decidable (_ ∧ _))

/-- The bytes of a marker stand in its window. -/
def Marker.Stands (data : Bytes) (landing : Int) (marker : Marker) : Prop :=
  data.Holds (landing + marker.shift).toNat marker.pattern.toList

instance (data : Bytes) (landing : Int) (marker : Marker) :
    Decidable (marker.Stands data landing) :=
  inferInstanceAs (Decidable (data.Holds _ _))

/-- The jump whose field is at an offset finds all windows of its role in the buffer, and one of the
markers in its window. -/
def Reaches (data : Bytes) (field : Nat) (role : Role) : Prop :=
  ∃ distance, data.Denotes field 2 distance ∧
    (∀ marker ∈ role.markers, marker.Inside data (landing field distance)) ∧
    ∃ marker ∈ role.markers, marker.Stands data (landing field distance)

theorem anyMarker_eq_ok_iff {data : Bytes} {position : Nat} {landing : Int} {markers : List Marker}
    {reached : Bool} :
    anyMarker data position landing markers = .ok reached ↔
      (∀ marker ∈ markers, marker.Inside data landing) ∧
        (reached = true ↔ ∃ marker ∈ markers, marker.Stands data landing) := by
  induction markers generalizing position reached with
  | nil =>
    rw [anyMarker]
    cases reached <;> simp [pure, Except.pure]
  | cons marker rest ih =>
    have hpattern : ∀ window : Nat, landing + marker.shift = window →
        (data.extract window (window + marker.pattern.size) = marker.pattern ↔
          marker.Stands data landing) := fun window hw => by
      rw [Marker.Stands, hw, Int.toNat_natCast, Bytes.holds_iff_extract (Array.length_toList),
        Array.toList_inj]
    rw [anyMarker]
    simp only [except_bind_eq_ok_iff, Bytes.goto_eq_ok_iff, Bytes.slice_eq_ok_iff, ih,
      List.mem_cons, forall_eq_or_imp, exists_eq_or_imp]
    constructor
    · rintro ⟨window, ⟨hw, -⟩, found, ⟨hle, rfl⟩, others, ⟨hin, hothers⟩, hreached⟩
      obtain rfl := Except.ok.inj hreached
      refine ⟨⟨⟨by omega, by omega⟩, hin⟩, ?_⟩
      rw [Bool.or_eq_true, beq_iff_eq, hpattern window hw, hothers]
    · rintro ⟨⟨⟨h0, hle⟩, hin⟩, hreached⟩
      obtain ⟨window, hw⟩ := Int.eq_ofNat_of_zero_le h0
      refine ⟨window, ⟨hw, by omega⟩, _, ⟨by omega, rfl⟩,
        decide (∃ marker ∈ rest, marker.Stands data landing), ⟨hin, decide_eq_true_iff⟩, ?_⟩
      refine congrArg Except.ok (Bool.eq_iff_iff.mpr ?_)
      rw [Bool.or_eq_true, beq_iff_eq, hpattern window hw, decide_eq_true_iff, hreached]

theorem verify_eq_ok_iff {data : Bytes} {position : Nat} {origin offset : Int} {role : Role}
    {reached : Bool} :
    verify data position origin offset role = .ok reached ↔
      (∀ marker ∈ role.markers, marker.Inside data (landing origin offset)) ∧
        (reached = true ↔ ∃ marker ∈ role.markers, marker.Stands data (landing origin offset)) :=
  anyMarker_eq_ok_iff

end QbLint.Jump
