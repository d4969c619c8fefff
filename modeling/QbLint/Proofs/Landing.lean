import QbLint.Proofs.Jump
import QbLint.Script.Cursor

/-!
# Looking at a landing point

A cursor verifies a jump by going to the window of each marker of the jump's role and reading it,
aside from its own position.

* `Jump.Role.Fits`, `Jump.Role.Meets`: where a jump of each role may land, and what it must find
  there; `Jump.Role.fits_iff`, `Jump.Role.meets_iff`: these are the windows and the bytes of the
  markers;
* `Jump.Marker.look`: the operations that look at a marker; `Cursor.judge_performBlock`: to verify a
  jump is to perform these aside and to judge what they have read;
* `Cursor.perform_verify`: what the verification of a jump comes to, and where it leaves the cursor.
-/

namespace QbLint

/-! ## Where a jump lands -/

namespace Jump.Role

/-- All that a role looks for around a landing point lies in a buffer of `size` bytes. -/
def Fits (role : Role) (size : Nat) (landing : Int) : Prop :=
  match role with
  | nextBranch => 4 ≤ landing ∧ landing < size
  | endif | endSwitch => 2 ≤ landing ∧ landing ≤ size
  | nextCase => 0 ≤ landing ∧ landing < size

/-- What a role looks for stands at a landing point: the next branch behind an `else` or an `endif`,
or at an `elseif`; the end of a statement or of a switch right before it; a case at it. -/
def Meets (role : Role) (data : Bytes) (landing : Int) : Prop :=
  match role with
  | nextBranch => data.Holds (landing - 4).toNat [0x01, 0x48] ∨
      data.Holds (landing - 2).toNat [0x01, 0x28] ∨ data.Holds landing.toNat [0x27]
  | endif => data.Holds (landing - 2).toNat [0x01, 0x28]
  | endSwitch => data.Holds (landing - 2).toNat [0x01, 0x3D]
  | nextCase => ∃ code, data[landing.toNat]? = some code ∧ 0x3D ≤ code ∧ code ≤ 0x3F

variable {role : Role} {data : Bytes} {landing : Int}

theorem fits_iff : role.Fits data.size landing ↔
    ∀ marker ∈ role.markers, marker.Inside data landing := by
  cases role <;> simp only [Fits, markers, Marker.Inside, List.forall_mem_cons, List.not_mem_nil,
    false_implies, implies_true, and_true, List.size_toArray, List.length_cons, List.length_nil] <;>
    omega

theorem meets_iff : role.Meets data landing ↔
    ∃ marker ∈ role.markers, marker.Stands data landing := by
  cases role with
  | nextCase =>
    have hcase : ∀ code : UInt8, 0x3D ≤ code ∧ code ≤ 0x3F ↔
        code = 0x3D ∨ code = 0x3E ∨ code = 0x3F := by
      intro code
      simp only [UInt8.le_iff_toNat_le, ← UInt8.toNat_inj]
      show 0x3D ≤ code.toNat ∧ code.toNat ≤ 0x3F ↔
        code.toNat = 0x3D ∨ code.toNat = 0x3E ∨ code.toNat = 0x3F
      omega
    simp only [Meets, hcase, and_or_left, exists_or, exists_eq_right]
    simp [markers, Marker.Stands, Bytes.holds_singleton_iff]
  | _ => simp [Meets, markers, Marker.Stands, Int.sub_eq_add_neg]

end Jump.Role

/-! ## Looking aside -/

/-- The operations that look at a marker: they go to its window and read it. -/
def Jump.Marker.look (landing : Int) (marker : Marker) : List Cursor.Op :=
  [.seek (landing + marker.shift), .bytes marker.pattern.size]

namespace Cursor

/-- The bytes that an operation has read. -/
def Answer.bytes? : Answer → Option Bytes
  | .plain (.ok (.bytes data)) => some data
  | _ => none

/-- What a block that looks at markers comes to: its failure, or whether it has read the bytes of
one of the markers. -/
def judge (markers : List Jump.Marker) : List (Nat × Answer) × Option Failure → Answer
  | (_, some failure) => .plain (.error failure)
  | (inner, none) =>
    let windows := inner.filterMap fun entry => entry.2.bytes?
    .plain (.ok (.flag ((windows.zipWith (· == ·) (markers.map (·.pattern))).any id)))

variable {data : Bytes} {position : Nat} {origin offset : Int} {role : Jump.Role}

/-- The block that looks at some markers, by induction on them: its first move or reading that fails
ends it. -/
theorem judge_performBlock (data : Bytes) (position : Nat) (landing : Int)
    (markers : List Jump.Marker) :
    judge markers (performBlock data position (markers.flatMap (·.look landing))) =
      match Jump.anyMarker data position landing markers with
      | .ok reached => .plain (.ok (.flag reached))
      | .error failure => .plain (.error (.outOfBounds failure)) := by
  induction markers generalizing position with
  | nil => rfl
  | cons marker rest ih =>
    rw [List.flatMap_cons, Jump.Marker.look, List.cons_append, List.cons_append, List.nil_append,
      Jump.anyMarker, performBlock, Op.perform, move]
    cases hgoto : data.goto position (landing + marker.shift) with
    | error failure => rfl
    | ok window =>
      have hcount : ¬ ((marker.pattern.size : Nat) : Int) < 0 := by omega
      simp only [Answer.failure?]
      rw [performBlock, Op.perform, if_neg hcount, Int.toNat_natCast]
      cases hslice : data.slice window marker.pattern.size with
      | error failure =>
        simp [Answer.failure?, bind, Except.bind, hslice, judge]
      | ok found =>
        have hrest := ih (window + marker.pattern.size)
        simp only [Answer.failure?, bind, Except.bind, hslice]
        generalize performBlock data _ (rest.flatMap (·.look landing)) = block at hrest ⊢
        obtain ⟨inner, failure⟩ := block
        cases hothers : Jump.anyMarker data (window + marker.pattern.size) landing rest with
        | error failure' =>
          rw [hothers] at hrest
          cases failure <;> simp_all [judge]
        | ok others =>
          rw [hothers] at hrest
          cases failure with
          | some failure => simp [judge] at hrest
          | none =>
            simp only [judge, Answer.plain.injEq, Except.ok.injEq, Value.flag.injEq] at hrest
            rw [← hrest]
            rfl

/-- To verify a jump is to look at the markers of its role aside. -/
theorem perform_verify_eq_judge (data : Bytes) (position : Nat) (origin offset : Int)
    (role : Jump.Role) :
    Op.perform data position (.verify origin offset role) =
      (judge role.markers
          (performBlock data position (role.markers.flatMap (·.look (origin + offset)))),
        (Op.perform data position
          (.lookaside (role.markers.flatMap (·.look (origin + offset))))).2) := by
  rw [judge_performBlock, Op.perform, Op.perform]
  show (match Jump.anyMarker data position (origin + offset) role.markers with
    | .ok reached => (Answer.plain (.ok (.flag reached)), position)
    | .error e => (.plain (.error (.outOfBounds e)), position)) = _
  cases Jump.anyMarker data position (origin + offset) role.markers <;> rfl

/-- A jump is verified where all that its role looks for lies in the buffer. -/
theorem verify_of_fits (position : Nat) (hf : role.Fits data.size (origin + offset)) :
    ∃ reached, Jump.verify data position origin offset role = .ok reached ∧
      (reached = true ↔ role.Meets data (origin + offset)) := by
  classical
  refine ⟨decide (role.Meets data (origin + offset)), ?_, decide_eq_true_iff⟩
  exact Jump.verify_eq_ok_iff.mpr ⟨Jump.Role.fits_iff.mp hf, by
    rw [decide_eq_true_iff]
    exact Jump.Role.meets_iff⟩

theorem verify_of_not_fits (position : Nat) (hf : ¬ role.Fits data.size (origin + offset)) :
    ∃ failure, Jump.verify data position origin offset role = .error failure := by
  cases hv : Jump.verify data position origin offset role with
  | ok reached => exact absurd (Jump.Role.fits_iff.mpr (Jump.verify_eq_ok_iff.mp hv).1) hf
  | error failure => exact ⟨failure, rfl⟩

/-- A field that can be read is read, and then the jump is verified from behind it. -/
theorem readAndVerify_of_denotes {distance : Nat} (hd : data.Denotes position 2 distance) :
    Op.perform data position (.readAndVerify role) =
      match Jump.verify data (position + 2) position distance role with
      | .ok reached => (.plain (.ok (.jump position reached)), position + 2)
      | .error failure => (.plain (.error (.outOfBounds failure)), position + 2) := by
  have hread : data.uint16 position = .ok distance := Bytes.number_eq_ok_iff.mpr hd
  cases hv : Jump.verify data (position + 2) position distance role with
  | ok reached => simp [Op.perform, readAndVerify, hread, hv]
  | error failure => simp [Op.perform, readAndVerify, hread, hv]

/-- What the verification of a jump comes to at a cursor. If all that the role looks for lies in the
buffer, it says whether one of it stands there; if not, it fails, whatever has been found before. It
is a block of moves and readings aside, and so the cursor stands where it stood. A cursor that also
reads the jump's field, where there is one, stands behind the field afterwards. -/
theorem perform_verify (data : Bytes) (position : Nat) (origin offset : Int) (role : Jump.Role) :
    (role.Fits data.size (origin + offset) → ∃ reached,
      Op.perform data position (.verify origin offset role) =
          (.plain (.ok (.flag reached)), position) ∧
        (reached = true ↔ role.Meets data (origin + offset))) ∧
    (¬ role.Fits data.size (origin + offset) → ∃ failure,
      Op.perform data position (.verify origin offset role) =
        (.plain (.error (.outOfBounds failure)), position)) ∧
    Op.perform data position (.verify origin offset role) =
      (judge role.markers
          (performBlock data position (role.markers.flatMap (·.look (origin + offset)))),
        (Op.perform data position
          (.lookaside (role.markers.flatMap (·.look (origin + offset))))).2) ∧
    ∀ distance, data.Denotes position 2 distance →
      (role.Fits data.size (position + distance) → ∃ reached,
        Op.perform data position (.readAndVerify role) =
            (.plain (.ok (.jump position reached)), position + 2) ∧
          (reached = true ↔ role.Meets data (position + distance))) ∧
      (¬ role.Fits data.size (position + distance) → ∃ failure,
        Op.perform data position (.readAndVerify role) =
          (.plain (.error (.outOfBounds failure)), position + 2)) := by
  refine ⟨fun hf => ?_, fun hf => ?_, perform_verify_eq_judge data position origin offset role,
    fun distance hd => ⟨fun hf => ?_, fun hf => ?_⟩⟩
  · obtain ⟨reached, hv, hreached⟩ := verify_of_fits position hf
    refine ⟨reached, ?_, hreached⟩
    rw [Op.perform, hv]
  · obtain ⟨failure, hv⟩ := verify_of_not_fits position hf
    refine ⟨failure, ?_⟩
    rw [Op.perform, hv]
  · obtain ⟨reached, hv, hreached⟩ := verify_of_fits (position + 2) hf
    refine ⟨reached, ?_, hreached⟩
    rw [readAndVerify_of_denotes hd, hv]
  · obtain ⟨failure, hv⟩ := verify_of_not_fits (position + 2) hf
    refine ⟨failure, ?_⟩
    rw [readAndVerify_of_denotes hd, hv]

/-- A jump right behind an `endif` that is the end of the buffer fails, for want of an `elseif`. -/
example : (Op.perform #[0x47, 0x04, 0x00, 0x01, 0x28] 3 (.verify 1 4 .nextBranch)).1.failure? =
    some (.outOfBounds ⟨5, 6, 5⟩) := by decide

end Cursor

end QbLint
