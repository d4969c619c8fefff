import QbLint.Proofs.Acceptance
import QbLint.Proofs.Extent
import QbLint.Proofs.Landing

/-!
# Jumps ahead

Distances are unsigned, but a marker is looked for up to four bytes before the landing point, so
that a jump over a short distance may be accepted for bytes that precede it.

* `Instruction.jumps`: the jumps of an instruction; `Instruction.check_eq_pure_iff_jumps`: its check
  is silent if they are all accepted;
* `Jump.ahead_of_pair`, `Jump.ahead_of_single`: a marker does not overlap the field of the jump that
  lands by it, whose distance would be too short for the bytes of both;
* `Jump.LandsShort`: the two ways in which a jump is accepted for what stands before its field;
  `Jump.ahead_or_landsShort`: there are no others;
* `Scan.ahead_iff_not_landsShort`: where the jumps that a scan accepts find their markers.
-/

namespace QbLint

variable {data : Bytes} {start next field place distance back : Nat} {code second : UInt8}
  {role : Jump.Role}

/-! ## The jumps of an instruction -/

namespace Jump

/-- A cursor at the field reads it, and finds that the jump reaches what its role asks for. -/
def Accepted (data : Bytes) (field : Nat) (role : Role) : Prop :=
  Cursor.Op.perform data field (.readAndVerify role) = (.plain (.ok (.jump field true)), field + 2)

theorem accepted_iff_reaches : Accepted data field role ↔ Reaches data field role := by
  constructor
  · intro h
    have h : Cursor.readAndVerify data field role =
        (.plain (.ok (.jump field true)), field + 2) := h
    unfold Cursor.readAndVerify at h
    split at h
    · simp at h
    · rename_i distance hread
      split at h
      · rename_i reached hv
        obtain ⟨hin, hreached⟩ := verify_eq_ok_iff.mp hv
        have htrue : reached = true := by simpa using h
        exact ⟨distance, Bytes.number_eq_ok_iff.mp hread, hin, hreached.mp htrue⟩
      · simp at h
  · intro ⟨distance, hd, hin, hstands⟩
    have hv : verify data (field + 2) field distance role = .ok true :=
      verify_eq_ok_iff.mpr ⟨hin, iff_of_true rfl hstands⟩
    rw [Accepted, Cursor.readAndVerify_of_denotes hd, hv]

/-- A marker of the role by which the jump lands begins behind the jump's field. -/
def Ahead (data : Bytes) (field : Nat) (role : Role) : Prop :=
  ∃ distance, data.Denotes field 2 distance ∧ ∃ marker ∈ role.markers,
    marker.Stands data (landing field distance) ∧
      (field + 2 : Int) ≤ landing field distance + marker.shift

end Jump

namespace Instruction

/-- The jumps of the instruction at an offset: where the field of each is, and its role. -/
def jumps (data : Bytes) (start : Nat) : List (Nat × Jump.Role) :=
  match data[start]? with
  | some 0x47 => [(start + 1, .nextBranch)]
  | some 0x27 => [(start + 1, .nextBranch), (start + 3, .endif)]
  | some 0x48 => [(start + 1, .endif)]
  | some 0x49 => [(start + 1, .endSwitch)]
  | some 0x3E => [(start + 2, .nextCase)]
  | _ => []

/-- The check of an instruction with jumps is silent exactly if each of them is accepted, and a case
has its short-jump byte. -/
theorem check_eq_pure_iff_jumps {options : ScanOptions} (hc : data[start]? = some code)
    (hj : jumps data start ≠ []) : check options data start code = pure next ↔
      (∀ jump ∈ jumps data start, Jump.Accepted data jump.1 jump.2) ∧
        (code = 0x3E → data.Holds (start + 1) [0x49]) ∧ next = start + extent data start := by
  have hcode : ∀ {opcode : UInt8}, data[start]? = some opcode → code = opcode := fun h =>
    Option.some.inj (hc.symm.trans h)
  simp only [Jump.accepted_iff_reaches]
  unfold jumps at hj ⊢
  rw [extent]
  split at hj
  case h_1 h =>
    rw [h, hcode h]
    refine ifBranch_eq_pure_iff.trans ?_
    simp
  case h_2 h =>
    rw [h, hcode h]
    refine elseifBranch_eq_pure_iff.trans ?_
    simp [and_assoc]
  case h_3 h =>
    rw [h, hcode h]
    refine elseBranch_eq_pure_iff.trans ?_
    simp
  case h_4 h =>
    rw [h, hcode h]
    refine switchJump_eq_pure_iff.trans ?_
    simp
  case h_5 h =>
    rw [h, hcode h]
    refine switchCase_eq_pure_iff.trans ?_
    simp [and_left_comm]
  case h_6 => exact absurd rfl hj

end Instruction

/-! ## Markers and fields -/

namespace Jump

/-- A short distance stands in the first byte of its field, before a zero. -/
theorem short_field (hd : data.Denotes field 2 distance) (hlt : distance < 256) :
    (∃ low, data[field]? = some low ∧ low.toNat = distance) ∧ data[field + 1]? = some 0 := by
  obtain ⟨bytes, hl, hh, hvalue⟩ := hd.exists_holds
  obtain ⟨low, high, rfl⟩ := List.length_eq_two.mp hl
  obtain ⟨hlow, hhigh⟩ := Bytes.holds_cons_iff.mp hh
  rw [Bytes.littleEndian_cons, Bytes.littleEndian_cons] at hvalue
  have hzero : high = 0 := UInt8.toNat_inj.mp (show high.toNat = 0 by omega)
  rw [hzero] at hvalue hhigh
  exact ⟨⟨low, hlow, hvalue⟩, Bytes.holds_singleton_iff.mp hhigh⟩

/-- A marker of a line break and an opcode, two to four bytes before the landing point, lies behind
the field or before it: where it would overlap the field, the distance is too short for the field to
hold either byte. -/
theorem ahead_of_pair (hd : data.Denotes field 2 distance) (hh : data.Holds place [0x01, second])
    (hp : place + back = field + distance) (hback : 2 ≤ back ∧ back ≤ 4) (hs : 4 ≤ second.toNat) :
    field + 2 ≤ place ∨ place + 2 ≤ field := by
  obtain ⟨hfirst, hsecond⟩ := Bytes.holds_cons_iff.mp hh
  have hsecond := Bytes.holds_singleton_iff.mp hsecond
  by_contra hoverlap
  obtain ⟨⟨low, hlow, hvalue⟩, hhigh⟩ := short_field hd (by omega)
  have hplace : place + 1 = field ∨ place = field ∨ place = field + 1 := by omega
  rcases hplace with hplace | hplace | hplace
  · rw [hplace, hlow] at hsecond
    obtain rfl := Option.some.inj hsecond
    omega
  · rw [hplace, hlow] at hfirst
    obtain rfl := Option.some.inj hfirst
    have hone : (1 : UInt8).toNat = 1 := rfl
    omega
  · rw [hplace, hhigh] at hfirst
    cases hfirst

/-- A marker of one byte at the landing point lies behind the field. -/
theorem ahead_of_single (hd : data.Denotes field 2 distance)
    (hh : data.Holds (field + distance) [second]) (hs : second ≠ 0) :
    field + 2 ≤ field + distance := by
  have hsecond := Bytes.holds_singleton_iff.mp hh
  by_contra hlt
  obtain ⟨⟨low, hlow, hvalue⟩, hhigh⟩ := short_field hd (by omega)
  have hdistance : distance = 0 ∨ distance = 1 := by omega
  rcases hdistance with rfl | rfl
  · obtain rfl := Option.some.inj (hlow.symm.trans hsecond)
    exact hs (UInt8.toNat_inj.mp hvalue)
  · exact hs (Option.some.inj (hsecond.symm.trans hhigh))

/-- A marker of two bytes, the second of them not the opcode, lies behind the field that follows the
opcode or before the opcode. -/
theorem ahead_of_opcode (hc : data[start]? = some code) (hne : second ≠ code)
    (hd : data.Denotes (start + 1) 2 distance) (hh : data.Holds place [0x01, second])
    (hp : place + back = start + 1 + distance) (hback : 2 ≤ back ∧ back ≤ 4)
    (hs : 4 ≤ second.toNat) : start + 1 + 2 ≤ place ∨ place + 2 ≤ start := by
  rcases ahead_of_pair hd hh hp hback hs with hahead | hbefore
  · exact .inl hahead
  · have hsecond := Bytes.holds_singleton_iff.mp (Bytes.holds_cons_iff.mp hh).2
    by_cases hopcode : place + 1 = start
    · rw [hopcode, hc] at hsecond
      exact absurd (Option.some.inj hsecond).symm hne
    · exact .inr (by omega)

/-! ## Jumps that land short -/

/-- The jumps of the instruction at `start` that land in their own field, and are accepted for what
stands before it. -/
inductive LandsShort (data : Bytes) (start : Nat) : Nat → Role → Prop
  /-- A jump to the next branch, behind an `else` before the instruction. -/
  | otherwise {distance place : Nat} (hd : data.Denotes (start + 1) 2 distance)
    (hshort : distance ≤ 1) (hp : place + 4 = start + 1 + distance)
    (hh : data.Holds place [0x01, 0x48]) : LandsShort data start (start + 1) .nextBranch
  /-- The jump of an `elseif` to the end of the statement, behind a first jump whose field reads
  like an `endif`. -/
  | ownField (hd : data.Denotes (start + 3) 2 0) (hh : data.Holds (start + 1) [0x01, 0x28]) :
    LandsShort data start (start + 3) .endif

theorem Reaches.exists_marker (h : Reaches data field role) :
    ∃ distance, data.Denotes field 2 distance ∧ ∃ marker ∈ role.markers, ∃ place : Nat,
      place = landing field distance + marker.shift ∧ data.Holds place marker.pattern.toList := by
  obtain ⟨distance, hd, hin, marker, hm, hstands⟩ := h
  exact ⟨distance, hd, marker, hm, _, Int.toNat_of_nonneg (hin marker hm).1, hstands⟩

/-- How far a marker lies before the landing point. -/
theorem place_add_eq {marker : Marker} (hp : place = landing field distance + marker.shift)
    (hb : marker.shift = -back) : place + back = field + distance := by
  rw [hb, landing] at hp
  omega

theorem ahead_of_holds {marker : Marker} (hd : data.Denotes field 2 distance)
    (hm : marker ∈ role.markers) (hp : place = landing field distance + marker.shift)
    (hh : data.Holds place marker.pattern.toList) (hle : field + 2 ≤ place) :
    Ahead data field role := by
  refine ⟨distance, hd, marker, hm, ?_, by omega⟩
  rw [Marker.Stands, ← hp, Int.toNat_natCast]
  exact hh

/-- Behind an opcode other than `else` and `endif`, a jump to the next branch has its marker ahead,
or an `else` before the opcode. -/
theorem nextBranch_ahead_or (hc : data[start]? = some code) (helse : 0x48 ≠ code)
    (hendif : 0x28 ≠ code) (h : Reaches data (start + 1) .nextBranch) :
    Ahead data (start + 1) .nextBranch ∨ LandsShort data start (start + 1) .nextBranch := by
  obtain ⟨distance, hd, marker, hm, place, hp, hh⟩ := h.exists_marker
  have hcases := hm
  simp only [Role.markers, List.mem_cons, List.not_mem_nil, or_false] at hcases
  rcases hcases with rfl | rfl | rfl
  · have hp' : place + 4 = start + 1 + distance := place_add_eq hp rfl
    rcases ahead_of_opcode hc helse hd hh hp' (by decide) (by decide) with hahead | hbefore
    · exact .inl (ahead_of_holds hd hm hp hh hahead)
    · exact .inr (.otherwise hd (by omega) hp' hh)
  · have hp' : place + 2 = start + 1 + distance := place_add_eq hp rfl
    rcases ahead_of_opcode hc hendif hd hh hp' (by decide) (by decide) with hahead | hbefore
    · exact .inl (ahead_of_holds hd hm hp hh hahead)
    · omega
  · obtain rfl : place + 0 = start + 1 + distance := place_add_eq hp rfl
    exact .inl (ahead_of_holds hd hm hp hh (ahead_of_single hd hh (by decide)))

/-- A jump that looks for one marker, right before its landing point and not ending in the opcode
that it stands behind, has it ahead. -/
theorem ahead_of_markers (hmarkers : role.markers = [⟨-2, #[0x01, second]⟩])
    (hs : 4 ≤ second.toNat) (hc : data[start]? = some code) (hne : second ≠ code)
    (h : Reaches data (start + 1) role) : Ahead data (start + 1) role := by
  obtain ⟨distance, hd, marker, hm, place, hp, hh⟩ := h.exists_marker
  have hmarker := hm
  rw [hmarkers, List.mem_singleton] at hmarker
  subst hmarker
  have hp' : place + 2 = start + 1 + distance := place_add_eq hp rfl
  rcases ahead_of_opcode hc hne hd hh hp' (by decide) hs with hahead | hbefore
  · exact ahead_of_holds hd hm hp hh hahead
  · omega

/-- The second jump of an `elseif` has its marker ahead, or takes the field of the first for it. -/
theorem endif_ahead_or (h : Reaches data (start + 3) .endif) :
    Ahead data (start + 3) .endif ∨ LandsShort data start (start + 3) .endif := by
  obtain ⟨distance, hd, marker, hm, place, hp, hh⟩ := h.exists_marker
  obtain rfl := List.mem_singleton.mp hm
  have hp' : place + 2 = start + 3 + distance := place_add_eq hp rfl
  rcases ahead_of_pair hd hh hp' (by decide) (by decide) with hahead | hbefore
  · exact .inl (ahead_of_holds hd hm hp hh hahead)
  · obtain rfl : distance = 0 := by omega
    obtain rfl : place = start + 1 := by omega
    exact .inr (.ownField hd hh)

/-- The jump of a case has its marker ahead. -/
theorem nextCase_ahead (h : Reaches data field .nextCase) : Ahead data field .nextCase := by
  obtain ⟨distance, hd, marker, hm, place, hp, hh⟩ := h.exists_marker
  have hshape : ∃ second : UInt8, second ≠ 0 ∧ marker = ⟨0, #[second]⟩ := by
    simp only [Role.markers, List.mem_cons, List.not_mem_nil, or_false] at hm
    rcases hm with rfl | rfl | rfl
    · exact ⟨_, by decide, rfl⟩
    · exact ⟨_, by decide, rfl⟩
    · exact ⟨_, by decide, rfl⟩
  obtain ⟨second, hs, rfl⟩ := hshape
  obtain rfl : place + 0 = field + distance := place_add_eq hp rfl
  exact ahead_of_holds hd hm hp hh (ahead_of_single hd hh hs)

/-- An accepted jump has a marker ahead, or lands short. -/
theorem ahead_or_landsShort (hj : (field, role) ∈ Instruction.jumps data start)
    (h : Reaches data field role) : Ahead data field role ∨ LandsShort data start field role := by
  unfold Instruction.jumps at hj
  split at hj
  case h_1 hc =>
    obtain ⟨rfl, rfl⟩ := Prod.mk.inj (List.mem_singleton.mp hj)
    exact nextBranch_ahead_or hc (by decide) (by decide) h
  case h_2 hc =>
    rcases List.mem_cons.mp hj with hj | hj
    · obtain ⟨rfl, rfl⟩ := Prod.mk.inj hj
      exact nextBranch_ahead_or hc (by decide) (by decide) h
    · obtain ⟨rfl, rfl⟩ := Prod.mk.inj (List.mem_singleton.mp hj)
      exact endif_ahead_or h
  case h_3 hc =>
    obtain ⟨rfl, rfl⟩ := Prod.mk.inj (List.mem_singleton.mp hj)
    exact .inl (ahead_of_markers rfl (by decide) hc (by decide) h)
  case h_4 hc =>
    obtain ⟨rfl, rfl⟩ := Prod.mk.inj (List.mem_singleton.mp hj)
    exact .inl (ahead_of_markers rfl (by decide) hc (by decide) h)
  case h_5 =>
    obtain ⟨rfl, rfl⟩ := Prod.mk.inj (List.mem_singleton.mp hj)
    exact .inl (nextCase_ahead h)
  case h_6 => cases hj

/-- A jump that lands short has no marker ahead. -/
theorem LandsShort.not_ahead (h : LandsShort data start field role) : ¬ Ahead data field role := by
  have hshort : ∃ distance, data.Denotes field 2 distance ∧ distance ≤ 1 := by
    cases h with
    | otherwise hd hshort => exact ⟨_, hd, hshort⟩
    | ownField hd => exact ⟨0, hd, by decide⟩
  have hshift : ∀ marker ∈ role.markers, marker.shift ≤ 0 := by
    cases role <;> decide
  obtain ⟨distance, hd, hshort⟩ := hshort
  intro ⟨distance', hd', marker, hm, _, hle⟩
  have hsame : distance = distance' := hd.2.symm.trans hd'.2
  have hnonpos := hshift marker hm
  rw [landing] at hle
  omega

end Jump

/-! ## Scans -/

/-- A step that reports nothing and goes on has accepted its jumps. -/
theorem Walks.accepted_of_silent {options : ScanOptions} {depths : Depths} {steps : List Step}
    {step : Step} (h : Walks options data start depths steps) (hs : step ∈ steps)
    (hf : step.found = []) (hn : step.next = .ok next)
    (hj : (field, role) ∈ Instruction.jumps data step.start) : Jump.Accepted data field role := by
  obtain ⟨code, depths, hc, hstep⟩ := h.mem_take hs
  rw [hstep] at hf hn
  have hall := ((Instruction.check_eq_pure_iff_jumps hc (List.ne_nil_of_mem hj)).mp
    (Step.check_eq_pure hf hn)).1
  exact hall _ hj

namespace Scan

/-- Where the jumps that a scan accepts find their markers. A step that reports nothing and goes on
has accepted its jumps. A jump that is accepted has a marker of its role behind its field, with two
exceptions: a jump to the next branch over no byte or one, for an `else` before the instruction, and
the second jump of an `elseif` over no byte, for the field of the first. -/
theorem ahead_iff_not_landsShort (options : ScanOptions) (data : Bytes) :
    ∀ step ∈ walk options data, ∀ field role, (field, role) ∈ Instruction.jumps data step.start →
      (step.found = [] → (∃ next, step.next = .ok next) → Jump.Accepted data field role) ∧
      (Jump.Accepted data field role →
        (Jump.Ahead data field role ↔ ¬ Jump.LandsShort data step.start field role)) := by
  intro step hs field role hj
  refine ⟨fun hf ⟨next, hn⟩ => ?_, fun ha => ⟨fun hahead hshort => ?_, fun hnot => ?_⟩⟩
  · exact (walks_walk options data).accepted_of_silent hs hf hn hj
  · exact hshort.not_ahead hahead
  · have hreaches := Jump.accepted_iff_reaches.mp ha
    exact (Jump.ahead_or_landsShort hj hreaches).resolve_right hnot

/-- An `if` that jumps behind an `endif` has it ahead. -/
theorem ahead_iff_not_landsShort_endif :
    Jump.Accepted #[0x47, 0x04, 0x00, 0x01, 0x28, 0x24] 1 .nextBranch ∧
      Jump.Ahead #[0x47, 0x04, 0x00, 0x01, 0x28, 0x24] 1 .nextBranch := by
  obtain ⟨step, hs, hstart, hf, hn⟩ : ∃ step ∈ walk {} #[0x47, 0x04, 0x00, 0x01, 0x28, 0x24],
      step.start = 0 ∧ step.found = [] ∧ step.next = .ok 3 := by decide +kernel
  have hj : (1, .nextBranch) ∈
      Instruction.jumps #[0x47, 0x04, 0x00, 0x01, 0x28, 0x24] step.start := by
    rw [hstart]
    decide
  obtain ⟨haccepts, hahead⟩ := ahead_iff_not_landsShort {} _ step hs 1 .nextBranch hj
  have ha := haccepts hf ⟨3, hn⟩
  refine ⟨ha, (hahead ha).mpr fun hshort => ?_⟩
  rw [hstart] at hshort
  cases hshort with
  | @otherwise distance _ hd hle =>
    have hfour : distance = 4 := hd.2.symm
    omega

/-- Not every jump that a scan accepts has a marker ahead: the `if` behind this operand jumps over
no byte, and is accepted for the operand's second and third byte, which read like an `else`. -/
theorem not_ahead_of_accepted :
    ¬ ∀ (options : ScanOptions) (data : Bytes), ∀ step ∈ walk options data, ∀ field role,
      (field, role) ∈ Instruction.jumps data step.start → Jump.Accepted data field role →
      Jump.Ahead data field role := by
  intro h
  obtain ⟨step, hs, hstart⟩ : ∃ step ∈ walk {} #[0x16, 0x00, 0x01, 0x48, 0x00, 0x47, 0x00, 0x00],
      step.start = 5 := by decide +kernel
  have hj : (6, .nextBranch) ∈
      Instruction.jumps #[0x16, 0x00, 0x01, 0x48, 0x00, 0x47, 0x00, 0x00] step.start := by
    rw [hstart]
    decide
  have hdenotes : Bytes.Denotes #[0x16, 0x00, 0x01, 0x48, 0x00, 0x47, 0x00, 0x00] 6 2 0 := by decide
  have hshort : Jump.LandsShort #[0x16, 0x00, 0x01, 0x48, 0x00, 0x47, 0x00, 0x00] 5 6 .nextBranch :=
    .otherwise hdenotes (by decide) rfl (by decide)
  exact hshort.not_ahead (h {} _ step hs 6 .nextBranch hj rfl)

end Scan

end QbLint
