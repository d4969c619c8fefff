import QbLint.Proofs.Bytes
import QbLint.Script.Cursor

/-!
# Programs of cursor operations

A cursor stays inside its buffer, and an operation that fails leaves it where it stood. This is said
here of all that a program of readings, moves and blocks of these performs, the operations inside
its blocks included. It is not said of a jump's field that is read and verified, since that stays
read if the verification fails.

* `Cursor.Op.Ends`: the ways in which an operation ends; `Cursor.Op.Basic.ends`: there is no other;
* `Cursor.Involves`: the operations that are performed in the course of another one;
* `Cursor.Op.Sound`: what is promised of an operation at a position;
* `Cursor.performAll_sound`: every operation of a program keeps these promises.
-/

namespace QbLint.Cursor

variable {data : Bytes} {position before : Nat} {op inner : Op} {body done : List Op}
  {failure : Failure}

/-! ## Operations -/

/-- The operations that read or move, and the blocks of such operations at any depth. -/
inductive Op.Basic : Op → Prop
  | byte : Basic .byte
  | uint16 : Basic .uint16
  | uint32 : Basic .uint32
  | int16 : Basic .int16
  | int32 : Basic .int32
  | bytes (count : Int) : Basic (.bytes count)
  | skip (count : Int) : Basic (.skip count)
  | seek (target : Int) : Basic (.seek target)
  | seekAhead (offset : Int) : Basic (.seekAhead offset)
  | lookaside {body : List Op} (h : ∀ op ∈ body, Basic op) : Basic (.lookaside body)

/-- How many bytes a reading asks for. -/
def Op.width? : Op → Option Int
  | .byte => some 1
  | .uint16 | .int16 => some 2
  | .uint32 | .int32 => some 4
  | .bytes count => some count
  | _ => none

/-- Where a move leads from a position. -/
def Op.target? (position : Nat) : Op → Option Int
  | .skip count => some (position + count)
  | .seek target => some target
  | .seekAhead offset => some (position + offset)
  | _ => none

/-- A reading is no move. -/
theorem Op.target?_of_width? {width : Int} (h : op.width? = some width) :
    op.target? position = none := by
  cases op <;> first | rfl | cases h

/-- What a reading makes of the bytes it has read. -/
def Op.decode (window : Bytes) : Op → Value
  | .byte | .uint16 | .uint32 => .number (littleEndian window.toList)
  | .int16 => .number ((littleEndian window.toList : Int).bmod (1 <<< 16))
  | .int32 => .number ((littleEndian window.toList : Int).bmod (1 <<< 32))
  | .bytes _ => .bytes window
  | _ => .nothing

/-- The ways in which an operation at a position ends: its answer and the position after it. -/
inductive Op.Ends (data : Bytes) (before : Nat) (op : Op) : Answer → Nat → Prop
  | read {width : Nat} (hw : op.width? = some (width : Int)) (hle : before + width ≤ data.size) :
    Ends data before op (.plain (.ok (op.decode (data.extract before (before + width)))))
      (before + width)
  | short {width : Nat} (hw : op.width? = some (width : Int)) (hlt : data.size < before + width) :
    Ends data before op
      (.plain (.error (.outOfBounds ⟨before, (before + width : Nat), data.size⟩))) before
  | negative {count : Int} (hw : op.width? = some count) (hlt : count < 0) :
    Ends data before op (.plain (.error (.negativeCount count))) before
  | landed {target : Nat} {value : Value} (ht : op.target? before = some (target : Int))
    (hle : target ≤ data.size) : Ends data before op (.plain (.ok value)) target
  | missed {target : Int} (ht : op.target? before = some target)
    (hout : target < 0 ∨ data.size < target) :
    Ends data before op (.plain (.error (.outOfBounds ⟨before, target, data.size⟩))) before
  | aside {body : List Op} (ho : op = .lookaside body) :
    Ends data before op (.block (performBlock data before body).1 (performBlock data before body).2)
      before

/-- A reading ends as the slice that it takes does. -/
theorem reading_ends {width : Nat} {result : Answer × Nat} (hw : op.width? = some (width : Int))
    (hok : ∀ window, data.slice before width = .ok window →
      result = (.plain (.ok (op.decode window)), before + width))
    (herror : ∀ e, data.slice before width = .error e →
      result = (.plain (.error (.outOfBounds e)), before)) :
    op.Ends data before result.1 result.2 := by
  by_cases hle : before + width ≤ data.size
  · rw [hok _ (Bytes.slice_eq_ok hle)]
    exact .read hw hle
  · rw [herror _ (Bytes.slice_eq_error (Nat.not_le.mp hle))]
    exact .short hw (Nat.not_le.mp hle)

theorem unsigned_ends {width : Nat} (hw : op.width? = some (width : Int))
    (hd : ∀ window, op.decode window = .number (littleEndian window.toList)) :
    op.Ends data before (unsigned data before width).1 (unsigned data before width).2 := by
  refine reading_ends hw (fun window h => ?_) fun e h => ?_ <;> rw [unsigned, Bytes.number, h]
  · rw [hd]
    rfl
  · rfl

theorem signed_ends {width : Nat} (hw : op.width? = some (width : Int))
    (hd : ∀ window, op.decode window =
      .number ((littleEndian window.toList : Int).bmod (1 <<< (8 * width)))) :
    op.Ends data before (signed data before width).1 (signed data before width).2 := by
  refine reading_ends hw (fun window h => ?_) fun e h => ?_ <;> rw [signed, Bytes.number, h]
  · rw [hd]
    rfl
  · rfl

theorem move_ends {target : Int} {value : Nat → Value} (ht : op.target? before = some target) :
    op.Ends data before (move data before target value).1 (move data before target value).2 := by
  by_cases h : 0 ≤ target ∧ target ≤ data.size
  · obtain ⟨landing, rfl⟩ := Int.eq_ofNat_of_zero_le h.1
    rw [move, Bytes.goto_eq_ok h.1 h.2]
    exact .landed ht (Int.ofNat_le.mp h.2)
  · rw [move, Bytes.goto, if_neg h]
    exact .missed ht (by omega)

theorem Op.Basic.ends (hb : op.Basic) (data : Bytes) (before : Nat) :
    op.Ends data before (op.perform data before).1 (op.perform data before).2 := by
  cases hb <;> rw [Op.perform]
  case byte | uint16 | uint32 => exact unsigned_ends rfl fun _ => rfl
  case int16 | int32 => exact signed_ends rfl fun _ => rfl
  case bytes count =>
    split
    · rename_i hlt
      exact .negative rfl hlt
    · rename_i hcount
      obtain ⟨width, rfl⟩ := Int.eq_ofNat_of_zero_le (Int.not_lt.mp hcount)
      rw [Int.toNat_natCast]
      refine reading_ends rfl (fun window h => ?_) fun e h => ?_ <;> rw [h]
      rfl
  case skip | seek | seekAhead => exact move_ends rfl
  case lookaside => exact .aside rfl

namespace Op.Ends

variable {answer : Answer} {after : Nat} (h : op.Ends data before answer after)

include h

theorem after_le (hle : before ≤ data.size) : after ≤ data.size := by
  cases h <;> assumption

theorem of_failure (hf : answer.failure? = some failure) : after = before := by
  cases h with
  | read | landed => cases hf
  | short | negative | missed | aside => rfl

theorem of_width {width : Int} (hw : op.width? = some width) (hf : answer.failure? = none) :
    before ≤ after ∧ (after : Int) = before + width ∧
      answer = .plain (.ok (op.decode (data.extract before after))) := by
  cases h with
  | read hw' hle =>
    obtain rfl := Option.some.inj (hw.symm.trans hw')
    exact ⟨Nat.le_add_right .., Int.natCast_add .., rfl⟩
  | short | negative | missed => cases hf
  | landed ht => cases (target?_of_width? hw).symm.trans ht
  | aside ho =>
    subst ho
    cases hw

theorem of_target {target : Int} (ht : op.target? before = some target)
    (hf : answer.failure? = none) : (after : Int) = target := by
  cases h with
  | read hw => cases (target?_of_width? hw).symm.trans ht
  | short | negative | missed => cases hf
  | landed ht' => exact Option.some.inj (ht'.symm.trans ht)
  | aside ho =>
    subst ho
    cases ht

theorem of_lookaside (ho : op = .lookaside body) : after = before := by
  subst ho
  cases h with
  | read hw | short hw | negative hw => cases hw
  | landed ht | missed ht => cases ht
  | aside => rfl

end Op.Ends

/-! ## Programs and blocks -/

/-- The position in which some operations leave a cursor. -/
def reached (data : Bytes) (position : Nat) (ops : List Op) : Nat :=
  ops.foldl (fun position op => (op.perform data position).2) position

theorem reached_cons (data : Bytes) (position : Nat) (op : Op) (ops : List Op) :
    reached data position (op :: ops) = reached data (op.perform data position).2 ops := rfl

theorem reached_append (data : Bytes) (position : Nat) (done rest : List Op) :
    reached data position (done ++ rest) = reached data (reached data position done) rest :=
  List.foldl_append

/-- A program goes on from where its beginning has left the cursor. -/
theorem performAll_append (data : Bytes) (position : Nat) (done rest : List Op) :
    performAll data position (done ++ rest) =
      performAll data position done ++ performAll data (reached data position done) rest := by
  induction done generalizing position with
  | nil => rfl
  | cons op done ih =>
    rw [List.cons_append, performAll, performAll, reached_cons, List.cons_append]
    exact congrArg _ (ih _)

/-- A block fails with its first operation that fails, having performed those before it. -/
theorem exists_failing (h : (performBlock data position body).2 = some failure) :
    ∃ done op rest, body = done ++ op :: rest ∧ (performBlock data position done).2 = none ∧
      (op.perform data (reached data position done)).1.failure? = some failure := by
  induction body generalizing position with
  | nil => cases h
  | cons op rest ih =>
    rw [performBlock] at h
    dsimp only at h
    split at h
    · rename_i failed hf
      obtain rfl := Option.some.inj h
      exact ⟨[], op, rest, rfl, rfl, hf⟩
    · rename_i hf
      obtain ⟨done, failing, rest, rfl, hnone, hfailing⟩ := ih h
      refine ⟨op :: done, failing, rest, rfl, ?_, hfailing⟩
      rw [performBlock]
      dsimp only
      rw [hf]
      exact hnone

/-- To perform an operation at a position involves performing another one: the operation itself, or
what is involved in one of its block's operations, if none before that has failed. -/
inductive Involves (data : Bytes) : Nat → Op → Nat → Op → Prop
  | self {before : Nat} {op : Op} : Involves data before op before op
  | aside {before position : Nat} {done rest : List Op} {op inner : Op}
    (hdone : (performBlock data before done).2 = none)
    (h : Involves data (reached data before done) op position inner) :
    Involves data before (.lookaside (done ++ op :: rest)) position inner

theorem Op.Basic.after_le (hb : op.Basic) (hle : before ≤ data.size) :
    (op.perform data before).2 ≤ data.size :=
  (hb.ends data before).after_le hle

theorem reached_le (hb : ∀ op ∈ done, op.Basic) (hle : before ≤ data.size) :
    reached data before done ≤ data.size := by
  induction done generalizing before with
  | nil => exact hle
  | cons op done ih =>
    rw [List.forall_mem_cons] at hb
    exact ih hb.2 (hb.1.after_le hle)

/-- What a basic operation inside the buffer involves is basic and inside the buffer. -/
theorem Involves.basic (h : Involves data before op position inner) (hb : op.Basic)
    (hle : before ≤ data.size) : inner.Basic ∧ position ≤ data.size := by
  induction h with
  | self => exact ⟨hb, hle⟩
  | aside _ _ ih =>
    cases hb with
    | lookaside hbody =>
      rw [List.forall_mem_append, List.forall_mem_cons] at hbody
      exact ih hbody.2.1 (reached_le hbody.1 hle)

/-! ## What every operation keeps -/

/-- An operation has failed by leaving the buffer itself: the failure carries the position where the
cursor stood and still stands, the length of the buffer, and the offset that was asked for. -/
structure Op.Misses (data : Bytes) (op : Op) (failure : OutOfBounds) : Prop where
  perform_eq : op.perform data failure.position =
    (.plain (.error (.outOfBounds failure)), failure.position)
  length_eq : failure.length = data.size
  outside : failure.requested < 0 ∨ data.size < failure.requested
  requested : op.target? failure.position = some failure.requested ∨
    ∃ width : Nat, op.width? = some (width : Int) ∧
      failure.requested = (failure.position + width : Nat)

/-- What is promised of an operation at a position. -/
structure Op.Sound (data : Bytes) (before : Nat) (op : Op) : Prop where
  inside : before ≤ data.size ∧ (op.perform data before).2 ≤ data.size
  /-- An operation that fails leaves the cursor where it stood. -/
  of_failure : ∀ failure, (op.perform data before).1.failure? = some failure →
    (op.perform data before).2 = before
  /-- A reading that succeeds reads the bytes from the old position to the new one, which are as
  many as it asked for. -/
  of_width : ∀ width, op.width? = some width → (op.perform data before).1.failure? = none →
    before ≤ (op.perform data before).2 ∧ ((op.perform data before).2 : Int) = before + width ∧
      (op.perform data before).1 =
        .plain (.ok (op.decode (data.extract before (op.perform data before).2)))
  /-- A move that succeeds lands on its target. -/
  of_target : ∀ target, op.target? before = some target →
    (op.perform data before).1.failure? = none → ((op.perform data before).2 : Int) = target
  /-- A block restores the position however it ends. -/
  of_lookaside : ∀ body, op = .lookaside body → (op.perform data before).2 = before
  /-- A failure to stay in the buffer is that of an operation which has itself missed, where the
  cursor then stood; one that asked for an offset below zero is a move. -/
  of_outOfBounds : ∀ failure, (op.perform data before).1.failure? = some (.outOfBounds failure) →
    ∃ source, Involves data before op failure.position source ∧ source.Misses data failure ∧
      (failure.requested < 0 → source.target? failure.position = some failure.requested)

/-- An operation that leaves the buffer has missed, if it is not a block. -/
theorem Op.Basic.misses_or (hb : op.Basic) {failure : OutOfBounds}
    (hf : (op.perform data before).1.failure? = some (.outOfBounds failure)) :
    (failure.position = before ∧ op.Misses data failure) ∨
      ∃ body, op = .lookaside body ∧
        (performBlock data before body).2 = some (.outOfBounds failure) := by
  have h := hb.ends data before
  generalize hr : op.perform data before = result at h hf
  obtain ⟨answer, after⟩ := result
  dsimp only at h hf
  cases h with
  | read | negative | landed => cases hf
  | short hw hlt =>
    cases hf
    exact .inl ⟨rfl, hr, rfl, .inr (Int.ofNat_lt.mpr hlt), .inr ⟨_, hw, rfl⟩⟩
  | missed ht hout =>
    cases hf
    exact .inl ⟨rfl, hr, rfl, hout, .inl ht⟩
  | aside ho => exact .inr ⟨_, ho, hf⟩

/-- Where an operation leaves the buffer, one that it involves has missed. -/
theorem Op.Basic.exists_misses (hb : op.Basic) {failure : OutOfBounds}
    (hf : (op.perform data before).1.failure? = some (.outOfBounds failure)) :
    ∃ source, Involves data before op failure.position source ∧ source.Misses data failure := by
  -- A block fails with one of its operations, which is performed where the ones before it have left
  -- the cursor; so the position has to vary in the induction.
  induction hb generalizing before with
  | lookaside hbody ih =>
    obtain ⟨rfl, hm⟩ | ⟨body, ho, hf⟩ := (Op.Basic.lookaside hbody).misses_or hf
    · exact ⟨_, .self, hm⟩
    · obtain rfl := Op.lookaside.inj ho
      obtain ⟨done, failing, rest, rfl, hdone, hfailing⟩ := exists_failing hf
      obtain ⟨source, hi, hm⟩ := ih failing (by simp) hfailing
      exact ⟨source, .aside hdone hi, hm⟩
  | _ =>
    obtain ⟨rfl, hm⟩ | ⟨body, ho, -⟩ := Op.Basic.misses_or (by constructor) hf
    · exact ⟨_, .self, hm⟩
    · cases ho

/-- A missed reading asks for an offset behind it; below zero only a move can miss. -/
theorem Op.Misses.of_negative {failure : OutOfBounds} (h : op.Misses data failure)
    (hlt : failure.requested < 0) : op.target? failure.position = some failure.requested := by
  obtain ht | ⟨width, -, hr⟩ := h.requested
  · exact ht
  · omega

theorem Op.Basic.sound (hb : op.Basic) (hle : before ≤ data.size) : op.Sound data before where
  inside := ⟨hle, hb.after_le hle⟩
  of_failure _ := (hb.ends data before).of_failure
  of_width _ := (hb.ends data before).of_width
  of_target _ := (hb.ends data before).of_target
  of_lookaside _ := (hb.ends data before).of_lookaside
  of_outOfBounds failure hf := by
    obtain ⟨source, hi, hm⟩ := hb.exists_misses hf
    exact ⟨source, hi, hm, hm.of_negative⟩

/-- Every operation that a program of basic operations performs is sound. The program comes to its
operations one after the other, each where those before it have left the cursor, whether they
failed or not. -/
theorem performAll_sound (data : Bytes) (ops : List Op) (hb : ∀ op ∈ ops, op.Basic) :
    ∀ done op rest, ops = done ++ op :: rest →
      performAll data 0 ops = performAll data 0 done ++
        (op.perform data (reached data 0 done)).swap ::
          performAll data (reached data 0 (done ++ [op])) rest ∧
      ∀ position inner, Involves data (reached data 0 done) op position inner →
        inner.Sound data position := by
  rintro done op rest rfl
  rw [List.forall_mem_append, List.forall_mem_cons] at hb
  obtain ⟨hdone, hop, -⟩ := hb
  refine ⟨?_, fun position inner hi => ?_⟩
  · rw [performAll_append, reached_append]
    rfl
  · obtain ⟨hinner, hle⟩ := hi.basic hop (reached_le hdone (Nat.zero_le _))
    exact hinner.sound hle

/-- The move that ends a block inside another block is one of the operations of a program. -/
theorem performAll_sound_nested :
    (∀ op ∈ [Op.byte, .lookaside [.uint16, .lookaside [.byte, .seek (-1)], .byte]], op.Basic) ∧
      (Op.seek (-1)).Sound #[0x01, 0x02, 0x03, 0x04] 4 := by
  have haside : (Op.lookaside [.byte, .seek (-1)]).Basic :=
    .lookaside (List.forall_mem_cons.mpr ⟨.byte, List.forall_mem_singleton.mpr (.seek (-1))⟩)
  have hblock : (Op.lookaside [.uint16, .lookaside [.byte, .seek (-1)], .byte]).Basic :=
    .lookaside (List.forall_mem_cons.mpr ⟨.uint16, List.forall_mem_cons.mpr
      ⟨haside, List.forall_mem_singleton.mpr .byte⟩⟩)
  have hb := List.forall_mem_cons.mpr ⟨Op.Basic.byte, List.forall_mem_singleton.mpr hblock⟩
  refine ⟨hb, (performAll_sound #[0x01, 0x02, 0x03, 0x04] _ hb [.byte] _ [] rfl).2 _ _ ?_⟩
  have hinner : Involves #[0x01, 0x02, 0x03, 0x04] 3
      (.lookaside ([.byte] ++ .seek (-1) :: [])) 4 (.seek (-1)) := .aside rfl .self
  have houter : Involves #[0x01, 0x02, 0x03, 0x04] 1
      (.lookaside ([.uint16] ++ .lookaside ([.byte] ++ .seek (-1) :: []) :: [.byte])) 4
      (.seek (-1)) := .aside rfl hinner
  exact houter

end QbLint.Cursor
