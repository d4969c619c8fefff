import QbLint.Proofs.Outcome
import QbLint.Proofs.Replay

/-!
# Scripts further on

A script behind line breaks has the defects that it has alone, further on by as many bytes, if their
number keeps the alignment of structs and no jump looks at what is before the script.

* `Diagnostic.relocate`: a diagnostic further on;
* `Agreement.relocation`, `replays_prepend`: the comparison of a script with one behind other bytes;
* `Walks.newlines`: a walk over line breaks;
* `Scan.run_newlines_append`: the comparison of the two scans.
-/

namespace QbLint

/-- The diagnostic `k` bytes further on, in a buffer of `size` bytes. An offset that a truncated
script needed lies further on as well, and the message says so. -/
def Diagnostic.relocate (k size : Nat) (d : Diagnostic) : Diagnostic :=
  match d.metadata with
  | [("requested", .int requested)] =>
    { d with
      position := d.position + k
      message := OutOfBounds.message ⟨0, requested + k, size⟩
      metadata := [("requested", .int (requested + k))] }
  | _ => { d with position := d.position + k }

theorem Diagnostic.relocate_fatal (k size : Nat) (d : Diagnostic) :
    (d.relocate k size).fatal = d.fatal := by
  unfold relocate
  split <;> rfl

theorem Abort.relocate_outOfBounds (start reader reader' position position' k size length : Nat)
    (requested : Int) :
    (Abort.diagnostic start (.outOfBounds reader ⟨position, requested, length⟩)).relocate k size =
      Abort.diagnostic (start + k) (.outOfBounds reader' ⟨position', requested + k, size⟩) := rfl

/-- The second run reports what the first one does, further on, and stops where it stops, unless the
first needed bytes before the beginning of the script. -/
def Agreement.relocation (k size : Nat) : Agreement where
  same f f' := f' = f.map (Diagnostic.relocate k size)
  stopped f e f' r := e.BeforeStart ∨ f' = f.map (Diagnostic.relocate k size) ∧ ∃ e', r = some e' ∧
    ∀ start, e'.diagnostic (start + k) = (e.diagnostic start).relocate k size
  same_nil := List.map_nil.symm
  same_append := by
    rintro a b a' b' rfl rfl
    rw [List.map_append]
  stopped_append := by
    rintro a b a' b' e r rfl (h | ⟨rfl, hr⟩)
    · exact .inl h
    · exact .inr ⟨List.map_append.symm, hr⟩
  stopped_more := by
    rintro a a' b' e r (h | ⟨-, e', hnone, -⟩)
    · exact .inl h
    · cases hnone

namespace Bytes

variable {front data : Bytes} {position width : Nat}

theorem getElem?_prepend : (front ++ data)[position + front.size]? = data[position]? := by
  rw [Array.getElem?_append_right (Nat.le_add_left ..), Nat.add_sub_cancel]

theorem slice_prepend (h : position + width ≤ data.size) :
    (front ++ data).slice (position + front.size) width = data.slice position width := by
  have hb : position + front.size + width ≤ (front ++ data).size := by
    rw [Array.size_append]
    omega
  have hempty : front.extract (position + front.size) (position + front.size + width) = #[] := by
    rw [Array.extract_eq_empty_iff]
    omega
  rw [slice_eq_ok h, slice_eq_ok hb, Array.extract_append, hempty, Array.empty_append,
    Nat.add_sub_cancel, Nat.add_right_comm, Nat.add_sub_cancel]

theorem endOfZeros_prepend (front data : Bytes) (position : Nat) :
    (front ++ data).endOfZeros (position + front.size) = data.endOfZeros position + front.size := by
  have hdrop : (front ++ data).toList.drop (position + front.size) = data.toList.drop position := by
    rw [Array.toList_append, Nat.add_comm, ← Array.length_toList, List.drop_length_add_append]
  rw [endOfZeros_eq, endOfZeros_eq, zeros, zeros, hdrop]
  omega

end Bytes

open Check (Agrees agrees_reportIf agrees_bind agrees_pure agrees_mono readAside)

theorem reads_prepend (front data : Bytes) :
    Reads (.relocation front.size (front ++ data).size) data (front ++ data) front.size where
  slice reader width position position' hp := by
    subst hp
    by_cases h : position + width ≤ data.size
    · rw [Bytes.slice_prepend h, Bytes.slice_eq_ok h]
      exact agrees_pure rfl
    · have hb : (front ++ data).size < position + front.size + width := by
        rw [Array.size_append]
        omega
      rw [Bytes.slice_eq_error (Nat.not_le.mp h), Bytes.slice_eq_error hb, Nat.add_right_comm,
        Int.natCast_add (position + width)]
      exact .inr ⟨rfl, _, rfl, fun start => (Abort.relocate_outOfBounds ..).symm⟩
  goto reader position position' target target' hp ht := by
    subst hp ht
    by_cases h : 0 ≤ target ∧ target ≤ data.size
    · have hb : target + front.size ≤ ((front ++ data).size : Nat) := by
        rw [Array.size_append]
        omega
      rw [Bytes.goto_eq_ok h.1 h.2, Bytes.goto_eq_ok (by omega) hb]
      exact agrees_pure (by omega)
    · rw [Bytes.goto, if_neg h]
      by_cases hneg : target < 0
      · exact .inl hneg
      · have hb : ¬ (0 ≤ target + front.size ∧
            target + front.size ≤ ((front ++ data).size : Nat)) := by
          rw [Array.size_append]
          omega
        rw [Bytes.goto, if_neg hb]
        exact .inr ⟨rfl, _, rfl, fun start => (Abort.relocate_outOfBounds ..).symm⟩

/-- The checks of a script behind other bytes follow those of the script, if the number of the bytes
before it keeps the alignment. -/
theorem replays_prepend (options : ScanOptions) (front data : Bytes) (h : front.size % 4 = 0) :
    Replays (.relocation front.size (front ++ data).size) options options data (front ++ data)
      front.size where
  toReads := reads_prepend front data
  aligned := h
  endOfZeros {position position'} hp := by
    subst hp
    have hz := Bytes.endOfZeros_prepend front data position
    exact agrees_mono ((reads_prepend front data).read_number 1 hz) fun _ _ _ => hz
  structHeader position header := .inr ⟨rfl, _, rfl, fun start => rfl⟩
  report rule message {position position'} hp := by
    subst hp
    rfl
  tooLong padding {position position'} hp := by
    subst hp
    exact agrees_reportIf Iff.rfl rfl
  bare code start :=
    agrees_bind (agrees_reportIf Iff.rfl rfl) fun _ _ _ => agrees_pure (by omega)

/-! ## Steps -/

section Steps

variable {options : ScanOptions} {front data : Bytes} {start : Nat} {depths : Depths}
  {steps : List Step} {step step' : Step}

theorem Step.Beside.agrees_prepend (hfront : front.size % 4 = 0)
    (h : Step.Beside options options data (front ++ data) front.size step step') :
    Agrees (.relocation front.size (front ++ data).size)
      (fun next next' => next' = next + front.size) step.outcome step'.outcome := by
  obtain ⟨start, code, depths, hc, rfl, rfl⟩ := h
  refine Step.take_agrees (replays_prepend options front data hfront) fun _ => ?_
  rw [Array.size_append]
  omega

/-- The step over a line break. -/
def newlineStep (depths : Depths) (start : Nat) : Step := ⟨start, [], .ok (start + 1), depths⟩

/-- A walk from some line breaks passes over them, by induction on their number. -/
theorem Walks.newlines (h : Walks options data start depths steps) {n : Nat}
    (hc : ∀ i < n, data[start + i]? = some Opcode.newline) :
    ∃ rest, steps = (List.range n).map (fun i => newlineStep depths (start + i)) ++ rest ∧
      Walks options data (start + n) depths rest := by
  induction n with
  | zero => exact ⟨steps, rfl, h⟩
  | succ n ih =>
    obtain ⟨rest, rfl, hrest⟩ := ih fun i hi => hc i (Nat.lt_succ_of_lt hi)
    have hcode := hc n (Nat.lt_succ_self n)
    obtain ⟨rest', rfl, hrest'⟩ := hrest.of_newline hcode
    refine ⟨rest', ?_, hrest'⟩
    rw [List.range_succ, List.map_append, List.map_singleton, List.append_assoc]
    rfl

theorem newlineSteps_found (depths : Depths) (start n : Nat) :
    ((List.range n).map fun i => newlineStep depths (start + i)).flatMap (·.found) = [] := by
  rw [List.flatMap_eq_nil_iff]
  intro step hs
  obtain ⟨i, -, rfl⟩ := List.mem_map.mp hs
  rfl

theorem Depths.unclosed_relocate (depths : Depths) (position k size : Nat) :
    depths.unclosed (position + k : Nat) =
      (depths.unclosed position).map (Diagnostic.relocate k size) := by
  rw [unclosed, unclosed, List.map_filterMap]
  refine List.filterMap_congr fun kind _ => ?_
  split <;> rfl

end Steps

namespace Scan

/-- A scan of nothing but line breaks finds nothing. -/
theorem run_newlines {options : ScanOptions} {data : Bytes} {n : Nat}
    (hw : walk options data = (List.range n).map fun i => newlineStep {} (0 + i)) :
    run options data = ⟨[], n⟩ := by
  cases n with
  | zero => exact run_of_nil hw
  | succ n =>
    have hl : newlineStep {} (0 + n) ∈ (walk options data).getLast? := by
      rw [hw, List.range_succ, List.map_append, List.map_singleton, List.getLast?_concat]
      rfl
    have hopen : Depths.unclosed {} data.size = [] :=
      Depths.unclosed_eq_nil_iff.mpr fun kind => by cases kind <;> exact Int.le_refl 0
    rw [run_of_end hl rfl, hw, newlineSteps_found, List.nil_append, newlineStep, hopen, ite_self,
      Nat.zero_add]

/-- The steps of a script behind line breaks: those over the line breaks, and the others. -/
theorem walk_newlines_append (options : ScanOptions) (data : Bytes) (n : Nat) :
    ∃ rest, walk options (Array.replicate n Opcode.newline ++ data) =
        (List.range n).map (fun i => newlineStep {} (0 + i)) ++ rest ∧
      Walks options (Array.replicate n Opcode.newline ++ data) (0 + n) {} rest := by
  refine (walks_walk options _).newlines fun i hi => ?_
  rw [Nat.zero_add, Array.getElem?_append_left (by rwa [Array.size_replicate]),
    Array.getElem?_replicate, if_pos hi]

/-- The steps of a script that has bytes, beside those behind the line breaks. The walk over the
line breaks and the script ends where that over the script does. -/
theorem walk_newlines_append_beside (options : ScanOptions) {front data : Bytes}
    (hfront : front = Array.replicate front.size Opcode.newline) (hn : front.size % 4 = 0) :
    walk options data = [] ∧
        walk options (front ++ data) =
          (List.range front.size).map (fun i => newlineStep {} (0 + i)) ∨
      ∃ before last before' last' after, walk options data = before ++ [last] ∧
        walk options (front ++ data) = before' ++ last' :: after ∧
        before'.flatMap (·.found) = (before.flatMap (·.found)).map
          (Diagnostic.relocate front.size (front ++ data).size) ∧
        Step.Beside options options data (front ++ data) front.size last last' ∧
        (∀ abort, last'.next = .error abort → after = []) ∧
        ∀ next, last.next = .ok next → after = [] := by
  have hsize : (front ++ data).size = data.size + front.size := by
    rw [Array.size_append, Nat.add_comm]
  obtain ⟨rest, hw', hrest⟩ := walk_newlines_append options data front.size
  rw [← hfront] at hw' hrest
  rcases (walks_walk options data).alongside hrest (fun hc => Bytes.getElem?_prepend.trans hc)
    (fun hbeside _ hnext => by
      obtain ⟨_, hnext', rfl, -⟩ := (hbeside.agrees_prepend hn).of_ok hnext
      exact hnext') with
    ⟨hnil, hs⟩ | ⟨before, last, before', last', after, hw, rfl, hbefore, hlast, hstop, hgo⟩
  · obtain rfl := hrest.eq_nil (by omega)
    exact .inl ⟨hnil, by rw [hw', List.append_nil]⟩
  · refine .inr ⟨before, last, _, last', after, hw, by rw [hw', ← List.append_assoc], ?_, hlast,
      hstop, fun next hnext => ?_⟩
    · rw [List.flatMap_append, newlineSteps_found, List.nil_append]
      refine (Agreement.relocation front.size _).same_flatMap (hbefore.imp ?_)
      rintro step step' ⟨hbeside, next, -, hnext⟩
      obtain ⟨_, -, -, hsame⟩ := (hbeside.agrees_prepend hn).of_ok hnext
      exact hsame
    · obtain ⟨hend, hrest'⟩ := hgo next hnext
      exact hrest'.eq_nil (by omega)

theorem run_newlines_append_eq (options : ScanOptions) {front data : Bytes}
    (hfront : front = Array.replicate front.size Opcode.newline) (hn : front.size % 4 = 0)
    (h : ∀ last ∈ (walk options data).getLast?, ∀ abort, last.next = .error abort →
      ¬ abort.BeforeStart) :
    run options (front ++ data) =
      ⟨(run options data).diagnostics.map (Diagnostic.relocate front.size (front ++ data).size),
        (run options data).bytesScanned + front.size⟩ := by
  rcases walk_newlines_append_beside options hfront hn with
    ⟨hnil, hw'⟩ | ⟨before, last, before', last', after, hw, hw', hfound, hlast, hstop, hgo⟩
  · rw [run_newlines hw', run_of_nil hnil, Int.zero_add]
    rfl
  have hl : last ∈ (walk options data).getLast? := by rw [hw, List.getLast?_concat]; rfl
  have hagree := hlast.agrees_prepend hn
  cases hnext : last.next with
  | error abort =>
    rcases hagree.of_error hnext with hneg | ⟨hlastFound, abort', hr, hdiagnostic⟩
    · exact absurd hneg (h last hl abort hnext)
    · have hnext' := Check.abort?_eq_some_iff.mp hr
      obtain rfl := hstop abort' hnext'
      have hl' : last' ∈ (walk options (front ++ data)).getLast? := by
        rw [hw', List.getLast?_concat]
        rfl
      rw [run_of_stop hl hnext, run_of_stop hl' hnext', hw, hw', List.flatMap_append,
        List.flatMap_append, hfound, List.flatMap_singleton, List.flatMap_singleton,
        show last'.found = _ from hlastFound, hlast.start_eq, hdiagnostic, List.map_append,
        List.map_append, List.map_singleton, Int.natCast_add]
      rfl
  | ok next =>
    obtain ⟨_, hnext', rfl, hlastFound⟩ := hagree.of_ok hnext
    obtain rfl := hgo next hnext
    have hl' : last' ∈ (walk options (front ++ data)).getLast? := by
      rw [hw', List.getLast?_concat]
      rfl
    have hunclosed := last.depths.unclosed_relocate data.size front.size (front ++ data).size
    rw [Nat.add_comm, ← Array.size_append] at hunclosed
    rw [run_of_end hl hnext, run_of_end hl' hnext', hw, hw', List.flatMap_append,
      List.flatMap_append, hfound, List.flatMap_singleton, List.flatMap_singleton,
      show last'.found = _ from hlastFound, hlast.depths_eq, hunclosed, List.map_append,
      List.map_append, Int.natCast_add]
    split <;> rfl

/-- A script behind line breaks, four or a multiple of it, has the defects that it has alone, in the
same order and further on by as many bytes, unless it needs bytes before its beginning. -/
theorem run_newlines_append (options : ScanOptions) (data : Bytes) (k : Nat)
    (h : ∀ d ∈ (run options data).diagnostics, ∀ requested,
      ("requested", .int requested) ∈ d.metadata → 0 ≤ requested) :
    (run options (Array.replicate (4 * k) Opcode.newline ++ data)).diagnostics =
        (run options data).diagnostics.map (Diagnostic.relocate (4 * k) (data.size + 4 * k)) ∧
      (run options (Array.replicate (4 * k) Opcode.newline ++ data)).bytesScanned =
        (run options data).bytesScanned + (4 * k : Nat) ∧
      (run options (Array.replicate (4 * k) Opcode.newline ++ data)).aborted =
        (run options data).aborted := by
  have hsize : (Array.replicate (4 * k) Opcode.newline).size = 4 * k := Array.size_replicate
  have htotal : data.size + 4 * k = (Array.replicate (4 * k) Opcode.newline ++ data).size := by
    rw [Array.size_append, hsize, Nat.add_comm]
  rw [run_newlines_append_eq options (by rw [hsize]) (by omega), htotal, hsize]
  · refine ⟨rfl, rfl, ?_⟩
    rw [Outcome.aborted, Outcome.aborted, List.any_map]
    refine congrArg (List.any _) (funext fun d => ?_)
    exact Diagnostic.relocate_fatal _ _ d
  · intro last hl abort hn hneg
    obtain ⟨requested, hlt, hm⟩ := (Abort.beforeStart_iff last.start).mp hneg
    have hd : abort.diagnostic last.start ∈ (run options data).diagnostics := by
      rw [run_of_stop hl hn]
      exact List.mem_append_right _ (List.mem_singleton_self _)
    have := h _ hd requested hm
    omega

/-- An operand that is cut off is cut off further on. -/
theorem run_newlines_append_cutOff :
    (∀ d ∈ (run {} #[0x16]).diagnostics, ∀ requested,
      ("requested", .int requested) ∈ d.metadata → 0 ≤ requested) ∧
    (run {} (Array.replicate (4 * 2) Opcode.newline ++ #[0x16])).diagnostics =
      (run {} #[0x16]).diagnostics.map (Diagnostic.relocate 8 9) := by
  have h : ∀ d ∈ (run {} #[0x16]).diagnostics, ∀ requested,
      ("requested", .int requested) ∈ d.metadata → 0 ≤ requested := by
    intro d hd requested hm
    have hw : walk {} #[0x16] = [Step.take {} #[0x16] 0 0x16 {}] :=
      (walks_walk {} #[0x16]).of_stop rfl rfl
    have hl : Step.take {} #[0x16] 0 0x16 {} ∈ (walk {} #[0x16]).getLast? := by rw [hw]; rfl
    rw [run_of_stop hl rfl, hw] at hd
    obtain rfl := List.mem_singleton.mp hd
    cases List.mem_singleton.mp hm
    decide
  exact ⟨h, (run_newlines_append {} #[0x16] 2 h).1⟩

end Scan

end QbLint
