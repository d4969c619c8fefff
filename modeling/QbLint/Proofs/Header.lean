import Mathlib.Order.Bounds.Basic
import QbLint.Proofs.Position

/-!
# Struct headers

The header of a struct is found by its third byte, the first one behind the struct's length that is
not zero. What is said here of structs is said of those whose header is accepted, whether or not
their items are cut off.

* `Instruction.headerStart`: where a header is looked for; `Step.AcceptsHeader`: a step comes past
  it, which is so exactly if it is there (`Step.acceptsHeader_iff`);
* `Instruction.struct_of_header`: what the check of a struct does behind its header;
* `Scan.behind_length_iff`: a header begins behind the struct's length, unless that reads like the
  beginning of one;
* `Scan.undersized_reported`: a struct that declares less than the size of its header is reported;
* `Scan.paddingTooLong_iff`: the default limit for padding is what alignment can need.
-/

namespace QbLint

/-! ## Zeros -/

namespace Bytes

variable {data : Bytes} {position width : Nat}

theorem zeros_of_zero (h : data[position]? = some 0) :
    data.zeros position = data.zeros (position + 1) + 1 := by
  obtain ⟨hlt, hzero⟩ := Array.getElem?_eq_some_iff.mp h
  rw [← Array.length_toList] at hlt
  rw [zeros, List.drop_eq_getElem_cons hlt, Array.getElem_toList, hzero,
    List.takeWhile_cons_of_pos (by decide), List.length_cons, zeros]

theorem zeros_of_ne_zero {b : UInt8} (h : data[position]? = some b) (hb : b ≠ 0) :
    data.zeros position = 0 := by
  obtain ⟨hlt, hbyte⟩ := Array.getElem?_eq_some_iff.mp h
  rw [← Array.length_toList] at hlt
  rw [zeros, List.drop_eq_getElem_cons hlt, Array.getElem_toList, hbyte,
    List.takeWhile_cons_of_neg (by simpa using hb), List.length_nil]

/-- A reading that fails leaves the reader where it stood. -/
theorem number_error_position {failure : OutOfBounds}
    (h : data.number position width = .error failure) : failure.position = position := by
  rcases except_bind_eq_error_iff.mp h with h | ⟨_, -, h⟩
  · unfold slice at h
    split at h
    · cases h
    · obtain rfl := Except.error.inj h
      rfl
  · cases h

theorem goto_error_position {target : Int} {failure : OutOfBounds}
    (h : data.goto position target = .error failure) : failure.position = position := by
  unfold goto at h
  split at h
  · cases h
  · obtain rfl := Except.error.inj h
    rfl

end Bytes

/-! ## What a struct does behind its header -/

namespace Check

variable {α β : Type}

theorem read_bind_of_ok {x : Except OutOfBounds α} {a : α} (h : x = .ok a) (f : α → Check β) :
    read x >>= f = f a := by
  subst h
  rfl

theorem found_reportIf_bind {p : Prop} [Decidable p] {d : Diagnostic} {x : Check α} :
    (reportIf p d >>= fun _ => x).found = (if p then [d] else []) ++ x.found := rfl

theorem value_reportIf_bind {p : Prop} [Decidable p] {d : Diagnostic} {x : Check α} :
    (reportIf p d >>= fun _ => x).value = x.value := rfl

end Check

namespace Instruction

open Bytes (number_eq_ok_iff endOfZeros_eq)
open Check (value_bind_eq_ok_iff value_read_eq_ok_iff)

variable {options : ScanOptions} {data : Bytes} {start : Nat}

/-- Where the header of the struct at an offset is looked for: with the last two zeros before the
first byte behind the struct's length that is not zero. -/
def headerStart (data : Bytes) (start : Nat) : Nat := start + 1 + data.zeros (start + 3)

/-- A header lies inside the buffer. -/
theorem headerStart_add_le (hh : data.Holds (headerStart data start) [0, 0, 1, 0]) :
    headerStart data start + 4 ≤ data.size :=
  hh.add_length_le (List.cons_ne_nil 0 [0, 1, 0])

/-- Behind its header a struct is checked for its alignment and its padding, and passed over. -/
theorem struct_of_header (hh : data.Holds (headerStart data start) [0, 0, 1, 0]) :
    struct options data start = (do
      Check.reportIf ((headerStart data start + 4) % 4 ≠ 0)
        (Rule.structMisaligned.report "Struct is not 4-aligned" (headerStart data start))
      Check.reportIf (options.maxPadding < data.zeros (start + 3))
        (Rule.structPaddingTooLong.report "Padding unnecessarily long for struct"
          (start + 3 : Nat))
      Check.read (data.goto (headerStart data start + 4)
        (headerStart data start + data.numeral (start + 1) 2 : Nat))) := by
  have hle := headerStart_add_le hh
  rw [headerStart] at hle
  have hlength : data.uint16 (start + 1) = .ok (data.numeral (start + 1) 2) :=
    number_eq_ok_iff.mpr ⟨by omega, rfl⟩
  have hthird : data.byte (start + 3 + data.zeros (start + 3)) = .ok _ :=
    number_eq_ok_iff.mpr ⟨by omega, rfl⟩
  have hheader : data.uint32 (headerStart data start) = .ok structHeader :=
    number_eq_ok_iff.mpr (denotes_structHeader_iff.mpr hh)
  rw [struct, Check.read_bind_of_ok hlength]
  dsimp only
  rw [endOfZeros_eq, Check.read_bind_of_ok hthird, Nat.add_sub_cancel_left, ← headerStart,
    Check.read_bind_of_ok hheader, if_pos rfl]

/-- A struct header that is read behind the padding is there. -/
theorem header_of_read (h : (Check.read (data.uint32
    (start + 1 + (data.endOfZeros (start + 3) - (start + 3))))).value = .ok structHeader) :
    data.Holds (headerStart data start) [0, 0, 1, 0] := by
  have hd : data.Denotes _ 4 structHeader := value_number h
  rwa [endOfZeros_eq, Nat.add_sub_cancel_left, denotes_structHeader_iff] at hd

/-- A struct that is passed over has a header. -/
theorem header_of_struct_value {next : Nat} (h : (struct options data start).value = .ok next) :
    data.Holds (headerStart data start) [0, 0, 1, 0] := by
  obtain ⟨_, -, h⟩ := value_bind_eq_ok_iff.mp h
  obtain ⟨_, -, h⟩ := value_bind_eq_ok_iff.mp h
  obtain ⟨found, hf, h⟩ := value_bind_eq_ok_iff.mp h
  split at h
  · rename_i heq
    exact header_of_read (heq ▸ hf)
  · cases h

/-- A struct without a header does not stop behind the place where one is looked for. -/
theorem struct_stops_of_not_header (hh : ¬ data.Holds (headerStart data start) [0, 0, 1, 0]) :
    (struct options data start).Stops fun e =>
      ∀ failure, e ≠ .outOfBounds (headerStart data start + 4) failure := by
  -- A reading fails where the reader stands: at the length, behind the padding or at the header.
  have hread : ∀ {position width : Nat}, position ≠ headerStart data start + 4 →
      (Check.read (data.number position width)).Stops fun e =>
        ∀ failure, e ≠ .outOfBounds (headerStart data start + 4) failure := by
    intro position width hne
    refine Check.stops_read fun failure hf other heq => hne ?_
    obtain ⟨hposition, -⟩ := Abort.outOfBounds.inj heq
    exact (Bytes.number_error_position hf).symm.trans hposition
  have hend := endOfZeros_eq data (start + 3)
  rw [headerStart] at hread ⊢
  refine Check.stops_bind (hread (by omega)) fun length _ => ?_
  refine Check.stops_bind (hread (by omega)) fun _ _ => ?_
  refine Check.stops_bind (hread (by omega)) fun found hf => ?_
  split
  · rename_i heq
    exact absurd (header_of_read (heq ▸ hf)) hh
  · refine Check.stops_stop fun failure heq => ?_
    cases heq

end Instruction

/-! ## Steps -/

open Instruction (headerStart)

variable {options : ScanOptions} {data : Bytes} {start next : Nat} {code : UInt8} {depths : Depths}
  {steps : List Step} {step : Step}

/-- The step is that of a struct whose header is accepted: it goes on, or it stops for want of items
when the reader stands behind the header. -/
def Step.AcceptsHeader (data : Bytes) (step : Step) : Prop :=
  data[step.start]? = some 0x4A ∧ ((∃ next, step.next = .ok next) ∨
    ∃ failure, step.next = .error (.outOfBounds (headerStart data step.start + 4) failure))

theorem Step.take_struct (options : ScanOptions) (data : Bytes) (start : Nat) (depths : Depths) :
    Step.take options data start 0x4A depths = ⟨start,
      (Instruction.struct options data start).found, (Instruction.struct options data start).value,
      depths⟩ := rfl

/-- A header is accepted exactly if it is there. -/
theorem Step.acceptsHeader_iff (hc : data[start]? = some code) :
    (Step.take options data start code depths).AcceptsHeader data ↔
      code = 0x4A ∧ data.Holds (headerStart data start) [0, 0, 1, 0] := by
  rw [AcceptsHeader, take_start, hc, Option.some.injEq]
  refine and_congr_right fun hstruct => ?_
  rw [hstruct, take_struct]
  constructor
  · intro h
    by_contra hh
    rcases h with ⟨next, h⟩ | ⟨failure, h⟩
    · exact hh (Instruction.header_of_struct_value h)
    · exact Instruction.struct_stops_of_not_header hh _ h failure rfl
  · intro hh
    dsimp only
    rw [Instruction.struct_of_header hh, Check.value_reportIf_bind, Check.value_reportIf_bind]
    cases hg : data.goto (headerStart data start + 4)
        (headerStart data start + data.numeral (start + 1) 2 : Nat) with
    | ok next => exact .inl ⟨next, rfl⟩
    | error failure =>
      refine .inr ⟨failure, ?_⟩
      rw [← Bytes.goto_error_position hg]
      rfl

/-- What the step of a struct with an accepted header reports and comes to. -/
theorem Walks.of_acceptsHeader (h : Walks options data start depths steps) (hs : step ∈ steps)
    (ha : step.AcceptsHeader data) :
    data.Holds (headerStart data step.start) [0, 0, 1, 0] ∧
      step.found =
        (if (headerStart data step.start + 4) % 4 ≠ 0 then
          [Rule.structMisaligned.report "Struct is not 4-aligned" (headerStart data step.start)]
        else []) ++
        (if options.maxPadding < data.zeros (step.start + 3) then
          [Rule.structPaddingTooLong.report "Padding unnecessarily long for struct"
            (step.start + 3 : Nat)]
        else []) ∧
      step.next = (Check.read (data.goto (headerStart data step.start + 4)
        (headerStart data step.start + data.numeral (step.start + 1) 2 : Nat))).value := by
  obtain ⟨code, depths, hc, hstep⟩ := h.mem_take hs
  rw [hstep] at ha
  obtain ⟨rfl, hh⟩ := (Step.acceptsHeader_iff hc).mp ha
  rw [hstep, Step.take_struct]
  dsimp only
  rw [Instruction.struct_of_header hh, Check.found_reportIf_bind, Check.found_reportIf_bind,
    Check.found_read, List.append_nil, Check.value_reportIf_bind, Check.value_reportIf_bind]
  exact ⟨hh, rfl, rfl⟩

/-! ## Headers and lengths -/

/-- The length of the struct at an offset reads like the beginning of a header, whose other bytes
follow. -/
inductive Instruction.LengthInHeader (data : Bytes) (start : Nat) : Prop
  /-- The length's bytes are the header's zeros. -/
  | both (hh : data.Holds (start + 1) [0, 0, 1, 0])
  /-- The length's second byte is the first of the header's zeros. -/
  | second (hh : data.Holds (start + 2) [0, 0, 1, 0])

/-- Where the length reads like the beginning of a header, this is the header. -/
theorem Instruction.LengthInHeader.header (h : Instruction.LengthInHeader data start) :
    headerStart data start < start + 3 ∧
      data.Holds (headerStart data start) [0, 0, 1, 0] := by
  cases h with
  | both hh =>
    have hbytes := hh
    simp only [Bytes.holds_cons_iff] at hbytes
    obtain ⟨-, -, hthird, -⟩ := hbytes
    have hzeros : data.zeros (start + 3) = 0 := Bytes.zeros_of_ne_zero hthird (by decide)
    rw [headerStart, hzeros]
    exact ⟨by omega, hh⟩
  | second hh =>
    have hbytes := hh
    simp only [Bytes.holds_cons_iff] at hbytes
    obtain ⟨-, hsecond, hthird, -⟩ := hbytes
    have hzeros : data.zeros (start + 3) = 1 := by
      rw [Bytes.zeros_of_zero hsecond, Bytes.zeros_of_ne_zero hthird (by decide)]
    rw [headerStart, hzeros]
    exact ⟨by omega, hh⟩

/-- A header begins behind the length, or the length reads like its beginning. -/
theorem Instruction.headerStart_ge_or (hh : data.Holds (headerStart data start) [0, 0, 1, 0]) :
    start + 3 ≤ headerStart data start ∨ Instruction.LengthInHeader data start := by
  rw [headerStart] at hh ⊢
  rcases (by omega : data.zeros (start + 3) = 0 ∨ data.zeros (start + 3) = 1 ∨
    2 ≤ data.zeros (start + 3)) with hzeros | hzeros | hzeros
  · rw [hzeros] at hh
    exact .inr (.both hh)
  · rw [hzeros] at hh
    exact .inr (.second hh)
  · exact .inl (by omega)

namespace Scan

/-- Where the headers that a scan accepts begin: behind the struct's length, unless that reads like
the beginning of a header. If it does, the header is accepted all the same. -/
theorem behind_length_iff (options : ScanOptions) (data : Bytes) :
    ∀ step ∈ walk options data,
      (step.AcceptsHeader data → (step.start + 3 ≤ headerStart data step.start ↔
        ¬ Instruction.LengthInHeader data step.start)) ∧
      (data[step.start]? = some 0x4A → Instruction.LengthInHeader data step.start →
        step.AcceptsHeader data) := by
  intro step hs
  have h := walks_walk options data
  refine ⟨fun ha => ⟨fun hle hlength => ?_, fun hnot => ?_⟩, fun hcode hlength => ?_⟩
  · have := hlength.header.1
    omega
  · exact (Instruction.headerStart_ge_or (h.of_acceptsHeader hs ha).1).resolve_right hnot
  · obtain ⟨code, depths, hc, hstep⟩ := h.mem_take hs
    rw [hstep]
    exact (Step.acceptsHeader_iff hc).mpr
      ⟨Option.some.inj (hc.symm.trans hcode), hlength.header.2⟩

/-- A header that begins right behind the length, with the struct's padding, is accepted there. -/
theorem behind_length_iff_three :
    ∃ step ∈ walk {} #[0x4A, 0x04, 0x00, 0x00, 0x00, 0x01, 0x00],
      step.AcceptsHeader #[0x4A, 0x04, 0x00, 0x00, 0x00, 0x01, 0x00] ∧
        step.start + 3 ≤ headerStart #[0x4A, 0x04, 0x00, 0x00, 0x00, 0x01, 0x00] step.start := by
  obtain ⟨step, hs, hstart, hn⟩ : ∃ step ∈ walk {} #[0x4A, 0x04, 0x00, 0x00, 0x00, 0x01, 0x00],
      step.start = 0 ∧ step.next = .ok 7 := by decide +kernel
  have ha : step.AcceptsHeader #[0x4A, 0x04, 0x00, 0x00, 0x00, 0x01, 0x00] :=
    ⟨by rw [hstart]; rfl, .inl ⟨7, hn⟩⟩
  refine ⟨step, hs, ha, ((behind_length_iff {} _ step hs).1 ha).mpr fun hlength => ?_⟩
  rw [hstart] at hlength
  cases hlength with
  | both hh => exact absurd hh (by decide)
  | second hh => exact absurd hh (by decide)

/-- Not every header that a scan accepts begins behind the struct's length: that of this struct
begins with the second byte of the length. -/
theorem not_behind_length : ¬ ∀ (options : ScanOptions) (data : Bytes),
    ∀ step ∈ walk options data, step.AcceptsHeader data →
      step.start + 3 ≤ headerStart data step.start := by
  intro h
  obtain ⟨step, hs, hstart, hn⟩ :
      ∃ step ∈ walk {} #[0x01, 0x01, 0x4A, 0x04, 0x00, 0x00, 0x01, 0x00, 0x01],
        step.start = 2 ∧ step.next = .ok 8 := by decide +kernel
  have hle := h {} _ step hs ⟨by rw [hstart]; rfl, .inl ⟨8, hn⟩⟩
  rw [hstart] at hle
  exact absurd hle (by decide)

/-- Nothing is said about such a struct if it is aligned. -/
example : (run {} #[0x01, 0x01, 0x4A, 0x04, 0x00, 0x00, 0x01, 0x00, 0x01]).isClean = true := by
  decide +kernel

end Scan

/-! ## Structs without room for their header -/

/-- A walk goes on from where one of its steps comes to, and has ended with a step that stops. -/
theorem Walks.split (h : Walks options data start depths steps) (hs : step ∈ steps) :
    ∃ before after, steps = before ++ step :: after ∧
      (∀ next, step.next = .ok next → Walks options data next step.depths after) ∧
      (∀ abort, step.next = .error abort → after = []) := by
  induction h with
  | done => cases hs
  | stop _ hn =>
    obtain rfl := List.mem_singleton.mp hs
    refine ⟨[], [], rfl, fun next hnext => ?_, fun _ _ => rfl⟩
    cases hn.symm.trans hnext
  | step _ hn rest ih =>
    rcases List.mem_cons.mp hs with rfl | hs
    · refine ⟨[], _, rfl, fun next hnext => ?_, fun abort herror => ?_⟩
      · obtain rfl := Except.ok.inj (hn.symm.trans hnext)
        exact rest
      · cases hn.symm.trans herror
    · obtain ⟨before, after, heq, hgo, hstop⟩ := ih hs
      exact ⟨_ :: before, after, by rw [heq, List.cons_append], hgo, hstop⟩

/-- A step whose struct declares less than the size of its header comes back into the header. -/
theorem Walks.next_of_undersized (h : Walks options data start depths steps) (hs : step ∈ steps)
    (ha : step.AcceptsHeader data) (hlt : data.numeral (step.start + 1) 2 < 4) :
    step.next = .ok (headerStart data step.start + data.numeral (step.start + 1) 2) := by
  obtain ⟨hh, -, hnext⟩ := h.of_acceptsHeader hs ha
  have hle := Instruction.headerStart_add_le hh
  rw [hnext, Bytes.goto_eq_ok (by omega) (by omega)]
  rfl

/-- A walk that comes back into a header reports one of its zeros further on. -/
theorem Walks.exists_illegal_of_undersized (h : Walks options data start depths steps)
    (hs : step ∈ steps) (ha : step.AcceptsHeader data)
    (hlt : data.numeral (step.start + 1) 2 < 4) :
    ∃ later ∈ steps, step.start < later.start ∧ ∃ position,
      headerStart data step.start ≤ position ∧ position ≤ headerStart data step.start + 3 ∧
        illegalZero position ∈ later.found := by
  have hheader := (h.of_acceptsHeader hs ha).1
  have hnext := h.next_of_undersized hs ha hlt
  -- The rest of the walk begins inside the header.
  obtain ⟨before, after, rfl, hgo, -⟩ := h.split hs
  have hrest := hgo _ hnext
  obtain ⟨later, hl, position, hle, hlt, hi⟩ := hrest.exists_illegal hheader (by omega) (by omega)
  have hstart := hrest.le_start hl
  rw [headerStart] at hstart
  exact ⟨later, List.mem_append_right _ (List.mem_cons_of_mem _ hl), by omega, position, hle,
    by omega, hi⟩

/-- If a struct declares as much as the size of its header, no step begins inside the header. -/
theorem Walks.start_of_acceptsHeader (h : Walks options data start depths steps) (hs : step ∈ steps)
    (ha : step.AcceptsHeader data) (hle : 4 ≤ data.numeral (step.start + 1) 2) {other : Step}
    (ho : other ∈ steps) : other.start < headerStart data step.start ∨
      headerStart data step.start + 4 ≤ other.start := by
  have hlt : step.start < headerStart data step.start := by
    rw [headerStart]
    omega
  -- The steps before the struct begin before it, the steps behind it where it ends or further on.
  have hpairwise := h.pairwise
  obtain ⟨before, after, rfl, hgo, hstop⟩ := h.split hs
  rcases List.mem_append.mp ho with ho | ho
  · rw [List.map_append, List.map_cons] at hpairwise
    have := (List.pairwise_append.mp hpairwise).2.2 other.start (List.mem_map_of_mem ho) step.start
      List.mem_cons_self
    exact .inl (by omega)
  · rcases List.mem_cons.mp ho with rfl | ho
    · exact .inl hlt
    · cases hn : step.next with
      | error abort =>
        rw [hstop abort hn] at ho
        cases ho
      | ok next =>
        have hnext := (h.of_acceptsHeader hs ha).2.2
        rw [hn] at hnext
        obtain ⟨heq, -⟩ := Instruction.value_goto hnext.symm
        have := (hgo next hn).le_start ho
        exact .inr (by omega)

namespace Scan

/-- What becomes of a struct that declares less than the size of its header: its step goes back into
the header, and a later one reports a zero byte there as an illegal opcode. So where no illegal
opcode is reported, no step begins inside the header of a struct. -/
theorem undersized_reported (options : ScanOptions) (data : Bytes) :
    (∀ step ∈ walk options data, step.AcceptsHeader data →
      data.numeral (step.start + 1) 2 < 4 →
      step.next = .ok (headerStart data step.start + data.numeral (step.start + 1) 2) ∧
      ∃ later ∈ walk options data, step.start < later.start ∧ ∃ position,
        headerStart data step.start ≤ position ∧ position ≤ headerStart data step.start + 3 ∧
          illegalZero position ∈ later.found ∧
          illegalZero position ∈ (run options data).diagnostics) ∧
    ((∀ d ∈ (run options data).diagnostics, d.ruleId ≠ Rule.illegalOpcode.id) →
      ∀ step ∈ walk options data, step.AcceptsHeader data → ∀ other ∈ walk options data,
        other.start < headerStart data step.start ∨
          headerStart data step.start + 4 ≤ other.start) := by
  have h := walks_walk options data
  have hfound : ∀ step ∈ walk options data, ∀ d ∈ step.found,
      d ∈ (run options data).diagnostics := fun step hs d hd =>
    List.mem_append_left _ (List.mem_flatMap.mpr ⟨step, hs, hd⟩)
  refine ⟨fun step hs ha hlt => ⟨h.next_of_undersized hs ha hlt, ?_⟩,
    fun hnone step hs ha other ho => ?_⟩
  · obtain ⟨later, hl, hlater, position, hle, hle', hi⟩ :=
      h.exists_illegal_of_undersized hs ha hlt
    exact ⟨later, hl, hlater, position, hle, hle', hi, hfound later hl _ hi⟩
  · refine h.start_of_acceptsHeader hs ha (Nat.not_lt.mp fun hlt => ?_) ho
    obtain ⟨later, hl, -, position, -, -, hi⟩ := h.exists_illegal_of_undersized hs ha hlt
    exact hnone _ (hfound later hl _ hi) rfl

/-- A struct that declares two bytes comes back to the third byte of its header, which is a line
break; the byte behind it is reported. -/
theorem undersized_reported_two :
    ∃ step ∈ walk {} #[0x4A, 0x02, 0x00, 0x00, 0x00, 0x01, 0x00], step.next = .ok 5 ∧
      ∃ position, 3 ≤ position ∧ position ≤ 6 ∧
        illegalZero position ∈ (run {} #[0x4A, 0x02, 0x00, 0x00, 0x00, 0x01, 0x00]).diagnostics := by
  obtain ⟨step, hs, hstart, hn⟩ : ∃ step ∈ walk {} #[0x4A, 0x02, 0x00, 0x00, 0x00, 0x01, 0x00],
      step.start = 0 ∧ step.next = .ok 5 := by decide +kernel
  have ha : step.AcceptsHeader #[0x4A, 0x02, 0x00, 0x00, 0x00, 0x01, 0x00] :=
    ⟨by rw [hstart]; rfl, .inl ⟨5, hn⟩⟩
  obtain ⟨-, later, -, -, position, hle, hle', -, hi⟩ :=
    (undersized_reported {} _).1 step hs ha (by rw [hstart]; decide)
  rw [hstart] at hle hle'
  exact ⟨step, hs, hn, position, hle, hle', hi⟩

end Scan

/-! ## Padding -/

/-- The paddings with which the header of the struct at an offset begins behind the length and ends
on a multiple of four. -/
def Instruction.alignments (start : Nat) : Set Nat :=
  {padding | 2 ≤ padding ∧ (start + 5 + padding) % 4 = 0}

/-- The least padding with which the header of the struct at an offset is aligned. -/
def Instruction.leastPadding (start : Nat) : Nat := 2 + (4 - (start + 7) % 4) % 4

open Instruction (alignments leastPadding)

theorem Instruction.leastPadding_le (start : Nat) : leastPadding start ≤ 5 := by
  rw [leastPadding]
  omega

theorem Instruction.isLeast_leastPadding (start : Nat) :
    IsLeast (alignments start) (leastPadding start) := by
  constructor
  · show 2 ≤ leastPadding start ∧ (start + 5 + leastPadding start) % 4 = 0
    rw [leastPadding]
    omega
  · rintro padding ⟨htwo, haligned⟩
    rw [leastPadding]
    omega

/-- A padding that aligns a struct is above five exactly if a shorter one aligns it. -/
theorem Instruction.five_lt_iff {padding : Nat} (h : padding ∈ alignments start) :
    5 < padding ↔ leastPadding start < padding := by
  obtain ⟨htwo, haligned⟩ := h
  rw [leastPadding]
  omega

namespace Scan

/-- What the default limit for padding amounts to: every offset has a least padding that aligns a
struct, of at most five zeros, and an aligned struct whose header begins behind its length is
reported exactly if its padding is longer than the least one there. -/
theorem paddingTooLong_iff (options : ScanOptions) (data : Bytes) (hp : options.maxPadding = 5) :
    (∀ start, ∃ least ≤ 5, IsLeast (alignments start) least) ∧
    ∀ step ∈ walk options data, step.AcceptsHeader data → 2 ≤ data.zeros (step.start + 3) →
      (∀ d ∈ step.found, d.ruleId ≠ Rule.structMisaligned.id) →
      ∀ least, IsLeast (alignments step.start) least →
        ((∃ d ∈ step.found, d.ruleId = Rule.structPaddingTooLong.id) ↔
          least < data.zeros (step.start + 3)) := by
  refine ⟨fun start => ⟨_, Instruction.leastPadding_le start,
    Instruction.isLeast_leastPadding start⟩, fun step hs ha htwo haligned least hleast => ?_⟩
  obtain rfl := hleast.unique (Instruction.isLeast_leastPadding step.start)
  obtain ⟨-, hfound, -⟩ := (walks_walk options data).of_acceptsHeader hs ha
  have hmod : (headerStart data step.start + 4) % 4 = 0 := by
    by_contra hmod
    rw [hfound, if_pos hmod] at haligned
    exact haligned _ List.mem_cons_self rfl
  have hpadding : data.zeros (step.start + 3) ∈ alignments step.start := by
    refine ⟨htwo, ?_⟩
    rw [headerStart] at hmod
    omega
  rw [← Instruction.five_lt_iff hpadding, hfound, if_neg (not_not.mpr hmod), List.nil_append, hp]
  split
  · rename_i hlong
    exact iff_of_true ⟨_, List.mem_singleton_self _, rfl⟩ (by omega)
  · rename_i hshort
    exact iff_of_false (by simp) (by omega)

/-- At the beginning of a script three zeros are enough, so that seven are reported. -/
theorem paddingTooLong_iff_seven : ({} : ScanOptions).maxPadding = 5 ∧
    ∃ step ∈ walk {} #[0x4A, 0x04, 0x00, 0x00, 0x00, 0x00, 0x00, 0x00, 0x00, 0x00, 0x01, 0x00],
      ∃ d ∈ step.found, d.ruleId = Rule.structPaddingTooLong.id := by
  let data : Bytes :=
    #[0x4A, 0x04, 0x00, 0x00, 0x00, 0x00, 0x00, 0x00, 0x00, 0x00, 0x01, 0x00]
  obtain ⟨step, hs, hstart, hn, haligned⟩ : ∃ step ∈ walk {} data, step.start = 0 ∧
      step.next = .ok 12 ∧ ∀ d ∈ step.found, d.ruleId ≠ Rule.structMisaligned.id := by
    decide +kernel
  have ha : step.AcceptsHeader data := ⟨by rw [hstart]; rfl, .inl ⟨12, hn⟩⟩
  refine ⟨rfl, step, hs, ((paddingTooLong_iff {} data rfl).2 step hs ha ?_ haligned
    (leastPadding step.start) (Instruction.isLeast_leastPadding _)).mpr ?_⟩
  · rw [hstart]
    decide
  · rw [hstart]
    decide

end Scan

end QbLint
