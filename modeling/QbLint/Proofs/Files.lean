import Mathlib.Data.List.Basic
import QbLint.Proofs.Machine

/-!
# Files that were written

What is written to a path is what is read from it. A way through the tree of files is compared with
a plain one, without dots, that leads to the same place; the folders on it are still there once the
file has been put in its place.

* `Tree.at?`: what lies at the end of a plain way; `Tree.follow_eq_ok_iff`: where a way leads;
* `Tree.at?_graft_of_folder`, `Tree.at?_graft`: a tree with something else at the end of a plain way;
* `Path.split_toText`: the names of a path are those in its text;
* `Machine.read_of_write`: reading what was written.
-/

namespace QbLint

namespace Tree

/-- What lies at the end of a way on which dots mean nothing. -/
def at? : Tree → List String → Option Tree
  | t, [] => some t
  | .folder entries, name :: rest =>
    match entries.lookup name with
    | none => none
    | some inner => inner.at? rest
  | _, _ :: _ => none

/-- Whether something is a folder. -/
def IsFolder (t : Tree) : Prop := ∃ entries, t = .folder entries

/-- The names on the plain way to where a further name leads, the last one first. -/
def onward (done : List String) (name : String) : List String :=
  if name = "." then done else if name = ".." then done.tail else name :: done

/-- Whoever follows a way from a root stands at `t`, behind the names of `done`, the last one first,
having come through the folders of `trail`. -/
inductive Stands (root : Tree) : List String → List Tree → Tree → Prop
  | root : Stands root [] [] root
  | down {done : List String} {trail : List Tree} {entries : List (String × Tree)} {name : String}
    {inner : Tree} (h : Stands root done trail (.folder entries)) (hl : entries.lookup name = some inner) :
    Stands root (name :: done) (.folder entries :: trail) inner

variable {root t inner new : Tree} {trail : List Tree} {done loc target way : List String}
  {name : String} {entries : List (String × Tree)}

theorem straighten_cons :
    straighten done (name :: way) = straighten (onward done name) way := by
  rw [straighten, onward]
  split
  · rfl
  · split <;> rfl

theorem at?_append (first second : List String) :
    t.at? (first ++ second) = (t.at? first).bind (·.at? second) := by
  induction first generalizing t with
  | nil => rfl
  | cons name first ih =>
    cases t with
    | file | sealed => rfl
    | folder entries =>
      rw [List.cons_append, at?, at?]
      cases entries.lookup name with
      | none => rfl
      | some inner => exact ih

theorem at?_singleton (entries : List (String × Tree)) (name : String) :
    (folder entries).at? [name] = entries.lookup name := by
  rw [at?]
  cases entries.lookup name <;> rfl

/-- Everything on the way to something is a folder. -/
theorem isFolder_of_at? {first second : List String} (h : t.at? (first ++ second) = some inner)
    (hs : second ≠ []) : ∃ above, t.at? first = some above ∧ above.IsFolder := by
  rw [at?_append, Option.bind_eq_some_iff] at h
  obtain ⟨above, habove, h⟩ := h
  refine ⟨above, habove, ?_⟩
  cases above with
  | folder entries => exact ⟨_, rfl⟩
  | file | sealed =>
    cases second with
    | nil => exact absurd rfl hs
    | cons name second => cases h

theorem Stands.at? (h : Stands root done trail t) : root.at? done.reverse = some t := by
  induction h with
  | root => rfl
  | down h hl ih => rw [List.reverse_cons, at?_append, ih, Option.bind_some, at?_singleton, hl]

/-- All places at which a way goes on are folders. -/
def Passes (root : Tree) (done : List String) : List String → Prop
  | [] => True
  | name :: rest =>
    (∃ t, root.at? done.reverse = some t ∧ t.IsFolder) ∧ Passes root (onward done name) rest

theorem passes_append {last : String} :
    Passes root done (way ++ [last]) ↔
      Passes root done way ∧ ∃ t, root.at? (straighten done way) = some t ∧ t.IsFolder := by
  induction way generalizing done with
  | nil => simp [Passes, straighten]
  | cons name way ih => rw [List.cons_append, Passes, Passes, ih, straighten_cons, and_assoc]

/-- Where a way goes on from, or ends, there is something. -/
theorem exists_at?_of_passes (hp : Passes root done way)
    (h : root.at? (straighten done way) = some inner) : ∃ t, root.at? done.reverse = some t := by
  cases way with
  | nil => exact ⟨inner, h⟩
  | cons name way => exact hp.1.imp fun _ => And.left

/-- A way leads to what lies at the end of the plain way to the same place. -/
theorem Stands.follow_eq_ok_iff (h : Stands root done trail t) :
    follow trail t way = .ok inner ↔
      Passes root done way ∧ root.at? (straighten done way) = some inner := by
  induction way generalizing done trail t with
  | nil =>
    rw [follow, Passes, straighten, h.at?, true_and]
    exact (Except.ok.injEq ..).to_iff.trans (Option.some.injEq ..).to_iff.symm
  | cons name way ih =>
    rw [Passes, straighten_cons, h.at?]
    cases t with
    | file | sealed => simp [follow, IsFolder]
    | folder entries =>
      have hfolder : ∃ t, some (folder entries) = some t ∧ t.IsFolder := ⟨_, rfl, _, rfl⟩
      rw [and_iff_right hfolder]
      unfold follow onward
      dsimp only
      split
      · exact ih h
      · split
        · cases h with
          | root => exact ih .root
          | down habove hl => exact ih habove
        · cases hl : entries.lookup name with
          | some inner => exact ih (h.down hl)
          | none =>
            -- nothing has this name, so the plain way does not lead on either
            refine iff_of_false nofun fun ⟨hp, hend⟩ => ?_
            obtain ⟨below, hbelow⟩ := exists_at?_of_passes hp hend
            rw [List.reverse_cons, at?_append, h.at?, Option.bind_some, at?_singleton, hl] at hbelow
            cases hbelow

/-! ## Grafting -/

theorem lookup_alter {change : Tree → Tree} {other : String} :
    (alter name change new entries).lookup other =
      if other = name then some ((entries.lookup name).elim new change) else entries.lookup other := by
  induction entries with
  | nil =>
    by_cases h : other = name
    · simp [alter, h]
    · simp [alter, List.lookup_cons, h, beq_eq_false_iff_ne.mpr h]
  | cons entry entries ih =>
    obtain ⟨key, value⟩ := entry
    rw [alter]
    by_cases hk : key = name
    · subst hk
      by_cases h : other = key
      · simp [h]
      · simp [List.lookup_cons, h, beq_eq_false_iff_ne.mpr h]
    · have hk' : (name == key) = false := beq_eq_false_iff_ne.mpr fun h => hk h.symm
      rw [if_neg hk, List.lookup_cons, ih, List.lookup_cons, List.lookup_cons, hk']
      by_cases h : other = key
      · subst h
        simp [hk]
      · simp [beq_eq_false_iff_ne.mpr h]

/-- What is grafted at the end of a way is found there if a folder is above it. -/
theorem at?_graft {last : String} (h : ∃ above, t.at? way = some above ∧ above.IsFolder) :
    (graft new (way ++ [last]) t).at? (way ++ [last]) = some new := by
  induction way generalizing t with
  | nil =>
    obtain ⟨_, ⟨⟩, entries, rfl⟩ := h
    rw [List.nil_append, graft, at?_singleton, lookup_alter, if_pos rfl]
    cases entries.lookup last <;> rfl
  | cons name way ih =>
    cases t with
    | file | sealed =>
      obtain ⟨_, ⟨⟩, _⟩ := h
    | folder entries =>
      rw [at?] at h
      cases hl : entries.lookup name with
      | none =>
        rw [hl] at h
        obtain ⟨_, ⟨⟩, _⟩ := h
      | some inner =>
        rw [hl] at h
        rw [List.cons_append, graft, at?, lookup_alter, if_pos rfl, hl]
        exact ih h

/-- A folder that does not lie at or below the place of what is grafted is still there. -/
theorem at?_graft_of_folder (h : ∃ old, t.at? loc = some old ∧ old.IsFolder)
    (htarget : ¬ target <+: loc) :
    ∃ after, (graft new target t).at? loc = some after ∧ after.IsFolder := by
  induction loc generalizing t target with
  | nil =>
    obtain ⟨_, ⟨⟩, entries, rfl⟩ := h
    cases target with
    | nil => exact absurd List.nil_prefix htarget
    | cons name target => exact ⟨_, rfl, _, rfl⟩
  | cons name loc ih =>
    cases target with
    | nil => exact absurd List.nil_prefix htarget
    | cons first target =>
      cases t with
      | file | sealed => obtain ⟨_, ⟨⟩, _⟩ := h
      | folder entries =>
        rw [at?] at h
        rw [graft, at?, lookup_alter]
        cases hl : entries.lookup name with
        | none =>
          rw [hl] at h
          obtain ⟨_, ⟨⟩, _⟩ := h
        | some inner =>
          rw [hl] at h
          by_cases hn : name = first
          · subst hn
            rw [if_pos rfl, hl]
            exact ih h fun hpre => htarget ((List.prefix_cons_inj name).mpr hpre)
          · rw [if_neg hn]
            exact h

theorem Passes.graft (h : Passes root done way)
    (htarget : ∀ above, root.at? target = some above → ¬ above.IsFolder) :
    Passes (graft new target root) done way := by
  induction way generalizing done with
  | nil => trivial
  | cons name way ih =>
    refine ⟨at?_graft_of_folder h.1 fun hpre => ?_, ih h.2⟩
    -- else something would lie below what is no folder
    obtain ⟨below, hbelow⟩ := hpre
    obtain ⟨old, hold, hfolder⟩ := h.1
    rw [← hbelow] at hold
    cases below with
    | nil =>
      rw [List.append_nil] at hold
      exact htarget old hold hfolder
    | cons first below =>
      obtain ⟨above, habove, hfolder⟩ := isFolder_of_at? hold (List.cons_ne_nil first below)
      exact htarget above habove hfolder

theorem straighten_append_of_name {last : String} (hlast : last ≠ "." ∧ last ≠ "..") :
    straighten done (way ++ [last]) = straighten done way ++ [last] := by
  induction way generalizing done with
  | nil => simp [straighten, hlast.1, hlast.2]
  | cons name way ih => rw [List.cons_append, straighten_cons, straighten_cons, ih]

/-- A file in its place is found on the way on which its folder was found. -/
theorem follow_graft {last : String} (h : follow [] root way = .ok (.folder entries))
    (hlast : last ≠ "." ∧ last ≠ "..")
    (hold : ∀ old, entries.lookup last = some old → ¬ old.IsFolder) :
    follow [] (graft new (straighten [] (way ++ [last])) root) (way ++ [last]) = .ok new := by
  obtain ⟨hpasses, hfolder⟩ := Stands.root.follow_eq_ok_iff.mp h
  have hstraight : straighten [] (way ++ [last]) = straighten [] way ++ [last] :=
    straighten_append_of_name hlast
  have htarget : ∀ above, root.at? (straighten [] way ++ [last]) = some above → ¬ above.IsFolder := by
    rw [at?_append, hfolder, Option.bind_some, at?_singleton]
    exact hold
  rw [Stands.root.follow_eq_ok_iff, hstraight]
  have habove : ∃ above, root.at? (straighten [] way) = some above ∧ above.IsFolder :=
    ⟨_, hfolder, _, rfl⟩
  refine ⟨Passes.graft (passes_append.mpr ⟨hpasses, habove⟩) htarget, at?_graft habove⟩

end Tree

/-! ## Paths as texts -/

namespace Text

variable {separator : Char} {s part : List Char} {parts : List (List Char)}

theorem split_ne_nil : split separator s ≠ [] := by
  cases s with
  | nil => exact List.cons_ne_nil _ _
  | cons c s =>
    rw [split]
    split
    · exact List.cons_ne_nil _ _
    · split <;> exact List.cons_ne_nil _ _

theorem not_mem_of_mem_split (h : part ∈ split separator s) : separator ∉ part := by
  induction s generalizing part with
  | nil =>
    rw [split, List.mem_singleton] at h
    exact h ▸ List.not_mem_nil
  | cons c s ih =>
    rw [split] at h
    split at h
    · rcases List.mem_cons.mp h with rfl | h
      · exact List.not_mem_nil
      · exact ih h
    · rename_i hc
      split at h
      · exact absurd ‹_› split_ne_nil
      · rename_i first rest hs
        rw [hs] at ih
        rcases List.mem_cons.mp h with rfl | h
        · refine List.not_mem_cons_of_ne_of_not_mem (fun h => hc h.symm) (ih List.mem_cons_self)
        · exact ih (List.mem_cons_of_mem _ h)

theorem split_of_not_mem (h : separator ∉ s) : split separator s = [s] := by
  induction s with
  | nil => rfl
  | cons c s ih =>
    rw [List.mem_cons, not_or] at h
    rw [split, if_neg fun hc => h.1 hc.symm, ih h.2]

/-- The parts on both sides of a separator are found apart from each other. -/
theorem split_append_cons (first s : List Char) :
    split separator (first ++ separator :: s) = split separator first ++ split separator s := by
  induction first with
  | nil => simp [split]
  | cons c first ih =>
    rw [List.cons_append, split, split, ih]
    split
    · rw [List.cons_append]
    · cases hsplit : split separator first with
      | nil => exact absurd hsplit split_ne_nil
      | cons part parts => rfl

theorem split_append (h : separator ∉ part) :
    split separator (part ++ separator :: s) = part :: split separator s := by
  rw [split_append_cons, split_of_not_mem h, List.singleton_append]

/-- The parts of texts that were put together with separators between them are those of each. -/
theorem split_intercalate_flatMap (hne : parts ≠ []) :
    split separator ([separator].intercalate parts) = parts.flatMap (split separator) := by
  induction parts with
  | nil => exact absurd rfl hne
  | cons part parts ih =>
    cases parts with
    | nil => rw [List.intercalate_singleton, List.flatMap_singleton]
    | cons next parts =>
      rw [List.intercalate_cons_cons, List.append_assoc, List.singleton_append, split_append_cons,
        ih (List.cons_ne_nil _ _), List.flatMap_cons, List.flatMap_cons, List.flatMap_cons]

/-- Parts that were put together with separators between them are found again. -/
theorem split_intercalate (hne : parts ≠ []) (h : ∀ part ∈ parts, separator ∉ part) :
    split separator ([separator].intercalate parts) = parts := by
  rw [split_intercalate_flatMap hne,
    List.flatMap_congr fun part hpart => split_of_not_mem (h part hpart), List.flatMap_singleton']

/-- What stands in parts put together stands in one of them or between them. -/
theorem mem_intercalate_iff {c : Char} (hc : c ≠ separator) :
    c ∈ [separator].intercalate parts ↔ ∃ part ∈ parts, c ∈ part := by
  induction parts with
  | nil => simp
  | cons part parts ih =>
    cases parts with
    | nil => simp
    | cons next parts =>
      rw [List.intercalate_cons_cons, List.append_assoc, List.mem_append, List.singleton_append,
        List.mem_cons, ih]
      simp [hc]

end Text

namespace Path

/-- A path as it comes from a text: its names could be those of files. -/
structure IsPlain (p : Path) : Prop where
  root : p.root ∈ ["", "/", "//"]
  names : ∀ name ∈ p.names, name ≠ "" ∧ '/' ∉ name.toList

theorem isPlain_ofText (s : String) : (ofText s).IsPlain where
  root := by
    change rootOf s.toList ∈ _
    unfold rootOf
    split <;> decide
  names name h := by
    simp only [ofText, List.mem_filter, List.mem_map, decide_eq_true_eq] at h
    obtain ⟨⟨part, hpart, rfl⟩, hne, -⟩ := h
    rw [String.toList_ofList]
    exact ⟨hne, Text.not_mem_of_mem_split hpart⟩

variable {p : Path}

theorem toList_toText (hne : p.names ≠ []) :
    p.toText.toList = p.root.toList ++ ['/'].intercalate (p.names.map String.toList) := by
  rw [toText, if_neg fun hboth => hne hboth.2, String.toList_append, String.toList_intercalate]
  rfl

/-- The names of a path are those in its text, behind empty ones that stand for the root. -/
theorem IsPlain.split_toText (h : p.IsPlain) (hne : p.names ≠ []) :
    (Text.split '/' p.toText.toList).map String.ofList =
      List.replicate p.root.length "" ++ p.names := by
  have hnames : (Text.split '/' (['/'].intercalate (p.names.map String.toList))).map String.ofList =
      p.names := by
    rw [Text.split_intercalate (mt List.map_eq_nil_iff.mp hne), List.map_map]
    · simp
    · exact List.forall_mem_map.mpr fun name hname => (h.names name hname).2
  have hroot := h.root
  simp only [List.mem_cons, List.not_mem_nil, or_false] at hroot
  rw [toList_toText hne]
  rcases hroot with hr | hr | hr
  all_goals rw [hr]
  · exact hnames
  · exact congrArg ("" :: ·) hnames
  · exact congrArg ("" :: "" :: ·) hnames

/-- The text of a path begins with a slash exactly if the path is absolute. -/
theorem IsPlain.head?_toText (h : p.IsPlain) (hne : p.names ≠ []) :
    p.toText.toList.head? = some '/' ↔ p.root ≠ "" := by
  have hroot := h.root
  simp only [List.mem_cons, List.not_mem_nil, or_false] at hroot
  rw [toList_toText hne]
  rcases hroot with hr | hr | hr
  · obtain ⟨name, names, hnames⟩ := List.exists_cons_of_ne_nil hne
    obtain ⟨hempty, hslash⟩ := h.names name (hnames ▸ List.mem_cons_self)
    obtain ⟨c, rest, hc⟩ := List.exists_cons_of_ne_nil (mt String.toList_eq_nil_iff.mp hempty)
    have hhead : (['/'].intercalate ((name :: names).map String.toList)).head? = some c := by
      cases names <;> simp [List.intercalate_cons_cons, hc]
    rw [hr, hnames, String.toList_empty, List.nil_append, hhead]
    refine iff_of_false (fun hc' => hslash ?_) fun hne => hne rfl
    rw [hc, Option.some.inj hc']
    exact List.mem_cons_self
  · rw [hr]
    exact iff_of_true rfl (by decide)
  · rw [hr]
    exact iff_of_true rfl (by decide)

end Path

namespace Machine

/-- The names in the text of a path. -/
def namesOf (target : String) : List String := (Text.split '/' target.toList).map String.ofList

/-- The way from the root along the text of a path. -/
def wayTo (machine : Machine) (target : String) : List String :=
  (if target.toList.head? = some '/' then [] else machine.here) ++ (namesOf target).filter (· ≠ "")

variable {machine written : Machine} {target : String} {data : Bytes}

/-- A file is written where the way to it leads to a folder in which its name is free or that of
another file. -/
theorem of_write (h : machine.write target data = .ok written) :
    holdsNull target = false ∧ (namesOf target).getLast?.getD "" ∉ ["", ".", ".."] ∧
      ∃ entries, machine.files.follow [] (machine.wayTo target).dropLast = .ok (.folder entries) ∧
        (∀ old, entries.lookup ((namesOf target).getLast?.getD "") = some old → ¬ old.IsFolder) ∧
        written = { machine with
          files := Tree.graft (.file data) (Tree.straighten [] (machine.wayTo target)) machine.files } := by
  unfold write at h
  dsimp only at h
  split at h
  · cases h
  rename_i hnull
  split at h
  · cases h
  split at h
  · cases h
  split at h
  · cases h
  · rename_i entries hfollow
    split at h
    · cases h
    rename_i hlast
    split at h
    · cases h
    · cases h
    · rename_i hfolder _
      refine ⟨Bool.eq_false_iff.mpr hnull, ?_, entries, hfollow, ?_, (Except.ok.inj h).symm⟩
      · rw [List.mem_cons, List.mem_cons, List.mem_singleton]
        exact hlast
      · rintro _ hold ⟨below, rfl⟩
        exact hfolder below hold
  · cases h

/-- The way along the text of a path is the way along the path. -/
theorem wayTo_toText {path : Path} (hpath : path.IsPlain) (hne : path.names ≠ []) :
    machine.wayTo path.toText = machine.way path := by
  have hnames : (namesOf path.toText).filter (· ≠ "") = path.names := by
    rw [namesOf, hpath.split_toText hne, List.filter_append, List.filter_replicate]
    simpa using fun name hname => (hpath.names name hname).1
  rw [wayTo, way, hnames]
  by_cases hroot : path.root = ""
  · rw [if_neg fun hhead => (hpath.head?_toText hne).mp hhead hroot, if_pos hroot]
  · rw [if_pos ((hpath.head?_toText hne).mpr hroot), if_neg hroot, List.nil_append]

theorem getLast?_namesOf {path : Path} (hpath : path.IsPlain) (hne : path.names ≠ []) :
    (namesOf path.toText).getLast? = path.names.getLast? := by
  rw [namesOf, hpath.split_toText hne, List.getLast?_append_of_ne_nil _ hne]

/-- What was written to a path is found there. -/
theorem find_of_write {path : Path} (hpath : path.IsPlain)
    (h : machine.write path.toText data = .ok written) : written.find path = .ok (.file data) := by
  obtain ⟨hnull, hlast, entries, hfollow, hold, rfl⟩ := of_write h
  have hne : path.names ≠ [] := by
    -- the texts of the paths without names end with a slash or are a dot
    intro hnil
    have hroot := hpath.root
    obtain ⟨root, names⟩ := path
    simp only [List.mem_cons, List.not_mem_nil, or_false] at hroot
    obtain rfl : names = [] := hnil
    rcases hroot with rfl | rfl | rfl <;> exact hlast (by decide)
  rw [wayTo_toText hpath hne] at hfollow ⊢
  rw [getLast?_namesOf hpath hne] at hlast hold
  obtain ⟨before, last, hnames⟩ := (List.eq_nil_or_concat path.names).resolve_left hne
  obtain ⟨above, hway⟩ : ∃ above, machine.way path = above ++ [last] := by
    rw [way, hnames, List.concat_eq_append]
    split
    · exact ⟨_, (List.append_assoc ..).symm⟩
    · exact ⟨_, rfl⟩
  rw [hnames, List.concat_eq_append, List.getLast?_concat, Option.getD_some] at hlast hold
  rw [hway, List.dropLast_concat] at hfollow
  simp only [List.mem_cons, List.not_mem_nil, or_false, not_or] at hlast
  rw [find, hnull, if_neg Bool.false_ne_true]
  have hfound : Tree.follow [] (Tree.graft (.file data)
      (Tree.straighten [] (above ++ [last])) machine.files) (above ++ [last]) = .ok (.file data) :=
    Tree.follow_graft hfollow hlast.2 hold
  rw [← hway] at hfound
  exact congrArg (Except.mapError _) hfound

/-- What was written to a path is read from it, if the machine lets it be read. -/
theorem read_of_write {path : Path} (hpath : path.IsPlain)
    (h : machine.write path.toText data = .ok written)
    (hlook : machine.refusal? .look path.toText = none)
    (hread : machine.refusal? .read path.toText = none) :
    written.entryAt path = .ok (some (.file data.size)) ∧ written.read path = .ok data := by
  have hkept (access : Access) :
      written.refusal? access path.toText = machine.refusal? access path.toText := by
    obtain ⟨-, -, _, -, -, rfl⟩ := of_write h
    rfl
  have hfind := find_of_write hpath h
  have hreach (access : Access) (hallowed : machine.refusal? access path.toText = none) :
      written.reach access path = .ok (.file data) :=
    reach_eq_ok_iff.mpr ⟨(hkept access).trans hallowed, hfind⟩
  rw [entryAt, read, hreach .look hlook, hreach .read hread]
  exact ⟨rfl, rfl⟩

end Machine

end QbLint
