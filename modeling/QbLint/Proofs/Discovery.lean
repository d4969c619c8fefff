import Mathlib.Data.List.Sort
import QbLint.Proofs.Files
import QbLint.Proofs.Lint
import QbLint.Proofs.Overlay

/-!
# The scripts below a folder

Searching a folder finds each file below it whose name ends as that of a script does, once, in the
order of the names; what is no folder stands for itself. Searching only the folder itself, which is
done in another way, finds those among the scripts below it that lie in it.

* `Tree.IsProper`: a tree in which no two entries of a folder share a name;
* `Path.Before`: the order of paths; `Path.pairwise_sort`: sorting puts each path before the next;
* `Machine.find_append`: what lies below a folder is found along the names from there on;
* `Machine.mem_filesFrom_iff`, `Machine.hinders_of_filesFrom`: the files that a search of a folder
  comes to, and what keeps it from that;
* `Selection.mem_found_iff`: the scripts that are found below a folder;
* `Selection.discover_spec`: the scripts that paths come to, and those that lie in a folder.
-/

namespace QbLint

/-! ## Trees -/

namespace Tree

/-- A name that a file or a folder can have. -/
def IsName (name : String) : Prop :=
  name ∉ ["", ".", ".."] ∧ '/' ∉ name.toList ∧ '\x00' ∉ name.toList

instance : DecidablePred IsName := fun _ => inferInstanceAs (Decidable (_ ∧ _ ∧ _))

/-- A tree as it can lie on a disk: entries have names, and no two entries of a folder share one. -/
inductive IsProper : Tree → Prop
  | file (data : Bytes) : IsProper (.file data)
  | sealed : IsProper .sealed
  | folder {entries : List (String × Tree)} (hnames : ∀ entry ∈ entries, IsName entry.1)
    (hdistinct : (entries.map Prod.fst).Nodup) (hinner : ∀ entry ∈ entries, IsProper entry.2) :
    IsProper (.folder entries)

variable {t inner : Tree} {trail : List Tree} {way first second : List String}

/-- What lies somewhere in a proper tree is one. -/
theorem IsProper.of_at? (ht : t.IsProper) (h : t.at? way = some inner) : inner.IsProper := by
  induction way generalizing t with
  | nil => exact Option.some.inj h ▸ ht
  | cons name rest ih =>
    cases ht with
    | file | «sealed» => cases h
    | @folder entries hnames hdistinct hinner =>
      rw [at?] at h
      cases hlookup : entries.lookup name with
      | none =>
        rw [hlookup] at h
        cases h
      | some below =>
        rw [hlookup] at h
        exact ih (hinner _ ((lookup_eq_some_iff_mem hdistinct).mp hlookup)) h

/-! ### Following a way further -/

/-- Along names that are no dots a way leads to what lies at the end of the plain way. -/
theorem follow_eq_ok_iff_at? (hway : ∀ name ∈ way, IsName name) :
    follow trail t way = .ok inner ↔ t.at? way = some inner := by
  induction way generalizing t trail with
  | nil => exact (Except.ok.injEq ..).to_iff.trans (Option.some.injEq ..).to_iff.symm
  | cons name rest ih =>
    obtain ⟨hname, hrest⟩ := List.forall_mem_cons.mp hway
    cases t with
    | file | «sealed» => simp [follow, at?]
    | folder entries =>
      have hdot : name ≠ "." := fun h => hname.1 (by simp [h])
      have hdots : name ≠ ".." := fun h => hname.1 (by simp [h])
      simp only [follow, at?, if_neg hdot, if_neg hdots]
      cases entries.lookup name with
      | none => simp
      | some below => exact ih hrest

theorem follow_append_eq_ok_iff (hfirst : follow trail t first = .ok inner) {last : Tree}
    (hsecond : ∀ name ∈ second, IsName name) :
    follow trail t (first ++ second) = .ok last ↔ inner.at? second = some last := by
  fun_induction follow trail t first with
  | case1 trail t =>
    obtain rfl := Except.ok.inj hfirst
    exact follow_eq_ok_iff_at? hsecond
  | case2 trail rest entries ih =>
    simp only [List.cons_append, follow, if_true]
    exact ih hfirst
  | case3 rest entries hdot ih =>
    simp only [List.cons_append, follow, if_neg hdot, if_true]
    exact ih hfirst
  | case4 rest entries above trail hdot ih =>
    simp only [List.cons_append, follow, if_neg hdot, if_true]
    exact ih hfirst
  | case6 trail name rest entries hdot hdots below hlookup ih =>
    simp only [List.cons_append, follow, if_neg hdot, if_neg hdots, hlookup]
    exact ih hfirst
  | case5 | case7 => cases hfirst

end Tree

/-! ## The order of paths -/

namespace Path

variable {p q r : Path} {paths : List Path} {names : List String}

/-- In the first name in which two paths differ, that of the first path is less, or the first path
ends where the second goes on. -/
def Before (p q : Path) : Prop := List.Lex (· < ·) p.key q.key

theorem precedes_iff : p.precedes q ↔ p.Before q := by
  rw [precedes, List.lex_eq_true_iff_lex]
  simp only [decide_eq_true_eq]
  rfl

instance (p q : Path) : Decidable (p.Before q) := decidable_of_iff _ precedes_iff

/-- Names are compared one by one, so that what lies in a folder stays together. -/
example : (Path.ofText "sub/x").Before (.ofText "sub-1/x") := by decide

theorem Before.trans (hpq : p.Before q) (hqr : q.Before r) : p.Before r :=
  List.lex_trans String.lt_trans hpq hqr

theorem not_before_self (p : Path) : ¬ p.Before p := irrefl (r := List.Lex (· < ·)) p.key

theorem Before.not_before (hpq : p.Before q) : ¬ q.Before p :=
  fun hqp => not_before_self p (hpq.trans hqp)

theorem key_eq_of_not_before (hpq : ¬ p.Before q) (hqp : ¬ q.Before p) : p.key = q.key :=
  Std.Trichotomous.trichotomous (r := List.Lex (· < ·)) _ _ hpq hqp

instance : Std.Irrefl Before := ⟨not_before_self⟩

instance : Std.Antisymm Before := ⟨fun _ _ hpq hqp => absurd hqp hpq.not_before⟩

theorem mem_sort : p ∈ sort paths ↔ p ∈ paths := List.mem_mergeSort

/-- Sorting puts each path before those behind it, if no two of the paths have the same names. -/
theorem pairwise_sort (hd : paths.Nodup)
    (hkey : ∀ p ∈ paths, ∀ q ∈ paths, p.key = q.key → p = q) : (sort paths).Pairwise Before := by
  have htrans : ∀ p q r : Path, (!q.precedes p) = true → (!r.precedes q) = true →
      (!r.precedes p) = true := by
    simp only [Bool.not_eq_true', ← Bool.not_eq_true, precedes_iff]
    intro p q r hqp hrq hrp
    by_cases hpq : p.Before q
    · exact hrq (hrp.trans hpq)
    · have hsame : p.key = q.key := key_eq_of_not_before hpq hqp
      rw [Before, hsame] at hrp
      exact hrq hrp
  have htotal : ∀ p q : Path, ((!q.precedes p) || (!p.precedes q)) = true := by
    simp only [Bool.or_eq_true, Bool.not_eq_true', ← Bool.not_eq_true, precedes_iff]
    intro p q
    by_cases hqp : q.Before p
    · exact .inr hqp.not_before
    · exact .inl hqp
  have hsorted := List.pairwise_mergeSort htrans htotal paths
  have hnodup : (sort paths).Nodup := List.nodup_mergeSort.mpr hd
  refine (hsorted.and hnodup).imp_of_mem fun hp hq hpair => ?_
  obtain ⟨hle, hne⟩ := hpair
  simp only [Bool.not_eq_true', ← Bool.not_eq_true, precedes_iff] at hle
  by_contra hnot
  exact hne (hkey _ (mem_sort.mp hp) _ (mem_sort.mp hq) (key_eq_of_not_before hnot hle))

/-! ### Paths below a folder -/

/-- The folder in which a path lies. -/
def parent (p : Path) : Path := { p with names := p.names.dropLast }

/-- A path leads on from a folder, along names of files and folders. -/
def IsBelow (folder script : Path) : Prop :=
  ∃ names, names ≠ [] ∧ (∀ name ∈ names, Tree.IsName name) ∧ script = folder.append names

theorem append_injective (folder : Path) : Function.Injective folder.append := fun _ _ h =>
  List.append_cancel_left (congrArg Path.names h)

theorem append_append (p : Path) (first second : List String) :
    (p.append first).append second = p.append (first ++ second) := by
  simp only [append, List.append_assoc]

theorem append_nil (p : Path) : p.append [] = p := by
  simp only [append, List.append_nil]

theorem eq_of_key_append {first second : List String}
    (h : (p.append first).key = (p.append second).key) : p.append first = p.append second := by
  unfold key append at h
  unfold append
  dsimp only at h
  split at h
  · rw [h]
  · rw [(List.cons.inj h).2]

theorem parent_append (hne : names ≠ []) :
    (p.append names).parent = p ↔ ∃ name, names = [name] := by
  obtain ⟨before, last, rfl⟩ := (List.eq_nil_or_concat names).resolve_left hne
  obtain ⟨root, own⟩ := p
  have hdrop : (own ++ (before ++ [last])).dropLast = own ++ before := by
    rw [← List.append_assoc, List.dropLast_concat]
  simp only [parent, append, List.concat_eq_append, mk.injEq, true_and, hdrop,
    List.append_right_eq_self]
  cases before <;> simp

theorem holdsNull_toText :
    Machine.holdsNull p.toText = true ↔
      '\x00' ∈ p.root.toList ∨ ∃ name ∈ p.names, '\x00' ∈ name.toList := by
  have hslash : '\x00' ≠ '/' := by decide
  rw [Machine.holdsNull, List.contains_iff_mem]
  by_cases hne : p.names = []
  · rw [toText, hne]
    split
    · rename_i hroot
      simp [hroot.1]
    · simp
  · rw [toList_toText hne, List.mem_append, Text.mem_intercalate_iff hslash]
    simp

end Path

/-! ## Files below a folder -/

namespace Machine

variable {machine : Machine} {folder script : Path} {t last : Tree} {names way : List String}
  {entries : List (String × Tree)} {files : List Path} {name : String} {e : FileError}

theorem exists_find_of_entryAt {entry : Entry} (h : machine.entryAt script = .ok (some entry)) :
    ∃ t, machine.find script = .ok t ∧ entryOf t = entry := by
  obtain ⟨t, hreach, ht⟩ := entryAt_eq_some_iff.mp h
  exact ⟨t, (reach_eq_ok_iff.mp hreach).2, ht⟩

theorem exists_find_of_folder (h : machine.entryAt folder = .ok (some .folder)) :
    ∃ entries, machine.find folder = .ok (.folder entries) := by
  obtain ⟨t, hfind, ht⟩ := exists_find_of_entryAt h
  cases t with
  | file | «sealed» => cases ht
  | folder entries => exact ⟨entries, hfind⟩

theorem follow_of_find (h : machine.find folder = .ok t) :
    holdsNull folder.toText = false ∧ machine.files.follow [] (machine.way folder) = .ok t := by
  unfold find at h
  split at h
  · cases h
  · rename_i hnull
    cases hfollow : machine.files.follow [] (machine.way folder) with
    | error obstacle =>
      rw [hfollow] at h
      cases h
    | ok found =>
      rw [hfollow] at h
      exact ⟨Bool.eq_false_iff.mpr hnull, congrArg _ (Except.ok.inj h)⟩

/-- What lies below something is found along the names from there on. -/
theorem find_append (h : machine.find folder = .ok t) (hnames : ∀ name ∈ names, Tree.IsName name) :
    machine.find (folder.append names) = .ok last ↔ t.at? names = some last := by
  obtain ⟨hnull, hfollow⟩ := follow_of_find h
  have hnull' : holdsNull (folder.append names).toText = false := by
    rw [← Bool.not_eq_true, Path.holdsNull_toText] at hnull ⊢
    rintro (hroot | ⟨name, hname, hmem⟩)
    · exact hnull (.inl hroot)
    · rcases List.mem_append.mp hname with hname | hname
      · exact hnull (.inr ⟨name, hname, hmem⟩)
      · exact (hnames name hname).2.2 hmem
  have hway : machine.way (folder.append names) = machine.way folder ++ names := by
    unfold way Path.append
    dsimp only
    split
    · rw [List.append_assoc]
    · rfl
  rw [← Tree.follow_append_eq_ok_iff hfollow hnames, ← hway, find, hnull']
  cases machine.files.follow [] (machine.way (folder.append names)) <;> simp [Except.mapError]

theorem isProper_of_find (hm : machine.files.IsProper) (h : machine.find folder = .ok t) :
    t.IsProper :=
  hm.of_at? (Tree.Stands.root.follow_eq_ok_iff.mp (follow_of_find h).2).2

/-- What has a name in a folder is found under it. -/
theorem find_of_mem (hproper : (Tree.folder entries).IsProper)
    (h : machine.find folder = .ok (.folder entries)) {entry : String × Tree}
    (hentry : entry ∈ entries) : machine.find (folder.append [entry.1]) = .ok entry.2 := by
  cases hproper with
  | folder hnames hdistinct hinner =>
    rw [find_append h (List.forall_mem_singleton.mpr (hnames entry hentry)), Tree.at?,
      (lookup_eq_some_iff_mem hdistinct).mpr hentry]
    rfl

/-! ### What a search comes to -/

/-- Each folder on the way along some names may be listed. -/
def MayList (machine : Machine) (folder : Path) : List String → Prop
  | [] => True
  | name :: rest =>
    machine.refusal? .list folder.toText = none ∧ machine.MayList (folder.append [name]) rest

/-- Names lead from a folder to a file, along folders that may be listed. -/
structure LeadsToFile (machine : Machine) (folder : Path) (way : List String) : Prop where
  ne_nil : way ≠ []
  isName : ∀ name ∈ way, Tree.IsName name
  mayList : machine.MayList folder way
  file : ∃ size, machine.entryAt (folder.append way) = .ok (some (.file size))

theorem LeadsToFile.exists_at? (h : machine.LeadsToFile folder way)
    (hfind : machine.find folder = .ok t) : ∃ inner, t.at? way = some inner := by
  obtain ⟨size, hsize⟩ := h.file
  obtain ⟨inner, hinner, -⟩ := exists_find_of_entryAt hsize
  exact ⟨inner, (find_append hfind h.isName).mp hinner⟩

theorem LeadsToFile.exists_mem (h : machine.LeadsToFile folder (name :: way))
    (hproper : (Tree.folder entries).IsProper) (hfind : machine.find folder = .ok (.folder entries)) :
    ∃ inner, (name, inner) ∈ entries := by
  obtain ⟨last, hlast⟩ := h.exists_at? hfind
  rw [Tree.at?] at hlast
  cases hlookup : entries.lookup name with
  | none =>
    rw [hlookup] at hlast
    cases hlast
  | some inner =>
    cases hproper with
    | folder hnames hdistinct hinner =>
      exact ⟨inner, (lookup_eq_some_iff_mem hdistinct).mp hlookup⟩

theorem leadsToFile_cons_iff (hway : way ≠ []) :
    machine.LeadsToFile folder (name :: way) ↔
      machine.refusal? .list folder.toText = none ∧ Tree.IsName name ∧
        machine.LeadsToFile (folder.append [name]) way := by
  constructor
  · rintro ⟨-, hnames, ⟨hlist, hrest⟩, hfile⟩
    rw [List.forall_mem_cons] at hnames
    refine ⟨hlist, hnames.1, hway, hnames.2, hrest, ?_⟩
    rwa [Path.append_append]
  · rintro ⟨hlist, hname, -, hnames, hrest, hfile⟩
    refine ⟨List.cons_ne_nil _ _, List.forall_mem_cons.mpr ⟨hname, hnames⟩, ⟨hlist, hrest⟩, ?_⟩
    rwa [Path.append_append] at hfile

theorem leadsToFile_singleton_iff :
    machine.LeadsToFile folder [name] ↔
      machine.refusal? .list folder.toText = none ∧ Tree.IsName name ∧
        ∃ size, machine.entryAt (folder.append [name]) = .ok (some (.file size)) := by
  constructor
  · rintro ⟨-, hnames, ⟨hlist, -⟩, hfile⟩
    exact ⟨hlist, List.forall_mem_singleton.mp hnames, hfile⟩
  · rintro ⟨hlist, hname, hfile⟩
    exact ⟨List.cons_ne_nil _ _, List.forall_mem_singleton.mpr hname, ⟨hlist, trivial⟩, hfile⟩

theorem filesNamed_cons (machine : Machine) (folder : Path) (name : String) (rest : List String) :
    machine.filesNamed folder (name :: rest) = (do
      match ← machine.entryAt (folder.append [name]) with
      | some (.file _) => return folder.append [name] :: (← machine.filesNamed folder rest)
      | _ => machine.filesNamed folder rest) :=
  rfl

theorem filesNamed_sublist (h : machine.filesNamed folder names = .ok files) :
    files.Sublist (names.map fun name => folder.append [name]) := by
  induction names generalizing files with
  | nil =>
    obtain rfl := Except.ok.inj h
    exact .slnil
  | cons name rest ih =>
    rw [filesNamed_cons, except_bind_eq_ok_iff] at h
    obtain ⟨kind?, -, h⟩ := h
    split at h
    · obtain ⟨own, hown, h⟩ := except_bind_eq_ok_iff.mp h
      obtain rfl := Except.ok.inj h
      exact (ih hown).cons_cons _
    · exact (ih h).cons _

/-- The files among what has one of some names. -/
theorem mem_filesNamed_iff (h : machine.filesNamed folder names = .ok files) :
    script ∈ files ↔ ∃ name ∈ names, script = folder.append [name] ∧
      ∃ size, machine.entryAt (folder.append [name]) = .ok (some (.file size)) := by
  induction names generalizing files with
  | nil =>
    obtain rfl := Except.ok.inj h
    simp
  | cons name rest ih =>
    rw [filesNamed_cons, except_bind_eq_ok_iff] at h
    obtain ⟨kind?, hentry, h⟩ := h
    rw [List.exists_mem_cons_iff]
    split at h
    · rename_i size
      obtain ⟨own, hown, h⟩ := except_bind_eq_ok_iff.mp h
      obtain rfl := Except.ok.inj h
      rw [List.mem_cons, ih hown, and_iff_left ⟨size, hentry⟩]
    · rename_i hfile
      rw [ih h, iff_or_self]
      rintro ⟨-, size, hsize⟩
      exact absurd (Except.ok.inj (hentry.symm.trans hsize)) (hfile size)

theorem filesAmong_eq (machine : Machine) (folder : Path) (entries : List (String × Tree)) :
    machine.filesAmong folder entries =
      (entries.mapM fun entry => machine.filesFrom (folder.append [entry.1]) entry.2).map
        List.flatten := by
  induction entries with
  | nil => rfl
  | cons entry rest ih =>
    rw [filesAmong, ih, List.mapM_cons]
    cases machine.filesFrom (folder.append [entry.1]) entry.2 with
    | error e => rfl
    | ok below =>
      cases rest.mapM fun entry => machine.filesFrom (folder.append [entry.1]) entry.2 <;> rfl

/-- A folder that may be listed comes to the files in it and to those below its entries. -/
theorem filesFrom_folder_of_listed (hlist : machine.refusal? .list folder.toText = none) :
    machine.filesFrom folder (.folder entries) = (do
      let own ← machine.filesNamed folder (entries.map Prod.fst)
      let inner ← entries.mapM fun entry => machine.filesFrom (folder.append [entry.1]) entry.2
      return own ++ inner.flatten) := by
  rw [filesFrom, hlist, filesAmong_eq]
  dsimp only
  refine bind_congr fun own => ?_
  cases entries.mapM fun entry => machine.filesFrom (folder.append [entry.1]) entry.2 <;> rfl

theorem exists_of_filesFrom_folder (hlist : machine.refusal? .list folder.toText = none)
    (h : machine.filesFrom folder (.folder entries) = .ok files) :
    ∃ own below, machine.filesNamed folder (entries.map Prod.fst) = .ok own ∧
      (∀ entry ∈ entries,
        machine.filesFrom (folder.append [entry.1]) entry.2 = .ok (below entry)) ∧
      files = own ++ entries.flatMap below := by
  rw [filesFrom_folder_of_listed hlist] at h
  obtain ⟨own, hown, h⟩ := except_bind_eq_ok_iff.mp h
  obtain ⟨inner, hinner, h⟩ := except_bind_eq_ok_iff.mp h
  obtain ⟨below, hbelow, rfl⟩ := exists_of_except_mapM_eq_ok hinner
  exact ⟨own, below, hown, hbelow, (Except.ok.inj h).symm⟩

/-- A search that comes to files in a folder that may not be listed finds none in it. -/
theorem eq_nil_of_filesFrom_folder {refused : FileError}
    (hlist : machine.refusal? .list folder.toText = some refused)
    (h : machine.filesFrom folder (.folder entries) = .ok files) : files = [] := by
  rw [filesFrom, hlist] at h
  dsimp only at h
  split at h
  · exact (Except.ok.inj h).symm
  · cases h

/-- The files that a search of a folder comes to are those to which names lead from there. -/
theorem mem_filesFrom_iff (ht : t.IsProper) (hfind : machine.find folder = .ok t)
    (h : machine.filesFrom folder t = .ok files) :
    script ∈ files ↔ ∃ way, script = folder.append way ∧ machine.LeadsToFile folder way := by
  induction ht generalizing folder files script with
  | file | «sealed» =>
    -- below a file there is nothing
    rw [filesFrom] at h
    · obtain rfl := Except.ok.inj h
      refine iff_of_false List.not_mem_nil ?_
      rintro ⟨way, -, hway⟩
      obtain ⟨inner, hinner⟩ := hway.exists_at? hfind
      obtain ⟨name, rest, rfl⟩ := List.exists_cons_of_ne_nil hway.ne_nil
      cases hinner
    · exact nofun
  | @folder entries hnames hdistinct hinner ih =>
    have hproper : (Tree.folder entries).IsProper := .folder hnames hdistinct hinner
    cases hlist : machine.refusal? .list folder.toText with
    | some refused =>
      rw [eq_nil_of_filesFrom_folder hlist h]
      refine iff_of_false List.not_mem_nil ?_
      rintro ⟨way, -, hway⟩
      obtain ⟨name, rest, rfl⟩ := List.exists_cons_of_ne_nil hway.ne_nil
      cases hlist.symm.trans hway.mayList.1
    | none =>
      obtain ⟨own, below, hown, hbelow, rfl⟩ := exists_of_filesFrom_folder hlist h
      rw [List.mem_append, mem_filesNamed_iff hown, List.mem_flatMap]
      constructor
      · rintro (⟨name, hname, rfl, hfile⟩ | ⟨entry, hentry, hscript⟩)
        · obtain ⟨entry, hentry, rfl⟩ := List.mem_map.mp hname
          exact ⟨[entry.1], rfl, leadsToFile_singleton_iff.mpr ⟨hlist, hnames entry hentry, hfile⟩⟩
        · have hfound := find_of_mem hproper hfind hentry
          obtain ⟨way, rfl, hway⟩ := (ih entry hentry hfound (hbelow entry hentry)).mp hscript
          refine ⟨entry.1 :: way, Path.append_append .., ?_⟩
          exact (leadsToFile_cons_iff hway.ne_nil).mpr ⟨hlist, hnames entry hentry, hway⟩
      · rintro ⟨way, rfl, hway⟩
        obtain ⟨name, rest, rfl⟩ := List.exists_cons_of_ne_nil hway.ne_nil
        obtain ⟨inner, hentry⟩ := hway.exists_mem hproper hfind
        by_cases hrest : rest = []
        · subst hrest
          exact .inl ⟨name, List.mem_map_of_mem hentry, rfl,
            (leadsToFile_singleton_iff.mp hway).2.2⟩
        · have hfound := find_of_mem hproper hfind hentry
          have hrest' := ((leadsToFile_cons_iff hrest).mp hway).2.2
          refine .inr ⟨_, hentry, (ih _ hentry hfound (hbelow _ hentry)).mpr ⟨rest, ?_, hrest'⟩⟩
          exact (folder.append_append [name] rest).symm

/-- No file is come to twice. -/
theorem nodup_filesFrom (ht : t.IsProper) (hfind : machine.find folder = .ok t)
    (h : machine.filesFrom folder t = .ok files) : files.Nodup := by
  induction ht generalizing folder files with
  | file | «sealed» =>
    rw [filesFrom] at h
    · obtain rfl := Except.ok.inj h
      exact List.nodup_nil
    · exact nofun
  | @folder entries hnames hdistinct hinner ih =>
    have hproper : (Tree.folder entries).IsProper := .folder hnames hdistinct hinner
    cases hlist : machine.refusal? .list folder.toText with
    | some refused =>
      rw [eq_nil_of_filesFrom_folder hlist h]
      exact List.nodup_nil
    | none =>
      obtain ⟨own, below, hown, hbelow, rfl⟩ := exists_of_filesFrom_folder hlist h
      have hway {entry : String × Tree} {script : Path} (hentry : entry ∈ entries)
          (hscript : script ∈ below entry) :
          ∃ way, way ≠ [] ∧ script = folder.append (entry.1 :: way) := by
        have hfound := find_of_mem hproper hfind hentry
        obtain ⟨way, rfl, hway⟩ :=
          (mem_filesFrom_iff (hinner _ hentry) hfound (hbelow _ hentry)).mp hscript
        exact ⟨way, hway.ne_nil, Path.append_append ..⟩
      rw [List.nodup_append', List.nodup_flatMap]
      refine ⟨?_, ⟨fun entry hentry => ?_, ?_⟩, ?_⟩
      · refine List.Nodup.sublist (filesNamed_sublist hown) (hdistinct.map fun first second heq => ?_)
        exact (List.cons.inj (folder.append_injective heq)).1
      · exact ih entry hentry (find_of_mem hproper hfind hentry) (hbelow entry hentry)
      · -- ways through two entries differ in their first name
        refine (List.pairwise_map.mp hdistinct).imp_of_mem fun hfirst hsecond hne => ?_
        intro script hscript hscript'
        obtain ⟨way, -, rfl⟩ := hway hfirst hscript
        obtain ⟨way', -, heq⟩ := hway hsecond hscript'
        exact hne (List.cons.inj (folder.append_injective heq)).1
      · -- a way to a file in the folder is a single name
        intro script hscript hscript'
        obtain ⟨name, -, rfl, -⟩ := (mem_filesNamed_iff hown).mp hscript
        obtain ⟨entry, hentry, hinner'⟩ := List.mem_flatMap.mp hscript'
        obtain ⟨way, hne, heq⟩ := hway hentry hinner'
        exact hne (List.cons.inj (folder.append_injective heq)).2.symm

/-- The machine keeps a search of a folder from what lies there: a folder may not be listed, and not
for want of a permission, or what a path leads to cannot be told. -/
inductive Hinders (machine : Machine) (folder : Path) (e : FileError) : Prop
  | list {way : List String} : (∀ name ∈ way, Tree.IsName name) →
    machine.refusal? .list (folder.append way).toText = some e → e.isPermission = false →
    machine.Hinders folder e
  | look {way : List String} : (∀ name ∈ way, Tree.IsName name) →
    machine.entryAt (folder.append way) = .error e → machine.Hinders folder e

theorem Hinders.of_append (hname : Tree.IsName name) (h : machine.Hinders (folder.append [name]) e) :
    machine.Hinders folder e := by
  rcases h with ⟨hway, hlist, hpermission⟩ | ⟨hway, hlook⟩
  · rw [Path.append_append] at hlist
    exact .list (List.forall_mem_cons.mpr ⟨hname, hway⟩) hlist hpermission
  · rw [Path.append_append] at hlook
    exact .look (List.forall_mem_cons.mpr ⟨hname, hway⟩) hlook

/-- On a machine that refuses nothing nothing is kept from a search. -/
theorem not_hinders (h : ∀ access path, machine.refusal? access path = none) :
    ¬ machine.Hinders folder e := by
  rintro (⟨-, hlist, -⟩ | ⟨-, hlook⟩)
  · cases (h _ _).symm.trans hlist
  · cases (h _ _).symm.trans (entryAt_eq_error_iff.mp hlook).1

theorem exists_of_filesNamed_eq_error (h : machine.filesNamed folder names = .error e) :
    ∃ name ∈ names, machine.entryAt (folder.append [name]) = .error e := by
  induction names with
  | nil => cases h
  | cons name rest ih =>
    rw [filesNamed_cons, except_bind_eq_error_iff] at h
    rw [List.exists_mem_cons_iff]
    rcases h with h | ⟨kind?, -, h⟩
    · exact .inl h
    · split at h
      · rcases except_bind_eq_error_iff.mp h with h | ⟨_, -, h⟩
        · exact .inr (ih h)
        · cases h
      · exact .inr (ih h)

/-- A search that fails was kept from what lies in the folder. -/
theorem hinders_of_filesFrom (ht : t.IsProper) (h : machine.filesFrom folder t = .error e) :
    machine.Hinders folder e := by
  induction ht generalizing folder with
  | file | «sealed» =>
    rw [filesFrom] at h
    · cases h
    · exact nofun
  | @folder entries hnames hdistinct hinner ih =>
    cases hlist : machine.refusal? .list folder.toText with
    | some refused =>
      rw [filesFrom, hlist] at h
      dsimp only at h
      split at h
      · cases h
      · rename_i hpermission
        obtain rfl := Except.error.inj h
        refine .list (List.forall_mem_nil _) ?_ (Bool.eq_false_iff.mpr hpermission)
        rwa [Path.append_nil]
    | none =>
      rw [filesFrom_folder_of_listed hlist, except_bind_eq_error_iff] at h
      rcases h with h | ⟨own, -, h⟩
      · obtain ⟨name, hname, hlook⟩ := exists_of_filesNamed_eq_error h
        obtain ⟨entry, hentry, rfl⟩ := List.mem_map.mp hname
        exact .look (List.forall_mem_singleton.mpr (hnames entry hentry)) hlook
      · rcases except_bind_eq_error_iff.mp h with h | ⟨_, -, h⟩
        · obtain ⟨before, entry, after, rfl, -, hentry⟩ := except_mapM_eq_error_iff.mp h
          have hmem : entry ∈ before ++ entry :: after :=
            List.mem_append_right _ List.mem_cons_self
          exact (ih entry hmem hentry).of_append (hnames entry hmem)
        · cases h

/-! ### The files in a folder -/

theorem filesBelow_of_find (h : machine.find folder = .ok t) :
    machine.filesBelow folder = machine.filesFrom folder t := by
  rw [filesBelow, h]

/-- The files in a folder whose search comes to files are those that lie in it. -/
theorem exists_filesIn (hm : machine.files.IsProper)
    (hfind : machine.find folder = .ok (.folder entries))
    (hlist : machine.refusal? .list folder.toText = none)
    (h : machine.filesBelow folder = .ok files) :
    ∃ own, machine.filesIn folder = .ok own ∧ own.Nodup ∧
      ∀ script, script ∈ own ↔ script ∈ files ∧ script.parent = folder := by
  have hproper := isProper_of_find hm hfind
  rw [filesBelow_of_find hfind] at h
  obtain ⟨own, below, hown, -, -⟩ := exists_of_filesFrom_folder hlist h
  have hreach : machine.reach .list folder = .ok (.folder entries) :=
    reach_eq_ok_iff.mpr ⟨hlist, hfind⟩
  refine ⟨own, ?_, ?_, fun script => ?_⟩
  · rw [filesIn, hreach]
    exact hown
  · cases hproper with
    | folder hnames hdistinct hinner =>
      refine List.Nodup.sublist (filesNamed_sublist hown) (hdistinct.map fun first second heq => ?_)
      exact (List.cons.inj (folder.append_injective heq)).1
  · rw [mem_filesNamed_iff hown, mem_filesFrom_iff hproper hfind h]
    constructor
    · rintro ⟨name, hname, rfl, hfile⟩
      refine ⟨⟨[name], rfl, leadsToFile_singleton_iff.mpr ⟨hlist, ?_, hfile⟩⟩, ?_⟩
      · obtain ⟨entry, hentry, rfl⟩ := List.mem_map.mp hname
        cases hproper with
        | folder hnames hdistinct hinner => exact hnames entry hentry
      · exact (Path.parent_append (List.cons_ne_nil _ _)).mpr ⟨name, rfl⟩
    · rintro ⟨⟨way, rfl, hway⟩, hparent⟩
      obtain ⟨name, rfl⟩ := (Path.parent_append hway.ne_nil).mp hparent
      obtain ⟨inner, hentry⟩ := hway.exists_mem hproper hfind
      exact ⟨name, List.mem_map_of_mem hentry, rfl, (leadsToFile_singleton_iff.mp hway).2.2⟩

end Machine

/-! ## Finding scripts -/

/-- A script below a folder, for some endings, of which the case does not matter. Each folder on the
way to it may be listed. -/
structure Machine.IsScriptBelow (machine : Machine) (endings : List String)
    (folder script : Path) : Prop where
  below : folder.IsBelow script
  mayList : ∀ way, script = folder.append way → machine.MayList folder way
  file : ∃ size, machine.entryAt script = .ok (some (.file size))
  ending : Text.lower script.suffix ∈ endings.map Text.lower

theorem Machine.exists_leadsToFile_iff {machine : Machine} {folder script : Path} :
    (∃ way, script = folder.append way ∧ machine.LeadsToFile folder way) ↔
      folder.IsBelow script ∧ (∀ way, script = folder.append way → machine.MayList folder way) ∧
        ∃ size, machine.entryAt script = .ok (some (.file size)) := by
  constructor
  · rintro ⟨way, rfl, hne, hnames, hlist, hfile⟩
    refine ⟨⟨way, hne, hnames, rfl⟩, fun other heq => ?_, hfile⟩
    exact folder.append_injective heq ▸ hlist
  · rintro ⟨⟨way, hne, hnames, rfl⟩, hlist, hfile⟩
    exact ⟨way, rfl, hne, hnames, hlist way rfl, hfile⟩

theorem Machine.isScriptBelow_iff {machine : Machine} {endings : List String}
    {folder script : Path} :
    machine.IsScriptBelow endings folder script ↔
      (∃ way, script = folder.append way ∧ machine.LeadsToFile folder way) ∧
        Text.lower script.suffix ∈ endings.map Text.lower := by
  rw [exists_leadsToFile_iff]
  constructor
  · rintro ⟨hbelow, hlist, hfile, hending⟩
    exact ⟨⟨hbelow, hlist, hfile⟩, hending⟩
  · rintro ⟨⟨hbelow, hlist, hfile⟩, hending⟩
    exact ⟨hbelow, hlist, hfile, hending⟩

namespace Selection

variable {s : Selection} {machine : Machine} {folder script entry : Path} {scripts : List Path}
  {e : FileError}

/-- The scripts that are found below a folder, if it can be searched. -/
def found (s : Selection) (machine : Machine) (folder : Path) : Except FileError (List Path) :=
  machine.answer (s.discover true [folder])

/-- What a path comes to where folders are searched: a folder comes to the scripts that are found
below it, and anything else to itself. -/
def searched (s : Selection) (machine : Machine) (entry : Path) : Except FileError (List Path) :=
  match machine.entryAt entry with
  | .error e => .error e
  | .ok (some .folder) => s.found machine entry
  | .ok _ => .ok [entry]

theorem suffixes_of (maxMegabytes : Int) (endings : List String) :
    (Selection.of maxMegabytes endings).suffixes =
      (if endings = [] then [".qb"] else endings).map Text.lower := by
  cases endings with
  | nil => rfl
  | cons ending endings => rfl

theorem answer_expand (s : Selection) (recursive : Bool) (machine : Machine) (entry : Path) :
    machine.answer (s.expand recursive entry) =
      match machine.entryAt entry with
      | .error e => .error e
      | .ok (some .folder) =>
        if recursive then (machine.filesBelow entry).map s.scripts else .ok [entry]
      | .ok _ => .ok [entry] := by
  unfold expand
  simp only [Machine.answer_entryAt_bind]
  cases machine.entryAt entry with
  | error e => rfl
  | ok kind? =>
    obtain _ | _ | _ := kind?
    · rfl
    · rfl
    · dsimp only
      split
      · rw [Machine.answer_filesBelow_bind]
        cases machine.filesBelow entry with
        | error e => rfl
        | ok files =>
          dsimp only
          split <;> rfl
      · rfl

/-- Paths come to what each of them comes to, in their order. -/
theorem answer_discover (s : Selection) (recursive : Bool) (machine : Machine)
    (entries : List Path) :
    machine.answer (s.discover recursive entries) =
      (entries.mapM fun entry => machine.answer (s.expand recursive entry)).map List.flatten := by
  induction entries with
  | nil => rfl
  | cons entry rest ih =>
    have hrest := (readOnly_expand s recursive entry).answer_after
      (readOnly_discover s recursive rest).oblivious machine
    rw [discover, Machine.answer_bind, List.mapM_cons]
    cases machine.answer (s.expand recursive entry) with
    | error e => rfl
    | ok found =>
      refine (congrArg (Except.map (found ++ ·)) (hrest.trans ih)).trans ?_
      cases rest.mapM fun entry => machine.answer (s.expand recursive entry) <;> rfl

theorem answer_discover_false (s : Selection) (machine : Machine) (entries : List Path) :
    machine.answer (s.discover false entries) =
      entries.mapM fun entry => (machine.entryAt entry).map fun _ => entry := by
  rw [answer_discover]
  induction entries with
  | nil => rfl
  | cons entry rest ih =>
    rw [List.mapM_cons, List.mapM_cons, ← ih, answer_expand]
    cases machine.entryAt entry with
    | error e => rfl
    | ok kind? =>
      cases rest.mapM fun entry => machine.answer (s.expand false entry) with
      | error e => rcases kind? with _ | ⟨_ | _⟩ <;> rfl
      | ok found => rcases kind? with _ | ⟨_ | _⟩ <;> rfl

theorem found_eq_answer_expand (s : Selection) (machine : Machine) (folder : Path) :
    s.found machine folder = machine.answer (s.expand true folder) := by
  rw [found, answer_discover, List.mapM_cons]
  cases machine.answer (s.expand true folder) with
  | error e => rfl
  | ok found => exact congrArg Except.ok (List.append_nil found)

theorem found_of_folder (h : machine.entryAt folder = .ok (some .folder)) :
    s.found machine folder = (machine.filesBelow folder).map s.scripts := by
  rw [found_eq_answer_expand, answer_expand, h]
  rfl

/-- Where folders are searched, a path comes to what is searched at it. -/
theorem answer_expand_true (s : Selection) (machine : Machine) (entry : Path) :
    machine.answer (s.expand true entry) = s.searched machine entry := by
  rw [answer_expand, searched]
  cases hentry : machine.entryAt entry with
  | error e => rfl
  | ok kind? =>
    obtain _ | _ | _ := kind?
    · rfl
    · rfl
    · exact (found_of_folder hentry).symm

theorem mem_scripts {files : List Path} :
    script ∈ s.scripts files ↔ script ∈ files ∧ Text.lower script.suffix ∈ s.suffixes := by
  rw [Selection.scripts, Path.mem_sort, List.mem_filter, Path.hasSuffix, List.contains_iff_mem]

theorem pairwise_scripts {files : List Path} (hd : files.Nodup)
    (hkey : ∀ p ∈ files, ∀ q ∈ files, p.key = q.key → p = q) :
    (s.scripts files).Pairwise Path.Before := by
  refine Path.pairwise_sort (hd.filter _) fun p hp q hq => ?_
  exact hkey p (List.mem_of_mem_filter hp) q (List.mem_of_mem_filter hq)

section Folder

variable (hm : machine.files.IsProper) (h : machine.entryAt folder = .ok (some .folder))
include hm h

/-- A search of a folder that fails was kept from what lies there. -/
theorem hinders_of_found (hfound : s.found machine folder = .error e) :
    machine.Hinders folder e := by
  obtain ⟨entries, hfind⟩ := Machine.exists_find_of_folder h
  rw [found_of_folder h, Machine.filesBelow_of_find hfind] at hfound
  cases hfiles : machine.filesFrom folder (.folder entries) with
  | ok files =>
    rw [hfiles] at hfound
    cases hfound
  | error e =>
    rw [hfiles] at hfound
    obtain rfl := Except.error.inj hfound
    exact Machine.hinders_of_filesFrom (Machine.isProper_of_find hm hfind) hfiles

/-- The scripts that are found below a folder are those among the files that its search comes to. -/
theorem exists_files_of_found (hfound : s.found machine folder = .ok scripts) :
    ∃ files, machine.filesBelow folder = .ok files ∧ scripts = s.scripts files ∧ files.Nodup ∧
      (∀ p ∈ files, ∀ q ∈ files, p.key = q.key → p = q) ∧
      ∀ script, script ∈ files ↔
        ∃ way, script = folder.append way ∧ machine.LeadsToFile folder way := by
  obtain ⟨entries, hfind⟩ := Machine.exists_find_of_folder h
  have hproper := Machine.isProper_of_find hm hfind
  rw [found_of_folder h] at hfound
  cases hfiles : machine.filesBelow folder with
  | error e =>
    rw [hfiles] at hfound
    cases hfound
  | ok files =>
    rw [hfiles] at hfound
    rw [Machine.filesBelow_of_find hfind] at hfiles
    have hmem (script : Path) : script ∈ files ↔
        ∃ way, script = folder.append way ∧ machine.LeadsToFile folder way :=
      Machine.mem_filesFrom_iff hproper hfind hfiles
    refine ⟨files, rfl, (Except.ok.inj hfound).symm, Machine.nodup_filesFrom hproper hfind hfiles,
      fun p hp q hq => ?_, hmem⟩
    obtain ⟨first, rfl, -⟩ := (hmem p).mp hp
    obtain ⟨second, rfl, -⟩ := (hmem q).mp hq
    exact Path.eq_of_key_append

/-- The scripts below a folder are in the order of their paths. -/
theorem pairwise_found (hfound : s.found machine folder = .ok scripts) :
    scripts.Pairwise Path.Before := by
  obtain ⟨files, -, rfl, hnodup, hkey, -⟩ := exists_files_of_found hm h hfound
  exact pairwise_scripts hnodup hkey

/-- What is found below a folder are the files below it that end as scripts do. -/
theorem mem_found_iff (hfound : s.found machine folder = .ok scripts) :
    script ∈ scripts ↔
      (∃ way, script = folder.append way ∧ machine.LeadsToFile folder way) ∧
        Text.lower script.suffix ∈ s.suffixes := by
  obtain ⟨files, -, rfl, -, -, hmem⟩ := exists_files_of_found hm h hfound
  rw [mem_scripts, hmem]

/-- The scripts among the files that lie in a folder are those below it that lie in it. -/
theorem scripts_filesIn (hfound : s.found machine folder = .ok scripts)
    (hlist : machine.refusal? .list folder.toText = none) :
    ∃ own, machine.filesIn folder = .ok own ∧
      s.scripts own = scripts.filter fun script => script.parent = folder := by
  obtain ⟨entries, hfind⟩ := Machine.exists_find_of_folder h
  obtain ⟨files, hfiles, rfl, hnodup, hkey, -⟩ := exists_files_of_found hm h hfound
  obtain ⟨own, hown, hdistinct, hmem⟩ := Machine.exists_filesIn hm hfind hlist hfiles
  refine ⟨own, hown, ?_⟩
  -- both lists are in order, so they are one and the same as soon as they have the same members
  refine List.Pairwise.eq_of_mem_iff (r := Path.Before)
    (pairwise_scripts hdistinct fun p hp q hq => ?_)
    ((pairwise_scripts hnodup hkey).filter _) fun script => ?_
  · exact hkey p ((hmem p).mp hp).1 q ((hmem q).mp hq).1
  · rw [List.mem_filter, mem_scripts, mem_scripts, hmem, decide_eq_true_iff, and_right_comm]

end Folder

end Selection

/-! ## Linting a folder -/

namespace Linter

variable {linter : Linter} {machine : Machine} {folder : Path} {scripts : List Path}

theorem readOnly_scriptsOf (linter : Linter) (recursive : Bool) (folder : Path) :
    ReadOnly (linter.scriptsOf recursive folder) := by
  unfold scriptsOf
  split
  · exact Selection.readOnly_discover ..
  · exact .bind (.filesIn folder) fun _ => .pure _

/-- Linting a folder is linting the scripts that it comes to. -/
theorem answer_lintFolder {recursive : Bool}
    (h : machine.answer (linter.scriptsOf recursive folder) = .ok scripts) :
    machine.answer (linter.lintFolder recursive folder) =
      machine.answer (linter.lintFiles scripts) := by
  rw [lintFolder, Machine.answer_bind, h]
  exact (linter.readOnly_scriptsOf recursive folder).answer_after
    (linter.readOnly_lintFiles scripts).oblivious machine

theorem answer_scriptsOf_false (linter : Linter) (machine : Machine) (folder : Path) :
    machine.answer (linter.scriptsOf false folder) =
      (machine.filesIn folder).map linter.selection.scripts := by
  rw [scriptsOf, if_neg Bool.false_ne_true, Machine.answer_filesIn_bind]
  rfl

end Linter

namespace Selection

/-- Finding scripts loses none and makes none up. Without a search below folders paths stand for
themselves. With it each path that is no folder stands for itself, and each folder for the files at
any depth below it that end as scripts do, each of them once and in the order of the paths; if no
endings are given then that of the default counts. Linting a folder lints just these, and linting
it without the folders in it lints those of them that lie in it, in the same order. What is not told
of a path, or kept from a search, is an error; a folder that may not be listed for want of a
permission counts as empty in a search. -/
theorem discover_spec (maxMegabytes : Int) (endings : List String) (machine : Machine)
    (hm : machine.files.IsProper) :
    let s := Selection.of maxMegabytes endings
    (∀ entries : List Path, machine.answer (s.discover false entries) =
      entries.mapM fun entry => (machine.entryAt entry).map fun _ => entry) ∧
    (∀ entries : List Path, machine.answer (s.discover true entries) =
      (entries.mapM (s.searched machine)).map List.flatten) ∧
    ∀ folder, machine.entryAt folder = .ok (some .folder) →
      (∀ e, s.found machine folder = .error e → machine.Hinders folder e) ∧
      ∀ scripts, s.found machine folder = .ok scripts →
        scripts.Pairwise Path.Before ∧ scripts.Nodup ∧
        (∀ script, script ∈ scripts ↔
          machine.IsScriptBelow (if endings = [] then [".qb"] else endings) folder script) ∧
        ∀ policy : Policy,
          let inside := scripts.filter fun script => script.parent = folder
          let mayList := machine.refusal? .list folder.toText = none
          machine.answer (Linter.lintFolder ⟨policy, s⟩ true folder) =
            machine.answer (Linter.lintFiles ⟨policy, s⟩ scripts) ∧
          (mayList → machine.answer (Linter.lintFolder ⟨policy, s⟩ false folder) =
            machine.answer (Linter.lintFiles ⟨policy, s⟩ inside)) ∧
          (policy.IsAccepted → (∀ script ∈ scripts, ∀ e, ¬ s.Escapes machine script e) →
            ∃ result : Path → LintResult,
              (∀ script ∈ scripts,
                machine.answer (Linter.lintFile ⟨policy, s⟩ script) = .ok (result script)) ∧
              machine.answer (Linter.lintFolder ⟨policy, s⟩ true folder) =
                .ok (.ofResults machine.time (scripts.map result)) ∧
              (mayList → machine.answer (Linter.lintFolder ⟨policy, s⟩ false folder) =
                .ok (.ofResults machine.time (inside.map result)))) := by
  intro s
  refine ⟨answer_discover_false s machine, fun entries => ?_, fun folder h => ⟨fun e hfound => ?_,
    fun scripts hfound => ⟨?_, ?_, fun script => ?_, fun policy => ?_⟩⟩⟩
  · rw [answer_discover, funext (answer_expand_true s machine)]
  · exact hinders_of_found hm h hfound
  · exact pairwise_found hm h hfound
  · exact (pairwise_found hm h hfound).nodup
  · rw [mem_found_iff hm h hfound, Machine.isScriptBelow_iff, suffixes_of]
  · intro inside mayList
    let linter : Linter := ⟨policy, s⟩
    have hscripts : machine.answer (linter.scriptsOf true folder) = .ok scripts := by
      rw [Linter.scriptsOf, if_pos rfl]
      exact hfound
    have htrue := Linter.answer_lintFolder hscripts
    have hfalse (hlist : mayList) : machine.answer (linter.lintFolder false folder) =
        machine.answer (linter.lintFiles inside) := by
      obtain ⟨own, hown, hscripts⟩ := scripts_filesIn hm h hfound hlist
      refine Linter.answer_lintFolder ?_
      rw [linter.answer_scriptsOf_false, hown]
      exact congrArg Except.ok hscripts
    refine ⟨htrue, hfalse, fun hp hescapes => ?_⟩
    obtain ⟨result, hresult⟩ := linter.exists_results hp.valid hescapes
    refine ⟨result, hresult, htrue.trans ?_, fun hlist => (hfalse hlist).trans ?_⟩
    · exact Linter.answer_lintFiles_of_results hresult
    · exact Linter.answer_lintFiles_of_results fun script hscript =>
        hresult script (List.mem_of_mem_filter hscript)

/-- A folder whose name ends as that of a script does is none, and a name that is nothing but the
ending has none. -/
theorem discover_spec_nested :
    let files := Tree.folder [
      ("sub-1", .folder [("x.qb", .sealed)]),
      ("sub", .folder [("x.QB", .file #[0x24]), (".qb", .file #[])]),
      ("b.qb", .folder []),
      ("a.x.qb", .file #[])]
    files.IsProper ∧ Machine.entryAt { files } (.ofText ".") = .ok (some .folder) ∧
      ∃ scripts, found (.of 10 [".Qb"]) { files } (.ofText ".") = .ok scripts ∧
        scripts.Pairwise Path.Before ∧
        ∀ script, script ∈ scripts ↔
          Machine.IsScriptBelow { files } [".Qb"] (.ofText ".") script := by
  intro files
  have hproper : files.IsProper := by
    refine .folder (by decide) (by decide) ?_
    simp only [List.forall_mem_cons, List.not_mem_nil, false_imp_iff, implies_true, and_true]
    refine ⟨.folder (by decide) (by decide) ?_, .folder (by decide) (by decide) ?_,
      .folder (by decide) (by decide) ?_, .file _⟩
    · simp [Tree.IsProper.sealed]
    · simp [Tree.IsProper.file]
    · simp
  have hfolder : Machine.entryAt { files } (.ofText ".") = .ok (some .folder) := rfl
  have hspec := (discover_spec 10 [".Qb"] { files } hproper).2.2 _ hfolder
  refine ⟨hproper, hfolder, ?_⟩
  cases hfound : found (.of 10 [".Qb"]) { files } (.ofText ".") with
  | error e =>
    have hrefuses (access : Access) (path : String) : Machine.refusal? { files } access path = none := by
      unfold Machine.refusal?
      split <;> rfl
    exact absurd (hspec.1 e hfound) (Machine.not_hinders hrefuses)
  | ok scripts =>
    have hscripts := hspec.2 scripts hfound
    exact ⟨scripts, rfl, hscripts.1, hscripts.2.2.1⟩

/-- Where no endings are given scripts are found none the less. -/
theorem found_without_endings :
    let machine : Machine := { files := .folder [("a.qb", .file #[0x01])] }
    (∃ scripts, machine.answer ((Selection.of 10 []).discover true [.ofText "."]) = .ok scripts ∧
      .ofText "a.qb" ∈ scripts) ∧
      Text.lower (Path.ofText "a.qb").suffix ∉ ([] : List String).map Text.lower := by
  intro machine
  have hfound : machine.answer ((Selection.of 10 []).discover true [.ofText "."]) =
      .ok [.ofText "a.qb"] := by
    decide +kernel
  exact ⟨⟨_, hfound, List.mem_singleton_self _⟩, by decide +kernel⟩

end Selection

end QbLint
