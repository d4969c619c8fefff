import QbLint.Lint.Run
import QbLint.Proofs.Report
import QbLint.Proofs.Severity

/-!
# Linting files

Linting a file comes to a result whether the file can be loaded or not, unless what its path leads
to cannot be told or the error about its size cannot be written. A result that does not fail a run
is that of a file that was loaded and scanned to its end.

* `Selection.answer_load`: what loading a script comes to; `Selection.answer_load_eq_ok_iff`: when a
  script can be loaded; `Selection.Escapes`: when loading it leaves the command;
* `Linter.answer_lintFile`, `Linter.answer_lintFiles`: the result of a file, and the report on
  several;
* `Linter.Passes`: a script that was loaded, scanned to its end and does not fail the run;
* `Linter.passes_iff`: a script passes exactly if its result does.
-/

namespace QbLint

/-! ## Loading and finding scripts -/

namespace Selection

variable {s : Selection} {machine : Machine} {path : Path}

/-- What loading a script comes to, by what its path leads to. -/
theorem answer_load (s : Selection) (machine : Machine) (path : Path) :
    machine.answer (s.load path) =
      match machine.entryAt path with
      | .error e => .error (.file e)
      | .ok none => .ok (.error .missing)
      | .ok (some .folder) => .ok (.error .isFolder)
      | .ok (some (.file size)) =>
        if s.maxBytes < size then (s.sizeError size).map .error
        else .ok ((machine.read path).mapError .unreadable) := by
  unfold load
  simp only [Machine.answer_entryAt_bind]
  cases machine.entryAt path with
  | error e => rfl
  | ok kind? =>
    obtain _ | size | _ := kind?
    · rfl
    · dsimp only
      split
      · exact machine.answer_pure _
      · rw [Machine.answer_read_bind]
        cases machine.read path <;> rfl
    · rfl

theorem readOnly_load (s : Selection) (path : Path) : ReadOnly (s.load path) := by
  refine .bind (.entryAt path) fun entry => ?_
  split
  · exact .pure _
  · exact .pure _
  · exact .pure _
  · split
    · exact .pure _
    · refine .bind (.read path) fun data => ?_
      cases data with
      | error e => exact .pure _
      | ok data => exact .bind (.log _) fun _ => .pure _

/-- A file whose size was told is loaded if it is not too large and its bytes can be had. -/
theorem loaded_iff {data : Bytes} {size : Nat} :
    (if s.maxBytes < size then (s.sizeError size).map .error
      else Except.ok ((machine.read path).mapError .unreadable)) = Except.ok (Except.ok data) ↔
      machine.read path = .ok data ∧ size ≤ s.maxBytes := by
  split
  · rename_i hlarge
    refine iff_of_false ?_ fun h => by omega
    cases s.sizeError size <;> exact nofun
  · rename_i hsize
    have hsize : (size : Int) ≤ s.maxBytes := Int.not_lt.mp hsize
    cases machine.read path <;> simp [Except.mapError, hsize]

/-- A script can be loaded exactly if its path leads to a file within the size limit whose bytes can
be had, and then these are its bytes. -/
theorem answer_load_eq_ok_iff {data : Bytes} :
    machine.answer (s.load path) = .ok (.ok data) ↔
      machine.reach .look path = .ok (.file data) ∧ machine.reach .read path = .ok (.file data) ∧
        data.size ≤ s.maxBytes := by
  rw [answer_load]
  cases hlook : machine.reach .look path with
  | error e =>
    have hentry : ∀ entry, machine.entryAt path ≠ .ok (some entry) := fun entry h => by
      obtain ⟨t, ht, -⟩ := Machine.entryAt_eq_some_iff.mp h
      cases hlook.symm.trans ht
    refine iff_of_false ?_ nofun
    split
    · exact nofun
    · exact nofun
    · exact nofun
    · exact absurd ‹_› (hentry _)
  | ok t =>
    rw [Machine.entryAt_eq_some_iff.mpr ⟨t, hlook, rfl⟩]
    -- Both ways lead to the same tree, so that its size is that of the bytes that are read.
    have hsame : machine.reach .read path = .ok (.file data) → t = .file data := fun h => by
      have hfind := (Machine.reach_eq_ok_iff.mp hlook).2
      exact Except.ok.inj (hfind.symm.trans (Machine.reach_eq_ok_iff.mp h).2)
    cases t with
    | folder entries => simp [Machine.entryOf]
    | «sealed» =>
      refine iff_of_false (fun h => ?_) nofun
      cases hsame (Machine.read_eq_ok_iff.mp (loaded_iff.mp h).1)
    | file bytes =>
      refine loaded_iff.trans ⟨fun ⟨h, hsize⟩ => ?_, fun ⟨hbytes, h, hsize⟩ => ?_⟩
      · have hdata := Machine.read_eq_ok_iff.mp h
        obtain rfl := Tree.file.inj (hsame hdata)
        exact ⟨rfl, hdata, hsize⟩
      · cases hbytes
        exact ⟨Machine.read_eq_ok_iff.mpr h, hsize⟩

/-- Loading a script leaves the command: what its path leads to cannot be told, or the file is too
large and the error about that has a number that cannot be written. -/
inductive Escapes (s : Selection) (machine : Machine) (path : Path) : Escape → Prop
  | look {e : FileError} : machine.entryAt path = .error e → Escapes s machine path (.file e)
  | size {size : Nat} : machine.entryAt path = .ok (some (.file size)) → s.maxBytes < size →
    ¬ (Text.isWritable size ∧ Text.isWritable s.maxBytes) → Escapes s machine path .unwritable

theorem answer_load_eq_error_iff {e : Escape} :
    machine.answer (s.load path) = .error e ↔ s.Escapes machine path e := by
  rw [answer_load]
  constructor
  · intro h
    split at h
    · cases h
      exact .look ‹_›
    · cases h
    · cases h
    · rename_i size hentry
      split at h
      · rename_i hlarge
        unfold sizeError at h
        split at h
        · cases h
        · rename_i hwritable
          cases h
          exact .size hentry hlarge hwritable
      · cases h
  · intro h
    cases h with
    | look hentry => rw [hentry]
    | size hentry hlarge hwritable =>
      rw [hentry]
      dsimp only
      rw [if_pos hlarge, sizeError, dif_neg hwritable]
      rfl

theorem readOnly_expand (s : Selection) (recursive : Bool) (path : Path) :
    ReadOnly (s.expand recursive path) := by
  refine .bind (.entryAt path) fun entry => ?_
  split
  · exact .pure _
  · split
    · refine .bind (.filesBelow path) fun files => ?_
      cases files with
      | error e => exact .pure _
      | ok files =>
        dsimp only
        split
        · exact .bind (.log _) fun _ => .pure _
        · exact .pure _
    · exact .pure _
  · exact .pure _

theorem readOnly_discover (s : Selection) (recursive : Bool) (paths : List Path) :
    ReadOnly (s.discover recursive paths) := by
  induction paths with
  | nil => exact .pure _
  | cons path rest ih =>
    refine .bind (readOnly_expand s recursive path) fun found => ?_
    cases found with
    | error e => exact .pure _
    | ok found => exact .bind ih fun _ => .pure _

end Selection

/-! ## Results -/

theorem LintResult.Passes.aborted_eq_false {strict : Bool} {r : LintResult} (h : r.Passes strict)
    (hcoherent : Coherent r.diagnostics) : r.aborted = false := by
  rw [aborted, List.any_eq_false]
  exact fun d hd hf => (h d hd).1 ((hcoherent.fatal_iff d hd).mpr hf)

namespace Linter

variable {linter : Linter} {machine : Machine} {strict : Bool} {path : Path}

theorem readOnly_lintFile (linter : Linter) (path : Path) : ReadOnly (linter.lintFile path) := by
  refine .bind (Selection.readOnly_load linter.selection path) fun loaded => ?_
  split
  · exact .pure _
  · exact .bind (linter.readOnly_lintBytes path.toText _) fun _ => .pure _
  · exact .bind (.log _) fun _ => .bind .now fun _ => .pure _

theorem readOnly_lintEach (linter : Linter) (paths : List Path) :
    ReadOnly (linter.lintEach paths) := by
  induction paths with
  | nil => exact .pure _
  | cons path rest ih =>
    refine .bind (linter.readOnly_lintFile path) fun result => ?_
    cases result with
    | error e => exact .pure _
    | ok result => exact .bind ih fun _ => .pure _

theorem readOnly_lintFiles (linter : Linter) (paths : List Path) :
    ReadOnly (linter.lintFiles paths) :=
  .bind .now fun _ => .bind (linter.readOnly_lintEach paths) fun _ => .pure _

theorem answer_lintFile (linter : Linter) (machine : Machine) (path : Path) :
    machine.answer (linter.lintFile path) =
      match machine.answer (linter.selection.load path) with
      | .error e => .error e
      | .ok (.ok data) =>
        (machine.answer (linter.lintBytes path.toText data)).mapError .unknownSeverity
      | .ok (.error e) =>
        .ok (.notLoaded path.toText machine.time linter.policy.name e.message) := by
  have hload := Selection.readOnly_load linter.selection path
  rw [lintFile, Machine.answer_bind]
  match machine.answer (linter.selection.load path) with
  | .error e => rfl
  | .ok (.ok data) =>
    exact congrArg (Except.mapError Escape.unknownSeverity)
      (hload.answer_after (linter.readOnly_lintBytes ..).oblivious machine)
  | .ok (.error e) =>
    have htime := (hload.bind fun _ => .log
      ⟨.warning, .linter, "Could not load " ++ path.toText ++ ": " ++ e.message⟩).time machine
    exact congrArg (fun time => Except.ok
      (LintResult.notLoaded path.toText time linter.policy.name e.message)) htime

/-- Under a policy that keeps to what it must, a script has no result only if loading it leaves the
command. -/
theorem answer_lintFile_eq_error_iff (hp : linter.policy.Valid) {e : Escape} :
    machine.answer (linter.lintFile path) = .error e ↔ linter.selection.Escapes machine path e := by
  rw [← Selection.answer_load_eq_error_iff, answer_lintFile]
  match machine.answer (linter.selection.load path) with
  | .error e => exact ⟨congrArg _ ∘ Except.error.inj, congrArg _ ∘ Except.error.inj⟩
  | .ok (.error e) => exact iff_of_false nofun nofun
  | .ok (.ok data) =>
    dsimp only
    rw [linter.answer_lintBytes, hp.result_eq]
    exact iff_of_false nofun nofun

/-- Under a policy that keeps to what it must, every script has a result unless loading it leaves
the command. -/
theorem exists_result (hp : linter.policy.Valid)
    (hload : ∀ e, ¬ linter.selection.Escapes machine path e) :
    ∃ result, machine.answer (linter.lintFile path) = .ok result := by
  cases h : machine.answer (linter.lintFile path) with
  | ok result => exact ⟨result, rfl⟩
  | error e => exact absurd ((answer_lintFile_eq_error_iff hp).mp h) (hload e)

theorem exists_results (linter : Linter) (hp : linter.policy.Valid) {scripts : List Path}
    (hload : ∀ script ∈ scripts, ∀ e, ¬ linter.selection.Escapes machine script e) :
    ∃ result : Path → LintResult, ∀ script ∈ scripts,
      machine.answer (linter.lintFile script) = .ok (result script) := by
  have hresults (script : Path) : ∃ result, script ∈ scripts →
      machine.answer (linter.lintFile script) = .ok result := by
    by_cases hscript : script ∈ scripts
    · obtain ⟨result, hresult⟩ := exists_result hp (hload script hscript)
      exact ⟨result, fun _ => hresult⟩
    · exact ⟨default, fun hmem => absurd hmem hscript⟩
  choose result hresult using hresults
  exact ⟨result, hresult⟩

/-- The results of some scripts are those of each, in their order, up to the first that has none. -/
theorem answer_lintEach (linter : Linter) (machine : Machine) (paths : List Path) :
    machine.answer (linter.lintEach paths) =
      paths.mapM fun path => machine.answer (linter.lintFile path) := by
  induction paths with
  | nil => rfl
  | cons path rest ih =>
    have hrest := (linter.readOnly_lintFile path).answer_after
      (linter.readOnly_lintEach rest).oblivious machine
    rw [lintEach, Machine.answer_bind, List.mapM_cons, ← ih]
    cases machine.answer (linter.lintFile path) with
    | error e => rfl
    | ok result => exact congrArg (Except.map (result :: ·)) hrest

theorem answer_lintFiles (linter : Linter) (machine : Machine) (paths : List Path) :
    machine.answer (linter.lintFiles paths) =
      (paths.mapM fun path => machine.answer (linter.lintFile path)).map
        (Report.ofResults machine.time) := by
  rw [lintFiles, Machine.answer_bind, Machine.answer_bind,
    ReadOnly.now.answer_after (linter.readOnly_lintEach paths).oblivious, answer_lintEach]
  rfl

/-- Scripts that all have results have a report. -/
theorem answer_lintFiles_of_results {result : Path → LintResult} {paths : List Path}
    (h : ∀ path ∈ paths, machine.answer (linter.lintFile path) = .ok (result path)) :
    machine.answer (linter.lintFiles paths) =
      .ok (Report.ofResults machine.time (paths.map result)) := by
  rw [answer_lintFiles, except_mapM_eq_ok h]
  rfl

/-- The run succeeds as far as this script is concerned: it was loaded, scanned to its last byte,
and what the policy leaves of the diagnostics does not fail the run. -/
structure PassesWith (linter : Linter) (machine : Machine) (strict : Bool) (path : Path)
    (data : Bytes) (result : LintResult) : Prop where
  file : machine.find path = .ok (.file data)
  loaded : machine.answer (linter.selection.load path) = .ok (.ok data)
  linted : machine.answer (linter.lintFile path) = .ok result
  size : result.size = data.size
  scanned : result.scanned = data.size
  passes : result.Passes strict

/-- The script passes. -/
def Passes (linter : Linter) (machine : Machine) (strict : Bool) (path : Path) : Prop :=
  ∃ data result, linter.PassesWith machine strict path data result

/-- The result of a script that was loaded. -/
theorem answer_lintFile_of_loaded (hp : linter.policy.Valid) {data : Bytes}
    (hload : machine.answer (linter.selection.load path) = .ok (.ok data)) :
    ∃ result, machine.answer (linter.lintFile path) = .ok result ∧
      Coherent result.diagnostics ∧ result.size = data.size ∧
      result.scanned = (Scan.run linter.policy.options data).bytesScanned ∧
      result.aborted = (Scan.run linter.policy.options data).aborted := by
  have hfile := linter.answer_lintFile machine path
  rw [hload] at hfile
  dsimp only at hfile
  rw [linter.answer_lintBytes, hp.result_eq] at hfile
  refine ⟨_, hfile, ?_, rfl, rfl, ?_⟩
  · exact (Scan.coherent linter.policy.options data).reassess hp
  · exact linter.policy.any_fatal_reassess _

/-- A script whose scan aborts does not pass, whatever the policy disables or overrides. -/
theorem not_aborted_of_passes (hp : linter.policy.Valid) {data : Bytes}
    (hload : machine.answer (linter.selection.load path) = .ok (.ok data)) {result : LintResult}
    (hr : machine.answer (linter.lintFile path) = .ok result) (h : result.Passes strict) :
    (Scan.run linter.policy.options data).aborted = false := by
  obtain ⟨result', hr', hcoherent, -, -, haborted⟩ := answer_lintFile_of_loaded hp hload
  obtain rfl := Except.ok.inj (hr'.symm.trans hr)
  rw [← haborted, h.aborted_eq_false hcoherent]

/-- A result that does not fail the run is that of a script that was loaded and scanned to its last
byte, since what keeps a script from that is fatal. -/
theorem passes_iff (hp : linter.policy.Valid) {result : LintResult}
    (hr : machine.answer (linter.lintFile path) = .ok result) :
    linter.Passes machine strict path ↔ result.Passes strict := by
  constructor
  · rintro ⟨data, result', h⟩
    obtain rfl := Except.ok.inj (h.linted.symm.trans hr)
    exact h.passes
  · intro hpasses
    have hfile := linter.answer_lintFile machine path
    match hload : machine.answer (linter.selection.load path) with
    | .error e =>
      rw [hload, hr] at hfile
      cases hfile
    | .ok (.error e) =>
      -- The one diagnostic of a script that was not loaded is fatal, whatever the policy says.
      rw [hload, hr] at hfile
      obtain rfl := Except.ok.inj hfile
      exact absurd rfl (hpasses _ (List.mem_singleton_self _)).1
    | .ok (.ok data) =>
      obtain ⟨result', hr', -, hsize, hscanned, -⟩ := answer_lintFile_of_loaded hp hload
      obtain rfl := Except.ok.inj (hr'.symm.trans hr)
      have hreach := (Selection.answer_load_eq_ok_iff.mp hload).1
      refine ⟨data, _, (Machine.reach_eq_ok_iff.mp hreach).2, hload, hr, hsize, ?_, hpasses⟩
      rw [hscanned]
      exact Scan.bytesScanned_of_not_aborted (not_aborted_of_passes hp hload hr hpasses)

end Linter

end QbLint
