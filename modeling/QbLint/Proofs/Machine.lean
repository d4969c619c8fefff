import QbLint.Machine

/-!
# Answers of a machine

A command comes to an answer and leaves a machine on which more has been written. Most commands of
the linter only read: they leave all files and variables as they are, and the answer would be the
same if nothing had been written before. The parts of such a command can be judged one by one, on
the machine as it was at first.

* `Machine.reach_eq_ok_iff`, `Machine.entryAt_eq_error_iff`: what the linter gets to along a path;
* `Machine.answer`, `Machine.after`: what a command comes to, and the machine that it leaves;
* `Keeps`: commands that leave a part of the machine as it is;
* `Oblivious`, `ReadOnly`: commands to which it is all the same what was written, and those that
  also leave everything else as it is;
* `ReadOnly.answer_after`: what a command comes to behind one that reads.
-/

namespace QbLint

namespace Machine

/-! ## Paths -/

section Paths

variable {machine : Machine} {access : Access} {path : Path} {e : FileError}

theorem reach_eq_ok_iff {t : Tree} :
    machine.reach access path = .ok t ↔
      machine.refusal? access path.toText = none ∧ machine.find path = .ok t := by
  unfold reach
  cases machine.refusal? access path.toText <;> simp

theorem read_eq_ok_iff {data : Bytes} :
    machine.read path = .ok data ↔ machine.reach .read path = .ok (.file data) := by
  unfold read
  cases machine.reach .read path with
  | error e => simp
  | ok t => cases t <;> simp

/-- A path that leads nowhere leads to nothing, whatever stands in the way. -/
theorem isAbsence_of_find (h : machine.find path = .error e) : e.isAbsence = true := by
  unfold find at h
  split at h
  · obtain rfl := Except.error.inj h
    rfl
  · cases hfollow : machine.files.follow [] (machine.way path) with
    | ok t =>
      rw [hfollow] at h
      cases h
    | error obstacle =>
      rw [hfollow] at h
      obtain rfl := Except.error.inj h
      cases obstacle <;> rfl

theorem entryAt_eq_some_iff {entry : Entry} :
    machine.entryAt path = .ok (some entry) ↔
      ∃ t, machine.reach .look path = .ok t ∧ entryOf t = entry := by
  unfold entryAt
  cases machine.reach .look path with
  | ok t => simp
  | error e => cases h : e.isAbsence <;> simp [h]

/-- What a path leads to cannot be told if the machine refuses to look there, unless it says that
there is nothing. -/
theorem entryAt_eq_error_iff :
    machine.entryAt path = .error e ↔
      machine.refusal? .look path.toText = some e ∧ e.isAbsence = false := by
  unfold entryAt reach
  cases hrefusal : machine.refusal? .look path.toText with
  | some e' =>
    dsimp only
    cases habsence : e'.isAbsence with
    | true =>
      refine iff_of_false nofun ?_
      rintro ⟨⟨⟩, hpresence⟩
      cases habsence.symm.trans hpresence
    | false =>
      constructor
      · rintro ⟨⟩
        exact ⟨rfl, habsence⟩
      · rintro ⟨⟨⟩, -⟩
        rfl
  | none =>
    dsimp only
    cases hfind : machine.find path with
    | ok t => simp
    | error e' => simp [isAbsence_of_find hfind]

end Paths

/-! ## Answers -/

/-- What a command comes to on a machine. -/
def answer {α : Type} (machine : Machine) (x : StateM Machine α) : α := (x.run machine).1

/-- The machine that a command leaves. -/
def after {α : Type} (machine : Machine) (x : StateM Machine α) : Machine := (x.run machine).2

/-- A machine on which nothing was written to any stream. -/
def world (machine : Machine) : Machine :=
  { machine with output := "", errors := "", logWeight? := none }

section Answers

variable {α β : Type} (machine : Machine)

theorem answer_bind (x : StateM Machine α) (next : α → StateM Machine β) :
    machine.answer (x >>= next) = (machine.after x).answer (next (machine.answer x)) :=
  rfl

theorem after_bind (x : StateM Machine α) (next : α → StateM Machine β) :
    machine.after (x >>= next) = (machine.after x).after (next (machine.answer x)) :=
  rfl

theorem answer_bind_pure (x : StateM Machine α) (f : α → β) :
    machine.answer (do return f (← x)) = f (machine.answer x) :=
  rfl

@[simp] theorem answer_pure (a : α) : machine.answer (pure a) = a := rfl

/-- A command that looks at a machine hands on what it saw there. -/
theorem answer_get_bind (f : Machine → β) (next : β → StateM Machine α) :
    machine.answer ((do return f (← get)) >>= next) = machine.answer (next (f machine)) :=
  rfl

theorem after_get_bind (f : Machine → β) (next : β → StateM Machine α) :
    machine.after ((do return f (← get)) >>= next) = machine.after (next (f machine)) :=
  rfl

@[simp] theorem answer_entryAt_bind (path : Path)
    (next : Except FileError (Option Entry) → StateM Machine α) :
    machine.answer (Host.entryAt path >>= next) = machine.answer (next (machine.entryAt path)) :=
  machine.answer_get_bind (·.entryAt path) next

@[simp] theorem answer_read_bind (path : Path) (next : Except FileError Bytes → StateM Machine α) :
    machine.answer (Host.read path >>= next) = machine.answer (next (machine.read path)) :=
  machine.answer_get_bind (·.read path) next

@[simp] theorem answer_filesBelow_bind (path : Path)
    (next : Except FileError (List Path) → StateM Machine α) :
    machine.answer (Host.filesBelow path >>= next) =
      machine.answer (next (machine.filesBelow path)) :=
  machine.answer_get_bind (·.filesBelow path) next

@[simp] theorem answer_filesIn_bind (path : Path)
    (next : Except FileError (List Path) → StateM Machine α) :
    machine.answer (Host.filesIn path >>= next) = machine.answer (next (machine.filesIn path)) :=
  machine.answer_get_bind (·.filesIn path) next

@[simp] theorem answer_readDocument_bind (data : Bytes)
    (next : Except FormatError Document → StateM Machine α) :
    machine.answer (Host.readDocument data >>= next) =
      machine.answer (next (machine.formats.readDocument data)) :=
  machine.answer_get_bind (·.formats.readDocument data) next

@[simp] theorem answer_writeDocument_bind (entries : Entries)
    (next : Except FormatError String → StateM Machine α) :
    machine.answer (Host.writeDocument entries >>= next) =
      machine.answer (next (machine.formats.writeDocument entries)) :=
  machine.answer_get_bind (·.formats.writeDocument entries) next

@[simp] theorem after_writeDocument_bind (entries : Entries)
    (next : Except FormatError String → StateM Machine α) :
    machine.after (Host.writeDocument entries >>= next) =
      machine.after (next (machine.formats.writeDocument entries)) :=
  machine.after_get_bind (·.formats.writeDocument entries) next

@[simp] theorem answer_setOrder_bind (next : SetOrder → StateM Machine α) :
    machine.answer (Host.setOrder >>= next) = machine.answer (next machine.setOrder) :=
  machine.answer_get_bind (·.setOrder) next

end Answers

/-! ### What was written does not matter to a search -/

theorem filesNamed_world (machine : Machine) (folder : Path) (names : List String) :
    machine.world.filesNamed folder names = machine.filesNamed folder names := by
  induction names with
  | nil => rfl
  | cons name rest ih =>
    rw [filesNamed, filesNamed, ih]
    rfl

mutual

theorem filesFrom_world (machine : Machine) (path : Path) (t : Tree) :
    machine.world.filesFrom path t = machine.filesFrom path t := by
  cases t with
  | file | «sealed» => rfl
  | folder entries =>
    rw [filesFrom, filesFrom, filesNamed_world, filesAmong_world machine path entries]
    rfl

theorem filesAmong_world (machine : Machine) (folder : Path) (entries : List (String × Tree)) :
    machine.world.filesAmong folder entries = machine.filesAmong folder entries := by
  cases entries with
  | nil => rfl
  | cons entry rest =>
    rw [filesAmong, filesAmong, filesFrom_world, filesAmong_world machine folder rest]

end

theorem filesBelow_world (machine : Machine) (path : Path) :
    machine.world.filesBelow path = machine.filesBelow path := by
  have hfind : machine.world.find path = machine.find path := rfl
  rw [filesBelow, filesBelow, hfind]
  cases machine.find path with
  | error e => rfl
  | ok t => exact filesFrom_world machine path t

theorem filesIn_world (machine : Machine) (path : Path) :
    machine.world.filesIn path = machine.filesIn path := by
  have hreach : machine.world.reach .list path = machine.reach .list path := rfl
  rw [filesIn, filesIn, hreach]
  simp only [filesNamed_world]

theorem log_world (machine : Machine) (line : Log.Line) :
    (machine.log line).world = machine.world := by
  unfold log
  split
  · split <;> rfl
  · rfl

theorem log_logWeight (machine : Machine) (line : Log.Line) :
    (machine.log line).logWeight? = machine.logWeight? := by
  unfold log
  split
  · split <;> rfl
  · rfl

end Machine

/-- A command that leaves a part of the machine as it is. -/
def Keeps {α β : Type} (part : Machine → β) (x : StateM Machine α) : Prop :=
  ∀ machine : Machine, part (machine.after x) = part machine

namespace Keeps

variable {α β γ : Type} {part : Machine → γ} {x : StateM Machine α} {next : α → StateM Machine β}

theorem pure (a : α) : Keeps part (pure a) := fun _ => rfl

theorem bind (hx : Keeps part x) (hnext : ∀ a, Keeps part (next a)) : Keeps part (x >>= next) :=
  fun machine => (hnext _ _).trans (hx machine)

theorem mapM {f : α → StateM Machine β} (hf : ∀ a, Keeps part (f a)) (l : List α) :
    Keeps part (l.mapM f) := by
  induction l with
  | nil => exact .pure []
  | cons a l ih =>
    rw [List.mapM_cons]
    exact .bind (hf a) fun _ => .bind ih fun _ => .pure _

theorem modify (f : Machine → Machine) (hf : ∀ machine, part (f machine) = part machine) :
    Keeps part (modify f) :=
  hf

theorem entryAt (path : Path) : Keeps part (Host.entryAt path) := fun _ => rfl

theorem read (path : Path) : Keeps part (Host.read path) := fun _ => rfl

theorem valueOf (name : String) : Keeps part (Host.valueOf name) := fun _ => rfl

theorem readSettings (hpart : ∀ (machine : Machine) (errors : String),
    part { machine with errors } = part machine) (data : Bytes) :
    Keeps part (Host.readSettings data) :=
  fun machine => hpart machine _

end Keeps

/-- A command to whose answer it is all the same what was written before. -/
def Oblivious {α : Type} (x : StateM Machine α) : Prop :=
  ∀ machine : Machine, machine.answer x = machine.world.answer x

/-- A command that does nothing but look at a machine and write to its streams. -/
structure ReadOnly {α : Type} (x : StateM Machine α) : Prop where
  oblivious : Oblivious x
  world (machine : Machine) : (machine.after x).world = machine.world
  logWeight : Keeps Machine.logWeight? x

section Commands

variable {α β : Type} {x : StateM Machine α} {next : α → StateM Machine β}

theorem ReadOnly.time (hx : ReadOnly x) (machine : Machine) :
    (machine.after x).time = machine.time :=
  show (machine.after x).world.time = machine.world.time by rw [hx.world]

/-- Behind a command that reads, the answer to another command is what it was before. -/
theorem ReadOnly.answer_after (hx : ReadOnly x) {y : StateM Machine β} (hy : Oblivious y)
    (machine : Machine) : (machine.after x).answer y = machine.answer y := by
  rw [hy, hx.world, ← hy]

theorem Oblivious.bind (hx : ReadOnly x) (hnext : ∀ a, Oblivious (next a)) :
    Oblivious (x >>= next) := fun machine => by
  rw [machine.answer_bind, machine.world.answer_bind, hx.answer_after (hnext _),
    hx.answer_after (hnext _), ← hx.oblivious, ← hnext]

/-- What comes behind may do anything as long as its answer is decided. -/
theorem Oblivious.map {f : α → β} (hx : Oblivious x)
    (hnext : ∀ (a : α) (machine : Machine), machine.answer (next a) = f a) :
    Oblivious (x >>= next) := fun machine => by
  rw [machine.answer_bind, machine.world.answer_bind, hnext, hnext]
  exact congrArg f (hx machine)

namespace ReadOnly

theorem pure (a : α) : ReadOnly (pure a) where
  oblivious _ := rfl
  world _ := rfl
  logWeight := .pure a

theorem bind (hx : ReadOnly x) (hnext : ∀ a, ReadOnly (next a)) : ReadOnly (x >>= next) where
  oblivious := .bind hx fun a => (hnext a).oblivious
  world machine := ((hnext _).world _).trans (hx.world machine)
  logWeight := hx.logWeight.bind fun a => (hnext a).logWeight

theorem get (f : Machine → α) (hf : ∀ machine : Machine, f machine = f machine.world) :
    ReadOnly (do return f (← MonadState.get)) where
  oblivious := hf
  world _ := rfl
  logWeight _ := rfl

theorem modify (f : Machine → Machine)
    (hf : ∀ machine : Machine, (f machine).world = machine.world)
    (hweight : ∀ machine : Machine, (f machine).logWeight? = machine.logWeight?) :
    ReadOnly (modify f) where
  oblivious _ := rfl
  world := hf
  logWeight := hweight

theorem entryAt (path : Path) : ReadOnly (Host.entryAt path) := .get _ fun _ => rfl

theorem read (path : Path) : ReadOnly (Host.read path) := .get _ fun _ => rfl

theorem filesBelow (path : Path) : ReadOnly (Host.filesBelow path) :=
  .get _ fun machine => (machine.filesBelow_world path).symm

theorem filesIn (path : Path) : ReadOnly (Host.filesIn path) :=
  .get _ fun machine => (machine.filesIn_world path).symm

theorem readDocument (data : Bytes) : ReadOnly (Host.readDocument data) := .get _ fun _ => rfl

theorem setOrder : ReadOnly Host.setOrder := .get _ fun _ => rfl

theorem valueOf (name : String) : ReadOnly (Host.valueOf name) := .get _ fun _ => rfl

theorem now : ReadOnly Host.now := .get _ fun _ => rfl

theorem nanoseconds : ReadOnly Host.nanoseconds := .pure 0

theorem durationSince (start : Nat) : ReadOnly (Host.durationSince start) := .pure Duration.zero

theorem print (s : String) : ReadOnly (Host.print s) := .modify _ (fun _ => rfl) fun _ => rfl

theorem printError (s : String) : ReadOnly (Host.printError s) :=
  .modify _ (fun _ => rfl) fun _ => rfl

theorem log (line : Log.Line) : ReadOnly (Host.log line) :=
  .modify _ (fun machine => machine.log_world line) fun machine => machine.log_logWeight line

theorem forM {f : α → StateM Machine Unit} (hf : ∀ a, ReadOnly (f a)) (l : List α) :
    ReadOnly (l.forM f) := by
  induction l with
  | nil => exact .pure ()
  | cons a l ih => exact .bind (hf a) fun _ => ih

theorem mapM {f : α → StateM Machine β} (hf : ∀ a, ReadOnly (f a)) (l : List α) :
    ReadOnly (l.mapM f) := by
  induction l with
  | nil => exact .pure []
  | cons a l ih =>
    rw [List.mapM_cons]
    exact .bind (hf a) fun _ => .bind ih fun _ => .pure _

end ReadOnly

end Commands

theorem Machine.answer_write (machine : Machine) (target : String) (data : Bytes) :
    machine.answer (Host.write target data) = (machine.write target data).map fun _ => () := by
  unfold Machine.answer Host.write instHostStateMMachine
  cases hw : machine.write target data with
  | error e => simp [hw, Except.map]; rfl
  | ok written => simp [hw, Except.map]; rfl

theorem Machine.after_write {machine written : Machine} {target : String} {data : Bytes}
    (h : machine.write target data = .ok written) :
    machine.after (Host.write target data) = written := by
  unfold Machine.after Host.write instHostStateMMachine
  simp [h]
  rfl

theorem Machine.after_write_of_error {machine : Machine} {target : String} {data : Bytes}
    {e : FileError} (h : machine.write target data = .error e) :
    machine.after (Host.write target data) = machine := by
  unfold Machine.after Host.write instHostStateMMachine
  simp [h]
  rfl

/-- Whether a file can be written depends on files only. -/
theorem Oblivious.write (target : String) (data : Bytes) : Oblivious (Host.write target data) := by
  intro machine
  rw [Machine.answer_write, Machine.answer_write]
  have hrefusal : machine.world.refusal? .write target = machine.refusal? .write target := rfl
  unfold Machine.write
  rw [hrefusal]
  dsimp only [Machine.world]
  repeat' split
  all_goals rfl

end QbLint
