import QbLint.Files.Tree
import QbLint.Host

/-!
# Machines

A machine as a value: a tree of files, the folder the linter works in, the environment variables,
what has been written, and what the machine does in its own way: what it refuses, which readers and
writers it comes with, and in which order it goes through sets. It is a host, so a command is also a
function from machines to machines.

* `Machine.find`, `Machine.reach`: what a path leads to, and whether the linter may get there;
* `Machine.filesBelow`: the files that a search of a folder comes to;
* `Machine.write`: the machine with a file written, or the reason why it cannot be.
-/

namespace QbLint

/-- What is done with the text of a path: to tell what is there, to read a file, to list a folder or
to write a file. -/
inductive Access
  | look | read | list | write
  deriving DecidableEq

/-- A machine and what has been written on it. -/
structure Machine where
  files : Tree
  /-- The way to the folder in which the linter works. -/
  here : List String := []
  environment : List (String × String) := []
  time : String := ""
  output : String := ""
  errors : String := ""
  /-- The least weight of the log lines that are written; none are before it is set. -/
  logWeight? : Option Nat := none
  /-- What the machine refuses, whatever there is at the path, and the error that says so. -/
  refuses : Access → String → Option FileError := fun _ _ => none
  formats : Formats := default
  setOrder : SetOrder := default
  deriving Inhabited

namespace Machine

/-- The way from the root along a path. -/
def way (machine : Machine) (path : Path) : List String :=
  if path.root = "" then machine.here ++ path.names else path.names

/-- Whether a path can be that of a file. -/
def holdsNull (s : String) : Bool := s.toList.contains '\x00'

/-- The error for an obstacle on a way. -/
def obstacleError (path : String) : Tree.Obstacle → FileError
  | .absent => .notFound path
  | .file => .notFolder path

/-- What a path leads to. -/
def find (machine : Machine) (path : Path) : Except FileError Tree :=
  if holdsNull path.toText then .error .nullInPath
  else (machine.files.follow [] (machine.way path)).mapError (obstacleError path.toText)

/-- The error with which the machine refuses an access. A path with a null character does not get as
far as that. -/
def refusal? (machine : Machine) (access : Access) (path : String) : Option FileError :=
  if holdsNull path then none else machine.refuses access path

/-- What a path leads to for a kind of access. -/
def reach (machine : Machine) (access : Access) (path : Path) : Except FileError Tree :=
  match machine.refusal? access path.toText with
  | some e => .error e
  | none => machine.find path

/-- A tree by kind and size. The size of a file whose bytes cannot be had is said to be zero. -/
def entryOf : Tree → Entry
  | .file data => .file data.size
  | .sealed => .file 0
  | .folder _ => .folder

/-- What a path leads to, by kind and size. -/
def entryAt (machine : Machine) (path : Path) : Except FileError (Option Entry) :=
  match machine.reach .look path with
  | .ok t => .ok (some (entryOf t))
  | .error e => if e.isAbsence then .ok none else .error e

/-- The bytes of a file. -/
def read (machine : Machine) (path : Path) : Except FileError Bytes :=
  match machine.reach .read path with
  | .ok (.file data) => .ok data
  | .ok .sealed => .error (.system .inputOutput none)
  | .ok (.folder _) => .error (.isFolder path.toText)
  | .error e => .error e

/-- The files among what has one of some names in a folder. -/
def filesNamed (machine : Machine) (folder : Path) : List String → Except FileError (List Path)
  | [] => .ok []
  | name :: rest => do
    match ← machine.entryAt (folder.append [name]) with
    | some (.file _) => return folder.append [name] :: (← filesNamed machine folder rest)
    | _ => filesNamed machine folder rest

mutual

/-- The files below what a path leads to. A folder that may not be listed for want of a permission
counts as empty. -/
def filesFrom (machine : Machine) (path : Path) : Tree → Except FileError (List Path)
  | .folder entries =>
    match machine.refusal? .list path.toText with
    | some e => if e.isPermission then .ok [] else .error e
    | none => do
      let own ← machine.filesNamed path (entries.map Prod.fst)
      return own ++ (← filesAmong machine path entries)
  | _ => .ok []

/-- The files below the entries of a folder. -/
def filesAmong (machine : Machine) (folder : Path) :
    List (String × Tree) → Except FileError (List Path)
  | [] => .ok []
  | (name, inner) :: rest => do
    let below ← filesFrom machine (folder.append [name]) inner
    return below ++ (← filesAmong machine folder rest)

end

/-- The files below a folder. -/
def filesBelow (machine : Machine) (path : Path) : Except FileError (List Path) :=
  match machine.find path with
  | .ok t => machine.filesFrom path t
  | .error _ => .ok []

/-- The files in a folder. -/
def filesIn (machine : Machine) (path : Path) : Except FileError (List Path) :=
  match machine.reach .list path with
  | .ok (.folder entries) => machine.filesNamed path (entries.map Prod.fst)
  | .ok _ => .error (.notFolder path.toText)
  | .error e => .error e

/-- The machine with a file written. The path is taken as it was given: it must not end with a
slash or with dots, which only a folder's path does. -/
def write (machine : Machine) (target : String) (data : Bytes) : Except FileError Machine :=
  let names := (Text.split '/' target.toList).map String.ofList
  let way := (if target.toList.head? = some '/' then [] else machine.here) ++ names.filter (· ≠ "")
  let last := names.getLast?.getD ""
  if holdsNull target then .error .nullInPath
  else
    match machine.refusal? .write target with
    | some e => .error e
    | none =>
      if target = "" then .error (.notFound target)
      else
        match machine.files.follow [] way.dropLast with
        | .error obstacle => .error (obstacleError target obstacle)
        | .ok (.folder entries) =>
          if last = "" ∨ last = "." ∨ last = ".." then .error (.isFolder target)
          else
            match entries.lookup last with
            | some (.folder _) => .error (.isFolder target)
            | some .sealed => .error (.system .inputOutput none)
            | _ => .ok { machine with
                files := Tree.graft (.file data) (Tree.straighten [] way) machine.files }
        | .ok _ => .error (.notFolder target)

/-- The machine with a log line written if its level asks for it. -/
def log (machine : Machine) (line : Log.Line) : Machine :=
  match machine.logWeight? with
  | some weight =>
    if weight ≤ line.level.weight then { machine with errors := machine.errors ++ line.text }
    else machine
  | none => machine

/-- The machine with a variable set. -/
def setVariable (machine : Machine) (name value : String) : Machine :=
  { machine with
    environment := machine.environment.filter (fun entry => entry.1 ≠ name) ++ [(name, value)] }

/-- What the bytes of an environment file set, and what the reader says. -/
def readSettings (machine : Machine) (data : Bytes) : Except FormatError Settings × String :=
  machine.formats.readSettings (fun name => machine.environment.lookup name) data

end Machine

instance : Host (StateM Machine) where
  entryAt path := return (← get).entryAt path
  read path := return (← get).read path
  filesBelow path := return (← get).filesBelow path
  filesIn path := return (← get).filesIn path
  write target data := do
    match (← get).write target data with
    | .ok machine => set machine; return .ok ()
    | .error e => return .error e
  readDocument data := return (← get).formats.readDocument data
  writeDocument entries := return (← get).formats.writeDocument entries
  readSettings data := modifyGet fun machine =>
    ((machine.readSettings data).1,
      { machine with errors := machine.errors ++ (machine.readSettings data).2 })
  setOrder := return (← get).setOrder
  valueOf name := return (← get).environment.lookup name
  setVariable name value := modify fun machine => machine.setVariable name value
  print s := modify fun machine => { machine with output := machine.output ++ s }
  printError s := modify fun machine => { machine with errors := machine.errors ++ s }
  setLogWeight weight := modify fun machine => { machine with logWeight? := some weight }
  log line := modify fun machine => machine.log line
  now := return (← get).time
  nanoseconds := return 0
  durationSince _ := return .zero

end QbLint
