import QbLint.Cli.Run
import QbLint.Formats.Standard
import Std.Time

/-!
# The program

The real machine as a host, and the program on it. Environment variables that the program sets are
kept with the level of the log, and count for the program alone.
-/

namespace QbLint

/-- What a run of the program keeps. -/
structure Session where
  environment : List (String × String) := []
  logWeight? : Option Nat := none

/-- A computation of the program on the real machine. -/
abbrev SessionM := StateT Session IO

namespace SessionM

/-- An error of the system by its number and name, if it has no case of its own. -/
def systemError (path : String) (number : Nat) (name : String) : FileError :=
  if h : number ∉ [2, 20, 21] ∧ '\n' ∉ name.toList then
    .system ⟨number, name, h.1, h.2⟩ (some path)
  else if number = 2 then .notFound path
  else if number = 20 then .notFolder path
  else if number = 21 then .isFolder path
  else .system .inputOutput (some path)

/-- Why an action on a file cannot be done. -/
def fileError (path : String) : IO.Error → FileError
  | .noFileOrDirectory .. => .notFound path
  | .alreadyExists _ code details | .permissionDenied _ code details
  | .resourceExhausted _ code details | .inappropriateType _ code details
  | .noSuchThing _ code details | .invalidArgument _ code details =>
    systemError path code.toNat details
  | .otherError code details | .resourceBusy code details | .resourceVanished code details
  | .unsupportedOperation code details | .hardwareFault code details
  | .unsatisfiedConstraints code details | .illegalOperation code details
  | .protocolError code details | .timeExpired code details =>
    systemError path code.toNat details
  | _ => .system .inputOutput (some path)

/-- The result of an action on a file, or why it cannot be done. -/
def guardFile {α : Type} (path : String) (action : IO α) : IO (Except FileError α) := do
  if path.toList.contains '\x00' then return .error .nullInPath
  try
    return .ok (← action)
  catch e => return .error (fileError path e)

/-- What a path leads to, by kind and size. -/
def entryAt (path : String) : IO (Except FileError (Option Entry)) := do
  let found ← guardFile path ((← IO.currentDir) / path).metadata
  match found with
  | .ok data =>
    return .ok (some (if data.type == .dir then .folder else .file data.byteSize.toNat))
  | .error e => return if e.isAbsence then .ok none else .error e

/-- The names of what lies in a folder. -/
def names (path : String) : IO (Except FileError (List String)) := do
  let folder := (← IO.currentDir) / path
  guardFile path do return (← folder.readDir).toList.map (·.fileName)

/-- The files among what has one of some names in a folder. -/
def filesNamed (folder : Path) (names : List String) : ExceptT FileError IO (List Path) :=
  (names.map fun name => folder.append [name]).filterM fun inner => do
    match ← ExceptT.mk (entryAt inner.toText) with
    | some (.file _) => return true
    | _ => return false

/-- The files below a folder, links to folders left out. -/
partial def filesBelow (path : Path) : ExceptT FileError IO (List Path) := do
  match ← ExceptT.lift (names path.toText) with
  | .error e => if e.isPermission then return [] else throw e
  | .ok names =>
    let own ← filesNamed path names
    let below ← names.mapM fun name => do
      let inner := path.append [name]
      let folder := (← IO.currentDir) / inner.toText
      match ← ExceptT.lift (guardFile inner.toText folder.symlinkMetadata) with
      | .ok data => if data.type == .dir then filesBelow inner else return []
      | .error _ => return []
    return own ++ below.flatten

/-- What the bytes of an environment file set. A value may refer to variables of the machine. -/
def readSettings (environment : List (String × String)) (data : Bytes) :
    IO (Except FormatError Settings) := do
  match Formats.textOf data with
  | .error e => return .error e
  | .ok text =>
    let names := (EnvFile.bindings text).flatMap fun (_, value?) =>
      (value?.map EnvFile.references).getD []
    let values ← names.mapM fun name => do
      match environment.lookup name with
      | some value => return (name, some value)
      | none => return (name, ← IO.getEnv name)
    return (Formats.standard.readSettings (fun name => (values.lookup name).join) data).1

/-- A number in so many digits. -/
def digits (width : Nat) (n : Int) : String :=
  let s := toString n.toNat
  String.ofList (List.replicate (width - s.length) '0') ++ s

/-- The date and time. -/
def now : IO String := do
  let t ← Std.Time.PlainDateTime.now
  let micros := t.nanosecond.val / 1000
  return digits 4 t.year.toInt ++ "-" ++ digits 2 t.month.val ++ "-" ++ digits 2 t.day.val ++ "T" ++
    digits 2 t.hour.val ++ ":" ++ digits 2 t.minute.val ++ ":" ++ digits 2 t.second.val ++
    if micros = 0 then "" else "." ++ digits 6 micros

end SessionM

instance : Host SessionM where
  entryAt path := SessionM.entryAt path.toText
  read path := SessionM.guardFile path.toText do return (← IO.FS.readBinFile path.toText).data
  filesBelow path := (SessionM.filesBelow path).run
  filesIn path := do
    match ← SessionM.names path.toText with
    | .error e => return .error e
    | .ok names => (SessionM.filesNamed path names).run
  write target data := SessionM.guardFile target (IO.FS.writeBinFile target ⟨data⟩)
  readDocument data := return Formats.standard.readDocument data
  writeDocument entries := return Formats.standard.writeDocument entries
  readSettings data := do SessionM.readSettings (← get).environment data
  setOrder := return .listed
  valueOf name := do
    match (← get).environment.lookup name with
    | some value => return some value
    | none => IO.getEnv name
  setVariable name value := modify fun session =>
    { session with environment := (name, value) :: session.environment }
  print s := do (← IO.getStdout).putStr s
  printError s := do (← IO.getStderr).putStr s
  setLogWeight weight := modify fun session => { session with logWeight? := some weight }
  log line := do
    if (← get).logWeight?.any (· ≤ line.level.weight) then (← IO.getStderr).putStr line.text
  now := SessionM.now
  nanoseconds := IO.monoNanosNow
  durationSince start := do
    let elapsed := (← IO.monoNanosNow) - start
    return (Duration.ofSeconds? (.ofRatio false elapsed 1000000000)).getD .zero

end QbLint

/-- Runs the program on the words of its command line. -/
def main (words : List String) : IO UInt32 := do
  let (exit, _) ← (QbLint.Cli.run words : QbLint.SessionM QbLint.Exit).run {}
  match exit with
  | .status code => return code.toUInt32
  | .escaped e =>
    IO.eprintln e.message
    return 1
