import QbLint.Host
import QbLint.Policy.Document
import QbLint.Policy.Preset

/-!
# Policy files

Policies in files, and the presets, which come with the linter. A file holds the sections in which a
policy differs from the built-in one.

* `Policy.ofDocument`, `Policy.ofReading`: the policy that a document holds, and that of what was
  read from a file;
* `Policy.ofFile`, `Policy.ofPreset`: the policy in a file, and that of a preset;
* `Policy.save`: a policy as a file, for editing.
-/

namespace QbLint

/-- Why a policy could not be read or written. -/
inductive PolicyFailure
  | missing (path : String)
  | file (e : FileError)
  | policy (e : PolicyError)
  | unknownPreset (name : String)
  | undecodable (fault : Utf8.Fault)
  /-- A value that a file holds does not exist, or a value of a policy cannot be written. -/
  | badValue (message : String)
  /-- The reader or the writer of documents gave up in a way of its own. -/
  | unexpected (message : String)

/-- A failure in words. -/
def PolicyFailure.message : PolicyFailure → String
  | missing path => "Policy file not found: " ++ path
  | file e => e.message
  | policy e => e.message
  | unknownPreset name =>
    "Unknown preset '" ++ name ++ "'. Available: " ++ ", ".intercalate Preset.names
  | undecodable fault => fault.message
  | badValue message => message
  | unexpected message => message

/-- What keeps a document from being read from a file. -/
def PolicyFailure.ofReading (path : String) : FormatError → PolicyFailure
  | .malformed reason => .policy (.malformedText path reason)
  | .undecodable fault => .undecodable fault
  | .badValue message => .badValue message
  | .unexpected message => .unexpected message

/-- What keeps a document from being written. -/
def PolicyFailure.ofWriting : FormatError → PolicyFailure
  | .malformed reason => .unexpected reason
  | .undecodable fault => .undecodable fault
  | .badValue message => .badValue message
  | .unexpected message => .unexpected message

namespace Policy

/-- The policy that the document of a file holds; one that says nothing is the built-in policy. -/
def ofDocument (order : SetOrder) (path : String) : Document → Except PolicyError Policy
  | .map entries => ofOverlay order entries
  | value => if value.truthy then .error (.notMapping path) else ofOverlay order []

/-- The policy in what was read from a file. -/
def ofReading (order : SetOrder) (path : String) :
    Except FormatError Document → Except PolicyFailure Policy
  | .error e => .error (.ofReading path e)
  | .ok value => (ofDocument order path value).mapError .policy

variable {m : Type → Type} [Monad m] [Host m]

/-- Tells where a policy came from. -/
def logLoaded (p : Policy) (path : String) : m Unit :=
  Host.log ⟨.debug, .policies, "Loaded scan policy " ++ p.name ++ " from " ++ path⟩

/-- The policy in a file. -/
def ofFile (path : Path) : m (Except PolicyFailure Policy) := do
  match ← Host.entryAt path with
  | .error e => return .error (.file e)
  | .ok none => return .error (.missing path.toText)
  | .ok (some _) =>
    match ← Host.read path with
    | .error e => return .error (.file e)
    | .ok data =>
      let reading ← Host.readDocument data
      match ofReading (← Host.setOrder) path.toText reading with
      | .error e => return .error e
      | .ok p =>
        p.logLoaded path.toText
        return .ok p

/-- The policy of a preset. -/
def readPreset (preset : Preset) : m Policy := do
  preset.policy.logLoaded preset.place
  return preset.policy

/-- The policy of the preset with a name. -/
def ofPreset (name : String) : m (Except PolicyFailure Policy) :=
  match Preset.ofName? name with
  | none => return .error (.unknownPreset name)
  | some preset => return .ok (← readPreset preset)

/-- The text of a policy's file. Where the policy cannot be written nothing follows the header. -/
def fileText (written : Except FormatError String) : String :=
  header ++ written.toOption.getD ""

/-- Writes a policy to a file. -/
def save (p : Policy) (path : Path) : m (Except PolicyFailure Unit) := do
  let written ← Host.writeDocument p.entries
  match ← Host.write path.toText (Utf8.encode (fileText written)) with
  | .error e => return .error (.file e)
  | .ok () => return (written.mapError .ofWriting).map fun _ => ()

end Policy

end QbLint
