import QbLint.Host
import QbLint.Lint.Escape
import QbLint.Text.Case

/-!
# Loading and finding scripts

Which files are taken for scripts: those that a caller names, whatever they are called, and below
the folders that a caller names those with one of some endings. A script beyond the size limit is
not read.

* `Selection.load`: the bytes of a script, or why it could not be loaded;
* `Selection.discover`: the scripts that a list of paths comes to.
-/

namespace QbLint

/-- Which files are taken for scripts. -/
structure Selection where
  /-- The size of the largest script, in units of 2²⁰ bytes. -/
  maxMegabytes : Int := 10
  /-- The endings of scripts in folders, in lower case. -/
  suffixes : List String := [".qb"]

/-- Why a script could not be loaded. -/
inductive LoadError
  | missing
  | isFolder
  | tooLarge (size : Nat) (limit : Int) (writable : Text.isWritable size ∧ Text.isWritable limit)
  | unreadable (cause : FileError)
  deriving DecidableEq

/-- An error in words. -/
def LoadError.message : LoadError → String
  | missing => "File does not exist"
  | isFolder => "File does not exist (path is a directory)"
  | tooLarge size limit _ => s!"File is {size} bytes, larger than the {limit} byte limit"
  | unreadable cause => "Failed to read script: " ++ cause.message

namespace Selection

/-- The selection with a size limit and endings, those of the default if none are given. -/
def of (maxMegabytes : Int) (suffixes : List String) : Selection :=
  let standard : Selection := {}
  { maxMegabytes
    suffixes := if suffixes.isEmpty then standard.suffixes else suffixes.map Text.lower }

/-- The size of the largest script in bytes. -/
def maxBytes (s : Selection) : Int := s.maxMegabytes * 1024 * 1024

variable {m : Type → Type} [Monad m] [Host m]

/-- The error about a script of a size, if its numbers can be written. -/
def sizeError (s : Selection) (size : Nat) : Except Escape LoadError :=
  if h : Text.isWritable size ∧ Text.isWritable s.maxBytes then .ok (.tooLarge size s.maxBytes h)
  else .error .unwritable

/-- The bytes of a script, or why it could not be loaded. -/
def load (s : Selection) (path : Path) : m (Except Escape (Except LoadError Bytes)) := do
  match ← Host.entryAt path with
  | .error e => return .error (.file e)
  | .ok none => return .ok (.error .missing)
  | .ok (some .folder) => return .ok (.error .isFolder)
  | .ok (some (.file size)) =>
    if s.maxBytes < size then return (s.sizeError size).map .error
    else
      match ← Host.read path with
      | .error cause => return .ok (.error (.unreadable cause))
      | .ok data =>
        Host.log ⟨.debug, .loader, s!"Loaded {path.toText} ({data.size} bytes)"⟩
        return .ok (.ok data)

/-- Those among some files that have the ending of a script, in order. -/
def scripts (s : Selection) (files : List Path) : List Path :=
  Path.sort (files.filter fun path => path.hasSuffix s.suffixes)

/-- The scripts that a path comes to: those below it if it is a folder and folders are searched, and
else itself, whatever it leads to. -/
def expand (s : Selection) (recursive : Bool) (path : Path) : m (Except FileError (List Path)) := do
  match ← Host.entryAt path with
  | .error e => return .error e
  | .ok (some .folder) =>
    if recursive then
      match ← Host.filesBelow path with
      | .error e => return .error e
      | .ok files =>
        let found := s.scripts files
        if found.isEmpty then
          Host.log ⟨.info, .loader,
            "No scripts with extensions " ++ ", ".intercalate s.suffixes ++ " in " ++ path.toText⟩
        return .ok found
    else return .ok [path]
  | .ok _ => return .ok [path]

/-- The scripts that some paths come to, in the order of the paths, up to the first path of which
that cannot be told. -/
def discover (s : Selection) (recursive : Bool) : List Path → m (Except FileError (List Path))
  | [] => return .ok []
  | path :: rest => do
    match ← s.expand recursive path with
    | .error e => return .error e
    | .ok found => return (← discover s recursive rest).map (found ++ ·)

end Selection

end QbLint
