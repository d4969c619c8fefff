import QbLint.Text.Quoted

/-!
# File errors

Why a file cannot be read or written, or a folder not be searched. The path in the message is the
one that was asked for.

* `SystemError`: the errors that have no case of their own, by number and name;
* `FileError.message`: an error in words;
* `FileError.isAbsence`, `FileError.isPermission`: the errors that count as finding nothing.
-/

namespace QbLint

/-- An error of the system without a case of its own. Its name is a text of a single line. -/
structure SystemError where
  number : Nat
  name : String
  other : number ∉ [2, 20, 21]
  isLine : '\n' ∉ name.toList
  deriving DecidableEq

namespace SystemError

/-- The bytes of a file cannot be had. -/
def inputOutput : SystemError := ⟨5, "Input/output error", by decide, by decide⟩

/-- The user may not do what was asked for. -/
def permissionDenied : SystemError := ⟨13, "Permission denied", by decide, by decide⟩

/-- Whether an error says no more than that a path leads nowhere: a bad descriptor, or a link that
leads to itself. -/
def isAbsence (e : SystemError) : Bool := [9, 40].contains e.number

/-- Whether an error says that something is not permitted. -/
def isPermission (e : SystemError) : Bool := [1, 13].contains e.number

end SystemError

/-- Why something cannot be done with a file or a folder. -/
inductive FileError
  | notFound (path : String)
  | notFolder (path : String)
  | isFolder (path : String)
  /-- No path is named for an error that arises once a file is open. -/
  | system (e : SystemError) (path? : Option String)
  /-- No file's name holds a null character. -/
  | nullInPath
  deriving DecidableEq

namespace FileError

/-- An error in words. -/
def message : FileError → String
  | notFound path => "[Errno 2] No such file or directory: " ++ Quoted.quote path
  | notFolder path => "[Errno 20] Not a directory: " ++ Quoted.quote path
  | isFolder path => "[Errno 21] Is a directory: " ++ Quoted.quote path
  | system e none => "[Errno " ++ toString e.number ++ "] " ++ e.name
  | system e (some path) =>
    "[Errno " ++ toString e.number ++ "] " ++ e.name ++ ": " ++ Quoted.quote path
  | nullInPath => "embedded null byte"

/-- Whether an error says no more than that there is nothing at a path. -/
def isAbsence : FileError → Bool
  | notFound _ | notFolder _ | nullInPath => true
  | isFolder _ => false
  | system e _ => e.isAbsence

/-- Whether an error says that something is not permitted. -/
def isPermission : FileError → Bool
  | system e _ => e.isPermission
  | _ => false

end FileError

end QbLint
