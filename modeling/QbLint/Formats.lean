import QbLint.Document.Basic
import QbLint.Text.Utf8

/-!
# Formats

Texts in formats that the linter does not define itself: the documents that hold policies, and the
files that set environment variables. Whatever reads and writes them comes with the machine, and
nothing is said of it here but what it may come to.

* `Formats`: readers and a writer; `FormatError`: why one of them came to nothing;
* `SetOrder`: the order in which the members of a set are gone through.
-/

namespace QbLint

/-- Why something could not be read or written in a format. -/
inductive FormatError
  /-- The text is not in the format, for the reason that is told. -/
  | malformed (reason : String)
  /-- The bytes are no text. -/
  | undecodable (fault : Utf8.Fault)
  /-- The text stands for a value that there is not, or a value has no text. -/
  | badValue (message : String)
  /-- An error that the reader or the writer does not expect itself. -/
  | unexpected (message : String)
  deriving DecidableEq

/-- An error in words. -/
def FormatError.message : FormatError → String
  | malformed reason => reason
  | undecodable fault => fault.message
  | badValue message => message
  | unexpected message => message

/-- The names that an environment file sets, with their values if they have one. -/
abbrev Settings := List (String × Option String)

/-- Readers and a writer of texts. -/
structure Formats where
  /-- The document in the bytes of a file. -/
  readDocument : Bytes → Except FormatError Document
  /-- A mapping as text. -/
  writeDocument : Entries → Except FormatError String
  /-- What the bytes of a file set where variables have some values, and what the reader says of
  lines that it passes over. -/
  readSettings : (String → Option String) → Bytes → Except FormatError Settings × String

/-- Formats in which nothing can be read or written. -/
instance : Inhabited Formats where
  default :=
    { readDocument := fun _ => .error (.malformed "")
      writeDocument := fun _ => .error (.malformed "")
      readSettings := fun _ _ => (.error (.malformed ""), "") }

/-- An order in which the members of a set are gone through, by the list that the set was made
of. -/
structure SetOrder where
  arrange : List String → List String
  mem_arrange : ∀ {ids : List String} {id : String}, id ∈ arrange ids ↔ id ∈ ids

attribute [simp] SetOrder.mem_arrange

namespace SetOrder

/-- The order of the list itself. -/
def listed : SetOrder := ⟨fun ids => ids, Iff.rfl⟩

instance : Inhabited SetOrder := ⟨listed⟩

end SetOrder

end QbLint
