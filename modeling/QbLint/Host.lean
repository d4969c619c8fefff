import QbLint.Bytes
import QbLint.Files.Error
import QbLint.Files.Path
import QbLint.Formats
import QbLint.Log
import QbLint.Number.Duration

/-!
# Hosts

What the linter needs of the machine it runs on: files, readers and writers of formats, variables,
streams, a log and a clock. All commands are written for any host, so that the same definitions run
on a real machine and can be reasoned about on a model of one.
-/

namespace QbLint

/-- What a path leads to. -/
inductive Entry
  | file (size : Nat)
  | folder
  deriving DecidableEq

/-- A machine that the linter can run on. Reading and searching take paths; writing takes the text
of a path as it was given, since a slash at its end matters there. -/
class Host (m : Type → Type) where
  /-- What a path leads to, if it leads anywhere. There is an error if that cannot be told. -/
  entryAt : Path → m (Except FileError (Option Entry))
  /-- The bytes of a file. -/
  read : Path → m (Except FileError Bytes)
  /-- The files below a folder, at any depth, but for folders that may not be listed. -/
  filesBelow : Path → m (Except FileError (List Path))
  /-- The files in a folder. -/
  filesIn : Path → m (Except FileError (List Path))
  /-- Makes a file with some bytes, in place of a file that may be there. -/
  write : String → Bytes → m (Except FileError Unit)
  /-- The document in the bytes of a file. -/
  readDocument : Bytes → m (Except FormatError Document)
  /-- A mapping as text. -/
  writeDocument : Entries → m (Except FormatError String)
  /-- What the bytes of an environment file set. -/
  readSettings : Bytes → m (Except FormatError Settings)
  /-- The order in which the members of a set are gone through. -/
  setOrder : m SetOrder
  /-- The value of an environment variable. -/
  valueOf : String → m (Option String)
  /-- Sets an environment variable. -/
  setVariable : String → String → m Unit
  /-- Writes a text. -/
  print : String → m Unit
  /-- Writes a text to where errors go. -/
  printError : String → m Unit
  /-- From now on, log lines of at least this weight are written to where errors go. -/
  setLogWeight : Nat → m Unit
  /-- Tells a line to the log. -/
  log : Log.Line → m Unit
  /-- The date and time. -/
  now : m String
  /-- The nanoseconds since some fixed time. -/
  nanoseconds : m Nat
  /-- The time since a number of nanoseconds was told. -/
  durationSince : Nat → m Duration

end QbLint
