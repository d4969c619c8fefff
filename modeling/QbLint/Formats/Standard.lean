import QbLint.Document.Display
import QbLint.Formats.EnvFile
import QbLint.Yaml.Node
import QbLint.Yaml.Write

/-!
# The formats of the program

The readers and the writer that the program comes with where it runs by itself: documents are YAML,
and environment files set one variable a line. What is shown of the linter holds for any others.

* `Formats.standard`: these formats.
-/

namespace QbLint

namespace Formats

/-- The text in the bytes of a file. -/
def textOf (data : Bytes) : Except FormatError (List Char) :=
  match Utf8.decode data with
  | .error fault => .error (.undecodable fault)
  | .ok text => .ok (Text.unifyLines text)

/-- A fault as it is told of a document's text. What the end of the text cuts off is looked at by
itself, so its position counts from there. -/
def atEnd : FormatError → FormatError
  | .undecodable fault =>
    .undecodable (if fault.reason = .unexpectedEnd then { fault with position := 0 } else fault)
  | e => e

/-- The document in the bytes of a YAML file. -/
def readYaml (data : Bytes) : Except FormatError Document := do
  let text ← (textOf data).mapError atEnd
  match Yaml.read? (String.ofList text) with
  | some value => return value
  | none => throw (.malformed "no YAML document")

/-- A mapping as YAML, if all of its values can be written. -/
def writeYaml (entries : Entries) : Except FormatError String :=
  if entriesWritable entries then .ok (Yaml.write entries) else .error (.badValue Text.unwritable)

/-- YAML documents and environment files. -/
def standard : Formats where
  readDocument := readYaml
  writeDocument := writeYaml
  readSettings env data := ((textOf data).map (EnvFile.settings env), "")

end Formats

end QbLint
