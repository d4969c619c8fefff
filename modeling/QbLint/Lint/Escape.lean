import QbLint.Files.Error
import QbLint.Text.Numeral

/-!
# Errors that nothing expects

Errors that no result, no report and no exit status tells of: they leave every command in which they
arise.

* `Escape.message`: such an error in words.
-/

namespace QbLint

/-- A severity that a policy gives to a rule and that does not exist, in capitals. -/
structure UnknownSeverity where
  text : String
  deriving DecidableEq

/-- The error in words. -/
def UnknownSeverity.message (e : UnknownSeverity) : String :=
  Quoted.quote e.text ++ " is not a valid Severity"

/-- An error that no command expects. -/
inductive Escape
  | file (e : FileError)
  /-- A whole number in a message has too many digits. -/
  | unwritable
  | unknownSeverity (e : UnknownSeverity)
  /-- A reader or a writer of a format gave up in a way of its own. -/
  | format (message : String)
  deriving DecidableEq

/-- An error in words. -/
def Escape.message : Escape → String
  | file e => e.message
  | unwritable => Text.unwritable
  | unknownSeverity e => e.message
  | format message => message

end QbLint
