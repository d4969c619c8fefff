import QbLint.Config.Basic
import QbLint.Host

/-!
# Reading the configuration

The configuration on a host: from its environment variables, and from an environment file, which
sets the linter's variables that are not set.

* `Config.read`: the configuration that given values come to;
* `Config.ofFile`: the configuration behind an environment file.
-/

namespace QbLint

/-- Why no configuration could be read. -/
inductive ConfigFailure
  | config (e : ConfigError)
  /-- The environment file cannot be read as one. -/
  | format (e : FormatError)
  /-- No variable's name or value holds a null character. -/
  | nullInVariable
  /-- No variable's name holds an equals sign. -/
  | invalidName
  | file (e : FileError)
  deriving DecidableEq

/-- A failure in words. -/
def ConfigFailure.message : ConfigFailure → String
  | config e => e.message
  | format e => e.message
  | nullInVariable => "embedded null byte"
  | invalidName => "illegal environment variable name"
  | file e => e.message

namespace Config

variable {m : Type → Type} [Monad m] [Host m]

/-- The values of some variables. -/
def valuesOf (names : List String) : m (String → Option String) := do
  let values ← names.mapM fun name => return (name, ← Host.valueOf name)
  return fun name => (values.lookup name).join

/-- The configuration that given values come to. -/
def read (given : Given) : m (Except ConfigFailure Config) := do
  return (of (← valuesOf Variable.all) given).mapError .config

/-- Why a variable cannot be set. -/
def variableFault? (name value : String) : Option ConfigFailure :=
  if name.toList.contains '\x00' || value.toList.contains '\x00' then some .nullInVariable
  else if name.toList.contains '=' then some .invalidName
  else none

/-- Sets the linter's variables that are not set. A name without a value is passed over. -/
def supply : Settings → m (Except ConfigFailure Unit)
  | [] => return .ok ()
  | (_, none) :: rest => supply rest
  | (name, some value) :: rest => do
    if Variable.namePrefix.toList.isPrefixOf name.toList && (← Host.valueOf name).isNone then
      match variableFault? name value with
      | some e => return .error e
      | none =>
        Host.setVariable name value
        supply rest
    else supply rest

/-- Sets the linter's variables that are not set from an environment file, if it is there. -/
def supplyFile (path : Path) : m (Except ConfigFailure Unit) := do
  match ← Host.entryAt path with
  | .error e => return .error (.file e)
  | .ok (some (.file _)) =>
    match ← Host.read path with
    | .error e => return .error (.file e)
    | .ok data =>
      match ← Host.readSettings data with
      | .error e => return .error (.format e)
      | .ok settings => supply settings
  | .ok _ => return .ok ()

/-- The configuration behind an environment file. -/
def ofFile (path : Path) : m (Except ConfigFailure Config) := do
  match ← supplyFile path with
  | .error e => return .error e
  | .ok () => read {}

end Config

end QbLint
