import QbLint.Text.Case
import QbLint.Text.Split

/-!
# Paths

A path is a list of names, from the root or from the folder the linter works in. Names that say
nothing, empty ones and single dots, are dropped; double dots are kept, since where they lead
depends on the folders.

* `Path.ofText`, `Path.toText`: reading and writing a path;
* `Path.suffix`: the ending of a file's name, by which scripts are told from other files;
* `Path.key`: the names by which paths are sorted, so that what lies in a folder stays together.
-/

namespace QbLint

/-- A path: what it begins with if it is absolute, and its names. -/
structure Path where
  root : String := ""
  names : List String := []
  deriving DecidableEq, Inhabited

namespace Path

/-- What a text begins with if it is an absolute path. Two slashes are told from one, but more than
two are not. -/
def rootOf : List Char → String
  | '/' :: '/' :: '/' :: _ => "/"
  | '/' :: '/' :: _ => "//"
  | '/' :: _ => "/"
  | _ => ""

/-- The path that a text denotes. -/
def ofText (s : String) : Path :=
  { root := rootOf s.toList
    names := ((Text.split '/' s.toList).map String.ofList).filter fun name =>
      name ≠ "" ∧ name ≠ "." }

/-- A path as text; the path without names is a dot. -/
def toText (p : Path) : String :=
  if p.root = "" ∧ p.names = [] then "." else p.root ++ "/".intercalate p.names

/-- A path with further names. -/
def append (p : Path) (names : List String) : Path := { p with names := p.names ++ names }

/-- The last name of a path. -/
def name (p : Path) : String := p.names.getLast?.getD ""

/-- The ending of the last name, from its last dot on. A dot that is the first or the last character
makes no ending. -/
def suffix (p : Path) : String :=
  let reversed := p.name.toList.reverse
  match reversed.takeWhile (· ≠ '.'), reversed.dropWhile (· ≠ '.') with
  | c :: ending, _ :: _ :: _ => String.ofList ('.' :: (c :: ending).reverse)
  | _, _ => ""

/-- Whether the last name ends in one of some endings, which are in lower case. -/
def hasSuffix (p : Path) (suffixes : List String) : Bool := suffixes.contains (Text.lower p.suffix)

/-- The names by which paths are sorted. -/
def key (p : Path) : List String := if p.root = "" then p.names else p.root :: p.names

/-- Whether the first name in which two paths differ comes first in the first path. -/
def precedes (p q : Path) : Bool := p.key.lex q.key fun a b => decide (a < b)

/-- Paths in the order of their names. -/
def sort (paths : List Path) : List Path := paths.mergeSort fun p q => !q.precedes p

end Path

end QbLint
