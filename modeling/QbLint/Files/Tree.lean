import QbLint.Bytes
import QbLint.Files.Error
import QbLint.Files.Path

/-!
# Trees of files

A folder with all that lies below it, as a value. A way through it is a list of names, on which
double dots lead back to the folder above; every name but the last must be that of a folder.

* `Tree.follow`: what lies at the end of a way, or what stands in it;
* `Tree.graft`: a tree with something else at the end of a way.
-/

namespace QbLint

/-- A file, or a folder with what lies in it. -/
inductive Tree
  | file (data : Bytes)
  /-- A file whose bytes cannot be had. -/
  | sealed
  | folder (entries : List (String × Tree))
  deriving Inhabited

namespace Tree

/-- What ends a way before its last name. -/
inductive Obstacle
  /-- A name is not there. -/
  | absent
  /-- A name is that of a file. -/
  | file
  deriving DecidableEq

/-- What lies at the end of a way from a tree, which was reached through the folders of `trail`, the
last one first. -/
def follow (trail : List Tree) (t : Tree) : List String → Except Obstacle Tree
  | [] => .ok t
  | name :: rest =>
    match t with
    | .folder entries =>
      if name = "." then follow trail t rest
      else if name = ".." then
        match trail with
        | [] => follow [] t rest
        | above :: trail => follow trail above rest
      else
        match entries.lookup name with
        | none => .error .absent
        | some inner => follow (t :: trail) inner rest
    | _ => .error .file

/-- Changes what has a name, or puts `new` at the end under that name. -/
def alter (name : String) (change : Tree → Tree) (new : Tree) :
    List (String × Tree) → List (String × Tree)
  | [] => [(name, new)]
  | (key, inner) :: rest =>
    if key = name then (key, change inner) :: rest else (key, inner) :: alter name change new rest

/-- A tree with something else at the end of a way without dots. Folders on the way that are not
there are made; a file on the way stays. -/
def graft (new : Tree) : List String → Tree → Tree
  | [], _ => new
  | name :: rest, .folder entries =>
    .folder (alter name (graft new rest) (graft new rest (.folder [])) entries)
  | _ :: _, t => t

/-- A way without dots to where a way leads, if it leads anywhere. -/
def straighten (done : List String) : List String → List String
  | [] => done.reverse
  | name :: rest =>
    if name = "." then straighten done rest
    else if name = ".." then straighten done.tail rest
    else straighten (name :: done) rest

end Tree

end QbLint
