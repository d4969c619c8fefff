import QbLint.Script.Diagnostic

/-!
# Nesting

Blocks come in three kinds, and each kind is counted on its own: an open block of one kind never
accounts for the end of another. A count that goes below zero stays there, so that every end
without a beginning is reported.

* `Depths.close`: ends a block, and reports the end if nothing was open;
* `Depths.unclosed`: reports the kinds still open.
-/

namespace QbLint

/-- The kinds of block. -/
inductive BlockKind
  | dict | array | paren
  deriving DecidableEq, Inhabited

namespace BlockKind

/-- The kinds in the order in which they are reported. -/
def all : List BlockKind := [dict, array, paren]

/-- The name of a kind in messages. -/
def name : BlockKind → String
  | dict => "dict"
  | array => "array"
  | paren => "paren"

/-- The kind with a name. -/
def ofName? (s : String) : Option BlockKind := all.find? (·.name == s)

end BlockKind

/-- How many blocks of each kind are open; below zero, how many ends had no beginning. -/
structure Depths where
  dict : Int := 0
  array : Int := 0
  paren : Int := 0
  deriving DecidableEq, Inhabited

namespace Depths

/-- The depth of one kind. -/
def of (depths : Depths) : BlockKind → Int
  | .dict => depths.dict
  | .array => depths.array
  | .paren => depths.paren

/-- The depths after that of one kind has changed by `change`. -/
def add (depths : Depths) (kind : BlockKind) (change : Int) : Depths :=
  match kind with
  | .dict => { depths with dict := depths.dict + change }
  | .array => { depths with array := depths.array + change }
  | .paren => { depths with paren := depths.paren + change }

/-- Begins a block. -/
def enter (depths : Depths) (kind : BlockKind) : Depths := depths.add kind 1

/-- Ends a block. -/
def leave (depths : Depths) (kind : BlockKind) : Depths := depths.add kind (-1)

/-- What there is to report once a block of a kind has ended and `depths` are left: that it had no
beginning, if the depth is below zero. -/
def unbalanced (depths : Depths) (kind : BlockKind) (position : Int) : List Diagnostic :=
  if depths.of kind < 0 then
    [Rule.unbalancedNesting.report ("Unbalanced end " ++ kind.name) position]
  else []

/-- Ends a block at a position, and reports it if nothing of its kind was open. -/
def close (depths : Depths) (kind : BlockKind) (position : Int) : Depths × List Diagnostic :=
  (depths.leave kind, (depths.leave kind).unbalanced kind position)

/-- Reports every kind that is still open at the end of a script. -/
def unclosed (depths : Depths) (position : Int) : List Diagnostic :=
  BlockKind.all.filterMap fun kind =>
    if 0 < depths.of kind then
      some (Rule.unclosedNesting.report ("Unclosed " ++ kind.name ++ " at end of script") position)
    else none

@[simp] theorem of_add_self (depths : Depths) (kind : BlockKind) (change : Int) :
    (depths.add kind change).of kind = depths.of kind + change := by
  cases kind <;> rfl

theorem of_add_of_ne (depths : Depths) {kind other : BlockKind} (h : other ≠ kind) (change : Int) :
    (depths.add kind change).of other = depths.of other := by
  cases kind <;> cases other <;> simp_all [of, add]

end Depths

end QbLint
