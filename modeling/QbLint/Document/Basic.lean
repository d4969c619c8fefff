import QbLint.Number.Binary64

/-!
# Documents

The value that policies, report metadata and machine-readable reports are made of: scalars, lists,
and mappings that keep the order of their entries. A mapping's keys are scalars; most are texts.

* `Document.get?`: the value of a text key;
* `Document.truthy`: whether a value counts as given, which null, `false`, zero and whatever is
  empty do not;
* `Entries.put`: a later entry takes the place of an earlier one with the same key;
* `Document.agrees`: whether two documents have the same value.
-/

namespace QbLint

/-- A value without parts. -/
inductive Scalar
  | null
  | bool (b : Bool)
  | int (n : Int)
  | float (x : Binary64)
  | text (s : String)
  deriving DecidableEq, Inhabited

/-- A value: a scalar, a list, or a mapping in the order of its entries. -/
inductive Document
  | scalar (s : Scalar)
  | list (items : List Document)
  | map (entries : List (Scalar × Document))
  deriving Inhabited

/-- The entries of a mapping. -/
abbrev Entries := List (Scalar × Document)

namespace Scalar

/-- The number a scalar counts as when scalars are compared: booleans are 0 and 1. -/
def asInt? : Scalar → Option Int
  | bool b => some (if b then 1 else 0)
  | int n => some n
  | float x => x.toInt?
  | _ => none

/-- Whether two scalars are the same key. Numbers are compared by value whatever their kind, and
a number that is not a number is no key twice. -/
def sameKey (a b : Scalar) : Bool :=
  match a.asInt?, b.asInt? with
  | some m, some n => m == n
  | none, none =>
    match a with
    | float x => !x.isNaN && a == b
    | _ => a == b
  | _, _ => false

/-- Zero, `false`, null and the empty text are not truthy. -/
def truthy : Scalar → Bool
  | null => false
  | bool b => b
  | int n => n != 0
  | float x => !x.isZero
  | text s => !s.isEmpty

end Scalar

namespace Entries

/-- The value of a text key. -/
def get? (entries : Entries) (key : String) : Option Document :=
  (entries.find? (·.1 == .text key)).map (·.2)

/-- Sets the value of a key: in its place if the key is there, at the end otherwise. -/
def put (entries : Entries) (key : Scalar) (value : Document) : Entries :=
  match entries with
  | [] => [(key, value)]
  | (k, v) :: rest => if k.sameKey key then (k, value) :: rest else (k, v) :: put rest key value

/-- Entries in which a later pair with a key seen before replaces the value of the earlier one. -/
def ofList (pairs : List (Scalar × Document)) : Entries :=
  pairs.foldl (fun entries p => put entries p.1 p.2) []

end Entries

namespace Document

/-- The null document. -/
def null : Document := .scalar .null

/-- A text as a document. -/
def text (s : String) : Document := .scalar (.text s)

/-- A whole number as a document. -/
def int (n : Int) : Document := .scalar (.int n)

/-- A truth value as a document. -/
def bool (b : Bool) : Document := .scalar (.bool b)

/-- A mapping with text keys. -/
def record (fields : List (String × Document)) : Document :=
  .map (fields.map fun (k, v) => (.text k, v))

/-- Whether a value counts as given. -/
def truthy : Document → Bool
  | .scalar s => s.truthy
  | .list items => !items.isEmpty
  | .map entries => !entries.isEmpty

end Document

mutual

/-- Whether two documents have the same value: scalars are compared as keys are, and the order of a
mapping's entries does not matter. -/
def Document.agrees : Document → Document → Bool
  | .scalar a, .scalar b => a.sameKey b
  | .list xs, .list ys => itemsAgree xs ys
  | .map xs, .map ys => xs.length == ys.length && entriesAgree xs ys
  | _, _ => false

/-- Whether the items of two lists agree, one by one. -/
def itemsAgree : List Document → List Document → Bool
  | [], [] => true
  | x :: xs, y :: ys => x.agrees y && itemsAgree xs ys
  | _, _ => false

/-- Whether each entry agrees with one of some others. -/
def entriesAgree : List (Scalar × Document) → List (Scalar × Document) → Bool
  | [], _ => true
  | (key, x) :: xs, ys =>
    (match ys.find? fun entry => key.sameKey entry.1 with
    | some (_, y) => x.agrees y
    | none => false) && entriesAgree xs ys

end

mutual

/-- Whether two documents are the same. -/
def Document.decideEq : (a b : Document) → Decidable (a = b)
  | .scalar a, .scalar b => decidable_of_iff (a = b) (Document.scalar.injEq a b).to_iff.symm
  | .list xs, .list ys =>
    have := itemsDecideEq xs ys
    decidable_of_iff (xs = ys) (Document.list.injEq xs ys).to_iff.symm
  | .map xs, .map ys =>
    have := entriesDecideEq xs ys
    decidable_of_iff (xs = ys) (Document.map.injEq xs ys).to_iff.symm
  | .scalar _, .list _ | .scalar _, .map _ | .list _, .scalar _ | .list _, .map _
  | .map _, .scalar _ | .map _, .list _ => isFalse nofun

/-- Whether two lists have the same items. -/
def itemsDecideEq : (xs ys : List Document) → Decidable (xs = ys)
  | [], [] => isTrue rfl
  | x :: xs, y :: ys =>
    have := x.decideEq y
    have := itemsDecideEq xs ys
    decidable_of_iff (x = y ∧ xs = ys) (List.cons.injEq ..).to_iff.symm
  | [], _ :: _ | _ :: _, [] => isFalse nofun

/-- Whether two mappings have the same entries, in the same order. -/
def entriesDecideEq : (xs ys : List (Scalar × Document)) → Decidable (xs = ys)
  | [], [] => isTrue rfl
  | (key, x) :: xs, (other, y) :: ys =>
    have := x.decideEq y
    have := entriesDecideEq xs ys
    decidable_of_iff ((key = other ∧ x = y) ∧ xs = ys) (by rw [List.cons.injEq, Prod.mk.injEq])
  | [], _ :: _ | _ :: _, [] => isFalse nofun

end

instance : DecidableEq Document := Document.decideEq

end QbLint
