import QbLint.Document.Basic

/-!
# Overlays

One mapping laid over another: entries of the upper one replace those of the lower one with the
same key, except that two mappings are laid over each other in turn. The keys of the lower mapping
keep their places, and new ones follow.

* `Document.overlay`: a document over another;
* `Entries.overlay`: the entries of a mapping over those of another.
-/

namespace QbLint

/-- Sets the value of a key to what `combine` makes of its old value, in its place, or puts
`value` at the end. -/
def Entries.update (entries : Entries) (key : Scalar) (combine : Document → Document)
    (value : Document) : Entries :=
  match entries with
  | [] => [(key, value)]
  | (k, v) :: rest =>
    if k = key then (k, combine v) :: rest else (k, v) :: update rest key combine value

mutual

/-- A document laid over another: two mappings are combined, anything else is replaced. -/
def Document.overlay (lower : Document) : Document → Document
  | .map upper =>
    match lower with
    | .map entries => .map (Entries.overlay entries upper)
    | _ => .map upper
  | upper => upper

/-- The entries of one mapping laid over those of another. -/
def Entries.overlay (lower : Entries) : List (Scalar × Document) → Entries
  | [] => lower
  | (key, value) :: rest =>
    Entries.overlay (Entries.update lower key (fun old => old.overlay value) value) rest

end

end QbLint
