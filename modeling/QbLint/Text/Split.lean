/-!
# Splitting texts

* `Text.split`: the parts of a text between separators; there is one more of them than there are
  separators;
* `Text.runs`: a text as alternate runs of characters that have a property and that do not.
-/

namespace QbLint.Text

/-- The parts of a text between the occurrences of a separator. -/
def split (separator : Char) : List Char → List (List Char)
  | [] => [[]]
  | c :: rest =>
    if c = separator then [] :: split separator rest
    else
      match split separator rest with
      | [] => [[c]]
      | part :: parts => (c :: part) :: parts

/-- The longest runs of characters of one class each. -/
def runs {α : Type} [DecidableEq α] (kind : Char → α) : List Char → List (List Char)
  | [] => []
  | c :: rest =>
    match runs kind rest with
    | (d :: run) :: others =>
      if kind c = kind d then (c :: d :: run) :: others else [c] :: (d :: run) :: others
    | others => [c] :: others

end QbLint.Text
