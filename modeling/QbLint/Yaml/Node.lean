import QbLint.Yaml.Plain
import QbLint.Yaml.Token

/-!
# YAML documents

From tokens to the tree of nodes that they spell out, and from a node to the document it stands for.
A node left out is null. A text holds one document, with or without the marks of its ends.

* `Yaml.Node.ofTokens?`: the node that tokens spell out;
* `Yaml.Node.document?`: what a node stands for; keys must be scalars, and a key given twice has its
  last value;
* `Yaml.read?`: the document in a text.
-/

namespace QbLint.Yaml

/-- A tree as it is written. -/
inductive Node
  | scalar (plain : Bool) (text : String)
  | list (items : List Node)
  | map (entries : List (Node × Node))
  deriving Inhabited

namespace Node

/-- A node that was left out. -/
def missing : Node := scalar true ""

/-- Whether the next token is one of some. -/
def meets (choice : List Token) (ts : List Token) : Bool := ts.head?.any choice.contains

/-! ## From tokens to nodes

Every function takes a bound on the depth of calls, for which three times the number of tokens is
enough: a call takes a token, or it is followed by one that does. -/

mutual

/-- The node at the front of some tokens. A block may stand there only if `block`, and a sequence
without an indentation of its own only if `indentless`. -/
def node? (block indentless : Bool) : Nat → List Token → Option (Node × List Token)
  | 0, _ => none
  | fuel + 1, ts =>
    match ts with
    | .scalar plain text :: rest => some (scalar plain text, rest)
    | .flowSequenceStart :: rest => flowItems? true [] fuel rest
    | .flowMappingStart :: rest => flowEntries? true [] fuel rest
    | .sequenceStart :: rest => if block then items? [] fuel rest else none
    | .mappingStart :: rest => if block then entries? [] fuel rest else none
    | .blockEntry :: _ => if indentless then indentlessItems? [] fuel ts else none
    | _ => none

/-- A node, or a missing one before one of some tokens. -/
def nodeUnless? (absent : List Token) (block indentless : Bool) :
    Nat → List Token → Option (Node × List Token)
  | 0, _ => none
  | fuel + 1, ts => if meets absent ts then some (missing, ts) else node? block indentless fuel ts

/-- The items of a block sequence up to its end. -/
def items? (done : List Node) : Nat → List Token → Option (Node × List Token)
  | 0, _ => none
  | fuel + 1, ts =>
    match ts with
    | .blockEntry :: rest => do
      let (item, rest) ← nodeUnless? [.blockEntry, .blockEnd] true false fuel rest
      items? (item :: done) fuel rest
    | .blockEnd :: rest => some (list done.reverse, rest)
    | _ => none

/-- The items of a sequence that is not indented further than the key it belongs to. -/
def indentlessItems? (done : List Node) : Nat → List Token → Option (Node × List Token)
  | 0, _ => none
  | fuel + 1, ts =>
    match ts with
    | .blockEntry :: rest => do
      let (item, rest) ←
        nodeUnless? [.blockEntry, .key, .value, .blockEnd] true false fuel rest
      indentlessItems? (item :: done) fuel rest
    | ts => some (list done.reverse, ts)

/-- The entries of a block mapping up to its end. -/
def entries? (done : List (Node × Node)) : Nat → List Token → Option (Node × List Token)
  | 0, _ => none
  | fuel + 1, ts =>
    match ts with
    | .key :: rest => do
      let absent : List Token := [.key, .value, .blockEnd]
      let (key, rest) ← nodeUnless? absent true true fuel rest
      match rest with
      | .value :: rest =>
        let (value, rest) ← nodeUnless? absent true true fuel rest
        entries? ((key, value) :: done) fuel rest
      | rest => entries? ((key, missing) :: done) fuel rest
    | .blockEnd :: rest => some (map done.reverse, rest)
    | _ => none

/-- The value behind a key in a flow collection with a certain end. -/
def flowValue? (closing : Token) : Nat → List Token → Option (Node × List Token)
  | 0, _ => none
  | fuel + 1, ts =>
    match ts with
    | .value :: rest => nodeUnless? [.flowEntry, closing] false false fuel rest
    | ts => some (missing, ts)

/-- The items of a flow sequence up to its end. An item with a key is a mapping of one entry. -/
def flowItems? (first : Bool) (done : List Node) : Nat → List Token → Option (Node × List Token)
  | 0, _ => none
  | fuel + 1, ts =>
    match ts with
    | .flowSequenceEnd :: rest => some (list done.reverse, rest)
    | ts => do
      let ts ← if first then some ts else
        match ts with
        | .flowEntry :: rest => some rest
        | _ => none
      match ts with
      | .flowSequenceEnd :: rest => some (list done.reverse, rest)
      | .key :: rest =>
        let (key, rest) ←
          nodeUnless? [.value, .flowEntry, .flowSequenceEnd] false false fuel rest
        let (value, rest) ← flowValue? .flowSequenceEnd fuel rest
        flowItems? false (map [(key, value)] :: done) fuel rest
      | ts =>
        let (item, rest) ← node? false false fuel ts
        flowItems? false (item :: done) fuel rest

/-- The entries of a flow mapping up to its end. A node alone is a key without a value. -/
def flowEntries? (first : Bool) (done : List (Node × Node)) :
    Nat → List Token → Option (Node × List Token)
  | 0, _ => none
  | fuel + 1, ts =>
    match ts with
    | .flowMappingEnd :: rest => some (map done.reverse, rest)
    | ts => do
      let ts ← if first then some ts else
        match ts with
        | .flowEntry :: rest => some rest
        | _ => none
      match ts with
      | .flowMappingEnd :: rest => some (map done.reverse, rest)
      | .key :: rest =>
        let (key, rest) ←
          nodeUnless? [.value, .flowEntry, .flowMappingEnd] false false fuel rest
        let (value, rest) ← flowValue? .flowMappingEnd fuel rest
        flowEntries? false ((key, value) :: done) fuel rest
      | ts =>
        let (key, rest) ← node? false false fuel ts
        flowEntries? false ((key, missing) :: done) fuel rest

end

/-- The node that the tokens of a text spell out. -/
def ofTokens? (ts : List Token) : Option Node := do
  let fuel := 3 * ts.length + 3
  let (node, rest) ←
    match ts with
    | [] | [.documentStart] => some (missing, [])
    | .documentStart :: rest =>
      nodeUnless? [.documentStart, .documentEnd] true false fuel rest
    | ts => node? true false fuel ts
  if rest.all (· == .documentEnd) then some node else none

/-! ## From nodes to documents -/

/-- What a scalar stands for as a value. -/
def scalar? (plain : Bool) (text : String) : Option Scalar :=
  if plain then
    match Plain.ofText text with
    | .value s => some s
    | .timestamp => some (.text text)
    | .merge | .default => none
  else some (.text text)

/-- What a scalar stands for as a key, none if its value is merged. -/
def key? (plain : Bool) (text : String) : Option Scalar :=
  if plain then
    match Plain.ofText text with
    | .value s => some s
    | .timestamp | .default => some (.text text)
    | .merge => none
  else some (.text text)

/-- The entries that a value adds to the mapping it is merged into: its own, or for a list those of
its items, the first item's last. -/
def merged? : Document → Option Entries
  | .map entries => some entries
  | .list items => items.reverse.foldlM (fun done item =>
      match item with
      | .map entries => some (done ++ entries)
      | _ => none) []
  | .scalar _ => none

mutual

/-- The document that a node stands for. -/
def document? : Node → Option Document
  | scalar plain text => (scalar? plain text).map .scalar
  | list items => (documents? items).map .list
  | map entries => do
    let (inherited, own) ← pairs? entries
    return .map (Entries.ofList (inherited ++ own))

/-- The documents that nodes stand for. -/
def documents? : List Node → Option (List Document)
  | [] => some []
  | item :: rest => do return (← item.document?) :: (← documents? rest)

/-- The entries that are merged into a mapping, and its own. -/
def pairs? : List (Node × Node) → Option (Entries × Entries)
  | [] => some ([], [])
  | (key, value) :: rest => do
    let value ← value.document?
    let (inherited, own) ← pairs? rest
    match key with
    | scalar plain text =>
      match key? plain text with
      | some key => return (inherited, (key, value) :: own)
      | none => return ((← merged? value) ++ inherited, own)
    | _ => none

end

end Node

/-- The document in a text, none if the text is malformed. -/
def read? (s : String) : Option Document := do (← Node.ofTokens? (← tokens? s)).document?

end QbLint.Yaml
