import GoSchema.Document.Yaml.Token

/-!
# Reading tokens

The state in which a document is read from tokens: the tokens to come, what the handles of tags stand for,
and the nodes that have been given names.

Nodes with names have numbers, and a link is the number of a node. A name gets as its number how many names
there are; one that is given again gets a new number in the same way. So two names may get the same number, and
then it belongs to the node that began last.
-/

namespace GoSchema.Yaml

/-- A node that is left out. -/
def absent : Node := .plain ""

/-- The state of reading a document. -/
structure Progress where
  /-- The tokens to come. -/
  tokens : List Token
  /-- What is behind them. -/
  fault : ReadError
  /-- What handles of tags stand for. -/
  handles : List (String × List UInt8)
  /-- The names of nodes with their numbers. -/
  names : List (String × Nat)
  /-- The places of nodes with numbers, the latest first. -/
  places : List (Nat × Nat)
  /-- The nodes at these places. -/
  nodes : List Node

/-- The beginning of a document. -/
def Progress.start (tokens : List Token) (fault : ReadError) : Progress := ⟨tokens, fault, [], [], [], []⟩

/-- The nodes that were given names, by their numbers. Of several with one number the latest counts. -/
def Progress.targets (p : Progress) : List (Nat × Node) :=
  p.places.map fun (number, place) => (number, p.nodes.getD place absent)

/-- Reading of a document. -/
abbrev Grammar := StateT Progress (Except ReadError)

namespace Grammar

/-- The document is not well-formed. -/
def refuse {α : Type} : Grammar α := throw .malformed

/-- The next token. -/
def peek : Grammar Token := do
  let p ← get
  match p.tokens with
  | t :: _ => return t
  | [] => throw p.fault

/-- Goes behind the next token. -/
def skip : Grammar Unit := modify fun p => { p with tokens := p.tokens.tail }

/-! ### Names and tags -/

/-- The names with their numbers when one is given, for the first time or again. -/
def giveName (names : List (String × Nat)) (name : String) : List (String × Nat) :=
  if (names.lookup name).isSome then names.map fun n => if n.1 = name then (name, names.length) else n
  else names ++ [(name, names.length)]

/-- A node with this name begins. Gives its place. -/
def beginNode (name : Option String) : Grammar (Option Nat) := do
  match name with
  | none => return none
  | some name => do
    let p ← get
    let place := p.nodes.length
    set { p with
      names := giveName p.names name,
      places := (p.names.length, place) :: p.places,
      nodes := p.nodes ++ [absent] }
    return some place

/-- The node at this place ends. -/
def endNode (place : Option Nat) (node : Node) : Grammar Node := do
  match place with
  | none => return node
  | some place => do
    modify fun p => { p with nodes := p.nodes.set place node }
    return node

/-- The node that has this name. -/
def named (name : String) : Grammar Node := do
  match (← get).names.lookup name with
  | some n => return .link n
  | none => refuse

/-- Reads a name for the node that follows. -/
def anchor? : Grammar (Option String) := do
  match ← peek with
  | .anchor name => do
    skip
    return some name
  | _ => return none

/-- Reads a tag for the node that follows. -/
def tag? : Grammar (Option WrittenTag) := do
  match ← peek with
  | .tag tag => do
    skip
    return some tag
  | _ => return none

/-- Reads the name and tag of the node that follows, in either order. -/
def properties : Grammar (Option String × Option WrittenTag) := do
  match ← anchor? with
  | some name => return (some name, ← tag?)
  | none =>
    match ← tag? with
    | some tag => return (← anchor?, some tag)
    | none => return (none, none)

/-- What a tag says. -/
def meaning (tag : Option WrittenTag) : Grammar (Option Tag) := do
  match tag with
  | none => return none
  | some t =>
    match t.tag? (← get).handles with
    | some tag => return some tag
    | none => refuse

end Grammar

end GoSchema.Yaml
