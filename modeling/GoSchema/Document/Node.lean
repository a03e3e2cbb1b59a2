import GoSchema.Decimal.Double

/-!
# Documents

A schema is read from a document: a tree of scalars, sequences and maps. A place in the tree may be a link
to a node that stands elsewhere. The notations for documents differ in what a scalar means and in what may
stand for what; a dialect gathers these rules, so that the reading of schemas is written once.
-/

namespace GoSchema

/-- What the tag of a node says about it. -/
inductive Tag where
  /-- The node is a truth value. -/
  | bool
  /-- The node is an integer. -/
  | integer
  /-- The node is a double. -/
  | double
  /-- The node is null. -/
  | null
  /-- A tag of the document's own making. -/
  | own
  /-- A tag without meaning for schemas. -/
  | other
  deriving DecidableEq

/-- A document. Scalars keep their text; what it means depends on what is expected. -/
inductive Node where
  /-- A scalar written without quotes. -/
  | plain (text : String)
  /-- A scalar written in quotes, or otherwise marked as a text. -/
  | quoted (text : String)
  /-- A scalar written as a block whose lines are kept. -/
  | literal (text : String)
  | seq (items : List Node)
  /-- The entries in order; keys may repeat. -/
  | map (entries : List (Node × Node))
  /-- A node with a tag. -/
  | tagged (tag : Tag) (node : Node)
  /-- The node that has been given this number. -/
  | link (number : Nat)

namespace Node

/-- The node without its tags. -/
def untagged : Node → Node
  | .tagged _ node => node.untagged
  | node => node

/-- The outermost tag of a node. -/
def tag? : Node → Option Tag
  | .tagged tag _ => some tag
  | _ => none

mutual

/-- The number of steps in which a node is told: one for a scalar or a link, two for the beginning and the
end of a collection. -/
def steps : Node → Nat
  | .plain _ | .quoted _ | .literal _ | .link _ => 1
  | .seq items => stepsOfItems items + 2
  | .map entries => stepsOfEntries entries + 2
  | .tagged _ node => node.steps

/-- The number of steps in which items are told. -/
def stepsOfItems : List Node → Nat
  | [] => 0
  | n :: ns => n.steps + stepsOfItems ns

/-- The number of steps in which entries are told. -/
def stepsOfEntries : List (Node × Node) → Nat
  | [] => 0
  | (k, v) :: es => k.steps + v.steps + stepsOfEntries es

end

end Node

/-- Why a text cannot be read. -/
inductive ReadError where
  /-- The text is not what it should be. -/
  | malformed
  /-- A run of blanks or line breaks inside a scalar does not fit into the room that is left for it. -/
  | overflow
  deriving DecidableEq

/-- A result, or the account that the text is malformed. -/
def orMalformed {α : Type} : Option α → Except ReadError α
  | some a => .ok a
  | none => .error .malformed

/-- How an alternative is written. -/
inductive Choice where
  /-- By its name. -/
  | name (text : String)
  /-- As a map of one entry, from its name to what belongs to it. -/
  | entry (key content : Node)

/-- The rules by which a notation presents the values of a schema. Reading is done in `m`, in which links
are followed; the other rules are for nodes that are no links. -/
structure Dialect (m : Type → Type) where
  /-- The node that is meant. -/
  target : Node → m Node
  /-- A text. -/
  text? : Node → Option String
  /-- An integer. -/
  integer? : Node → Option Int
  /-- A number that counts or points to something, and has no sign. -/
  natural? : Node → Option Nat
  /-- A double. -/
  double? : Node → Option Double
  /-- A truth value. -/
  bool? : Node → Option Bool
  /-- Whether a value is there, where it may be absent. -/
  presence? : Node → Option Bool
  /-- The node is no collection, and stands for an empty one. -/
  isVoid : Node → Bool
  /-- An alternative. -/
  choice? : Node → Option Choice
  /-- An alternative without content may be written as a map of one entry to null. -/
  nullContent : Bool
  /-- The fields of a record may be written as a sequence. -/
  positional : Bool
  /-- The same for a record that is the content of an alternative. -/
  positionalContent : Bool
  /-- How deep sequences and maps may be nested. -/
  levels : Nat

namespace Dialect

variable {m : Type → Type} [Monad m] [MonadLiftT Option m] {α : Type}

/-- The node cannot be read. -/
def refuse : m α := liftM (none : Option α)

/-- Reads a scalar. -/
def scalar (d : Dialect m) (read? : Node → Option α) (node : Node) : m α := do
  liftM (read? (← d.target node))

/-- Reads a text. -/
def text (d : Dialect m) : Node → m String := d.scalar d.text?

/-- Reads an integer. -/
def integer (d : Dialect m) : Node → m Int := d.scalar d.integer?

/-- Reads a natural number. -/
def natural (d : Dialect m) : Node → m Nat := d.scalar d.natural?

/-- Reads a double. -/
def double (d : Dialect m) : Node → m Double := d.scalar d.double?

/-- Reads a truth value. -/
def bool (d : Dialect m) : Node → m Bool := d.scalar d.bool?

/-- Reads a value that may be absent. -/
def optional (d : Dialect m) (read : Node → m α) (node : Node) : m (Option α) := do
  let node ← d.target node
  match d.presence? node with
  | some true => return some (← read node)
  | some false => return none
  | none => refuse

/-- The name of an alternative, with what belongs to it if it is written as a map. -/
def alternative (d : Dialect m) (node : Node) : m (String × Option Node) := do
  match d.choice? (← d.target node) with
  | some (.name name) => return (name, none)
  | some (.entry key content) => return (← d.text key, some content)
  | none => refuse

/-- The items of a sequence, and the levels left for them. -/
def items (d : Dialect m) (levels : Nat) (node : Node) : m (List Node × Nat) := do
  let node ← d.target node
  if d.isVoid node then return ([], levels)
  match levels, node.untagged with
  | levels + 1, .seq items => return (items, levels)
  | _, _ => refuse

/-- The entries of a map, and the levels left for them. -/
def entries (d : Dialect m) (levels : Nat) (node : Node) : m (List (Node × Node) × Nat) := do
  let node ← d.target node
  if d.isVoid node then return ([], levels)
  match levels, node.untagged with
  | levels + 1, .map entries => return (entries, levels)
  | _, _ => refuse

/-- The fields of a record among the entries of a map: entries with other keys are left out, and a key
that repeats is refused. -/
def fieldsOfEntries (d : Dialect m) (names : List String) (found : List (String × Node)) :
    List (Node × Node) → m (List (String × Node))
  | [] => return found
  | (key, value) :: entries => do
    let key ← d.text key
    if key ∈ names then
      if (found.lookup key).isSome then refuse
      else d.fieldsOfEntries names (found ++ [(key, value)]) entries
    else d.fieldsOfEntries names found entries

/-- The fields of a record that are there, by their names, and the levels left for them. `positional`
tells that they may be written as a sequence. -/
def fields (d : Dialect m) (positional : Bool) (names : List String) (levels : Nat) (node : Node) :
    m (List (String × Node) × Nat) := do
  let node ← d.target node
  match positional, node with
  | true, .seq items =>
    match levels with
    | 0 => refuse
    | levels + 1 => if items.length ≤ names.length then return (names.zip items, levels) else refuse
  | _, _ => do
    let (entries, levels) ← d.entries levels node
    return (← d.fieldsOfEntries names [] entries, levels)

/-- The fields of a record. -/
def record (d : Dialect m) : (names : List String) → (levels : Nat) → Node →
    m (List (String × Node) × Nat) :=
  d.fields d.positional

/-- The fields of a record that is the content of an alternative. -/
def content (d : Dialect m) : (names : List String) → (levels : Nat) → Node →
    m (List (String × Node) × Nat) :=
  d.fields d.positionalContent

end Dialect

end GoSchema
