import GoSchema.Schema.Program

/-!
# Checking a program

A program is sound when every reference points to an entry that is there, field ids are distinct
within a struct and within the arguments and the exceptions of a function, every typedef leads to a
type that is not a typedef, and no constant is defined through itself. `Program.check` reports the first
violation in a fixed order: constants, enums, structs, typedefs, services, and last the cycles of
constants.

Cycles are found by a depth-first search through a graph on the numbers below some bound. `path` holds the nodes
whose visit is going on, the innermost first, and `done` the nodes whose visit is over. A node met on the path
closes a cycle.
-/

namespace GoSchema

namespace Cycle

/-- Visits the node `i`, and through it all that can be reached and is not done. Gives the nodes
done afterwards, or a node that lies on a cycle. The path can be no longer than `depth` allows: with
as many levels as there are nodes, every node is on a path that uses them up. -/
def visit (next : Nat → List Nat) : (depth : Nat) → (path done : List Nat) → (i : Nat) →
    Except Nat (List Nat)
  | depth, path, done, i =>
    if i ∈ done then .ok done
    else if i ∈ path then .error i
    else
      match depth with
      | 0 => .error i
      | depth + 1 =>
        match (next i).foldlM (visit next depth (i :: path)) done with
        | .ok done => .ok (i :: done)
        | .error j => .error j

/-- Visits all nodes below `n` in order; fails with a node on a cycle if there is one. -/
def search (next : Nat → List Nat) (n : Nat) : Except Nat (List Nat) :=
  (List.range n).foldlM (visit next n []) []

end Cycle

/-- What is wrong with a program. -/
inductive GraphError where
  /-- A reference beyond the end of a list. -/
  | dangling (context : String) (arena : Arena) (index size : Nat)
  /-- A field id used twice. -/
  | duplicateId (context : String) (id : Int16)
  /-- A typedef defined through itself. -/
  | typedefCycle (name file : String)
  /-- A constant defined through itself. -/
  | constantCycle (name file : String)
  /-- A reference to an item that an enum does not have. -/
  | missingItem (context enumName : String) (item size : Nat)
  deriving DecidableEq

/-- The text of a violation. -/
def GraphError.message : GraphError → String
  | .dangling context arena index size =>
    s!"{context} refers to {arena.noun} #{index}, but the program only has {size}"
  | .duplicateId context id => s!"{context} declares field id {id.toInt} more than once"
  | .typedefCycle name file => s!"typedef {name} in {file} never reaches a concrete type"
  | .constantCycle name file => s!"constant {name} in {file} refers back to itself"
  | .missingItem context enumName item size =>
    s!"{context} refers to item {item} of enum {enumName}, which has {size} items"

namespace Program

/-- The reference points to an entry. -/
def checkRef (p : Program) (context : String) {arena : Arena} (r : Ref arena) :
    Except GraphError Unit :=
  if r.toNat < p.size arena then .ok ()
  else .error (.dangling context arena r.toNat (p.size arena))

/-- All references inside a type point to entries. -/
def checkType (p : Program) (context : String) : Ty → Except GraphError Unit
  | .base _ => .ok ()
  | .list element => p.checkType context element
  | .set element _ => p.checkType context element
  | .map key value => do
    p.checkType context key
    p.checkType context value
  | .enum r => p.checkRef context r
  | .struct r => p.checkRef context r
  | .typedef r => p.checkRef context r

/-- The item of an enum is there. -/
def checkItem (p : Program) (context : String) (r : Ref .enum) (item : UInt64) :
    Except GraphError Unit :=
  match p.enum? r with
  | none => p.checkRef context r
  | some e =>
    if item.toNat < e.items.length then .ok ()
    else .error (.missingItem context e.name item.toNat e.items.length)

mutual

/-- All references inside a value point to entries. -/
def checkValue (p : Program) (context : String) : Value → Except GraphError Unit
  | .bool _ | .int _ | .double _ | .string _ => .ok ()
  | .list items => p.checkItems context items
  | .map entries => p.checkEntries context entries
  | .enumItem r item => p.checkItem context r item
  | .constant r => p.checkRef context r

/-- All references inside the items of a list point to entries. -/
def checkItems (p : Program) (context : String) : List Value → Except GraphError Unit
  | [] => .ok ()
  | v :: vs => do
    p.checkValue context v
    p.checkItems context vs

/-- All references inside the entries of a map point to entries of the program. -/
def checkEntries (p : Program) (context : String) : List (Value × Value) → Except GraphError Unit
  | [] => .ok ()
  | (k, v) :: es => do
    p.checkValue context k
    p.checkValue context v
    p.checkEntries context es

end

/-- The field ids are distinct from each other and from those in `seen`, and all references inside
the types and defaults point to entries. -/
def checkFields (p : Program) (context : String) (seen : List Int16) :
    List Field → Except GraphError Unit
  | [] => .ok ()
  | f :: fs => do
    if seen.any (· == f.id) then throw (.duplicateId context f.id)
    let fieldContext := context ++ " field " ++ f.name
    p.checkType fieldContext f.type
    match f.default with
    | some v => p.checkValue fieldContext v
    | none => pure ()
    p.checkFields context (f.id :: seen) fs

/-- The references of a constant. -/
def checkConstant (p : Program) (c : Constant) : Except GraphError Unit := do
  let context := "constant " ++ c.name
  p.checkRef context c.file
  p.checkType context c.type
  p.checkValue context c.value

/-- The references of an enum. -/
def checkEnum (p : Program) (e : Enum) : Except GraphError Unit :=
  p.checkRef ("enum " ++ e.name) e.file

/-- The references and field ids of a struct. -/
def checkStruct (p : Program) (s : Struct) : Except GraphError Unit := do
  let context := "struct " ++ s.name
  p.checkRef context s.file
  p.checkFields context [] s.fields

/-- The references of a typedef. -/
def checkTypedef (p : Program) (t : Typedef) : Except GraphError Unit := do
  let context := "typedef " ++ t.name
  p.checkRef context t.file
  p.checkType context t.target

/-- The path of a file, for messages. -/
def pathOf (p : Program) (r : Ref .file) : String := ((p.file? r).map File.path).getD ""

/-- A typedef leads to a type that is not a typedef. -/
def checkChain (p : Program) (t : Typedef) : Except GraphError Unit :=
  match p.descend p.typedefs.length t.target with
  | some (.typedef _) => .error (.typedefCycle t.name (p.pathOf t.file))
  | _ => .ok ()

/-- The references and field ids of a function. -/
def checkFunction (p : Program) (service : String) (f : Function) : Except GraphError Unit := do
  let context := "function " ++ service ++ "." ++ f.name
  p.checkFields context [] f.arguments
  match f.reply with
  | none => pure ()
  | some reply =>
    match reply.returns with
    | some ty => p.checkType context ty
    | none => pure ()
    p.checkFields context [] reply.exceptions

/-- The references of a service and its functions. -/
def checkService (p : Program) (s : Service) : Except GraphError Unit := do
  let context := "service " ++ s.name
  p.checkRef context s.file
  match s.parent with
  | some parent => p.checkRef context parent
  | none => pure ()
  s.functions.forM (p.checkFunction s.name)

/-- The positions of the constants that a constant mentions. -/
def constantEdges (p : Program) (i : Nat) : List Nat :=
  match p.constants[i]? with
  | some c => c.value.references.map Ref.toNat
  | none => []

/-- No constant is defined through itself. -/
def checkConstantCycles (p : Program) : Except GraphError Unit :=
  match Cycle.search p.constantEdges p.constants.length with
  | .ok _ => .ok ()
  | .error i =>
    match p.constants[i]? with
    | some c => .error (.constantCycle c.name (p.pathOf c.file))
    | none => .ok ()

/-- Reports the first violation. -/
def check (p : Program) : Except GraphError Unit := do
  p.constants.forM p.checkConstant
  p.enums.forM p.checkEnum
  p.structs.forM p.checkStruct
  p.typedefs.forM p.checkTypedef
  p.typedefs.forM p.checkChain
  p.services.forM p.checkService
  p.checkConstantCycles

end Program

end GoSchema
