import GoSchema.Document.Node
import GoSchema.Schema.Program

/-!
# Reading programs

A program is read from a document by the rules of a dialect. A record is a map with known keys, some of
which may be missing; an alternative is its name, or a map from its name to its content. Every sequence and
map takes one of the levels that the dialect allows.
-/

namespace GoSchema

namespace Base

/-- The name of a base type in a schema. -/
def name : Base → String
  | .bool => "bool"
  | .i8 => "i8"
  | .i16 => "i16"
  | .i32 => "i32"
  | .i64 => "i64"
  | .double => "double"
  | .string => "string"
  | .binary => "binary"

/-- All base types. -/
def all : List Base := [.bool, .i8, .i16, .i32, .i64, .double, .string, .binary]

/-- The base type of a name. -/
def ofName? (name : String) : Option Base := all.find? (·.name == name)

end Base

namespace StructKind

/-- All kinds of struct. -/
def all : List StructKind := [.struct, .union, .exception]

/-- The kind of struct of a name. -/
def ofName? (name : String) : Option StructKind := all.find? (·.noun == name)

end StructKind

/-- What a field is when it must be given, and when it need not be. -/
def requirednessName (required : Bool) : String := if required then "required" else "optional"

/-- Whether a field must be given, by name. -/
def requiredness? (name : String) : Option Bool :=
  if name = requirednessName true then some true
  else if name = requirednessName false then some false
  else none

/-! ### Widths -/

/-- An integer of 16 bits. -/
def int16? (n : Int) : Option Int16 :=
  if Int16.minValue.toInt ≤ n ∧ n ≤ Int16.maxValue.toInt then some (.ofInt n) else none

/-- An integer of 32 bits. -/
def int32? (n : Int) : Option Int32 :=
  if Int32.minValue.toInt ≤ n ∧ n ≤ Int32.maxValue.toInt then some (.ofInt n) else none

/-- An integer of 64 bits. -/
def int64? (n : Int) : Option Int64 :=
  if Int64.minValue.toInt ≤ n ∧ n ≤ Int64.maxValue.toInt then some (.ofInt n) else none

/-- A natural number of 32 bits. -/
def uint32? (n : Nat) : Option UInt32 := if n < UInt32.size then some (.ofNat n) else none

/-- A natural number of 64 bits. -/
def uint64? (n : Nat) : Option UInt64 := if n < UInt64.size then some (.ofNat n) else none

namespace Dialect

variable {m : Type → Type} [Monad m] [MonadLiftT Option m] {α : Type}

/-! ### Parts of records -/

/-- Reads a reference. -/
def ref {a : Arena} (d : Dialect m) (node : Node) : m (Ref a) := do
  return ⟨← uint32? (← d.natural node)⟩

/-- Reads the name of an alternative that has no content. -/
def name (d : Dialect m) (levels : Nat) (node : Node) : m String := do
  match ← d.alternative node with
  | (name, none) => return name
  | (name, some content) => do
    let content ← d.target content
    if levels ≠ 0 && d.nullContent && d.presence? content = some false then return name else refuse

/-- Reads a sequence, each item by `read` with the levels left for it. -/
def list (d : Dialect m) (read : Nat → Node → m α) (levels : Nat) (node : Node) : m (List α) := do
  let (items, levels) ← d.items levels node
  items.mapM (read levels)

/-- Reads texts under keys; the last of several values of a key counts. -/
def annotations (d : Dialect m) (levels : Nat) (node : Node) : m Annotations := do
  let (entries, _) ← d.entries levels node
  let pairs ← entries.mapM fun (k, v) => do return (← d.text k, ← d.text v)
  return .ofList pairs

/-- Reads a field that must be there. -/
def needed (fields : List (String × Node)) (key : String) (read : Node → m α) : m α :=
  match fields.lookup key with
  | none => refuse
  | some node => read node

/-- Reads a field that has a default where it is missing. -/
def defaulted (fields : List (String × Node)) (key : String) (default : α) (read : Node → m α) : m α :=
  match fields.lookup key with
  | none => return default
  | some node => read node

/-- Reads a field that may be absent; null says the same. -/
def possible (d : Dialect m) (fields : List (String × Node)) (key : String) (read : Node → m α) :
    m (Option α) :=
  defaulted fields key none (d.optional read)

/-- Reads the annotations of a record. -/
def annotated (d : Dialect m) (levels : Nat) (fields : List (String × Node)) : m Annotations :=
  defaulted fields "annotations" .empty (d.annotations levels)

/-! ### Types and values -/

/-- Reads a type that has no content. -/
def baseType (d : Dialect m) (levels : Nat) (node : Node) : m Ty := do
  return .base (← Base.ofName? (← d.name levels node))

/-- Reads a type. -/
def type (d : Dialect m) : (levels : Nat) → Node → m Ty
  | 0, node => d.baseType 0 node
  | levels + 1, node => do
    let node ← d.target node
    match ← d.alternative node with
    | ("list", some content) => return .list (← d.type levels content)
    | ("set", some content) =>
      match levels with
      | 0 => refuse
      | levels + 1 => do
        let (fields, _) ← d.content ["element", "annotations"] 1 content
        let element ← fields.lookup "element"
        return .set (← d.type levels element) (← d.annotated levels fields)
    | ("map", some content) =>
      match levels with
      | 0 => refuse
      | levels + 1 => do
        let (fields, _) ← d.content ["key", "value"] 1 content
        let key ← fields.lookup "key"
        let value ← fields.lookup "value"
        return .map (← d.type levels key) (← d.type levels value)
    | ("enum", some content) => return .enum (← d.ref content)
    | ("struct", some content) => return .struct (← d.ref content)
    | ("typedef", some content) => return .typedef (← d.ref content)
    | _ => d.baseType (levels + 1) node

/-- Reads the item of an enum. -/
def enumItem (d : Dialect m) (levels : Nat) (node : Node) : m Value := do
  let (fields, _) ← d.content ["enum", "item"] levels node
  let ref ← needed fields "enum" d.ref
  let item ← needed fields "item" fun n => do uint64? (← d.natural n)
  return .enumItem ref item

/-- Reads an entry of a map, its key and its value by `read`. -/
def pair (d : Dialect m) (read : Node → m Value) (levels : Nat) (node : Node) : m (Value × Value) := do
  let (fields, _) ← d.record ["key", "value"] levels node
  let key ← fields.lookup "key"
  let value ← fields.lookup "value"
  return (← read key, ← read value)

/-- Reads a value whose content has this many levels left: the items of a list by `item`, the keys and the
values of a map by `part`. -/
def valueBy (d : Dialect m) (item part : Node → m Value) (levels : Nat) (node : Node) : m Value := do
  match ← d.alternative node with
  | ("bool", some content) => return .bool (← d.bool content)
  | ("int", some content) => return .int (← int64? (← d.integer content))
  | ("double", some content) => return .double (← d.double content)
  | ("string", some content) => return .string (← d.text content)
  | ("list", some content) => do
    let (items, _) ← d.items levels content
    return .list (← items.mapM item)
  | ("map", some content) => do
    let (items, levels) ← d.items levels content
    return .map (← items.mapM (d.pair part levels))
  | ("enum-item", some content) => d.enumItem levels content
  | ("constant", some content) => return .constant (← d.ref content)
  | _ => refuse

/-- Reads a value. A value takes a level; below it a list takes one more, and a map two. -/
def value (d : Dialect m) : (levels : Nat) → Node → m Value
  | 0, _ => refuse
  | 1, node => d.valueBy (fun _ => refuse) (fun _ => refuse) 0 node
  | 2, node => d.valueBy (fun _ => refuse) (fun _ => refuse) 1 node
  | levels + 3, node =>
    d.valueBy (fun n => d.value (levels + 1) n) (fun n => d.value levels n) (levels + 2) node

/-! ### Declarations -/

/-- Reads a file. -/
def file (d : Dialect m) (levels : Nat) (node : Node) : m File := do
  let (fields, _) ← d.record ["path", "import-path", "package"] levels node
  let path ← needed fields "path" d.text
  let importPath ← needed fields "import-path" d.text
  let package ← needed fields "package" d.text
  return ⟨path, importPath, package⟩

/-- Reads a constant. -/
def constant (d : Dialect m) (levels : Nat) (node : Node) : m Constant := do
  let (fields, levels) ← d.record ["name", "file", "type", "value", "annotations"] levels node
  let name ← needed fields "name" d.text
  let file ← needed fields "file" d.ref
  let type ← needed fields "type" (d.type levels)
  let value ← needed fields "value" (d.value levels)
  let annotations ← d.annotated levels fields
  return ⟨name, file, type, value, annotations⟩

/-- Reads an item of an enum. -/
def item (d : Dialect m) (levels : Nat) (node : Node) : m EnumItem := do
  let (fields, levels) ← d.record ["name", "value", "annotations"] levels node
  let name ← needed fields "name" d.text
  let value ← needed fields "value" fun n => do int32? (← d.integer n)
  let annotations ← d.annotated levels fields
  return ⟨name, value, annotations⟩

/-- Reads an enum. -/
def enum (d : Dialect m) (levels : Nat) (node : Node) : m Enum := do
  let (fields, levels) ← d.record ["name", "file", "items", "annotations"] levels node
  let name ← needed fields "name" d.text
  let file ← needed fields "file" d.ref
  let items ← needed fields "items" (d.list d.item levels)
  let annotations ← d.annotated levels fields
  return ⟨name, file, items, annotations⟩

/-- Reads whether a field must be given. -/
def required (d : Dialect m) (levels : Nat) (node : Node) : m Bool := do
  requiredness? (← d.name levels node)

/-- Reads a field. -/
def field (d : Dialect m) (levels : Nat) (node : Node) : m Field := do
  let (fields, levels) ←
    d.record ["id", "name", "type", "requiredness", "default", "annotations"] levels node
  let id ← needed fields "id" fun n => do int16? (← d.integer n)
  let name ← needed fields "name" d.text
  let type ← needed fields "type" (d.type levels)
  let required ← defaulted fields "requiredness" false (d.required levels)
  let default ← d.possible fields "default" (d.value levels)
  let annotations ← d.annotated levels fields
  return ⟨id, name, type, required, default, annotations⟩

/-- Reads the kind of a struct. -/
def structKind (d : Dialect m) (levels : Nat) (node : Node) : m StructKind := do
  StructKind.ofName? (← d.name levels node)

/-- Reads a struct. -/
def struct (d : Dialect m) (levels : Nat) (node : Node) : m Struct := do
  let (fields, levels) ←
    d.record ["name", "file", "kind", "fields", "allow-empty", "annotations"] levels node
  let name ← needed fields "name" d.text
  let file ← needed fields "file" d.ref
  let kind ← needed fields "kind" (d.structKind levels)
  let members ← defaulted fields "fields" [] (d.list d.field levels)
  let allowEmpty ← defaulted fields "allow-empty" false d.bool
  let annotations ← d.annotated levels fields
  return ⟨name, file, kind, members, allowEmpty, annotations⟩

/-- Reads a typedef. -/
def typedef (d : Dialect m) (levels : Nat) (node : Node) : m Typedef := do
  let (fields, levels) ← d.record ["name", "file", "target", "annotations"] levels node
  let name ← needed fields "name" d.text
  let file ← needed fields "file" d.ref
  let target ← needed fields "target" (d.type levels)
  let annotations ← d.annotated levels fields
  return ⟨name, file, target, annotations⟩

/-- Reads what a function answers. -/
def reply (d : Dialect m) (levels : Nat) (node : Node) : m Reply := do
  let (fields, levels) ← d.record ["return-type", "exceptions"] levels node
  let returns ← d.possible fields "return-type" (d.type levels)
  let exceptions ← defaulted fields "exceptions" [] (d.list d.field levels)
  return ⟨returns, exceptions⟩

/-- Reads a function. -/
def function (d : Dialect m) (levels : Nat) (node : Node) : m Function := do
  let (fields, levels) ←
    d.record ["name", "arguments", "result", "oneway", "annotations"] levels node
  let name ← needed fields "name" d.text
  let arguments ← defaulted fields "arguments" [] (d.list d.field levels)
  let reply ← d.possible fields "result" (d.reply levels)
  let oneway ← defaulted fields "oneway" false d.bool
  let annotations ← d.annotated levels fields
  return ⟨name, arguments, reply, oneway, annotations⟩

/-- Reads a service. -/
def service (d : Dialect m) (levels : Nat) (node : Node) : m Service := do
  let (fields, levels) ←
    d.record ["name", "file", "parent", "functions", "annotations"] levels node
  let name ← needed fields "name" d.text
  let file ← needed fields "file" d.ref
  let parent ← d.possible fields "parent" d.ref
  let functions ← defaulted fields "functions" [] (d.list d.function levels)
  let annotations ← d.annotated levels fields
  return ⟨name, file, parent, functions, annotations⟩

/-- Reads a program. -/
def program (d : Dialect m) (node : Node) : m Program := do
  let (fields, levels) ←
    d.record ["files", "constants", "enums", "structs", "typedefs", "services"] d.levels node
  let files ← defaulted fields "files" [] (d.list d.file levels)
  let constants ← defaulted fields "constants" [] (d.list d.constant levels)
  let enums ← defaulted fields "enums" [] (d.list d.enum levels)
  let structs ← defaulted fields "structs" [] (d.list d.struct levels)
  let typedefs ← defaulted fields "typedefs" [] (d.list d.typedef levels)
  let services ← defaulted fields "services" [] (d.list d.service levels)
  return ⟨files, constants, enums, structs, typedefs, services⟩

end Dialect

end GoSchema
