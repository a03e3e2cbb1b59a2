import GoSchema.Document.Node
import GoSchema.Schema.Reading

/-!
# Writing programs

The document of a program. Lists and flags are always written; annotations are left out when there are none,
and so are values that are absent. Doubles are written as numbers, those that are not finite as null.
-/

namespace GoSchema

/-- An entry of a map. -/
def entry (key : String) (value : Node) : Node × Node := (.quoted key, value)

/-- A map of one entry. -/
def Node.single (key : String) (value : Node) : Node := .map [entry key value]

/-- An integer. -/
def Node.ofInt (n : Int) : Node := .plain (toString n)

/-- A truth value. -/
def Node.ofBool (b : Bool) : Node := .plain (if b then "true" else "false")

/-- A reference. -/
def Ref.node {a : Arena} (r : Ref a) : Node := .ofInt r.toNat

/-- An entry that is left out when its value is absent. -/
def optionalEntry (key : String) (value : Option Node) : List (Node × Node) :=
  value.toList.map (entry key)

namespace Annotations

/-- The document of annotations. -/
def node (a : Annotations) : Node := .map (a.entries.map fun e => entry e.1 (.quoted e.2))

/-- The entry of annotations, left out when there are none. -/
def asEntry (a : Annotations) : List (Node × Node) :=
  if a.isEmpty then [] else [entry "annotations" a.node]

end Annotations

/-- The document of a type. -/
def Ty.node : Ty → Node
  | .base b => .quoted b.name
  | .list element => .single "list" element.node
  | .set element annotations =>
    .single "set" (.map (entry "element" element.node :: annotations.asEntry))
  | .map key value => .single "map" (.map [entry "key" key.node, entry "value" value.node])
  | .enum r => .single "enum" r.node
  | .struct r => .single "struct" r.node
  | .typedef r => .single "typedef" r.node

/-- The document of a double. -/
def Double.node (d : Double) : Node :=
  .plain (if d.isFinite then Decimal.text d else "null")

namespace Value

mutual

/-- The document of a value. -/
def node : Value → Node
  | .bool b => .single "bool" (.ofBool b)
  | .int n => .single "int" (.ofInt n.toInt)
  | .double d => .single "double" d.node
  | .string s => .single "string" (.quoted s)
  | .list items => .single "list" (.seq (itemNodes items))
  | .map entries => .single "map" (.seq (entryNodes entries))
  | .enumItem r item =>
    .single "enum-item" (.map [entry "enum" r.node, entry "item" (.ofInt item.toNat)])
  | .constant r => .single "constant" r.node

/-- The documents of the items of a list. -/
def itemNodes : List Value → List Node
  | [] => []
  | v :: vs => v.node :: itemNodes vs

/-- The documents of the entries of a map. -/
def entryNodes : List (Value × Value) → List Node
  | [] => []
  | (k, v) :: es => .map [entry "key" k.node, entry "value" v.node] :: entryNodes es

end

end Value

/-- The document of a file. -/
def File.node (f : File) : Node :=
  .map [entry "path" (.quoted f.path), entry "import-path" (.quoted f.importPath),
    entry "package" (.quoted f.package)]

/-- The document of a constant. -/
def Constant.node (c : Constant) : Node :=
  .map ([entry "name" (.quoted c.name), entry "file" c.file.node, entry "type" c.type.node,
    entry "value" c.value.node] ++ c.annotations.asEntry)

/-- The document of an item of an enum. -/
def EnumItem.node (i : EnumItem) : Node :=
  .map ([entry "name" (.quoted i.name), entry "value" (.ofInt i.value.toInt)]
    ++ i.annotations.asEntry)

/-- The document of an enum. -/
def Enum.node (e : Enum) : Node :=
  .map ([entry "name" (.quoted e.name), entry "file" e.file.node,
    entry "items" (.seq (e.items.map EnumItem.node))] ++ e.annotations.asEntry)

/-- The document of a field. -/
def Field.node (f : Field) : Node :=
  .map ([entry "id" (.ofInt f.id.toInt), entry "name" (.quoted f.name), entry "type" f.type.node,
    entry "requiredness" (.quoted (requirednessName f.required))]
    ++ optionalEntry "default" (f.default.map Value.node) ++ f.annotations.asEntry)

/-- The document of a list of fields. -/
def fieldsNode (fields : List Field) : Node := .seq (fields.map Field.node)

/-- The document of a struct. -/
def Struct.node (s : Struct) : Node :=
  .map ([entry "name" (.quoted s.name), entry "file" s.file.node, entry "kind" (.quoted s.kind.noun),
    entry "fields" (fieldsNode s.fields), entry "allow-empty" (.ofBool s.allowEmpty)]
    ++ s.annotations.asEntry)

/-- The document of a typedef. -/
def Typedef.node (t : Typedef) : Node :=
  .map ([entry "name" (.quoted t.name), entry "file" t.file.node, entry "target" t.target.node]
    ++ t.annotations.asEntry)

/-- The document of what a function answers. -/
def Reply.node (r : Reply) : Node :=
  .map (optionalEntry "return-type" (r.returns.map Ty.node)
    ++ [entry "exceptions" (fieldsNode r.exceptions)])

/-- The document of a function. -/
def Function.node (f : Function) : Node :=
  .map ([entry "name" (.quoted f.name), entry "arguments" (fieldsNode f.arguments)]
    ++ optionalEntry "result" (f.reply.map Reply.node)
    ++ [entry "oneway" (.ofBool f.oneway)] ++ f.annotations.asEntry)

/-- The document of a service. -/
def Service.node (s : Service) : Node :=
  .map ([entry "name" (.quoted s.name), entry "file" s.file.node]
    ++ optionalEntry "parent" (s.parent.map Ref.node)
    ++ [entry "functions" (.seq (s.functions.map Function.node))] ++ s.annotations.asEntry)

/-- The document of a program. -/
def Program.node (p : Program) : Node :=
  .map [entry "files" (.seq (p.files.map File.node)),
    entry "constants" (.seq (p.constants.map Constant.node)),
    entry "enums" (.seq (p.enums.map Enum.node)),
    entry "structs" (.seq (p.structs.map Struct.node)),
    entry "typedefs" (.seq (p.typedefs.map Typedef.node)),
    entry "services" (.seq (p.services.map Service.node))]

end GoSchema
