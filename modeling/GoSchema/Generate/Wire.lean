import GoSchema.Generate.Emit

/-!
# The wire format

Values travel as wire values, which carry a tag for their shape. `encode` gives the Go expression that
turns a value of a schema type into a wire value, and `decode` the one that reads it back. Enums, structs and
typedefs have methods for this; containers go through helpers, one for each container type. A helper is built
from its type alone and refuses types of another shape.
-/

namespace GoSchema

/-- The shapes of wire values. -/
inductive WireTag where
  | bool
  | i8
  | double
  | i16
  | i32
  | i64
  | binary
  | struct
  | map
  | set
  | list
  deriving DecidableEq

/-- The name of a tag in the wire package. -/
def WireTag.constant : WireTag → String
  | .bool => "TBool"
  | .i8 => "TI8"
  | .double => "TDouble"
  | .i16 => "TI16"
  | .i32 => "TI32"
  | .i64 => "TI64"
  | .binary => "TBinary"
  | .struct => "TStruct"
  | .map => "TMap"
  | .set => "TSet"
  | .list => "TList"

/-- The tag of a base type; texts travel as binary data. -/
def Base.wireTag : Base → WireTag
  | .bool => .bool
  | .i8 => .i8
  | .i16 => .i16
  | .i32 => .i32
  | .i64 => .i64
  | .double => .double
  | .string => .binary
  | .binary => .binary

/-- The tag of a type that is not a typedef; enums travel as integers. -/
def Ty.wireTag : Ty → WireTag
  | .base b => b.wireTag
  | .list _ => .list
  | .set _ _ => .set
  | .map _ _ => .map
  | .enum _ => .i32
  | .struct _ => .struct
  | .typedef _ => .struct

/-- The tag of a type: that of the type below its typedef layers. -/
def Program.wireTag? (p : Program) (ty : Ty) : Option WireTag := (p.rootType? ty).map Ty.wireTag

/-- The part of the names of the wire functions that stands for a base type. -/
def Base.accessor : Base → String
  | .bool => "Bool"
  | .i8 => "I8"
  | .i16 => "I16"
  | .i32 => "I32"
  | .i64 => "I64"
  | .double => "Double"
  | .string => "String"
  | .binary => "Binary"

namespace Env

open Go

/-- The tag of a type as an expression. -/
def wireTag (env : Env) (ty : Ty) : Emit String := do
  let wire ← env.wire
  let tag ← present (env.program.wireTag? ty)
  return wire ++ "." ++ tag.constant

/-- The expression that makes a wire value of a Go value. -/
def newValue (env : Env) (accessor value : String) : Emit String := do
  let wire ← env.wire
  return s!"{wire}.NewValue{accessor}({value}), error(nil)"

/-- Refuses an element that is a pointer without target, in a loop over a container. -/
def nilGuard (env : Env) (ty : Ty) (element receiver what container : String) : Emit Code := do
  if ← env.isStructRooted ty then
    let fmt ← env.package "fmt"
    return ifThen s!"{element} == nil"
      (line s!"return {fmt}.Errorf(\"invalid {container} '%T': contains nil {what}\", {receiver})")
  else return []

/-- What adapts a list or a set: the wire package walks over its elements. `encodeElement` gives the
wire value of the element `x`. -/
def sequenceAdapter (env : Env) (ty element : Ty) (keyed : Bool) (container : String)
    (encodeElement : Emit String) (name : String) : Emit Code := do
  let type ← env.typeText ty
  let wire ← env.wire
  let guard ← env.nilGuard element "x" "v" "value" container
  let encoded ← encodeElement
  let tag ← env.wireTag element
  let loop := if keyed then "x := range v" else "_, x := range v"
  return line s!"type {name} {type}" ++ blank
    ++ func s!"(v {name}) ForEach(f func({wire}.Value) error) error"
      (forLoop loop
        (guard
          ++ line s!"w, err := {encoded}"
          ++ returnError "err"
          ++ line "err = f(w)"
          ++ returnError "err")
        ++ line "return nil")
    ++ func s!"(v {name}) Size() int" (line "return len(v)")
    ++ func s!"({name}) ValueType() {wire}.Type" (line s!"return {tag}")
    ++ line s!"func ({name}) Close() \x7b\x7d" ++ blank

/-- What adapts a set. -/
def setAdapter (env : Env) (element : Ty) (annotations : Annotations) (encodeElement : Emit String)
    (name : String) : Emit Code := do
  let keyed ← env.isKeyedSet element annotations
  env.sequenceAdapter (.set element annotations) element keyed "set" encodeElement name

/-- What adapts a map: the wire package walks over its entries. `encodeKey` and `encodeEntry` give the
wire values of the key `k` and the value `v`. -/
def mapAdapter (env : Env) (key value : Ty) (encodeKey encodeEntry : Emit String) (name : String) :
    Emit Code := do
  let type ← env.typeText (.map key value)
  let wire ← env.wire
  let keyGuard ← env.nilGuard key "k" "m" "key" "map"
  let valueGuard ← env.nilGuard value "v" "m" "value" "map"
  let encodedKey ← encodeKey
  let encodedValue ← encodeEntry
  let keyTag ← env.wireTag key
  let valueTag ← env.wireTag value
  let keyed ← env.isKeyedMap key
  let body :=
    keyGuard ++ valueGuard
      ++ line s!"kw, err := {encodedKey}"
      ++ returnError "err"
      ++ line s!"vw, err := {encodedValue}"
      ++ returnError "err"
      ++ line (s!"err = f({wire}.MapItem" ++ braced "Key: kw, Value: vw" ++ ")")
      ++ returnError "err"
  let loop :=
    if keyed then forLoop "k, v := range m" body
    else forLoop "_, i := range m" (line "k := i.Key" ++ line "v := i.Value" ++ body)
  return line s!"type {name} {type}" ++ blank
    ++ func s!"(m {name}) ForEach(f func({wire}.MapItem) error) error" (loop ++ line "return nil")
    ++ func s!"(m {name}) Size() int" (line "return len(m)")
    ++ func s!"({name}) KeyType() {wire}.Type" (line s!"return {keyTag}")
    ++ func s!"({name}) ValueType() {wire}.Type" (line s!"return {valueTag}")
    ++ line s!"func ({name}) Close() \x7b\x7d" ++ blank

/-- The Go expression of type `(wire.Value, error)` for the Go expression `value`; `valueList` and
`mapItemList` build the helper that adapts a value of this type. -/
def encodeWith (env : Env) (valueList mapItemList : String → Emit Code) (ty : Ty) (value : String) :
    Emit String :=
  match ty with
  | .base b => env.newValue b.accessor value
  | .enum _ | .struct _ | .typedef _ => return s!"{value}.ToWire()"
  | .list _ => do
    let adapter ← env.request .valueList ty valueList
    env.newValue "List" s!"{adapter}({value})"
  | .set _ _ => do
    let adapter ← env.request .valueList ty valueList
    env.newValue "Set" s!"{adapter}({value})"
  | .map _ _ => do
    let adapter ← env.request .mapItemList ty mapItemList
    env.newValue "Map" s!"{adapter}({value})"

mutual

/-- The helper that adapts a list or a set. -/
def valueListCode (env : Env) : Ty → String → Emit Code
  | .list element, name =>
    env.sequenceAdapter (.list element) element false "list"
      (env.encodeWith (env.valueListCode element) (env.mapItemListCode element) element "x") name
  | .set element annotations, name =>
    env.setAdapter element annotations
      (env.encodeWith (env.valueListCode element) (env.mapItemListCode element) element "x") name
  | .base _, _ | .map _ _, _ | .enum _, _ | .struct _, _ | .typedef _, _ =>
    throw (.internal (.wrongShape .list))

/-- The helper that adapts a map. -/
def mapItemListCode (env : Env) : Ty → String → Emit Code
  | .map key value, name =>
    env.mapAdapter key value
      (env.encodeWith (env.valueListCode key) (env.mapItemListCode key) key "k")
      (env.encodeWith (env.valueListCode value) (env.mapItemListCode value) value "v") name
  | .base _, _ | .list _, _ | .set _ _, _ | .enum _, _ | .struct _, _ | .typedef _, _ =>
    throw (.internal (.wrongShape .map))

end

/-- The Go expression of type `(wire.Value, error)` for the Go expression `value`. -/
def encode (env : Env) (ty : Ty) (value : String) : Emit String :=
  env.encodeWith (env.valueListCode ty) (env.mapItemListCode ty) ty value

/-- Refuses a container whose elements do not have the expected tag. -/
def tagCheck (env : Env) (container accessor : String) (expected : Ty) (what : String) : Emit Code := do
  let fmt ← env.package "fmt"
  let tag ← env.wireTag expected
  let message := s!"unexpected wire type %v for {what} element, expected %v"
  return ifThen s!"{container}.Size() > 0 && {container}.{accessor}() != {tag}"
    (line s!"return nil, {fmt}.Errorf(\"{message}\", {container}.{accessor}(), {tag})")

/-- What reads a list or a set. A keyed set takes equal elements once, a sequence keeps every element.
`decodeElement` reads the wire value `x`. -/
def sequenceReader (env : Env) (ty element : Ty) (keyed : Bool) (container source : String)
    (decodeElement : Emit String) (name : String) : Emit Code := do
  let type ← env.typeText ty
  let wire ← env.wire
  let check ← env.tagCheck source "ValueType" element container
  let decoded ← decodeElement
  let capacity := if keyed then "" else "0, "
  let keep := if keyed then "o[i] = struct\x7b\x7d\x7b\x7d" else "o = append(o, i)"
  return func s!"{name}({source} {wire}.ValueList) ({type}, error)"
    (check
      ++ line s!"o := make({type}, {capacity}{source}.Size())"
      ++ line (s!"err := {source}.ForEach(func(x {wire}.Value) error \x7b")
      ++ indent
        (line s!"i, err := {decoded}"
          ++ returnError "err"
          ++ line keep
          ++ line "return nil")
      ++ line "\x7d)"
      ++ line s!"{source}.Close()"
      ++ line "return o, err")

/-- What reads a set. -/
def setReader (env : Env) (element : Ty) (annotations : Annotations) (decodeElement : Emit String)
    (name : String) : Emit Code := do
  let keyed ← env.isKeyedSet element annotations
  env.sequenceReader (.set element annotations) element keyed "set" "s" decodeElement name

/-- What reads a map. A keyed map keeps the last value of a key, a sequence of pairs keeps every pair.
`decodeKey` and `decodeEntry` read the wire values `x.Key` and `x.Value`. -/
def mapReader (env : Env) (key value : Ty) (decodeKey decodeEntry : Emit String) (name : String) :
    Emit Code := do
  let goType ← env.typeRef (.map key value)
  let type := goType.text
  let wire ← env.wire
  let keyCheck ← env.tagCheck "m" "KeyType" key "map key"
  let valueCheck ← env.tagCheck "m" "ValueType" value "map value"
  let decodedKey ← decodeKey
  let decodedValue ← decodeEntry
  let capacity := match goType with
    | .slice _ => "0, "
    | _ => ""
  let keep := match goType with
    | .slice pair => "o = append(o, " ++ pair.text ++ braced "Key: k, Value: v" ++ ")"
    | _ => "o[k] = v"
  return func s!"{name}(m {wire}.MapItemList) ({type}, error)"
    (keyCheck ++ valueCheck
      ++ line s!"o := make({type}, {capacity}m.Size())"
      ++ line (s!"err := m.ForEach(func(x {wire}.MapItem) error \x7b")
      ++ indent
        (line s!"k, err := {decodedKey}"
          ++ returnError "err"
          ++ line s!"v, err := {decodedValue}"
          ++ returnError "err"
          ++ line keep
          ++ line "return nil")
      ++ line "\x7d)"
      ++ line "m.Close()"
      ++ line "return o, err")

/-- The helper that reads an enum, a struct or a typedef through its own method. -/
def namedReaderCode (env : Env) (ty : Ty) (name : String) : Emit Code := do
  let byReference ← env.isStructRooted ty
  let goType ← env.typeRef ty
  let wire ← env.wire
  let type := goType.text
  let target := if byReference then goType.targetText else type
  let result := if byReference then "&v" else "v"
  return func s!"{name}(w {wire}.Value) ({type}, error)"
    (line s!"var v {target}"
      ++ line "err := v.FromWire(w)"
      ++ line s!"return {result}, err")

/-- The Go expression of type `(T, error)` that reads the wire value `value`; `reader` builds the helper
that reads a container of this type. -/
def decodeWith (env : Env) (reader : String → Emit Code) (ty : Ty) (value : String) : Emit String :=
  match ty with
  | .base b => return s!"{value}.Get" ++ b.accessor ++ "(), error(nil)"
  | .list _ => do
    let reader ← env.request .read ty reader
    return s!"{reader}({value}.GetList())"
  | .set _ _ => do
    let reader ← env.request .read ty reader
    return s!"{reader}({value}.GetSet())"
  | .map _ _ => do
    let reader ← env.request .read ty reader
    return s!"{reader}({value}.GetMap())"
  | .enum _ | .struct _ | .typedef _ => do
    let reader ← env.request .read ty (env.namedReaderCode ty)
    return s!"{reader}({value})"

/-- The helper that reads a container. -/
def containerReaderCode (env : Env) : Ty → String → Emit Code
  | .list element, name =>
    env.sequenceReader (.list element) element false "list" "l"
      (env.decodeWith (env.containerReaderCode element) element "x") name
  | .set element annotations, name =>
    env.setReader element annotations
      (env.decodeWith (env.containerReaderCode element) element "x") name
  | .map key value, name =>
    env.mapReader key value (env.decodeWith (env.containerReaderCode key) key "x.Key")
      (env.decodeWith (env.containerReaderCode value) value "x.Value") name
  | .base _, _ | .enum _, _ | .struct _, _ | .typedef _, _ =>
    throw (.internal (.wrongShape .container))

/-- The Go expression of type `(T, error)` that reads the wire value `value`. -/
def decode (env : Env) (ty : Ty) (value : String) : Emit String :=
  env.decodeWith (env.containerReaderCode ty) ty value

end Env

end GoSchema
