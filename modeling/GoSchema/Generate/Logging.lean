import GoSchema.Generate.Emit

/-!
# Logging

Values are logged through encoders that have an adder for each kind of value. `logValue` gives, for a value
of a schema type, the adder and the expression that it takes. Scalars are added directly; everything else
is added as an object or as an array and brings its own marshaler. A container gets its marshaler from a
helper; a map with text keys is logged as an object, every other container as an array.
-/

namespace GoSchema

open Go

/-- The two marshalers of composite values. -/
inductive LogShape where
  | object
  | array
  deriving DecidableEq

/-- The adders of an encoder. -/
inductive LogMethod where
  | bool
  | int8
  | int16
  | int32
  | int64
  | float64
  | string
  /-- An object or an array, through its marshaler. -/
  | composite (shape : LogShape)
  deriving DecidableEq

/-- What a shape is called in the names of adders, encoders and marshalers. -/
def LogShape.noun : LogShape → String
  | .object => "Object"
  | .array => "Array"

/-- The end of the name of an adder. -/
def LogMethod.suffix : LogMethod → String
  | .bool => "Bool"
  | .int8 => "Int8"
  | .int16 => "Int16"
  | .int32 => "Int32"
  | .int64 => "Int64"
  | .float64 => "Float64"
  | .string => "String"
  | .composite shape => shape.noun

/-- The marshaler of a shape. -/
def LogShape.marshaler (shape : LogShape) : String := "MarshalLog" ++ shape.noun

/-- The encoder that the marshaler of a shape takes. -/
def LogShape.encoder (shape : LogShape) : String := shape.noun ++ "Encoder"

/-- How a value is handed to an encoder. -/
structure LogValue where
  method : LogMethod
  /-- The Go expression that the adder takes. -/
  expr : String
  deriving DecidableEq

/-- The adder of a base type; binary data is logged as text. -/
def Base.logMethod : Base → LogMethod
  | .bool => .bool
  | .i8 => .int8
  | .i16 => .int16
  | .i32 => .int32
  | .i64 => .int64
  | .double => .float64
  | .string => .string
  | .binary => .string

/-- The shape in which a container is logged. -/
def Program.logShape? (p : Program) : Ty → Option LogShape
  | .map key _ => (p.rootType? key).map fun root => if root = .base .string then .object else .array
  | _ => some .array

/-- The comment on a marshaler. -/
def marshalerComment (shape : LogShape) (name : String) : Code :=
  lines
    [s!"// " ++ shape.marshaler ++ " implements zapcore." ++ shape.noun ++ "Marshaler, enabling",
     s!"// fast logging of {name}."]

/-- A marshaler of a type that helpers declare. -/
def marshalerCode (shape : LogShape) (receiver name zapcore : String) (body : Code) : Code :=
  marshalerComment shape name
    ++ func s!"({receiver} {name}) {shape.marshaler}(enc {zapcore}.{shape.encoder}) (err error)" body

namespace Env

/-- The statement that makes a call to an encoder. Adding an object or an array may fail, and then
the error is kept. -/
def logCall (env : Env) (method : LogMethod) (call : String) : Emit Code :=
  match method with
  | .composite _ => do
    let multierr ← env.multierr
    return line s!"err = {multierr}.Append(err, {call})"
  | _ => return line call

/-- The statement that adds a value under a key. -/
def logAdd (env : Env) (key : String) (value : LogValue) : Emit Code :=
  env.logCall value.method s!"enc.Add{value.method.suffix}({key}, {value.expr})"

/-- The statement that appends a value to an array. -/
def logAppend (env : Env) (value : LogValue) : Emit Code :=
  env.logCall value.method s!"enc.Append{value.method.suffix}({value.expr})"

/-- How a value of a base type is logged. -/
def logBase (env : Env) (b : Base) (expr : String) : Emit LogValue :=
  match b with
  | .binary => do
    let base64 ← env.package "encoding/base64"
    return ⟨.string, s!"{base64}.StdEncoding.EncodeToString({expr})"⟩
  | _ => return ⟨b.logMethod, expr⟩

/-- What logs a list or a set of a Go type; `logElement` logs the element `v`. -/
def sequenceZapper (env : Env) (type zapcore : String) (keyed : Except GenError Bool)
    (logElement : Emit LogValue) (name : String) : Emit Code := do
  let keyed ← keyed
  let append ← env.logAppend (← logElement)
  let loop := if keyed then "v := range l" else "_, v := range l"
  return line s!"type {name} {type}" ++ blank
    ++ marshalerCode .array "l" name zapcore (forLoop loop append ++ line "return err")

/-- The helper that logs one entry of a map: an object with the keys `key` and `value`. -/
def itemZapperCode (env : Env) (key value : Ty) (logKey logEntry : String → Emit LogValue)
    (name : String) : Emit Code := do
  let keyType ← env.typeText key
  let valueType ← env.typeText value
  let zapcore ← env.zapcore
  let addKey ← env.logAdd "\"key\"" (← logKey "v.Key")
  let addValue ← env.logAdd "\"value\"" (← logEntry "v.Value")
  return block s!"type {name} struct" (line s!"Key   {keyType}" ++ line s!"Value {valueType}") ++ blank
    ++ marshalerCode .object "v" name zapcore (addKey ++ addValue ++ line "return err")

/-- Asks for the helper that logs one entry of a map. -/
def itemZapper (env : Env) (key value : Ty) (logKey logEntry : String → Emit LogValue) :
    Emit String :=
  env.request .itemZapper (.map key value) (env.itemZapperCode key value logKey logEntry)

/-- What logs a map of a Go type in a shape; `logKey` and `logEntry` log its keys and values. -/
def mapZapper (env : Env) (type zapcore : String) (key value : Ty) (shape : LogShape)
    (logKey logEntry : String → Emit LogValue) (name : String) : Emit Code := do
  let head := line s!"type {name} {type}" ++ blank
  match shape with
  | .object =>
    let add ← env.logAdd "(string)(k)" (← logEntry "v")
    return head
      ++ marshalerCode .object "m" name zapcore (forLoop "k, v := range m" add ++ line "return err")
  | .array =>
    let item ← env.itemZapper key value logKey logEntry
    let multierr ← env.multierr
    let keyed ← env.isKeyedMap key
    let loop := if keyed then "k, v := range m" else "_, i := range m"
    let entry := if keyed then "Key: k, Value: v" else "Key: i.Key, Value: i.Value"
    return head
      ++ marshalerCode .array "m" name zapcore
        (forLoop loop
          (line (s!"err = {multierr}.Append(err, enc.AppendObject({item}" ++ braced entry ++ "))"))
          ++ line "return err")

/-- How a typedef is logged, by the type below all its layers: structs and containers have marshalers
that the typedef takes over, and a scalar is converted to its base type first. -/
def logTypedef (env : Env) (ty root : Ty) (expr : String) : Emit LogValue :=
  match root with
  | .struct _ => return ⟨.composite .object, expr⟩
  | .list _ | .set _ _ | .map _ _ => do
    let shape ← present (env.program.logShape? root)
    return ⟨.composite shape, expr⟩
  | .typedef _ => throw (.internal (.noRoot ty))
  | .base b => do
    let type ← env.typeText root
    env.logBase b s!"({type})({expr})"
  | .enum _ => do
    let type ← env.typeText root
    return ⟨.composite .object, s!"({type})({expr})"⟩

/-- Asks for the helper that logs a container, and says in which shape; `zapper` builds the helper. -/
def zapperWith (env : Env) (zapper : String → Emit Code) (ty : Ty) : Emit (String × LogShape) := do
  let shape ← present (env.program.logShape? ty)
  let zapper ← env.request .zapper ty zapper
  return (zapper, shape)

/-- How the Go expression `expr` of a schema type is logged; `zapper` builds the helper that logs
containers of this type. -/
def logWith (env : Env) (zapper : String → Emit Code) (ty : Ty) (expr : String) : Emit LogValue :=
  match ty with
  | .base b => env.logBase b expr
  | .enum _ | .struct _ => return ⟨.composite .object, expr⟩
  | .list _ | .set _ _ | .map _ _ => do
    let (zapper, shape) ← env.zapperWith zapper ty
    return ⟨.composite shape, s!"({zapper})({expr})"⟩
  | .typedef _ => do env.logTypedef ty (← env.root ty) expr

/-- The helper that logs a container. -/
def zapperCode (env : Env) (ty : Ty) (name : String) : Emit Code := do
  let type ← env.typeText ty
  let zapcore ← env.zapcore
  match ty with
  | .list element =>
    env.sequenceZapper type zapcore (pure false) (env.logWith (env.zapperCode element) element "v") name
  | .set element annotations =>
    env.sequenceZapper type zapcore (env.isKeyedSet element annotations)
      (env.logWith (env.zapperCode element) element "v") name
  | .map key value => do
    let shape ← present (env.program.logShape? ty)
    env.mapZapper type zapcore key value shape (env.logWith (env.zapperCode key) key)
      (env.logWith (env.zapperCode value) value) name
  | .base _ | .enum _ | .struct _ | .typedef _ => throw (.internal (.noZapper ty))

/-- Asks for the helper that logs a container, and says in which shape. -/
def zapper (env : Env) (ty : Ty) : Emit (String × LogShape) := env.zapperWith (env.zapperCode ty) ty

/-- How the Go expression `expr` of a schema type is logged. -/
def logValue (env : Env) (ty : Ty) (expr : String) : Emit LogValue :=
  env.logWith (env.zapperCode ty) ty expr

end Env

end GoSchema
