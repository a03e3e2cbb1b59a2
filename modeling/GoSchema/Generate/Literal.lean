import GoSchema.Generate.Holding

/-!
# Literals

`literal` gives the Go expression for a value of a schema, checking that it is a value of its type. A typedef
takes the values of its target, converted layer by layer. A reference to a constant stands for itself.
-/

namespace GoSchema

open Go

/-- The integers of a width. -/
structure IntRange where
  /-- What messages call the width. -/
  name : String
  least : Int
  greatest : Int

/-- The integers of a base type. -/
def Base.intRange? : Base → Option IntRange
  | .i8 => some ⟨"i8", Int8.minValue.toInt, Int8.maxValue.toInt⟩
  | .i16 => some ⟨"i16", Int16.minValue.toInt, Int16.maxValue.toInt⟩
  | .i32 => some ⟨"i32", Int32.minValue.toInt, Int32.maxValue.toInt⟩
  | .i64 => some ⟨"i64", Int64.minValue.toInt, Int64.maxValue.toInt⟩
  | .bool | .double | .string | .binary => none

/-- The integers that an enum takes. -/
def enumRange : IntRange := ⟨"enum", Int32.minValue.toInt, Int32.maxValue.toInt⟩

/-- What messages say that a value of the type should be. -/
def Ty.expectation : Ty → String
  | .base .bool => "a bool"
  | .base .double => "a double"
  | .base .string => "a string"
  | .base .binary => "binary data"
  | .base _ => "an integer"
  | .enum _ => "an item of the enum"
  | .list _ => "a list"
  | .set _ _ => "a set"
  | .map _ _ => "a map"
  | .struct _ => "a struct literal"
  | .typedef _ => "a typedef"

namespace Program

/-- The typedefs of which a type is made, from the outside in, and the type below them. The walk takes
at most `n` steps. -/
def peel? (p : Program) : (n : Nat) → (ty : Ty) → Option (List (Ref .typedef) × Ty)
  | 0, ty => some ([], ty)
  | n + 1, .typedef r => do
    let t ← p.typedef? r
    let (layers, root) ← p.peel? n t.target
    return (r :: layers, root)
  | _ + 1, ty => some ([], ty)

/-- The typedef layers of a type and the type below them. -/
def layers? (p : Program) (ty : Ty) : Option (List (Ref .typedef) × Ty) :=
  p.peel? (p.typedefs.length + 1) ty

end Program

/-- The error for a value that is none of its type. -/
def unfit (site : Site) (ty : Ty) (found : Value) : GenError :=
  .badValue site (.expected ty.expectation found)

/-- An integer in a range. -/
def intLiteral (site : Site) (range : IntRange) (n : Int64) : Except GenError String :=
  if range.least ≤ n.toInt ∧ n.toInt ≤ range.greatest then .ok (toString n.toInt)
  else .error (.badValue site (.outOfRange n range.name))

/-- The elements of a composite literal. -/
def composite (type : String) (elements : List String) : String :=
  type ++ braced (", ".intercalate elements)

/-- A member of a keyed set. -/
def keyedMember (member : String) : String := member ++ ": struct\x7b\x7d\x7b\x7d"

/-- An entry of a map literal. -/
def mapEntry (keyed : Bool) (key value : String) : String :=
  if keyed then key ++ ": " ++ value else braced (s!"Key: {key}, Value: {value}")

/-- What messages call a field. -/
def fieldEntity (field owner : String) : String := s!"field {field} of {owner}"

/-- A field of a struct literal. -/
structure FieldSlot where
  ident : String
  type : Ty
  required : Bool

namespace Env

/-- The typedef layers of a type and the type below them. -/
def layers (env : Env) (ty : Ty) : Except GenError (List (Ref .typedef) × Ty) :=
  present (env.program.layers? ty)

/-- Converts an expression of the type below typedef layers to the outermost layer. -/
def convert (env : Env) : List (Ref .typedef) → String → Emit String
  | [], expr => return expr
  | layer :: inner, expr => do
    let expr ← env.convert inner expr
    let type ← env.typeText (.typedef layer)
    return s!"({type})({expr})"

/-- A double; those that Go has no literal for come from a package. -/
def doubleLiteral (env : Env) (d : Double) : Emit String := do
  if d.isNaN then
    let math ← env.package "math"
    return s!"{math}.NaN()"
  else if d.isFinite then return Decimal.text d
  else
    let math ← env.package "math"
    return s!"{math}.Inf(" ++ (if d.negative then "-1" else "1") ++ ")"

/-- An integer as a value of a root type. -/
def intAt (env : Env) (site : Site) (root : Ty) (n : Int64) : Emit String :=
  match root with
  | .base .bool =>
    if n = 0 then return "false" else if n = 1 then return "true" else throw (unfit site root (.int n))
  | .base .double => return toString n.toInt
  | .base b =>
    match b.intRange? with
    | some range => intLiteral site range n
    | none => throw (unfit site root (.int n))
  | .enum r => do
    let type ← refer (← env.enumRef r)
    let raw ← intLiteral site enumRange n
    return s!"{type}({raw})"
  | _ => throw (unfit site root (.int n))

/-- A text as a value of a root type. -/
def stringAt (site : Site) (root : Ty) (s : String) : Except GenError String :=
  match root with
  | .base .string => .ok (quote s)
  | .base .binary => .ok ("[]byte(" ++ quote s ++ ")")
  | _ => .error (unfit site root (.string s))

/-- The field of a struct that a key of a struct literal names. -/
def fieldSlot (env : Env) (site : Site) (s : Struct) (key : Value) : Except GenError FieldSlot :=
  match key with
  | .string name =>
    match findField? s.fields name with
    | none => .error (.badValue site (.noField s.name name))
    | some field => do
      let path ← env.pathOf s.file
      let ident ← identifier field.name field.annotations ⟨fieldEntity field.name s.name, path⟩
      return ⟨ident, field.type, field.required && s.kind != .union⟩
  | _ => .error (.badValue site (.keyNotName key))

/-- The expression that a field holds for a literal of its type. -/
def held (env : Env) (ty : Ty) (required : Bool) (literal : String) : Emit String := do
  match ← env.holding ty required with
  | .pointer => env.pointerTo ty literal
  | .value | .nilable => return literal

mutual

/-- The Go expression of type `ty` for a value. -/
def literal (env : Env) (site : Site) (ty : Ty) : Value → Emit String
  | .constant r => do refer (← env.constantRef r)
  | .bool b => do
    let (layers, root) ← env.layers ty
    match root with
    | .base .bool => env.convert layers (toString b)
    | _ => throw (unfit site root (.bool b))
  | .int n => do
    let (layers, root) ← env.layers ty
    env.convert layers (← env.intAt site root n)
  | .double d => do
    let (layers, root) ← env.layers ty
    match root with
    | .base .double => env.convert layers (← env.doubleLiteral d)
    | _ => throw (unfit site root (.double d))
  | .string s => do
    let (layers, root) ← env.layers ty
    env.convert layers (← stringAt site root s)
  | .enumItem e item => do
    let (layers, root) ← env.layers ty
    match root with
    | .enum r =>
      if e = r then env.convert layers (← refer (← env.enumItemRef r item.toNat))
      else throw (unfit site root (.enumItem e item))
    | _ => throw (unfit site root (.enumItem e item))
  | .list items => do
    let (layers, root) ← env.layers ty
    match root with
    | .list element => do
      let type ← env.typeText root
      let members ← env.itemLiterals site element items
      env.convert layers (composite type members)
    | .set element annotations => do
      let type ← env.typeText root
      let members ← env.itemLiterals site element items
      let keyed ← env.isKeyedSet element annotations
      env.convert layers (composite type (if keyed then members.map keyedMember else members))
    | _ => throw (unfit site root (.list items))
  | .map entries => do
    let (layers, root) ← env.layers ty
    match root with
    | .map key value => do
      let type ← env.typeText root
      let keyed ← env.isKeyedMap key
      env.convert layers (composite type (← env.entryLiterals site key value keyed entries))
    | .struct r => do
      let s ← present (env.program.struct? r)
      let ident ← refer (← env.structRef r)
      env.convert layers (composite ("&" ++ ident) (← env.fieldLiterals site s entries))
    | _ => throw (unfit site root (.map entries))

/-- The members of a list or set literal. -/
def itemLiterals (env : Env) (site : Site) (element : Ty) : List Value → Emit (List String)
  | [] => return []
  | v :: vs => do
    let member ← env.literal site element v
    return member :: (← env.itemLiterals site element vs)

/-- The entries of a map literal. -/
def entryLiterals (env : Env) (site : Site) (key value : Ty) (keyed : Bool) :
    List (Value × Value) → Emit (List String)
  | [] => return []
  | (k, v) :: es => do
    let k ← env.literal site key k
    let v ← env.literal site value v
    return mapEntry keyed k v :: (← env.entryLiterals site key value keyed es)

/-- The assignments of a struct literal. -/
def fieldLiterals (env : Env) (site : Site) (s : Struct) : List (Value × Value) → Emit (List String)
  | [] => return []
  | (k, v) :: es => do
    let slot ← env.fieldSlot site s k
    let expr ← env.held slot.type slot.required (← env.literal site slot.type v)
    return (slot.ident ++ ": " ++ expr) :: (← env.fieldLiterals site s es)

end

/-- The expression that a field holds for a value. -/
def fieldValue (env : Env) (site : Site) (ty : Ty) (required : Bool) (value : Value) :
    Emit String := do
  env.held ty required (← env.literal site ty value)

end Env

end GoSchema
