import GoSchema.Generate.Equality
import GoSchema.Generate.Logging
import GoSchema.Generate.Wire

/-!
# Typedefs

A typedef becomes a named Go type whose methods convert to the layer below and go on there. A typedef of a
struct is held by pointer like the struct itself.
-/

namespace GoSchema

open Go

/-- What messages call a typedef. -/
def Typedef.entity (t : Typedef) : String := "typedef " ++ t.name

namespace Env

/-- The marshaler of a typedef: that of the struct below it, or of the helper for the container below
it. Scalars need none. -/
def typedefLog (env : Env) (receiver target : String) (root : Ty) : Emit Code := do
  if env.options.noZap then return []
  let zapcore ← env.zapcore
  match root with
  | .struct _ =>
    return func s!"(v {receiver}) MarshalLogObject(enc {zapcore}.ObjectEncoder) error"
      (line s!"return ({target})(v).MarshalLogObject(enc)")
  | .list _ | .set _ _ | .map _ _ =>
    let (zapper, shape) ← env.zapper root
    return func s!"(v {receiver}) {shape.marshaler}(enc {zapcore}.{shape.encoder}) error"
      (line s!"return ({zapper})(v).{shape.marshaler}(enc)")
  | .base _ | .enum _ | .typedef _ => return []

/-- The declaration of a typedef of this file, with its methods. -/
def typedefCode (env : Env) (t : Typedef) : Emit Code := do
  let site := env.site t.entity
  checkSets site t.target
  let name ← identifier t.name t.annotations site
  let targetType ← env.typeRef t.target
  let target := targetType.text
  let root ← env.root t.target
  let byReference ← env.isStructRooted t.target
  let wire ← env.wire
  let fmt ← env.package "fmt"
  let receiver := if byReference then "*" ++ name else name
  let underlying := if byReference then targetType.targetText else target
  let ptr :=
    if root.isScalar then
      line s!"// Ptr returns a pointer to this {name}"
        ++ func s!"(v {name}) Ptr() *{name}" (line "return &v")
    else []
  let encoded ← env.encode t.target "x"
  let fromWire ←
    if byReference then pure (line s!"return ({target})(v).FromWire(w)")
    else do
      let decoded ← env.decode t.target "w"
      pure (line s!"x, err := {decoded}"
        ++ line s!"*v = ({name})(x)"
        ++ line "return err")
  let eq ← env.equals t.target s!"({target})(v)" s!"({target})(rhs)"
  let log ← env.typedefLog receiver target root
  return line s!"type {name} {underlying}" ++ blank
    ++ ptr
    ++ lines
      [s!"// ToWire translates {name} into a Thrift-level intermediate",
       "// representation."]
    ++ func s!"(v {receiver}) ToWire() ({wire}.Value, error)"
      (line s!"x := ({target})(v)"
        ++ line s!"return {encoded}")
    ++ line s!"// String returns a readable string representation of {name}."
    ++ func s!"(v {receiver}) String() string"
      (line s!"x := ({target})(v)"
        ++ line s!"return {fmt}.Sprint(x)")
    ++ lines
      [s!"// FromWire deserializes {name} from its Thrift-level",
       "// representation."]
    ++ func s!"(v *{name}) FromWire(w {wire}.Value) error" fromWire
    ++ lines
      [s!"// Equals returns true if this {name} is equal to the provided",
       s!"// {name}."]
    ++ func s!"(v {receiver}) Equals(rhs {receiver}) bool" (line s!"return {eq}")
    ++ log

end Env

end GoSchema
