import GoSchema.Generate.Emit

/-!
# How fields hold their values

A field must be able to be absent unless it is required. Types with a Go form that has `nil` need nothing
more; a scalar that may be absent is held by pointer.
-/

namespace GoSchema

/-- How a field holds its value. -/
inductive Holding where
  /-- A scalar that is always there, held directly. -/
  | value
  /-- A scalar that may be absent, held by pointer. -/
  | pointer
  /-- A type whose Go form can be `nil` by itself. -/
  | nilable
  deriving DecidableEq

/-- The Go form of a root type can be `nil`. -/
def Ty.isNilable : Ty → Bool
  | .base .binary | .list _ | .set _ _ | .map _ _ | .struct _ => true
  | .base _ | .enum _ | .typedef _ => false

/-- How a field of the type holds its value. -/
def Program.holding? (p : Program) (ty : Ty) (required : Bool) : Option Holding :=
  (p.rootType? ty).map fun root =>
    if root.isNilable then .nilable else if required then .value else .pointer

/-- The Go type of a field, given that of its values. -/
def Holding.fieldType (h : Holding) (t : Go.GoType) : Go.GoType :=
  match h with
  | .pointer => .pointer t
  | .value | .nilable => t

namespace Env

/-- How a field of the type holds its value. -/
def holding (env : Env) (ty : Ty) (required : Bool) : Except GenError Holding :=
  present (env.program.holding? ty required)

/-- The function that gives a pointer to a value. -/
def ptrCode (env : Env) (ty : Ty) (name : String) : Emit Go.Code := do
  let type ← env.typeText ty
  return Go.func s!"{name}(v {type}) *{type}" (Go.line "return &v")

/-- The helper that gives a pointer to a value of a base type. -/
def ptrHelper (env : Env) (ty : Ty) : Emit String := env.request .ptr ty (env.ptrCode ty)

/-- The Go expression for a pointer to the scalar `expr`. Enums and typedefs of scalars have a method for
this. -/
def pointerTo (env : Env) (ty : Ty) (expr : String) : Emit String :=
  match ty with
  | .enum _ => return s!"{expr}.Ptr()"
  | .typedef _ => do
    if ← env.isStructRooted ty then throw (.internal (.noPointer ty)) else return s!"{expr}.Ptr()"
  | .base .binary => throw (.internal (.noPointer ty))
  | .base _ => do
    let helper ← env.ptrHelper ty
    return s!"{helper}({expr})"
  | .list _ | .set _ _ | .map _ _ | .struct _ => throw (.internal (.noPointer ty))

end Env

end GoSchema
