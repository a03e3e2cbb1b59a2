import GoSchema.Generate.Emit

/-!
# Equality

`equals` gives the Go expression that compares two values of a schema type in depth. Enums, structs and
typedefs have a method for this; containers go through helpers. A keyed container is compared by looking up
keys; where Go cannot look up, one loop runs inside another and searches for a partner.
-/

namespace GoSchema

open Go

/-- Leaves the comparator with the answer no. -/
def returnFalse : Code := line "return false"

/-- Compares two sequences position by position; `eq` compares `lv` with `rv`. -/
def listLoop (eq : String) : Code :=
  forLoop "i, lv := range lhs"
    (line "rv := rhs[i]"
      ++ ifThen s!"!{eq}" returnFalse)

/-- Compares two sets that are Go maps. -/
def keyedSetLoop : Code :=
  forLoop "x := range rhs" (ifThen "_, ok := lhs[x]; !ok" returnFalse)

/-- Compares two sets that are sequences: every element on the left has an equal one on the right.
`eq` compares `x` with `y`. -/
def searchSetLoop (eq : String) : Code :=
  forLoop "_, x := range lhs"
    (line "ok := false"
      ++ forLoop "_, y := range rhs" (ifThen eq (line "ok = true" ++ line "break"))
      ++ ifThen "!ok" returnFalse)

/-- Compares two maps that are Go maps; `eq` compares the value `lv` with `rv`. -/
def keyedMapLoop (eq : String) : Code :=
  forLoop "lk, lv := range lhs"
    (line "rv, ok := rhs[lk]"
      ++ ifThen "!ok" returnFalse
      ++ ifThen s!"!{eq}" returnFalse)

/-- Compares two maps that are sequences of pairs: the first pair on the right with the key of a pair on
the left has an equal value. `keyEq` compares `lk` with `rk`, and `valueEq` compares `lv` with `rv`. -/
def searchMapLoop (keyEq valueEq : String) : Code :=
  forLoop "_, i := range lhs"
    (line "lk := i.Key"
      ++ line "lv := i.Value"
      ++ line "ok := false"
      ++ forLoop "_, j := range rhs"
        (line "rk := j.Key"
          ++ line "rv := j.Value"
          ++ ifThen s!"!{keyEq}" (line "continue")
          ++ ifThen s!"!{valueEq}" returnFalse
          ++ line "ok = true"
          ++ line "break")
      ++ ifThen "!ok" returnFalse)

/-- The comparator of a container: sizes first, then the loop. -/
def comparatorCode (name type : String) (loop : Code) : Code :=
  func s!"{name}(lhs, rhs {type}) bool"
    (ifThen "len(lhs) != len(rhs)" returnFalse
      ++ blank
      ++ loop
      ++ line "return true")

/-- The comparator of lists of a Go type; `equal` compares `lv` with `rv`. -/
def listComparator (type : String) (equal : Emit String) (name : String) : Emit Code := do
  let eq ← equal
  return comparatorCode name type (listLoop eq)

namespace Env

/-- The comparator of sets of a Go type; `equal` compares `x` with `y`. -/
def setComparator (env : Env) (type : String) (element : Ty) (annotations : Annotations)
    (equal : Emit String) (name : String) : Emit Code := do
  if ← env.isKeyedSet element annotations then
    return comparatorCode name type keyedSetLoop
  else
    let eq ← equal
    return comparatorCode name type (searchSetLoop eq)

/-- The comparator of maps of a Go type; `equalKey` compares `lk` with `rk`, and `equalEntry` compares
`lv` with `rv`. -/
def mapComparator (env : Env) (type : String) (key : Ty) (equalKey equalEntry : Emit String)
    (name : String) : Emit Code := do
  let valueEq ← equalEntry
  if ← env.isKeyedMap key then
    return comparatorCode name type (keyedMapLoop valueEq)
  else
    let keyEq ← equalKey
    return comparatorCode name type (searchMapLoop keyEq valueEq)

/-- The Go expression of type `bool` that compares the Go expressions `lhs` and `rhs`; `comparator`
builds the helper that compares containers of this type. -/
def equalsWith (env : Env) (comparator : String → Emit Code) (ty : Ty) (lhs rhs : String) : Emit String :=
  match ty with
  | .base .binary => do
    let bytes ← env.package "bytes"
    return s!"{bytes}.Equal({lhs}, {rhs})"
  | .base _ => return s!"({lhs} == {rhs})"
  | .enum _ | .struct _ | .typedef _ => return s!"{lhs}.Equals({rhs})"
  | .list _ | .set _ _ | .map _ _ => do
    let comparator ← env.request .equals ty comparator
    return s!"{comparator}({lhs}, {rhs})"

/-- The helper that compares two containers. -/
def containerComparator (env : Env) (ty : Ty) (name : String) : Emit Code := do
  let type ← env.typeText ty
  match ty with
  | .list element =>
    listComparator type (env.equalsWith (env.containerComparator element) element "lv" "rv") name
  | .set element annotations =>
    env.setComparator type element annotations
      (env.equalsWith (env.containerComparator element) element "x" "y") name
  | .map key value =>
    env.mapComparator type key (env.equalsWith (env.containerComparator key) key "lk" "rk")
      (env.equalsWith (env.containerComparator value) value "lv" "rv") name
  | .base _ | .enum _ | .struct _ | .typedef _ => throw (.internal (.noComparator ty))

/-- The Go expression of type `bool` that compares the Go expressions `lhs` and `rhs`. -/
def equals (env : Env) (ty : Ty) (lhs rhs : String) : Emit String :=
  env.equalsWith (env.containerComparator ty) ty lhs rhs

/-- The comparator of values held by pointer; both may be absent. -/
def ptrComparator (env : Env) (ty : Ty) (name : String) : Emit Code := do
  let type ← env.typeText ty
  let eq ← env.equals ty "x" "y"
  return func s!"{name}(lhs, rhs *{type}) bool"
    (ifThen "lhs != nil && rhs != nil"
      (line "x := *lhs"
        ++ line "y := *rhs"
        ++ line s!"return {eq}")
      ++ line "return lhs == nil && rhs == nil")

/-- The helper that compares two values held by pointer. -/
def equalsPtr (env : Env) (ty : Ty) : Emit String := env.request .equalsPtr ty (env.ptrComparator ty)

end Env

end GoSchema
