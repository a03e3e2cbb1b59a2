import GoSchema.Generate.Literal

/-!
# Constants

A constant becomes a Go constant where Go allows it: for finite scalars, texts and enum values, also
through references. Everything else becomes a variable of the package.
-/

namespace GoSchema

open Go

namespace Program

/-- A value of a type can be a Go constant. References are followed at most `n` times; a longer chain
goes in a circle and settles on no value. -/
def isConstant? (p : Program) : (n : Nat) → Ty → Value → Option Bool
  | 0, _, _ => some false
  | n + 1, ty, value => do
    let root ← p.rootType? ty
    if root.isScalar then
      match value with
      | .double d => some d.isFinite
      | .constant r => do
        let c ← p.constant? r
        p.isConstant? n c.type c.value
      | _ => some true
    else some false

/-- A constant of the program can be a Go constant. -/
def isGoConstant? (p : Program) (c : Constant) : Option Bool :=
  p.isConstant? (p.constants.length + 1) c.type c.value

end Program

/-- What messages call a constant. -/
def Constant.entity (c : Constant) : String := "constant " ++ c.name

/-- The keyword of a declaration. -/
def constantKeyword (isConstant : Bool) : String := if isConstant then "const" else "var"

namespace Env

/-- The declaration of a constant of this file. -/
def constantCode (env : Env) (c : Constant) : Emit Code := do
  let site := env.site c.entity
  let ident ← identifier c.name c.annotations site
  checkSets site c.type
  let type ← env.typeText c.type
  let value ← env.literal site c.type c.value
  let keyword := constantKeyword (← present (env.program.isGoConstant? c))
  return line s!"{keyword} {ident} {type} = {value}" ++ blank

end Env

end GoSchema
