import GoSchema.Generate.Constant
import GoSchema.Generate.Enum
import GoSchema.Generate.Service
import GoSchema.Generate.Typedef

/-!
# Declarations

Every declaration of a file claims its identifiers in the package before any code is generated. Services come
last, so that what the schema declares by name keeps its name; the names given to their functions are kept in a
table. Then the code of the declarations follows in the same order.
-/

namespace GoSchema

open Go

namespace Program

/-- The constants that a file declares. -/
def constantsOf (p : Program) (file : Ref .file) : List Constant :=
  p.constants.filter fun c => c.file = file

/-- The enums that a file declares. -/
def enumsOf (p : Program) (file : Ref .file) : List Enum := p.enums.filter fun e => e.file = file

/-- The typedefs that a file declares. -/
def typedefsOf (p : Program) (file : Ref .file) : List Typedef :=
  p.typedefs.filter fun t => t.file = file

/-- The structs that a file declares. -/
def structsOf (p : Program) (file : Ref .file) : List Struct :=
  p.structs.filter fun s => s.file = file

/-- The services that a file declares. -/
def servicesOf (p : Program) (file : Ref .file) : List Service :=
  p.services.filter fun s => s.file = file

/-- The services that a file declares, with their positions in the program. -/
def numberedServicesOf (p : Program) (file : Ref .file) : List (Service × Nat) :=
  p.services.zipIdx.filter fun s => s.1.file = file

end Program

/-- Claims that become known together, unless an identifier given by hand is refused. -/
abbrev Pending := Except GenError (List Claim)

namespace Env

/-- The claim of a declaration that has one identifier. -/
def nameClaim (env : Env) (name : String) (annotations : Annotations) (entity : String) : Pending := do
  let site := env.site entity
  let ident ← identifier name annotations site
  return [⟨ident, site⟩]

/-- The claims of an enum: its type, the function that lists its items, and the items. -/
def enumClaims (env : Env) (e : Enum) : List Pending :=
  let site := env.site e.entity
  match identifier e.name e.annotations site with
  | .error error => [.error error]
  | .ok ident =>
    .ok [⟨ident, site⟩, ⟨ident ++ "_Values", site⟩]
      :: e.items.map fun item => do
        let site := env.site (e.itemEntity item)
        let itemIdent ← itemIdent ident item site
        return [⟨itemIdent, site⟩]

/-- The claims of a function: its arguments, its result if it answers, and its helper. -/
def functionClaims (env : Env) (s : Service) (service : String) (f : Function) : Pending := do
  let entity := s.functionEntity f
  let function ← identifier f.name f.annotations (env.site entity)
  let names := FunctionNames.of service function f.oneway
  return [⟨names.args, env.site ("arguments of " ++ entity)⟩]
    ++ (names.result.toList.map fun r => ⟨r, env.site ("result of " ++ entity)⟩)
    ++ [⟨names.helper, env.site ("helper of " ++ entity)⟩]

/-- The claims of a service: those of its functions. -/
def serviceClaims (env : Env) (s : Service) : List Pending :=
  match identifier s.name s.annotations (env.site s.entity) with
  | .error error => [.error error]
  | .ok service => s.functions.map (env.functionClaims s service)

/-- The claims of all declarations of this file, in order. -/
def declarations (env : Env) : List Pending :=
  (env.program.constantsOf env.file).map (fun c => env.nameClaim c.name c.annotations c.entity)
    ++ (env.program.enumsOf env.file).flatMap env.enumClaims
    ++ (env.program.typedefsOf env.file).map (fun t => env.nameClaim t.name t.annotations t.entity)
    ++ (env.program.structsOf env.file).map (fun s => env.nameClaim s.name s.annotations s.entity)
    ++ (env.program.servicesOf env.file).flatMap env.serviceClaims

/-- Grants the claims of all declarations of this file. -/
def declare (env : Env) (claims : Claims) : Except GenError Claims :=
  env.declarations.foldlM (fun claims pending => do claims.claimAll (← pending)) claims

/-- The names of all functions of this file. -/
def functionTable (env : Env) : Except GenError FunctionTable := do
  return (← (env.program.numberedServicesOf env.file).mapM env.serviceTable).flatten

/-- The code of all declarations of this file. -/
def declarationsCode (env : Env) (functions : FunctionTable) : Emit Code := do
  let constants ← (env.program.constantsOf env.file).mapM env.constantCode
  let enums ← (env.program.enumsOf env.file).mapM env.enumCode
  let typedefs ← (env.program.typedefsOf env.file).mapM env.typedefCode
  let structs ← (env.program.structsOf env.file).mapM env.structCode
  let services ← (env.program.numberedServicesOf env.file).mapM (env.serviceCode functions)
  return (constants ++ enums ++ typedefs ++ structs ++ services).flatten

end Env

end GoSchema
