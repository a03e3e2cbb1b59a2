import GoSchema.Generate.Claims
import GoSchema.Generate.Symbol
import GoSchema.Go.Type

/-!
# The surroundings of a run

A run generates the code of one file. What stays fixed throughout is the program, the file, the options
and the aliases of the packages that the code may refer to. From these follow the Go identifiers of
all declarations and the Go types of all schema types.

The options say whether logging code is left out, under which import paths the packages that generated code calls
are found, and which tool the header of a generated file names.

Before any declaration the names of the local variables of generated functions and the names of
packages are claimed, so that no declaration hides one of them.
-/

namespace GoSchema

/-- The settings of a run. -/
structure Options where
  /-- No logging code is generated. -/
  noZap : Bool := false
  /-- The package of the wire format. -/
  wireImport : String := "go.uber.org/thriftrw/wire"
  /-- The package of the log encoders. -/
  zapcoreImport : String := "go.uber.org/zap/zapcore"
  /-- The package that joins errors. -/
  multierrImport : String := "go.uber.org/multierr"
  /-- The tool that a generated file names as its author. -/
  generatorName : String := "idlc"
  deriving DecidableEq

/-- The settings that hold where none are given. -/
def Options.default : Options := {}

/-- A value that a sound program has. -/
def present {α : Type} : Option α → Except GenError α
  | some a => .ok a
  | none => .error .dangling

/-- The local variables that generated functions use. -/
def fixedLocals : List String :=
  ["v", "w", "err", "field", "fields", "i", "j", "x", "y", "rhs", "lhs", "enc", "count", "ok", "o",
   "l", "m", "s", "k", "item", "key", "value", "list", "set", "e", "result", "success", "lk", "lv",
   "rk", "rv", "kw", "vw", "d", "t", "val", "text", "f"]

/-- What is fixed during a run. -/
structure Env where
  program : Program
  /-- The position of the file. -/
  file : Ref .file
  /-- The file itself. -/
  self : File
  options : Options
  /-- The packages that the code may refer to. -/
  packages : List Go.Package

/-- The packages that generated code calls, with their aliases. -/
def Options.runtimePackages (o : Options) : List Go.Package :=
  [⟨o.wireImport, "wire"⟩, ⟨o.zapcoreImport, "zapcore"⟩, ⟨o.multierrImport, "multierr"⟩]

/-- The standard packages, with their aliases. -/
def standardAliases : List Go.Package :=
  Go.standardPackages.map fun path => ⟨path, Go.defaultAlias path⟩

/-- The names claimed before those of other files: locals, standard packages and runtime packages. -/
def ambientClaims (o : Options) (path : String) : List Claim :=
  fixedLocals.map (fun l => ⟨l, ⟨"a generated local variable", path⟩⟩)
    ++ standardAliases.map (fun p => ⟨p.name, ⟨"a standard library import", path⟩⟩)
    ++ o.runtimePackages.map (fun p => ⟨p.name, ⟨"a runtime import", path⟩⟩)

/-- The files of other packages, in order. -/
def foreignFiles (p : Program) (file : Ref .file) (self : File) : List File :=
  (p.files.zipIdx.filter fun f => f.2 != file.toNat && f.1.importPath != self.importPath).map Prod.fst

/-- Gives the package of each file a name of its own. -/
def nameFiles (names : Name.Namespace) (packages : List Go.Package) :
    List File → Name.Namespace × List Go.Package
  | [] => (names, packages)
  | f :: fs =>
    let (name, names) := names.newName f.package
    nameFiles names (Go.register packages f.importPath name) fs

namespace Env

/-- The surroundings of a run for a file, and the names claimed so far. -/
def ofFile (program : Program) (file : Ref .file) (self : File) (options : Options) :
    Except GenError (Env × Claims) := do
  let claims ← Claims.empty.claimAll (ambientClaims options self.path)
  let known := (standardAliases ++ options.runtimePackages).foldl
    (fun ps p => Go.register ps p.path p.name) []
  let (names, packages) := nameFiles claims.names known (foreignFiles program file self)
  return (⟨program, file, self, options, packages⟩, { claims with names })

/-- Where an entity of this file is. -/
def site (env : Env) (entity : String) : Site := ⟨entity, env.self.path⟩

/-- The alias of an import path. -/
def aliasOf (env : Env) (path : String) : String := Go.aliasOf env.packages path

/-- The package of a file, when it is another one. -/
def packageOf (env : Env) (file : Ref .file) : Option Go.Package :=
  if file = env.file then none
  else
    match env.program.file? file with
    | none => none
    | some f =>
      if f.importPath = env.self.importPath then none
      else some ⟨f.importPath, env.aliasOf f.importPath⟩

/-- The path of a file. -/
def pathOf (env : Env) (file : Ref .file) : Except GenError String :=
  present ((env.program.file? file).map File.path)

/-- The reference to a declaration of any file. -/
def reference (env : Env) (file : Ref .file) (name : String) (annotations : Annotations) :
    Except GenError Go.Reference := do
  let path ← env.pathOf file
  let ident ← identifier name annotations ⟨name, path⟩
  return ⟨env.packageOf file, ident⟩

/-- The reference to a struct. -/
def structRef (env : Env) (r : Ref .struct) : Except GenError Go.Reference := do
  let s ← present (env.program.struct? r)
  env.reference s.file s.name s.annotations

/-- The reference to an enum. -/
def enumRef (env : Env) (r : Ref .enum) : Except GenError Go.Reference := do
  let e ← present (env.program.enum? r)
  env.reference e.file e.name e.annotations

/-- The reference to a typedef. -/
def typedefRef (env : Env) (r : Ref .typedef) : Except GenError Go.Reference := do
  let t ← present (env.program.typedef? r)
  env.reference t.file t.name t.annotations

/-- The reference to a constant. -/
def constantRef (env : Env) (r : Ref .constant) : Except GenError Go.Reference := do
  let c ← present (env.program.constant? r)
  env.reference c.file c.name c.annotations

/-- The identifier of an item of an enum: the one given by hand, else the spelling of its name behind
the identifier of the enum. -/
def itemIdent (enumIdent : String) (item : EnumItem) (site : Site) : Except GenError String :=
  if item.annotations.contains nameKey then identifier item.name item.annotations site
  else .ok (enumIdent ++ Name.exported item.name)

/-- The reference to an item of an enum. -/
def enumItemRef (env : Env) (r : Ref .enum) (item : Nat) : Except GenError Go.Reference := do
  let e ← present (env.program.enum? r)
  match e.items[item]? with
  | none => throw (.internal (.noItem r item))
  | some entry =>
    let path ← env.pathOf e.file
    let enumIdent ← identifier e.name e.annotations ⟨e.name, path⟩
    let ident ← itemIdent enumIdent entry ⟨entry.name, path⟩
    return ⟨env.packageOf e.file, ident⟩

/-- The type below all typedef layers. -/
def root (env : Env) (ty : Ty) : Except GenError Ty := present (env.program.rootType? ty)

/-- A set of these elements is a Go map. -/
def isKeyedSet (env : Env) (element : Ty) (annotations : Annotations) : Except GenError Bool :=
  present (env.program.isKeyedSet? element annotations)

/-- A map with these keys is a Go map; otherwise it is a slice of pairs. -/
def isKeyedMap (env : Env) (key : Ty) : Except GenError Bool :=
  present (env.program.isHashable? key)

/-- The type is a struct below its typedef layers. -/
def isStructRooted (env : Env) (ty : Ty) : Except GenError Bool := do
  match ← env.root ty with
  | .struct _ => return true
  | _ => return false

end Env

/-- The Go type of a base type. -/
def Base.goType : Base → Go.GoType
  | .bool => .basic "bool"
  | .i8 => .basic "int8"
  | .i16 => .basic "int16"
  | .i32 => .basic "int32"
  | .i64 => .basic "int64"
  | .double => .basic "float64"
  | .string => .basic "string"
  | .binary => .slice (.basic "byte")

namespace Env

/-- The Go type of a schema type. Structs, and typedefs of structs, are held by pointer. -/
def goType (env : Env) : Ty → Except GenError Go.GoType
  | .base b => return b.goType
  | .list element => return .slice (← env.goType element)
  | .set element annotations => do
    let e ← env.goType element
    return if ← env.isKeyedSet element annotations then .map e .unit else .slice e
  | .map key value => do
    let k ← env.goType key
    let v ← env.goType value
    return if ← env.isKeyedMap key then .map k v else .slice (.pair k v)
  | .enum r => return .named (← env.enumRef r)
  | .struct r => return .pointer (.named (← env.structRef r))
  | .typedef r => do
    let ref ← env.typedefRef r
    return if ← env.isStructRooted (.typedef r) then .pointer (.named ref) else .named ref

end Env

end GoSchema
