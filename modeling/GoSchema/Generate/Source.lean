import GoSchema.Generate.Declaration

/-!
# Go sources

`generate` makes the Go source of one file of a program: a header, the imports that the code uses, the code of
the declarations, and the helpers in the order in which they were finished. The program is checked
first. Runs for different files share nothing.
-/

namespace GoSchema

open Go

/-- What a run for a file has put together. -/
structure Draft where
  env : Env
  /-- The code of the declarations. -/
  code : Code
  /-- What accumulated during the run. -/
  run : Run

/-- A generated Go file. -/
structure Source where
  /-- The name of the package. -/
  package : String
  /-- The import path of the package. -/
  importPath : String
  /-- The name of the file. -/
  fileName : String
  /-- The text of the file. -/
  contents : String
  deriving DecidableEq

namespace Draft

/-- The packages that the code uses. -/
def imports (d : Draft) : List Package := d.run.used.map fun path => ⟨path, d.env.aliasOf path⟩

/-- The code that follows the imports. -/
def body (d : Draft) : Code := d.code ++ d.run.helpers.flatMap Helper.code

/-- The comment and the package clause at the beginning. -/
def header (d : Draft) : String :=
  let o := d.env.options
  s!"// Code generated by {o.generatorName} from {d.env.self.path}. DO NOT EDIT.\n// @generated\n\n"
    ++ s!"package {d.env.self.package}\n\n"

/-- The text of the file. -/
def contents (d : Draft) : String :=
  let imports := importBlock d.imports
  d.header ++ (if imports.isEmpty then "" else imports ++ "\n") ++ render d.body

/-- The file. -/
def source (d : Draft) : Source :=
  ⟨d.env.self.package, d.env.self.importPath, d.env.self.package ++ ".go", d.contents⟩

end Draft

/-- The run for a file of a sound program. -/
def Env.draft (program : Program) (file : Ref .file) (self : File) (options : Options) :
    Except GenError Draft := do
  let (env, claims) ← Env.ofFile program file self options
  let claims ← env.declare claims
  let functions ← env.functionTable
  let (code, run) ← (env.declarationsCode functions).run ⟨claims.names, [], [], [], []⟩
  return ⟨env, code, run⟩

namespace Program

/-- The run for a file of a program. -/
def draft (p : Program) (file : Ref .file) (options : Options) : Except GenError Draft :=
  match p.check with
  | .error e => .error (.badProgram e)
  | .ok () =>
    match p.file? file with
    | none => .error (.badProgram (.dangling "generation target" .file file.toNat p.files.length))
    | some self => Env.draft p file self options

/-- The Go source of a file of a program. -/
def generate (p : Program) (file : Ref .file) (options : Options) : Except GenError Source := do
  return (← p.draft file options).source

/-- The references to all files of a program, in order. -/
def fileRefs (p : Program) : List (Ref .file) :=
  (List.range p.files.length).map fun i => ⟨UInt32.ofNat i⟩

/-- The Go sources of all files of a program, in order. -/
def generateAll (p : Program) (options : Options) : Except GenError (List Source) :=
  p.fileRefs.mapM fun file => p.generate file options

end Program

end GoSchema
