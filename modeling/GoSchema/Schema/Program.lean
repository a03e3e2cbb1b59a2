import GoSchema.Schema.Value

/-!
# Programs

A program is a linked schema: the files it is made of, and the constants, enums, structs, typedefs and
services that they declare. Every declaration names its file by position, and types and values refer
to declarations by position.
-/

namespace GoSchema

/-- A schema file and the Go package that its code goes to. -/
structure File where
  /-- The path of the schema file. -/
  path : String
  /-- The import path of the Go package. -/
  importPath : String
  /-- The name of the Go package. -/
  package : String
  deriving DecidableEq

/-- A named constant. -/
structure Constant where
  name : String
  file : Ref .file
  type : Ty
  value : Value
  annotations : Annotations

/-- One item of an enum. -/
structure EnumItem where
  name : String
  value : Int32
  annotations : Annotations
  deriving DecidableEq

/-- An enum. Its items keep their order, and values may repeat. -/
structure Enum where
  name : String
  file : Ref .file
  items : List EnumItem
  annotations : Annotations
  deriving DecidableEq

/-- A field of a struct, an argument or an exception of a function. -/
structure Field where
  id : Int16
  name : String
  type : Ty
  required : Bool
  default : Option Value
  annotations : Annotations

/-- The three kinds of struct. -/
inductive StructKind where
  | struct
  | union
  | exception
  deriving DecidableEq

/-- What a struct of this kind is called in messages and in the schema. -/
def StructKind.noun : StructKind → String
  | .struct => "struct"
  | .union => "union"
  | .exception => "exception"

/-- A struct, union or exception. -/
structure Struct where
  name : String
  file : Ref .file
  kind : StructKind
  fields : List Field
  /-- Of unions only: no field need be set. -/
  allowEmpty : Bool
  annotations : Annotations

/-- A name for a type. -/
structure Typedef where
  name : String
  file : Ref .file
  target : Ty
  annotations : Annotations
  deriving DecidableEq

/-- What a function answers: a value, unless it is void, or one of its exceptions. -/
structure Reply where
  returns : Option Ty
  exceptions : List Field

/-- A function of a service. -/
structure Function where
  name : String
  arguments : List Field
  /-- Absent from functions that do not answer. -/
  reply : Option Reply
  oneway : Bool
  annotations : Annotations

/-- A service. -/
structure Service where
  name : String
  file : Ref .file
  parent : Option (Ref .service)
  functions : List Function
  annotations : Annotations

/-- A linked schema. -/
structure Program where
  files : List File
  constants : List Constant
  enums : List Enum
  structs : List Struct
  typedefs : List Typedef
  services : List Service

namespace Program

/-- The program without declarations. -/
def empty : Program := ⟨[], [], [], [], [], []⟩

/-- The file at a position. -/
def file? (p : Program) (r : Ref .file) : Option File := p.files[r.toNat]?

/-- The constant at a position. -/
def constant? (p : Program) (r : Ref .constant) : Option Constant := p.constants[r.toNat]?

/-- The enum at a position. -/
def enum? (p : Program) (r : Ref .enum) : Option Enum := p.enums[r.toNat]?

/-- The struct at a position. -/
def struct? (p : Program) (r : Ref .struct) : Option Struct := p.structs[r.toNat]?

/-- The typedef at a position. -/
def typedef? (p : Program) (r : Ref .typedef) : Option Typedef := p.typedefs[r.toNat]?

/-- The service at a position. -/
def service? (p : Program) (r : Ref .service) : Option Service := p.services[r.toNat]?

/-- The number of entries of a list of the program. -/
def size (p : Program) : Arena → Nat
  | .file => p.files.length
  | .constant => p.constants.length
  | .enum => p.enums.length
  | .struct => p.structs.length
  | .typedef => p.typedefs.length
  | .service => p.services.length

/-- The first file with this path. -/
def findFile? (p : Program) (path : String) : Option (Ref .file) :=
  (p.files.findIdx? (·.path == path)).map fun i => ⟨UInt32.ofNat i⟩

/-- The type `n` typedef layers below `ty`, or the first one that is not a typedef; nothing when a
typedef on the way is missing. -/
def descend (p : Program) : (n : Nat) → (ty : Ty) → Option Ty
  | 0, ty => some ty
  | n + 1, .typedef r => (p.typedef? r).bind fun t => p.descend n t.target
  | _ + 1, ty => some ty

/-- The type below all typedef layers of `ty`. The walk takes at most one step more than there are
typedefs; a longer chain goes in a circle, and then some typedef is given. -/
def rootType? (p : Program) (ty : Ty) : Option Ty := p.descend (p.typedefs.length + 1) ty

end Program

/-- The first field with this name. -/
def findField? (fields : List Field) (name : String) : Option Field :=
  fields.find? (·.name == name)

end GoSchema
