import GoSchema.Schema.Annotations

/-!
# Schema types

A schema type is a base type, a container of schema types, or a reference to an enum, a struct or a
typedef of the program. References are indices into the lists of the program, so a struct may refer to
itself through any number of containers and typedefs.
-/

namespace GoSchema

/-- The lists of a program that a reference can point into. -/
inductive Arena where
  | file
  | constant
  | enum
  | struct
  | typedef
  | service
  deriving DecidableEq

/-- A position in one of the lists of a program. -/
structure Ref (arena : Arena) where
  /-- The position, from 0. -/
  index : UInt32
  deriving DecidableEq

/-- What an entry of a list is called in messages. -/
def Arena.noun : Arena → String
  | .file => "file"
  | .constant => "constant"
  | .enum => "enum"
  | .struct => "struct"
  | .typedef => "typedef"
  | .service => "service"

/-- What a reference into a list is called. -/
def Arena.label : Arena → String
  | .file => "FileId"
  | .constant => "ConstantId"
  | .enum => "EnumId"
  | .struct => "StructId"
  | .typedef => "TypedefId"
  | .service => "ServiceId"

/-- The position as a natural number. -/
def Ref.toNat {arena : Arena} (r : Ref arena) : Nat := r.index.toNat

/-- A reference as a text, such as `StructId#3`. -/
def Ref.text {arena : Arena} (r : Ref arena) : String :=
  arena.label ++ "#" ++ toString r.toNat

/-- How a message shows a reference, such as `StructId(3)`. -/
def Ref.display {arena : Arena} (r : Ref arena) : String :=
  arena.label ++ "(" ++ toString r.toNat ++ ")"

/-- The types without parts. -/
inductive Base where
  | bool
  | i8
  | i16
  | i32
  | i64
  | double
  | string
  | binary
  deriving DecidableEq

/-- How a message shows a type without parts. -/
def Base.display : Base → String
  | .bool => "Bool"
  | .i8 => "I8"
  | .i16 => "I16"
  | .i32 => "I32"
  | .i64 => "I64"
  | .double => "Double"
  | .string => "String"
  | .binary => "Binary"

/-- The types of a schema. -/
inductive Ty where
  /-- A type without parts. -/
  | base (base : Base)
  /-- A sequence. -/
  | list (element : Ty)
  /-- A set, with annotations that may choose its representation. -/
  | set (element : Ty) (annotations : Annotations)
  /-- A map. -/
  | map (key value : Ty)
  /-- An enum of the program. -/
  | enum (ref : Ref .enum)
  /-- A struct, union or exception of the program. -/
  | struct (ref : Ref .struct)
  /-- A typedef of the program. -/
  | typedef (ref : Ref .typedef)
  deriving DecidableEq

/-- How a message shows a type. -/
def Ty.display : Ty → String
  | .base b => b.display
  | .list element => "List(" ++ element.display ++ ")"
  | .set element annotations =>
    "Set \x7b element: " ++ element.display ++ ", annotations: " ++ annotations.display ++ " \x7d"
  | .map key value => "Map \x7b key: " ++ key.display ++ ", value: " ++ value.display ++ " \x7d"
  | .enum r => "Enum(" ++ r.display ++ ")"
  | .struct r => "Struct(" ++ r.display ++ ")"
  | .typedef r => "Typedef(" ++ r.display ++ ")"

/-- A type without parts. -/
def Ty.isBase : Ty → Bool
  | .base _ => true
  | _ => false

/-- A typedef, whose meaning lies one layer down. -/
def Ty.isTypedef : Ty → Bool
  | .typedef _ => true
  | _ => false

end GoSchema
