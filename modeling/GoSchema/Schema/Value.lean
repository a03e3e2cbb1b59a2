import GoSchema.Decimal.Shortest
import GoSchema.Schema.Type

/-!
# Constant values

The value of a constant or the default of a field. A map given for a struct is a struct literal: each
key is a text that names a field.
-/

namespace GoSchema

/-- A value as it is written in a schema. -/
inductive Value where
  | bool (b : Bool)
  | int (n : Int64)
  | double (d : Double)
  | string (s : String)
  | list (items : List Value)
  | map (entries : List (Value × Value))
  /-- The item of an enum at a position. -/
  | enumItem (ref : Ref .enum) (item : UInt64)
  /-- The value of another constant. -/
  | constant (ref : Ref .constant)

namespace Value

/-- Texts separated by commas. -/
def commaSeparated (parts : List String) : String := ", ".intercalate parts

mutual

/-- How a message shows a value. -/
def display : Value → String
  | .bool b => "Bool(" ++ toString b ++ ")"
  | .int n => "Int(" ++ toString n.toInt ++ ")"
  | .double d => "Double(" ++ Decimal.text d ++ ")"
  | .string s => "String(" ++ Text.display s ++ ")"
  | .list items => "List([" ++ commaSeparated (displayItems items) ++ "])"
  | .map entries => "Map([" ++ commaSeparated (displayEntries entries) ++ "])"
  | .enumItem ref item =>
    "EnumItem \x7b enum_id: " ++ ref.display ++ ", item: " ++ toString item.toNat ++ " \x7d"
  | .constant ref => "Constant(" ++ ref.display ++ ")"

/-- How a message shows the items of a list. -/
def displayItems : List Value → List String
  | [] => []
  | v :: vs => v.display :: displayItems vs

/-- How a message shows the entries of a map. -/
def displayEntries : List (Value × Value) → List String
  | [] => []
  | (k, v) :: es =>
    ("ConstantPair \x7b key: " ++ k.display ++ ", value: " ++ v.display ++ " \x7d")
      :: displayEntries es

end

mutual

/-- The constants that a value mentions, in order. -/
def references : Value → List (Ref .constant)
  | .constant ref => [ref]
  | .list items => itemReferences items
  | .map entries => entryReferences entries
  | .bool _ | .int _ | .double _ | .string _ | .enumItem _ _ => []

/-- The constants that the items of a list mention. -/
def itemReferences : List Value → List (Ref .constant)
  | [] => []
  | v :: vs => v.references ++ itemReferences vs

/-- The constants that the entries of a map mention, keys before values. -/
def entryReferences : List (Value × Value) → List (Ref .constant)
  | [] => []
  | (k, v) :: es => k.references ++ v.references ++ entryReferences es

end

end Value

end GoSchema
