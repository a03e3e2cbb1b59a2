import GoSchema.Generate.Emit

/-!
# Enums

An enum becomes a named `int32` with text, JSON and wire codecs. Values and labels may repeat. Reading
the name of a value takes the first item with that value, and reading the value of a name takes the first
item with that label, so both tables have one entry for each key.
-/

namespace GoSchema

open Go

/-- The first of the elements of each key, in order; `seen` holds the keys met before. -/
def firstsFrom {α κ : Type} [DecidableEq κ] (key : α → κ) (seen : List κ) : List α → List α
  | [] => []
  | a :: as =>
    if key a ∈ seen then firstsFrom key seen as else a :: firstsFrom key (key a :: seen) as

/-- The first of the elements of each key, in order. -/
def firstsBy {α κ : Type} [DecidableEq κ] (key : α → κ) (as : List α) : List α := firstsFrom key [] as

/-- An item as the code of its enum shows it. -/
structure ItemLayout where
  ident : String
  label : String
  value : Int32
  deriving DecidableEq

namespace ItemLayout

/-- The table from values to labels: for each value the label of the first item that has it. -/
def byValue (items : List ItemLayout) : List (Int32 × String) :=
  (firstsBy ItemLayout.value items).map fun i => (i.value, i.label)

/-- The table from labels to items: for each label the first item that has it. -/
def byLabel (items : List ItemLayout) : List (String × String) :=
  (firstsBy ItemLayout.label items).map fun i => (i.label, i.ident)

end ItemLayout

/-- The branches of a switch over the values of an enum. -/
def valueBranches (table : List (Int32 × String)) (body : String → String) : Code :=
  table.flatMap fun e => caseOf ("case " ++ toString e.1.toInt) (line (body e.2))

/-- The branches of a switch over the labels of an enum. -/
def labelBranches (table : List (String × String)) : Code :=
  table.flatMap fun e => caseOf ("case " ++ quote e.1) (line ("*v = " ++ e.2) ++ line "return nil")

/-- What messages call an enum. -/
def Enum.entity (e : Enum) : String := "enum " ++ e.name

/-- What messages call an item of an enum. -/
def Enum.itemEntity (e : Enum) (item : EnumItem) : String := s!"item {item.name} of enum {e.name}"

/-- The constants of the items. -/
def itemConstants (name : String) (items : List ItemLayout) : Code :=
  if items.isEmpty then []
  else
    let width := columnWidth (items.map ItemLayout.ident)
    group "const"
      (lines (items.map fun i => padRight width i.ident ++ s!" {name} = " ++ toString i.value.toInt))
      ++ blank

/-- The function that lists all items. -/
def enumValues (name : String) (items : List ItemLayout) : Code :=
  line s!"// {name}_Values returns all recognized values of {name}."
    ++ func s!"{name}_Values() []{name}"
      (line (s!"return []{name}" ++ braced (", ".intercalate (items.map ItemLayout.ident))))

/-- The method that reads a name, or else a number. -/
def enumUnmarshalText (name fmt strconv : String) (table : List (String × String)) : Code :=
  lines
    [s!"// UnmarshalText tries to decode {name} from a byte slice",
     "// containing its name."]
    ++ func s!"(v *{name}) UnmarshalText(value []byte) error"
      (switch "s := string(value); s"
        (labelBranches table
          ++ caseOf "default"
            (line s!"val, err := {strconv}.ParseInt(s, 10, 32)"
              ++ ifThen "err != nil"
                (line (s!"return {fmt}.Errorf(\"unknown enum value %q for %q: %v\", s, "
                  ++ quote name ++ ", err)"))
              ++ line s!"*v = {name}(val)"
              ++ line "return nil")))

/-- The method that writes the name of a value, or else its number. -/
def enumMarshalText (name strconv : String) (table : List (Int32 × String)) : Code :=
  lines
    [s!"// MarshalText encodes {name} to text.",
     "//",
     "// If the enum value is recognized, its name is returned. Otherwise,",
     "// its integer value is returned."]
    ++ func s!"(v {name}) MarshalText() ([]byte, error)"
      (switch "int32(v)" (valueBranches table fun l => "return []byte(" ++ quote l ++ "), nil")
        ++ line s!"return []byte({strconv}.FormatInt(int64(v), 10)), nil")

/-- The method that logs a value. -/
def enumMarshalLog (name zapcore : String) (table : List (Int32 × String)) : Code :=
  lines
    ["// MarshalLogObject implements zapcore.ObjectMarshaler, enabling",
     s!"// fast logging of {name}.",
     "// Enums are logged as objects, where the value is logged with key",
     "// \"value\", and if this value's name is known, the name is logged with key \"name\"."]
    ++ func s!"(v {name}) MarshalLogObject(enc {zapcore}.ObjectEncoder) error"
      (line "enc.AddInt32(\"value\", int32(v))"
        ++ switch "int32(v)" (valueBranches table fun l => "enc.AddString(\"name\", " ++ quote l ++ ")")
        ++ line "return nil")

/-- The methods between a value and its pointer and wire forms. -/
def enumWire (name wire : String) : Code :=
  line "// Ptr returns a pointer to this enum value."
    ++ func s!"(v {name}) Ptr() *{name}" (line "return &v")
    ++ lines
      [s!"// ToWire translates {name} into a Thrift-level intermediate",
       "// representation."]
    ++ func s!"(v {name}) ToWire() ({wire}.Value, error)"
      (line s!"return {wire}.NewValueI32(int32(v)), nil")
    ++ lines
      [s!"// FromWire deserializes {name} from its Thrift-level",
       "// representation. Values without a name are kept as they are."]
    ++ func s!"(v *{name}) FromWire(w {wire}.Value) error"
      (line s!"*v = ({name})(w.GetI32())"
        ++ line "return nil")

/-- The method that shows a value. -/
def enumString (name fmt : String) (table : List (Int32 × String)) : Code :=
  line s!"// String returns a readable string representation of {name}."
    ++ func s!"(v {name}) String() string"
      (line "w := int32(v)"
        ++ switch "w" (valueBranches table fun l => "return " ++ quote l)
        ++ line (s!"return {fmt}.Sprintf(" ++ quote (name ++ "(%d)") ++ ", w)"))

/-- The method that compares two values. -/
def enumEquals (name : String) : Code :=
  lines
    [s!"// Equals returns true if this {name} value matches the provided",
     "// value."]
    ++ func s!"(v {name}) Equals(rhs {name}) bool" (line "return v == rhs")

/-- The method that writes the name of a value, or else its number, in JSON. -/
def enumMarshalJSON (name strconv : String) (table : List (Int32 × String)) : Code :=
  lines
    [s!"// MarshalJSON serializes {name} into JSON.",
     "//",
     "// If the enum value is recognized, its name is returned.",
     "// Otherwise, its integer value is returned."]
    ++ func s!"(v {name}) MarshalJSON() ([]byte, error)"
      (switch "int32(v)"
        (valueBranches table fun l => "return ([]byte)(" ++ quote (quote l) ++ "), nil")
        ++ line s!"return ([]byte)({strconv}.FormatInt(int64(v), 10)), nil")

/-- The method that reads a name or a number from JSON. -/
def enumUnmarshalJSON (name fmt json bytes math : String) : Code :=
  let overflow (what : String) : Code :=
    line (s!"return {fmt}.Errorf(\"enum {what} from JSON %q for %q\", text, " ++ quote name ++ ")")
  lines
    [s!"// UnmarshalJSON attempts to decode {name} from its JSON",
     "// representation: either the name of a value or its integer form."]
    ++ func s!"(v *{name}) UnmarshalJSON(text []byte) error"
      (line s!"d := {json}.NewDecoder({bytes}.NewReader(text))"
        ++ line "d.UseNumber()"
        ++ line "t, err := d.Token()"
        ++ returnError "err"
        ++ blank
        ++ switch "w := t.(type)"
          (caseOf s!"case {json}.Number"
            (line "x, err := w.Int64()"
              ++ returnError "err"
              ++ ifThen s!"x > {math}.MaxInt32" (overflow "overflow")
              ++ ifThen s!"x < {math}.MinInt32" (overflow "underflow")
              ++ line s!"*v = ({name})(x)"
              ++ line "return nil")
          ++ caseOf "case string" (line "return v.UnmarshalText([]byte(w))")
          ++ caseOf "default"
            (line (s!"return {fmt}.Errorf(\"invalid JSON value %q (%T) to unmarshal into %q\", t, t, "
              ++ quote name ++ ")"))))

namespace Env

/-- The items of an enum of this file. -/
def enumLayout (env : Env) (e : Enum) (ident : String) : Except GenError (List ItemLayout) :=
  e.items.mapM fun item => do
    let itemIdent ← itemIdent ident item (env.site (e.itemEntity item))
    return ⟨itemIdent, label item.name item.annotations, item.value⟩

/-- The declaration of an enum of this file, with its methods. -/
def enumCode (env : Env) (e : Enum) : Emit Code := do
  let name ← identifier e.name e.annotations (env.site e.entity)
  let items ← env.enumLayout e name
  let wire ← env.wire
  let fmt ← env.package "fmt"
  let strconv ← env.package "strconv"
  let json ← env.package "encoding/json"
  let bytes ← env.package "bytes"
  let math ← env.package "math"
  let values := ItemLayout.byValue items
  let labels := ItemLayout.byLabel items
  let log ← if env.options.noZap then pure [] else do
    let zapcore ← env.zapcore
    pure (enumMarshalLog name zapcore values)
  return line s!"type {name} int32" ++ blank
    ++ itemConstants name items
    ++ enumValues name items
    ++ enumUnmarshalText name fmt strconv labels
    ++ enumMarshalText name strconv values
    ++ log
    ++ enumWire name wire
    ++ enumString name fmt values
    ++ enumEquals name
    ++ enumMarshalJSON name strconv values
    ++ enumUnmarshalJSON name fmt json bytes math

end Env

end GoSchema
