import GoSchema.Generate.Directive

/-!
# Symbols of types

The names of helper functions are derived from symbols of types. A compound type is spelled out from the
symbols of its parts; an enum, struct or typedef has the exported spelling of its name. When several
declarations, told apart by file and name, have one spelling, the later ones get `_1`, `_2`, … in the order in
which they are first seen.
-/

namespace GoSchema

/-- A declaration that has been given a symbol. -/
structure SymbolEntry where
  file : Ref .file
  name : String
  /-- The exported spelling of the name. -/
  spelling : String
  symbol : String
  deriving DecidableEq

/-- The declarations seen so far. -/
abbrev Symbols := List SymbolEntry

/-- The symbol of a base type. -/
def Base.symbol : Base → String
  | .bool => "Bool"
  | .i8 => "I8"
  | .i16 => "I16"
  | .i32 => "I32"
  | .i64 => "I64"
  | .double => "Double"
  | .string => "String"
  | .binary => "Binary"

namespace Symbols

/-- The symbol that a declaration has been given. -/
def find? (s : Symbols) (file : Ref .file) (name : String) : Option String :=
  (List.find? (fun e => e.file == file && e.name == name) s).map SymbolEntry.symbol

/-- The symbol of a declaration: the one it has, or a new one. A new one is the spelling, followed by
the number of declarations seen with that spelling unless there is none. -/
def named (s : Symbols) (file : Ref .file) (name : String) : String × Symbols :=
  match s.find? file name with
  | some symbol => (symbol, s)
  | none =>
    let spelling := Name.exported name
    let seen := s.countP (·.spelling == spelling)
    let symbol := if seen = 0 then spelling else spelling ++ "_" ++ toString seen
    (symbol, s ++ [⟨file, name, spelling, symbol⟩])

/-- The symbol of a type; nothing when it refers to a declaration that is not there. The declarations
met before that are recorded all the same. -/
def mangle (p : Program) : Ty → Symbols → Option String × Symbols
  | .base b, s => (some b.symbol, s)
  | .list element, s =>
    let (m, s) := mangle p element s
    (m.map ("List_" ++ ·), s)
  | .set element annotations, s =>
    match p.isKeyedSet? element annotations with
    | none => (none, s)
    | some keyed =>
      let (m, s) := mangle p element s
      (m.map fun m => "Set_" ++ m ++ if keyed then "_mapType" else "_sliceType", s)
  | .map key value, s =>
    match mangle p key s with
    | (none, s) => (none, s)
    | (some k, s) =>
      let (m, s) := mangle p value s
      (m.map fun v => "Map_" ++ k ++ "_" ++ v, s)
  | .enum r, s =>
    match p.enum? r with
    | none => (none, s)
    | some e => let (m, s) := s.named e.file e.name; (some m, s)
  | .struct r, s =>
    match p.struct? r with
    | none => (none, s)
    | some d => let (m, s) := s.named d.file d.name; (some m, s)
  | .typedef r, s =>
    match p.typedef? r with
    | none => (none, s)
    | some t => let (m, s) := s.named t.file t.name; (some m, s)

end Symbols

end GoSchema
