import GoSchema.Go.Package

/-!
# Go types

The Go type expressions that represent schema types, and references to declarations, which are
qualified with the alias of their package when they lie in another one.
-/

namespace GoSchema.Go

/-- A reference to a declaration of this package or of another one. -/
structure Reference where
  /-- The package, when it is another one. -/
  package : Option Package
  ident : String
  deriving DecidableEq

/-- The text of a reference. -/
def Reference.text (r : Reference) : String :=
  match r.package with
  | some p => p.name ++ "." ++ r.ident
  | none => r.ident

/-- The import path that a reference needs. -/
def Reference.paths (r : Reference) : List String := r.package.toList.map Package.path

/-- A Go type expression. -/
inductive GoType where
  /-- A predeclared type. -/
  | basic (name : String)
  /-- A declared type. -/
  | named (ref : Reference)
  | pointer (target : GoType)
  | slice (element : GoType)
  | map (key value : GoType)
  /-- The struct type without fields. -/
  | unit
  /-- The struct type of a key and a value. -/
  | pair (key value : GoType)
  deriving DecidableEq

namespace GoType

/-- The text of a type expression. -/
def text : GoType → String
  | basic name => name
  | named ref => ref.text
  | pointer target => "*" ++ target.text
  | slice element => "[]" ++ element.text
  | map key value => "map[" ++ key.text ++ "]" ++ value.text
  | unit => "struct\x7b\x7d"
  | pair key value => "struct\x7bKey " ++ key.text ++ "; Value " ++ value.text ++ "\x7d"

/-- The import paths that a type expression needs. -/
def paths : GoType → List String
  | basic _ => []
  | named ref => ref.paths
  | pointer target => target.paths
  | slice element => element.paths
  | map key value => key.paths ++ value.paths
  | unit => []
  | pair key value => key.paths ++ value.paths

/-- The text of a type expression without the stars in front of it. -/
def targetText (t : GoType) : String := String.ofList (t.text.toList.dropWhile (· == '*'))

end GoType

end GoSchema.Go
