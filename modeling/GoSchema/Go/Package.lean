/-!
# Imported packages

Generated code refers to other packages by an alias. The packages a file may need are registered with
their aliases beforehand, and those that are used are listed in the import block, standard packages
first, each group in the order of the paths.
-/

namespace GoSchema.Go

/-- A package as a file imports it. -/
structure Package where
  /-- The import path. -/
  path : String
  /-- The name under which the code of a file refers to it. -/
  name : String
  deriving DecidableEq

/-- The standard packages that generated code may call. -/
def standardPackages : List String :=
  ["bytes", "encoding/base64", "encoding/json", "errors", "fmt", "math", "strconv", "strings"]

/-- The last element of a path, over characters; `element` holds what was read since the last
slash. -/
def lastElement (element : List Char) : List Char → List Char
  | [] => element
  | c :: rest => if c = '/' then lastElement [] rest else lastElement (element ++ [c]) rest

/-- The name under which a path is imported when no alias is written: its last element. -/
def defaultAlias (path : String) : String := String.ofList (lastElement [] path.toList)

/-- Adds a package, unless its path is registered already. -/
def register (packages : List Package) (path name : String) : List Package :=
  if packages.any (·.path == path) then packages else packages ++ [⟨path, name⟩]

/-- The alias of a path: the registered one, else the last element of the path. -/
def aliasOf (packages : List Package) (path : String) : String :=
  match packages.find? (·.path == path) with
  | some p => p.name
  | none => defaultAlias path

/-- The line of an import block for a package; the alias is left out when it is the last element of
the path. -/
def Package.importLine (p : Package) : String :=
  if defaultAlias p.path = p.name then "\t\"" ++ p.path ++ "\"\n"
  else "\t" ++ p.name ++ " \"" ++ p.path ++ "\"\n"

/-- Puts a package before the first one with a greater path. -/
def insertByPath (p : Package) : List Package → List Package
  | [] => [p]
  | q :: qs => if p.path ≤ q.path then p :: q :: qs else q :: insertByPath p qs

/-- The packages in the order of their paths. -/
def sortByPath (packages : List Package) : List Package := packages.foldr insertByPath []

/-- The packages of an import block: the standard ones and the others, each sorted by path. -/
def importGroups (packages : List Package) : List Package × List Package :=
  (sortByPath packages).partition fun p => standardPackages.contains p.path

/-- The import block of the given packages; nothing when there are none. -/
def importBlock (packages : List Package) : String :=
  let (standard, others) := importGroups packages
  if standard.isEmpty && others.isEmpty then ""
  else
    let gap := if standard.isEmpty || others.isEmpty then "" else "\n"
    "import (\n" ++ String.join (standard.map Package.importLine) ++ gap
      ++ String.join (others.map Package.importLine) ++ ")\n"

end GoSchema.Go
