/-!
# Paths

A path is a text whose parts are separated by slashes.
-/

namespace GoSchema.Path

/-- The parts of a text between slashes. -/
def parts : List Char → List (List Char)
  | [] => [[]]
  | c :: cs =>
    if c = '/' then [] :: parts cs
    else
      match parts cs with
      | [] => [[c]]
      | p :: ps => (c :: p) :: ps

/-- The names along a path. -/
def names (path : String) : List String :=
  ((parts path.toList).map String.ofList).filter fun p => p ≠ ""

/-- The path starts at the top of the disk. -/
def isAbsolute (path : String) : Bool := path.startsWith "/"

/-- The components of a path: single dots do not count, except at the beginning. -/
def components (path : String) : List String :=
  match names path with
  | [] => []
  | p :: ps => if p = "." && isAbsolute path then ps.filter (· ≠ ".") else p :: ps.filter (· ≠ ".")

/-- The path of components. -/
def ofComponents (absolute : Bool) (components : List String) : String :=
  (if absolute then "/" else "") ++ "/".intercalate components

/-- The path itself and those of the directories above it, from the inside out. -/
def ancestors (path : String) : List String :=
  let components := components path
  let above := (List.range components.length).reverse.map fun n =>
    ofComponents (isAbsolute path) (components.take n)
  (path :: above).filter (· ≠ "")

/-- The path of `other` seen from the directory `path`. -/
def join (path other : String) : String :=
  if isAbsolute other then other
  else if path.isEmpty || path.endsWith "/" then path ++ other
  else path ++ "/" ++ other

/-- The last component of a path, unless it leads nowhere or upwards. -/
def fileName? (path : String) : Option String :=
  (components path).getLast?.filter fun p => p ≠ ".." && p ≠ "."

/-- What follows the last dot of the last component; a dot at its beginning does not count. -/
def extension? (path : String) : Option String := do
  let name := (← fileName? path).toList.reverse
  let ending := name.takeWhile (· ≠ '.')
  match name.dropWhile (· ≠ '.') with
  | [] | [_] => none
  | _ => some (String.ofList ending.reverse)

end GoSchema.Path
