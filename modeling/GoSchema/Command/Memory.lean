import GoSchema.Command.Disk
import GoSchema.Command.Path

/-!
# A disk in memory

A disk as a value: directories and files under their places. With it a command is a function, from the
files that are there to those that are there afterwards.

A path is followed name by name, and every name on the way must be that of a directory. A name has at most 255
bytes, and a path fewer than 4096.
-/

namespace GoSchema

/-- A place on a disk: the names on the way down from the top. -/
abbrev Place := List String

/-- The contents of a disk. -/
structure Memory where
  /-- The directory from which paths start. -/
  home : Place
  /-- The directories below the top, in the order in which they were made. -/
  directories : List Place
  /-- The files with their texts. -/
  files : List (Place × String)

/-- What is at a place. -/
inductive Occupant where
  | directory
  | file (text : String)
  deriving DecidableEq

namespace Memory

/-- A disk without files. -/
def empty : Memory := ⟨["tmp", "work"], [["tmp"], ["tmp", "work"]], []⟩

/-- What is at a place. -/
def at? (m : Memory) (place : Place) : Option Occupant :=
  if place.isEmpty || m.directories.contains place then some .directory
  else (m.files.lookup place).map .file

/-! ### Following paths -/

/-- The name leads to the same directory or upwards. -/
def isDots (name : String) : Bool := name = "." || name = ".."

/-- The place to which a name leads from the directory `place`. -/
def next (place : Place) (name : String) : Except Fault Place :=
  if name = "." then .ok place
  else if name = ".." then .ok place.dropLast
  else if 255 < name.utf8ByteSize then .error .nameTooLong
  else .ok (place ++ [name])

/-- Goes along directories from the directory `place`. -/
def walk (m : Memory) (place : Place) : List String → Except Fault Place
  | [] => .ok place
  | name :: names => do
    let place ← next place name
    match m.at? place with
    | some .directory => m.walk place names
    | some (.file _) => .error .notDirectory
    | none => .error .notFound

/-- The directory in which a path ends, and its last name there; a path without names ends at the
top. -/
def locate (m : Memory) (path : String) : Except Fault (Place × String) := do
  if path.toList.contains '\x00' then .error .nulInPath
  if 4096 ≤ path.utf8ByteSize then .error .nameTooLong
  if path.isEmpty then .error .notFound
  let names := Path.names path
  let place ← m.walk (if Path.isAbsolute path then [] else m.home) names.dropLast
  return (place, names.getLast?.getD ".")

/-- What is at the end of a path. A slash at the end asks for a directory. -/
def occupant (m : Memory) (path : String) : Except Fault Occupant := do
  let (place, name) ← m.locate path
  match m.at? (← next place name) with
  | some .directory => .ok .directory
  | some (.file text) => if path.endsWith "/" then .error .notDirectory else .ok (.file text)
  | none => .error .notFound

/-- A directory is at the end of a path. -/
def isDirectory (m : Memory) (path : String) : Bool :=
  match m.occupant path with
  | .ok .directory => true
  | _ => false

/-! ### Operations -/

/-- The text of the file at a path. -/
def read (m : Memory) (path : String) : Except Fault String := do
  match ← m.occupant path with
  | .directory => .error .isDirectory
  | .file text => .ok text

/-- Makes a directory. -/
def makeDir (m : Memory) (path : String) : Except Fault Memory := do
  let (place, name) ← m.locate path
  let target ← next place name
  if isDots name || (m.at? target).isSome then .error .exists
  else .ok { m with directories := m.directories ++ [target] }

/-- Makes the directory at the first of some paths, each of which lies below the next. -/
def makeBelow (m : Memory) : List String → Except Fault Memory
  | [] => .ok m
  | path :: above => do
    let made ←
      match m.makeDir path with
      | .error .notFound => do
        let m ← m.makeBelow above
        pure (m, m.makeDir path)
      | r => pure (m, r)
    match made with
    | (_, .ok m) => .ok m
    | (m, .error e) => if m.isDirectory path then .ok m else .error e

/-- Makes a directory and all those above it that are missing. -/
def makeDirs (m : Memory) (path : String) : Except Fault Memory := m.makeBelow (Path.ancestors path)

/-- Writes a file, replacing one that is there. -/
def write (m : Memory) (path text : String) : Except Fault Memory := do
  let (place, name) ← m.locate path
  let target ← next place name
  if path.endsWith "/" then .error .isDirectory
  match m.at? target with
  | some .directory => .error .isDirectory
  | some (.file _) =>
    .ok { m with files := m.files.map fun f => if f.1 = target then (target, text) else f }
  | none => .ok { m with files := m.files ++ [(target, text)] }

/-- The operations of a disk in memory. -/
def disk : Disk (StateM Memory) where
  read path := do return (← get).read path
  makeDirs path := do
    match (← get).makeDirs path with
    | .ok m => do
      set m
      return .ok ()
    | .error e => return .error e
  write path text := do
    match (← get).write path text with
    | .ok m => do
      set m
      return .ok ()
    | .error e => return .error e

/-! ### From and to files -/

/-- A disk with the given files; the directories they need are made. -/
def ofFiles (files : List (String × String)) : Memory :=
  files.foldl
    (fun m f =>
      let m := (m.makeBelow ((Path.ancestors f.1).drop 1)).toOption.getD m
      (m.write f.1 f.2).toOption.getD m)
    empty

/-- The files that are there below the directory from which paths start, with their paths. -/
def listing (m : Memory) : List (String × String) :=
  m.files.filterMap fun (place, text) =>
    if m.home.isPrefixOf place then some ("/".intercalate (place.drop m.home.length), text) else none

end Memory

end GoSchema
