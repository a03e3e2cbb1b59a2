/-!
# Disks

A command reads a few files, makes directories and writes files. A disk gives these three operations; it
may be a real one or one in memory.
-/

namespace GoSchema

/-- Why an operation on a disk fails. -/
inductive Fault where
  | notFound
  | exists
  | notDirectory
  | isDirectory
  | nameTooLong
  /-- The path holds a character that no path may hold. -/
  | nulInPath
  /-- Anything else, with its text. -/
  | other (text : String)
  deriving DecidableEq

/-- The text of a fault. -/
def Fault.message : Fault → String
  | .notFound => "No such file or directory (os error 2)"
  | .exists => "File exists (os error 17)"
  | .notDirectory => "Not a directory (os error 20)"
  | .isDirectory => "Is a directory (os error 21)"
  | .nameTooLong => "File name too long (os error 36)"
  | .nulInPath => "file name contained an unexpected NUL byte"
  | .other text => text

/-- The operations of a disk. -/
structure Disk (m : Type → Type) where
  /-- The text of the file at a path. -/
  read : String → m (Except Fault String)
  /-- Makes a directory and all those above it that are missing. -/
  makeDirs : String → m (Except Fault Unit)
  /-- Writes a file, replacing one that is there. -/
  write : String → String → m (Except Fault Unit)

end GoSchema
