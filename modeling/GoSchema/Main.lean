import GoSchema.Command.Run

/-!
# The program

The command line on a real disk.
-/

namespace GoSchema.Main

open Command

/-- The fault of a failed operation. -/
def faultOf : IO.Error → Fault
  | .noFileOrDirectory .. => .notFound
  | .alreadyExists .. => .exists
  | .inappropriateType _ code details =>
    if code = 20 then .notDirectory else if code = 21 then .isDirectory else .other details
  | e => .other (toString e)

/-- Catches the failure of an operation. -/
def caught {α : Type} (action : IO α) : IO (Except Fault α) := do
  try
    return .ok (← action)
  catch e => return .error (faultOf e)

/-- The disk of the machine. -/
def disk : Disk IO where
  read path := caught (IO.FS.readFile path)
  makeDirs path := caught (IO.FS.createDirAll path)
  write path text := caught (IO.FS.writeFile path text)

end GoSchema.Main

/-- Runs the command line. -/
def main (args : List String) : IO UInt32 := do
  let outcome ← GoSchema.Command.run GoSchema.Main.disk args
  IO.print outcome.stdout
  IO.eprint outcome.stderr
  return outcome.exit.toUInt32
