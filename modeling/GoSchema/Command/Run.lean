import GoSchema.Command.Arguments
import GoSchema.Command.Disk
import GoSchema.Command.Path
import GoSchema.Generate.Settings
import GoSchema.Generate.Source
import GoSchema.Schema.Loading

/-!
# Commands

`codegen` reads a program, generates its files and writes each one below its import path. `check` does the
same without writing. The first failure ends a command; what was printed and written before stays.
-/

namespace GoSchema.Command

/-- Why a command fails. -/
inductive Failure where
  /-- The program cannot be read from the disk. -/
  | readGraph (path : String) (fault : Fault)
  /-- The text of the program cannot be loaded. -/
  | loadGraph (path : String) (error : LoadError)
  /-- The option file cannot be read from the disk. -/
  | readOptions (path : String) (fault : Fault)
  /-- The option file holds no options. -/
  | loadOptions (path : String) (error : ReadError)
  /-- A file that is asked for is not in the program. -/
  | unknownFile (name : String)
  /-- A file cannot be generated. -/
  | generation (path : String) (error : GenError)
  /-- A directory cannot be made. -/
  | makeDirs (path : String) (fault : Fault)
  /-- A file cannot be written. -/
  | write (path : String) (fault : Fault)

namespace Failure

/-- What was being done. -/
def context : Failure → String
  | .readGraph path _ => "Failed to read type graph " ++ path
  | .loadGraph path _ => "Invalid type graph " ++ path
  | .readOptions path _ => "Failed to read options " ++ path
  | .loadOptions path _ => "Invalid options " ++ path
  | .unknownFile name => s!"Schema file \x27{name}\x27 is not part of the type graph"
  | .generation path _ => "Code generation failed for " ++ path
  | .makeDirs path _ => "Failed to create " ++ path
  | .write path _ => "Failed to write " ++ path

/-- What went wrong. -/
def cause? : Failure → Option String
  | .readGraph _ fault | .readOptions _ fault | .makeDirs _ fault | .write _ fault =>
    some fault.message
  | .loadGraph _ error => some error.message
  | .generation _ error => some error.message
  | .loadOptions .. | .unknownFile _ => none

/-- The account is complete; otherwise it stops where the reason would follow why a text cannot be
read. -/
def isComplete : Failure → Bool
  | .loadGraph _ (.unreadable _) | .loadOptions .. => false
  | _ => true

/-- The exit code. A scalar for which there is no room ends the program in another way than all else. -/
def exit : Failure → UInt8
  | .loadGraph _ (.unreadable .overflow) | .loadOptions _ .overflow => 101
  | _ => 1

/-- A text whose lines are moved four places to the right. -/
def indented (text : String) : String :=
  "    " ++ String.ofList (text.toList.flatMap fun c => if c = '\n' then "\n    ".toList else [c])

/-- The account of a failure. -/
def text (f : Failure) : String :=
  "Error: " ++ f.context
    ++ (match f.cause? with
      | some cause => "\n\nCaused by:\n" ++ indented cause
      | none => "")
    ++ (if f.isComplete then "\n" else "")

end Failure

/-- A command in progress: it prints, uses a disk, and may fail. -/
abbrev Session (m : Type → Type) := ExceptT Failure (StateT String m)

variable {m : Type → Type} [Monad m]

/-- Prints a line. -/
def print (line : String) : Session m Unit := modify fun printed => printed ++ line ++ "\n"

/-- Does something with the disk, which may fail. -/
def attempt {α : Type} (action : m (Except Fault α)) (failure : Fault → Failure) : Session m α := do
  match ← (action : StateT String m (Except Fault α)) with
  | .ok a => return a
  | .error fault => throw (failure fault)

/-- A result, or the failure that there is instead. -/
def orFail {α : Type} (r : Except Failure α) : Session m α :=
  match r with
  | .ok a => return a
  | .error e => throw e

/-- The notation of a program, by the name of its file. -/
def formatOf (path : String) : Format := if Path.extension? path = some "json" then .json else .yaml

/-- Loads the program at a path. -/
def loadProgram (disk : Disk m) (path : String) : Session m Program := do
  let text ← attempt (disk.read path) (.readGraph path)
  match Program.load (formatOf path) text with
  | .ok p => return p
  | .error e => throw (.loadGraph path e)

/-- The generation options: those of the option file, changed by the command line. -/
def loadOptions (disk : Disk m) (config : Option String) (noZap : Bool) : Session m Options := do
  let options ←
    match config with
    | none => pure Options.default
    | some path => do
      let text ← attempt (disk.read path) (.readOptions path)
      match Options.ofText text with
      | .ok o => pure o
      | .error e => throw (.loadOptions path e)
  return if noZap then { options with noZap := true } else options

/-- The files with these names, or all files when there are none. -/
def selectFiles (p : Program) (names : List String) : Except Failure (List (Ref .file)) :=
  if names.isEmpty then .ok p.fileRefs
  else
    names.mapM fun name =>
      match p.findFile? name with
      | some r => .ok r
      | none => .error (.unknownFile name)

/-- Generates files of a program. -/
def generateFiles (p : Program) (files : List (Ref .file)) (options : Options) :
    Except Failure (List Source) :=
  files.mapM fun r =>
    match p.generate r options with
    | .ok s => .ok s
    | .error e => .error (.generation (p.pathOf r) e)

/-- Where a generated file goes: below its import path. -/
def targetDir (output : String) (s : Source) : String := Path.join output s.importPath

/-- Writes a generated file and gives its path. -/
def writeSource (disk : Disk m) (output : String) (s : Source) : Session m String := do
  let dir := targetDir output s
  attempt (disk.makeDirs dir) (.makeDirs dir)
  let path := Path.join dir s.fileName
  attempt (disk.write path s.contents) (.write path)
  return path

/-- Generates Go packages. -/
def codegen (disk : Disk m) (a : CodegenArgs) : Session m Unit := do
  if a.verbose then
    print "[~] Configuration:"
    print s!"  Input graph: {a.input}"
    print s!"  Output directory: {a.output}"
    for config in a.config.toList do
      print s!"  Options file: {config}"
    print ""
  let program ← loadProgram disk a.input
  let options ← loadOptions disk a.config a.noZap
  let targets ← orFail (selectFiles program a.files)
  if a.verbose then print s!"[*] Generating {targets.length} file(s)..."
  let sources ← orFail (generateFiles program targets options)
  let written ← sources.mapM (writeSource disk a.output)
  print s!"[✓] Generated {written.length} Go file(s):"
  for path in written do
    print s!"    - {path}"

/-- Checks that Go packages can be generated. -/
def check (disk : Disk m) (a : CheckArgs) : Session m Unit := do
  let program ← loadProgram disk a.input
  let options ← loadOptions disk a.config false
  let sources ← orFail (generateFiles program program.fileRefs options)
  if a.verbose then
    for s in sources do
      print s!"    - {s.importPath} ({s.contents.utf8ByteSize} bytes)"
  print s!"[✓] {sources.length} schema file(s) generate cleanly"

/-- What a command leaves behind for its caller. -/
structure Outcome where
  exit : UInt8
  stdout : String
  stderr : String
  deriving DecidableEq

/-- The name and version of the program. -/
def versionText : String := "idlc 0.1.0"

/-- How the program is used. -/
def usage : String :=
  "\n".intercalate
    ["Go code generator for resolved IDL type graphs",
     "",
     "Usage: idlc codegen -i GRAPH [-o DIR] [-f SCHEMA]... [-c FILE] [--no-zap] [-v]",
     "       idlc check -i GRAPH [-c FILE] [-v]",
     "       idlc --version",
     ""]

/-- Runs a command. -/
def execute (disk : Disk m) (request : Request) : m Outcome := do
  let session : Session m Unit :=
    match request with
    | .codegen a => codegen disk a
    | .check a => check disk a
  match ← session.run.run "" with
  | (.ok (), printed) => return ⟨0, printed, ""⟩
  | (.error failure, printed) => return ⟨failure.exit, printed, failure.text⟩

/-- Runs a command line. -/
def run (disk : Disk m) (args : List String) : m Outcome :=
  match parse args with
  | .ok request => execute disk request
  | .error .help => return ⟨0, usage, ""⟩
  | .error .version => return ⟨0, versionText ++ "\n", ""⟩
  | .error .misuse => return ⟨2, "", usage⟩

end GoSchema.Command
