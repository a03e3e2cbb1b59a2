/-!
# Command lines

A command line names a command and its options. An option with a value takes it from the same argument
or from the next one; several options of one letter may stand in one argument. Arguments are read from left
to right, and the first one that asks for help or cannot be understood decides.
-/

namespace GoSchema.Command

/-- The options of the commands. -/
inductive Flag where
  | input
  | output
  | file
  | config
  | noZap
  | verbose
  | help
  deriving DecidableEq

namespace Flag

/-- The letter of an option. -/
def letter? : Flag → Option Char
  | .input => some 'i'
  | .output => some 'o'
  | .file => some 'f'
  | .config => some 'c'
  | .noZap => none
  | .verbose => some 'v'
  | .help => some 'h'

/-- The name of an option. -/
def name : Flag → String
  | .input => "input"
  | .output => "output"
  | .file => "file"
  | .config => "config"
  | .noZap => "no-zap"
  | .verbose => "verbose"
  | .help => "help"

/-- The option has a value. -/
def takesValue : Flag → Bool
  | .input | .output | .file | .config => true
  | .noZap | .verbose | .help => false

/-- The value of the option is a path, which is not empty. -/
def isPath : Flag → Bool
  | .input | .output | .config => true
  | .file | .noZap | .verbose | .help => false

/-- The option may be given several times. -/
def repeats : Flag → Bool
  | .file => true
  | .input | .output | .config | .noZap | .verbose | .help => false

end Flag

/-- An option that was given; those without a value have an empty one. -/
structure Setting where
  flag : Flag
  value : String
  deriving DecidableEq

/-- Why a command line does not lead to a command. -/
inductive Stop where
  /-- It asks for help. -/
  | help
  /-- It asks for the version. -/
  | version
  /-- It cannot be understood. -/
  | misuse
  deriving DecidableEq

/-- The options of the command that generates. -/
def codegenFlags : List Flag := [.input, .output, .file, .config, .noZap, .verbose, .help]

/-- The options of the command that checks. -/
def checkFlags : List Flag := [.input, .config, .verbose, .help]

/-- Takes an option into account. -/
def grant (given : List Setting) (flag : Flag) (value : String) : Except Stop (List Setting) :=
  if flag = .help then .error .help
  else if !flag.repeats && given.any (·.flag == flag) then .error .misuse
  else if flag.isPath && value.isEmpty then .error .misuse
  else .ok (given ++ [⟨flag, value⟩])

/-- The options so far, and the one that waits for its value. -/
abbrev Progress := List Setting × Option Flag

/-- Reads the letters of an argument. -/
def readLetters (flags : List Flag) (given : List Setting) : List Char → Except Stop Progress
  | [] => .ok (given, none)
  | c :: cs =>
    match flags.find? (·.letter? == some c) with
    | none => .error .misuse
    | some flag =>
      if flag.takesValue then
        match cs with
        | [] => .ok (given, some flag)
        | '=' :: cs => return (← grant given flag (String.ofList cs), none)
        | cs => return (← grant given flag (String.ofList cs), none)
      else do readLetters flags (← grant given flag "") cs

/-- Reads an option that is given by its name, with its value if that is in the same argument. -/
def readName (flags : List Flag) (given : List Setting) (cs : List Char) : Except Stop Progress :=
  let name := String.ofList (cs.takeWhile (· ≠ '='))
  match flags.find? (·.name == name), cs.dropWhile (· ≠ '=') with
  | none, _ => .error .misuse
  | some flag, [] =>
    if flag.takesValue then .ok (given, some flag) else return (← grant given flag "", none)
  | some flag, _ :: value =>
    if flag.takesValue then return (← grant given flag (String.ofList value), none)
    else .error .misuse

/-- The argument looks like an option and is no value. -/
def isOption (arg : String) : Bool := arg.startsWith "-" && arg ≠ "-"

/-- Reads the options of a command; `waiting` is the one whose value comes next. -/
def readOptions (flags : List Flag) (given : List Setting) :
    (waiting : Option Flag) → List String → Except Stop (List Setting)
  | none, [] => .ok given
  | some _, [] => .error .misuse
  | some flag, arg :: args =>
    if isOption arg then .error .misuse
    else do readOptions flags (← grant given flag arg) none args
  | none, arg :: args =>
    match arg.toList with
    | '-' :: '-' :: [] => if args.isEmpty then .ok given else .error .misuse
    | '-' :: '-' :: cs => do
      let (given, waiting) ← readName flags given cs
      readOptions flags given waiting args
    | '-' :: c :: cs => do
      let (given, waiting) ← readLetters flags given (c :: cs)
      readOptions flags given waiting args
    | _ => .error .misuse

/-- What the command that generates is asked to do. -/
structure CodegenArgs where
  input : String
  output : String
  files : List String
  config : Option String
  noZap : Bool
  verbose : Bool
  deriving DecidableEq

/-- What the command that checks is asked to do. -/
structure CheckArgs where
  input : String
  config : Option String
  verbose : Bool
  deriving DecidableEq

/-- A command. -/
inductive Request where
  | codegen (args : CodegenArgs)
  | check (args : CheckArgs)
  deriving DecidableEq

/-- The value of an option. -/
def valueOf? (given : List Setting) (flag : Flag) : Option String :=
  (given.find? (·.flag == flag)).map Setting.value

/-- All values of an option. -/
def valuesOf (given : List Setting) (flag : Flag) : List String :=
  (given.filter (·.flag == flag)).map Setting.value

/-- Where generated packages go when nothing else is said. -/
def defaultOutput : String := "generated"

/-- The command that generates. -/
def codegenRequest (args : List String) : Except Stop Request := do
  let given ← readOptions codegenFlags [] none args
  match valueOf? given .input with
  | none => throw .misuse
  | some input =>
    return .codegen
      { input := input
        output := (valueOf? given .output).getD defaultOutput
        files := valuesOf given .file
        config := valueOf? given .config
        noZap := (valueOf? given .noZap).isSome
        verbose := (valueOf? given .verbose).isSome }

/-- The command that checks. -/
def checkRequest (args : List String) : Except Stop Request := do
  let given ← readOptions checkFlags [] none args
  match valueOf? given .input with
  | none => throw .misuse
  | some input =>
    return .check
      { input := input
        config := valueOf? given .config
        verbose := (valueOf? given .verbose).isSome }

/-- The commands that help can be asked for. -/
def commandNames : List String := ["codegen", "check", "help"]

/-- What follows the word `help`: at most the name of one command. -/
def asksForHelp : List String → Bool
  | [] => true
  | [name] => commandNames.contains name
  | _ => false

/-- Reads a command line. -/
def parse : List String → Except Stop Request
  | [] => .error .misuse
  | arg :: args =>
    if arg = "codegen" then codegenRequest args
    else if arg = "check" then checkRequest args
    else if arg = "help" then .error (if asksForHelp args then .help else .misuse)
    else if arg = "--help" then .error .help
    else if arg = "--version" then .error .version
    else
      match arg.toList with
      | '-' :: 'h' :: _ => .error .help
      | '-' :: 'V' :: _ => .error .version
      | _ => .error .misuse

end GoSchema.Command
