import GoSchema.Generate.Env
import GoSchema.Go.Code

/-!
# Runs

While the code of a file is put together, four things accumulate: the symbols given to types, the
packages that are used, the helpers that were asked for, and the helpers that are finished. A helper
is built at the first request for its symbol and stands for all later ones. A helper may ask for
others, which are then finished before it.
-/

namespace GoSchema

/-- What a helper does for its type. -/
inductive Role where
  /-- Adapts a list or set to the wire format. -/
  | valueList
  /-- Adapts a map to the wire format. -/
  | mapItemList
  /-- Reads a value from the wire format. -/
  | read
  /-- Compares two containers. -/
  | equals
  /-- Compares two values held by pointer. -/
  | equalsPtr
  /-- Logs a container. -/
  | zapper
  /-- Logs one entry of a map. -/
  | itemZapper
  /-- Gives a pointer to a value. -/
  | ptr
  deriving DecidableEq

/-- The end of the symbol of a helper. -/
def Role.suffix : Role → String
  | .valueList => "ValueList"
  | .mapItemList => "MapItemList"
  | .read => "Read"
  | .equals => "Equals"
  | .equalsPtr => "EqualsPtr"
  | .zapper => "Zapper"
  | .itemZapper => "Item_Zapper"
  | .ptr => "ptr"

/-- A request for a helper. -/
structure Request where
  role : Role
  type : Ty
  symbol : String
  deriving DecidableEq

/-- A finished helper. -/
structure Helper where
  symbol : String
  code : Go.Code
  deriving DecidableEq

/-- What has accumulated in a run. -/
structure Run where
  /-- The names of the package. -/
  names : Name.Namespace
  /-- The symbols given to declarations. -/
  symbols : Symbols
  /-- The import paths used. -/
  used : List String
  /-- The requests for helpers, in order. -/
  requests : List Request
  /-- The finished helpers, in order. -/
  helpers : List Helper
  deriving DecidableEq

/-- A part of a run: it adds to what has accumulated, or stops the run. -/
abbrev Emit := StateT Run (Except GenError)

/-- Adds an import path to those used. -/
def Run.usePath (r : Run) (path : String) : Run :=
  if path ∈ r.used then r else { r with used := r.used ++ [path] }

/-- Notes that the code uses import paths. -/
def usePaths (paths : List String) : Emit Unit :=
  modify fun r => paths.foldl Run.usePath r

/-- The text of a reference, whose package is used. -/
def refer (ref : Go.Reference) : Emit String := do
  usePaths ref.paths
  return ref.text

namespace Env

/-- The alias of a package, which is used. -/
def package (env : Env) (path : String) : Emit String := do
  usePaths [path]
  return env.aliasOf path

/-- The alias of the wire package. -/
def wire (env : Env) : Emit String := env.package env.options.wireImport

/-- The alias of the package of log encoders. -/
def zapcore (env : Env) : Emit String := env.package env.options.zapcoreImport

/-- The alias of the package that joins errors. -/
def multierr (env : Env) : Emit String := env.package env.options.multierrImport

/-- The Go type of a schema type, whose packages are used. -/
def typeRef (env : Env) (ty : Ty) : Emit Go.GoType := do
  let t ← env.goType ty
  usePaths t.paths
  return t

/-- The text of the Go type of a schema type. -/
def typeText (env : Env) (ty : Ty) : Emit String := return (← env.typeRef ty).text

/-- The symbol of a type. -/
def symbolOf (env : Env) (ty : Ty) : Emit String := do
  let run ← get
  match Symbols.mangle env.program ty run.symbols with
  | (some m, symbols) =>
    set { run with symbols }
    return m
  | (none, _) => throw .dangling

/-- Records a request, and builds the helper if it is the first for its symbol. -/
def fulfil (request : Request) (build : Emit Go.Code) : Emit Unit := do
  let run ← get
  let known := run.requests.any (·.symbol == request.symbol)
  let requests := run.requests ++ [request]
  if known then set { run with requests }
  else
    match run.names.reserve request.symbol with
    | .error error => throw (.internal (.helperRefused request.symbol error))
    | .ok names =>
      set { run with names, requests }
      let code ← build
      modify fun r => { r with helpers := r.helpers ++ [⟨request.symbol, code⟩] }

/-- Asks for a helper of a type and gives its symbol. -/
def request (env : Env) (role : Role) (ty : Ty) (build : String → Emit Go.Code) : Emit String := do
  let m ← env.symbolOf ty
  let symbol := "_" ++ m ++ "_" ++ role.suffix
  fulfil ⟨role, ty, symbol⟩ (build symbol)
  return symbol

end Env

end GoSchema
