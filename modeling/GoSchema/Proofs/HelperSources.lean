import GoSchema.Generate.Equality
import GoSchema.Generate.Holding
import GoSchema.Generate.Logging
import GoSchema.Generate.Wire

/-!
# What a helper is made of

Each emitter that asks for a helper hands over what builds it. All of them agree: role and type of a request say
what builds the helper, whoever asks for it and wherever. `Env.helperSource` is the table.

A helper of a container is written down with the emitters that its parts are given there, one step of the recursion
at a time. The equations of this module (`Env.valueListCode_list` and its like) say what that comes to: the element
of a list is encoded by `Env.encode`, read by `Env.decode`, compared by `Env.equals` and logged by `Env.logValue`,
which are the emitters that every other caller uses. Nothing is said here about what the emitters print.
-/

namespace GoSchema

open Go

/-- A list, a set or a map. -/
def Ty.isContainer : Ty → Bool
  | .list _ | .set _ _ | .map _ _ => true
  | .base _ | .enum _ | .struct _ | .typedef _ => false

namespace Env

/-- What builds the helper that reads a value. -/
def readerSource (env : Env) : Ty → String → Emit Code
  | .enum r => env.namedReaderCode (.enum r)
  | .struct r => env.namedReaderCode (.struct r)
  | .typedef r => env.namedReaderCode (.typedef r)
  | .base b => env.containerReaderCode (.base b)
  | .list e => env.containerReaderCode (.list e)
  | .set e a => env.containerReaderCode (.set e a)
  | .map k v => env.containerReaderCode (.map k v)

/-- What builds the helper that logs an entry of a map. -/
def itemZapperSource (env : Env) : Ty → String → Emit Code
  | .map k v => env.itemZapperCode k v (env.logValue k) (env.logValue v)
  | _ => fun _ => throw .dangling

/-- What builds the helper of a role for a type, given the name of the helper. -/
def helperSource (env : Env) : Role → Ty → String → Emit Code
  | .valueList => env.valueListCode
  | .mapItemList => env.mapItemListCode
  | .read => env.readerSource
  | .equals => env.containerComparator
  | .equalsPtr => env.ptrComparator
  | .zapper => env.zapperCode
  | .itemZapper => env.itemZapperSource
  | .ptr => env.ptrCode

variable {env : Env} {element key value : Ty} {annotations : Annotations} {name : String}

/-! ### The helpers of containers

Each follows from the definitions: a helper of a container is made with the emitters of its parts. -/

theorem valueListCode_list : env.valueListCode (.list element) name =
    env.sequenceAdapter (.list element) element false "list" (env.encode element "x") name := rfl

theorem valueListCode_set : env.valueListCode (.set element annotations) name =
    env.setAdapter element annotations (env.encode element "x") name := rfl

theorem mapItemListCode_map : env.mapItemListCode (.map key value) name =
    env.mapAdapter key value (env.encode key "k") (env.encode value "v") name := rfl

theorem containerReaderCode_list : env.containerReaderCode (.list element) name =
    env.sequenceReader (.list element) element false "list" "l" (env.decode element "x") name := rfl

theorem containerReaderCode_set : env.containerReaderCode (.set element annotations) name =
    env.setReader element annotations (env.decode element "x") name := rfl

theorem containerReaderCode_map : env.containerReaderCode (.map key value) name =
    env.mapReader key value (env.decode key "x.Key") (env.decode value "x.Value") name := rfl

theorem containerComparator_list : env.containerComparator (.list element) name = (do
    let type ← env.typeText (.list element)
    listComparator type (env.equals element "lv" "rv") name) := rfl

theorem containerComparator_set : env.containerComparator (.set element annotations) name = (do
    let type ← env.typeText (.set element annotations)
    env.setComparator type element annotations (env.equals element "x" "y") name) := rfl

theorem containerComparator_map : env.containerComparator (.map key value) name = (do
    let type ← env.typeText (.map key value)
    env.mapComparator type key (env.equals key "lk" "rk") (env.equals value "lv" "rv") name) := rfl

theorem zapperCode_list : env.zapperCode (.list element) name = (do
    let type ← env.typeText (.list element)
    let zapcore ← env.zapcore
    env.sequenceZapper type zapcore (pure false) (env.logValue element "v") name) := rfl

theorem zapperCode_set : env.zapperCode (.set element annotations) name = (do
    let type ← env.typeText (.set element annotations)
    let zapcore ← env.zapcore
    env.sequenceZapper type zapcore (env.isKeyedSet element annotations) (env.logValue element "v") name) := rfl

theorem zapperCode_map : env.zapperCode (.map key value) name = (do
    let type ← env.typeText (.map key value)
    let zapcore ← env.zapcore
    let shape ← present (env.program.logShape? (.map key value))
    env.mapZapper type zapcore key value shape (env.logValue key) (env.logValue value) name) := rfl

end Env

end GoSchema
