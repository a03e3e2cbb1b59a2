import GoSchema.Generate.Record

/-!
# Services

A function of a service becomes a record for its arguments, a union for its result unless it does not answer,
and a helper value that puts arguments together and moves between Go results and the result union.
-/

namespace GoSchema

open Go

/-- The identifiers of what a function becomes. -/
structure FunctionNames where
  args : String
  /-- Absent for functions that do not answer. -/
  result : Option String
  helper : String
  deriving DecidableEq

/-- The identifiers of what a function becomes, behind the identifiers of service and function. -/
def FunctionNames.of (service function : String) (oneway : Bool) : FunctionNames :=
  let stem := service ++ "_" ++ function
  ⟨stem ++ "_Args", if oneway then none else some (stem ++ "_Result"), stem ++ "_Helper"⟩

/-- The names given to the functions of a file. A function is found by the position of its service
in the program and its own position in the service. -/
abbrev FunctionTable := List ((Nat × Nat) × FunctionNames)

/-- The names given to a function. -/
def FunctionTable.names (functions : FunctionTable) (service position : Nat) (f : Function) :
    Except GenError FunctionNames :=
  match functions.lookup (service, position) with
  | some names => .ok names
  | none => .error (.internal (.undeclared f.name))

/-- What messages call a service. -/
def Service.entity (s : Service) : String := "service " ++ s.name

/-- What messages call a function of a service. -/
def Service.functionEntity (s : Service) (f : Function) : String := s!"function {s.name}.{f.name}"

/-- The name of the field that holds the value of a result. -/
def successField : String := "success"

/-- The number of the argument at a position: from 1 on. -/
def argumentId (position : Nat) : Int16 := Int16.ofNat position + 1

namespace Function

/-- The fields of the arguments record: numbered in order, all required and without defaults. -/
def argumentFields (f : Function) : List Field :=
  f.arguments.zipIdx.map fun a =>
    { a.1 with id := argumentId a.2, required := true, default := none }

/-- The fields of the result union: the value of the function as field 0, if there is one, and the
exceptions. -/
def resultFields (f : Function) : List Field :=
  match f.reply with
  | none => []
  | some reply =>
    (reply.returns.toList.map fun ty => ⟨0, successField, ty, false, none, .empty⟩)
      ++ reply.exceptions.map fun e => { e with default := none }

/-- The function answers without a value. -/
def isVoid (f : Function) : Bool :=
  match f.reply with
  | none => true
  | some reply => reply.returns.isNone

/-- The arguments record of a function. -/
def argsRecord (f : Function) (ident : String) : Record :=
  ⟨ident, ident, .struct, f.argumentFields, false,
   some ⟨f.name, if f.oneway then .oneWay else .call⟩⟩

/-- The result union of a function. -/
def resultRecord (f : Function) (ident : String) : Record :=
  ⟨ident, ident, .union, f.resultFields, f.isVoid, some ⟨f.name, .reply⟩⟩

end Function

/-- The first member of a result union holds the value of the function. -/
def Member.isSuccess (m : Member) : Bool := m.name = successField && m.id = 0

/-- The members of a result union: the one that holds the value, and the exceptions. -/
def splitResult : List Member → Option Member × List Member
  | [] => (none, [])
  | m :: ms => if m.isSuccess then (some m, ms) else (none, m :: ms)

/-- Names for parameters, one after the other; `names` are those in scope. -/
def parameterNames (names : Name.Namespace) : List String → List String
  | [] => []
  | base :: bases =>
    let (name, names) := names.newName base
    name :: parameterNames names bases

/-- An exception of a function as the helper sees it: the member and its Go type. -/
structure ExceptionCase where
  ident : String
  type : String
  deriving DecidableEq

/-- What the helper of a function is made of: the fields of the helper value and the statements that set
them. -/
structure HelperParts where
  fields : Code
  init : Code
  deriving DecidableEq

/-- The assignment of a function to a field of the helper. -/
def assignFunction (helper field signature : String) (body : Code) : Code :=
  line (s!"{helper}.{field} = func{signature} \x7b") ++ indent body ++ line "\x7d"

/-- The function that puts arguments together. -/
def argsParts (names : FunctionNames) (parameters types inits : List String) : HelperParts :=
  let typeList := ", ".intercalate types
  let parameterList := ", ".intercalate parameters
  ⟨line s!"Args func({typeList}) *{names.args}",
   assignFunction names.helper "Args" s!"({parameterList}) *{names.args}"
     (line (s!"return &{names.args}" ++ braced (", ".intercalate inits)))⟩

/-- The function that recognizes the exceptions of a function. -/
def isExceptionParts (names : FunctionNames) (exceptions : List ExceptionCase) : HelperParts :=
  ⟨line "IsException func(error) bool",
   assignFunction names.helper "IsException" "(err error) bool"
     (switch "err.(type)"
       (exceptions.flatMap (fun e => caseOf s!"case {e.type}" (line "return true"))
         ++ caseOf "default" (line "return false")))⟩

/-- The statements that put an error that is one of the exceptions into a result. -/
def wrapExceptions (result errors : String) (exceptions : List ExceptionCase) : Code :=
  let branch (e : ExceptionCase) : Code :=
    let message := s!"WrapResponse received non-nil error type with nil value for {result}.{e.ident}"
    caseOf s!"case {e.type}"
      (ifThen "e == nil" (line s!"return nil, {errors}.New(\"{message}\")")
        ++ line (s!"return &{result}" ++ braced s!"{e.ident}: e" ++ ", nil"))
  if exceptions.isEmpty then []
  else switch "e := err.(type)" (exceptions.flatMap branch) ++ blank

/-- The statements that take an exception out of a result. -/
def unwrapExceptions (exceptions : List ExceptionCase) : Code :=
  exceptions.flatMap fun e =>
    ifThen s!"result.{e.ident} != nil"
      (line s!"err = result.{e.ident}"
        ++ line "return")

/-- The functions between a Go value or error and the result of a function that gives a value. -/
def valueResponseParts (names : FunctionNames) (result errors type : String) (success : Member)
    (exceptions : List ExceptionCase) : HelperParts :=
  let wrapped := if success.holding = .pointer then "&success" else "success"
  let unwrapped := (if success.holding = .pointer then "*" else "") ++ s!"result.{success.ident}"
  ⟨line s!"WrapResponse func({type}, error) (*{result}, error)"
     ++ line s!"UnwrapResponse func(*{result}) ({type}, error)",
   assignFunction names.helper "WrapResponse" s!"(success {type}, err error) (*{result}, error)"
     (ifThen "err == nil"
       (line (s!"return &{result}" ++ braced s!"{success.ident}: {wrapped}" ++ ", nil"))
       ++ blank
       ++ wrapExceptions result errors exceptions
       ++ line "return nil, err")
     ++ blank
     ++ assignFunction names.helper "UnwrapResponse" s!"(result *{result}) (success {type}, err error)"
       (unwrapExceptions exceptions
         ++ ifThen s!"result.{success.ident} != nil"
           (line s!"success = {unwrapped}"
             ++ line "return")
         ++ blank
         ++ line s!"err = {errors}.New(\"expected a non-void result\")"
         ++ line "return")⟩

/-- The functions between an error and the result of a function without value. -/
def voidResponseParts (names : FunctionNames) (result errors : String)
    (exceptions : List ExceptionCase) : HelperParts :=
  ⟨line s!"WrapResponse func(error) (*{result}, error)"
     ++ line s!"UnwrapResponse func(*{result}) error",
   assignFunction names.helper "WrapResponse" s!"(err error) (*{result}, error)"
     (ifThen "err == nil" (line (s!"return &{result}" ++ braced "" ++ ", nil"))
       ++ blank
       ++ wrapExceptions result errors exceptions
       ++ line "return nil, err")
     ++ blank
     ++ assignFunction names.helper "UnwrapResponse" s!"(result *{result}) (err error)"
       (unwrapExceptions exceptions ++ line "return")⟩

/-- The helper value of a function and the statements that fill it. -/
def helperCode (names : FunctionNames) (function : String) (parts : List HelperParts) : Code :=
  lines
    [s!"// {names.helper} provides functions that aid in handling the",
     s!"// parameters and return values of the {function} function."]
    ++ line s!"var {names.helper} = struct \x7b"
    ++ indent (parts.flatMap HelperParts.fields)
    ++ line "\x7d\x7b\x7d"
    ++ blank
    ++ func "init()" ((parts.map HelperParts.init).intersperse blank).flatten

/-- The part of the helper that puts arguments together. -/
def argsHelper (names : FunctionNames) (members : List Member) : Emit HelperParts := do
  let scope := (← get).names.enter
  let parameters := parameterNames scope (members.map fun m => Name.unexported m.name)
  usePaths (members.flatMap fun m => m.goType.paths)
  let types := members.map fun m => m.goType.text
  return argsParts names
    (parameters.zipWith (fun p t => p ++ " " ++ t) types)
    types
    (members.zipWith (fun m p => m.ident ++ ": " ++ p) parameters)

namespace Env

/-- The identifiers of what a function of a service of this file becomes. -/
def functionNames (env : Env) (s : Service) (f : Function) : Except GenError FunctionNames := do
  let service ← identifier s.name s.annotations (env.site s.entity)
  let function ← identifier f.name f.annotations (env.site (s.functionEntity f))
  return .of service function f.oneway

/-- The parts of the helper that deal with results. -/
def resultHelper (env : Env) (names : FunctionNames) (result : String) (members : List Member) :
    Emit (List HelperParts) := do
  let (success, thrown) := splitResult members
  let exceptions ← thrown.mapM fun m => return ExceptionCase.mk m.ident (← env.typeText m.type)
  let errors ←
    if success.isSome || !exceptions.isEmpty then env.package "errors" else pure ""
  let response ←
    match success with
    | some m => do
      let type ← env.typeText m.type
      pure (valueResponseParts names result errors type m exceptions)
    | none => pure (voidResponseParts names result errors exceptions)
  return [isExceptionParts names exceptions, response]

/-- The code of a function that was given names. -/
def functionCode (env : Env) (names : FunctionNames) (f : Function) : Emit Code := do
  let args := f.argsRecord names.args
  let argMembers ← env.layout args
  let argsCode ← env.recordCode args argMembers
  match names.result with
  | none =>
    let parts ← argsHelper names argMembers
    return argsCode ++ helperCode names f.name [parts]
  | some ident =>
    let result := f.resultRecord ident
    let resultMembers ← env.layout result
    let resultCode ← env.recordCode result resultMembers
    let parts ← argsHelper names argMembers
    let more ← env.resultHelper names ident resultMembers
    return argsCode ++ resultCode ++ helperCode names f.name (parts :: more)

/-- The names of the functions of a service, which stands at a position in the program. -/
def serviceTable (env : Env) (s : Service × Nat) : Except GenError FunctionTable :=
  s.1.functions.zipIdx.mapM fun f => return ((s.2, f.2), ← env.functionNames s.1 f.1)

/-- The code of a service, which stands at a position in the program. -/
def serviceCode (env : Env) (functions : FunctionTable) (s : Service × Nat) : Emit Code := do
  let codes ← s.1.functions.zipIdx.mapM fun f => do
    env.functionCode (← functions.names s.2 f.2 f.1) f.1
  return codes.flatten

end Env

end GoSchema
