import GoSchema.Generate.Literal

/-!
# Members of structs

A record is anything that becomes a Go struct: a struct, union or exception of the schema, or the arguments or
the result of a function. Its fields are laid out once, and all methods read from that layout, so that they
agree on names and types. The names of fields, methods and accessors of a record are claimed together.
-/

namespace GoSchema

open Go

/-- The envelopes in which arguments and results travel. -/
inductive EnvelopeKind where
  | call
  | oneWay
  | reply
  deriving DecidableEq

/-- The name of an envelope kind in the wire package. -/
def EnvelopeKind.constant : EnvelopeKind → String
  | .call => "Call"
  | .oneWay => "OneWay"
  | .reply => "Reply"

/-- The envelope of a record that a function sends. -/
structure Envelope where
  /-- The name of the function in the schema. -/
  method : String
  kind : EnvelopeKind
  deriving DecidableEq

/-- What becomes a Go struct. -/
structure Record where
  ident : String
  /-- The name in the schema. -/
  name : String
  kind : StructKind
  fields : List Field
  /-- Of unions only: no field need be set. -/
  allowEmpty : Bool
  envelope : Option Envelope

/-- At most one field of the record is set. -/
def Record.isUnion (r : Record) : Bool := r.kind = .union

/-- A field of a record, laid out. -/
structure Member where
  id : Int16
  /-- The name in the schema. -/
  name : String
  ident : String
  label : String
  type : Ty
  holding : Holding
  /-- Required, outside a union. -/
  required : Bool
  /-- The default; fields of unions have none. -/
  default : Option Value
  /-- What messages call the field. -/
  entity : String
  /-- The Go type of the field. -/
  goType : GoType
  tag : String
  /-- Kept out of the logs. -/
  noLog : Bool
  /-- The local variable that remembers that a required field was met. -/
  flag : Option String

namespace Member

/-- The name of the method that gives the value. -/
def getter (m : Member) : String := "Get" ++ m.ident

/-- The name of the method that tells whether there is a value. -/
def isSet (m : Member) : String := "IsSet" ++ m.ident

/-- The value of a field that is known to be there. -/
def valueOf (m : Member) (receiver : String) : String :=
  match m.holding with
  | .pointer => s!"(*{receiver}.{m.ident})"
  | .value | .nilable => s!"{receiver}.{m.ident}"

/-- The field may be absent, so that its value is used only behind a check. -/
def guarded (m : Member) : Bool :=
  match m.holding with
  | .pointer => true
  | .nilable => !m.required
  | .value => false

/-- The default that an absent field is set to. -/
def filling (m : Member) : Option Value := if m.holding = .value then none else m.default

end Member

/-- The methods of a record besides the accessors. -/
def Record.methods (r : Record) (noZap : Bool) : List String :=
  ["ToWire", "FromWire", "String", "Equals"]
    ++ (if noZap then [] else ["MarshalLogObject"])
    ++ (if r.kind = .exception then ["Error", "ErrorName"] else [])
    ++ (if r.envelope.isSome then ["MethodName", "EnvelopeType"] else [])

namespace Env

/-- What is left to lay out of a field once its identifier is claimed. -/
def memberOf (env : Env) (r : Record) (field : Field) (ident : String) : Except GenError Member := do
  let entity := fieldEntity field.name r.name
  let required := field.required && !r.isUnion
  let label := label field.name field.annotations
  let tag ← structTag label required field.annotations (env.site entity)
  let holding ← env.holding field.type required
  let valueType ← env.goType field.type
  return {
    id := field.id
    name := field.name
    ident := ident
    label := label
    type := field.type
    holding := holding
    required := required
    default := if r.isUnion then none else field.default
    entity := entity
    goType := holding.fieldType valueType
    tag := tag
    noLog := noLog field.annotations
    flag := none }

/-- Lays out fields one after the other, each claiming its identifier. -/
def membersFrom (env : Env) (r : Record) (claims : Claims) :
    List Field → Except GenError (List Member × Claims)
  | [] => .ok ([], claims)
  | field :: fields => do
    let site := env.site (fieldEntity field.name r.name)
    checkSets site field.type
    let ident ← identifier field.name field.annotations site
    let claims ← claims.claim ⟨ident, site⟩
    let member ← env.memberOf r field ident
    let (members, claims) ← env.membersFrom r claims fields
    return (member :: members, claims)

/-- The claims of the methods of a record. -/
def methodClaims (env : Env) (r : Record) : List Claim :=
  (r.methods env.options.noZap).map fun m => ⟨m, env.site s!"method {m} of {r.name}"⟩

/-- The claims of the accessors of a member. -/
def accessorClaims (env : Env) (m : Member) : List Claim :=
  [⟨m.getter, env.site ("getter of " ++ m.entity)⟩,
   ⟨m.isSet, env.site ("presence check of " ++ m.entity)⟩]

/-- The members of a record, whose names are all different. -/
def members (env : Env) (r : Record) : Except GenError (List Member) := do
  let (members, claims) ← env.membersFrom r .empty r.fields
  let claims ← claims.claimAll (env.methodClaims r)
  let _ ← claims.claimAll (members.flatMap env.accessorClaims)
  return members

end Env

/-- Gives each required member a local variable; `names` are those in scope. -/
def assignFlags (names : Name.Namespace) : List Member → List Member
  | [] => []
  | m :: ms =>
    if m.required then
      let (flag, names) := names.newName (Name.unexported m.name ++ "IsSet")
      { m with flag := some flag } :: assignFlags names ms
    else m :: assignFlags names ms

/-- The layout of a record: its members, with local variables in a scope inside the package. -/
def Env.layout (env : Env) (r : Record) : Emit (List Member) := do
  let members ← env.members r
  usePaths (members.flatMap fun m => m.goType.paths)
  return assignFlags (← get).names.enter members

end GoSchema
