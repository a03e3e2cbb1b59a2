import GoSchema.Generate.Error
import GoSchema.Name.Casing

/-!
# Annotations that steer generation

`go.name` gives an identifier by hand, `go.label` the name used in JSON, logs and texts, `go.type`
the representation of a set, `go.tag` further pairs of a struct tag, and `go.nolog` keeps a field out
of the logs.
-/

namespace GoSchema

/-- The annotation that gives an identifier. -/
def nameKey : String := "go.name"

/-- The annotation that gives a label. -/
def labelKey : String := "go.label"

/-- The annotation that chooses the representation of a set. -/
def typeKey : String := "go.type"

/-- The one representation that can be chosen: a sequence. -/
def sliceForm : String := "slice"

/-- The annotation that adds to a struct tag. -/
def tagKey : String := "go.tag"

/-- The annotation that keeps a field out of the logs. -/
def noLogKey : String := "go.nolog"

/-- The Go identifier of an entity: the one given by hand, if it is an exported identifier, else the
exported spelling of the name. -/
def identifier (name : String) (annotations : Annotations) (site : Site) : Except GenError String :=
  match annotations.get? nameKey with
  | none => .ok (Name.exported name)
  | some ident =>
    if Name.isExported ident && !Name.isReserved ident then .ok ident
    else .error (.badIdentifier site ident)

/-- The label of an entity. -/
def label (name : String) (annotations : Annotations) : String :=
  (annotations.get? labelKey).getD name

/-- The field is kept out of the logs. -/
def noLog (annotations : Annotations) : Bool := annotations.contains noLogKey

/-- The tag of a field: the `json` pair, overridden or extended by the pairs given by hand. -/
def structTag (label : String) (required : Bool) (annotations : Annotations) (site : Site) :
    Except GenError String :=
  let json := [Go.jsonPair label required]
  match annotations.get? tagKey with
  | none => .ok (Go.rawTag json)
  | some text =>
    match Go.parseTag text with
    | .ok extra => .ok (Go.rawTag (Go.mergePairs json extra))
    | .error e => .error (.badDirective site tagKey text (.tag e))

/-- Every set inside a type leaves its representation open or chooses the supported one. -/
def checkSets (site : Site) : Ty → Except GenError Unit
  | .list element => checkSets site element
  | .set element annotations =>
    match annotations.get? typeKey with
    | some form =>
      if form = sliceForm then checkSets site element
      else .error (.badDirective site typeKey form .representation)
    | none => checkSets site element
  | .map key value => do
    checkSets site key
    checkSets site value
  | .base _ | .enum _ | .struct _ | .typedef _ => .ok ()

/-- Types whose root is a base type other than binary, or an enum: Go can compare their values, and
holds them directly. -/
def Ty.isScalar : Ty → Bool
  | .base .binary => false
  | .base _ => true
  | .enum _ => true
  | _ => false

namespace Program

/-- Values of the type can be keys of a Go map. -/
def isHashable? (p : Program) (ty : Ty) : Option Bool := (p.rootType? ty).map Ty.isScalar

/-- A set of these elements is a Go map: the elements can be keys, and no sequence is asked for. -/
def isKeyedSet? (p : Program) (element : Ty) (annotations : Annotations) : Option Bool :=
  if annotations.get? typeKey = some sliceForm then some false else p.isHashable? element

end Program

end GoSchema
