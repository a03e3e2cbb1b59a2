import GoSchema.Go.Tag
import GoSchema.Name.Namespace
import GoSchema.Schema.Check

/-!
# Generation errors

Why no Go code is generated for a file. Every cause that lies in the schema names the entity it was
found at and the schema file.
-/

namespace GoSchema

/-- Where a fault was found. -/
structure Site where
  /-- What the entity is called in messages. -/
  entity : String
  /-- The path of the schema file. -/
  file : String
  deriving DecidableEq

/-- What is wrong with the value of an annotation. -/
inductive AnnotationFault where
  /-- A set representation other than the supported one. -/
  | representation
  /-- A struct tag that cannot be read. -/
  | tag (error : Go.TagError)
  deriving DecidableEq

/-- The text of an annotation fault. -/
def AnnotationFault.message : AnnotationFault → String
  | .representation => "the only supported value is \"slice\""
  | .tag error => error.message

/-- Why a value is none of its type. -/
inductive ValueError where
  /-- A value of another shape. -/
  | expected (what : String) (found : Value)
  /-- An integer out of the range of its type. -/
  | outOfRange (n : Int64) (what : String)
  /-- A struct literal with a key that is no text. -/
  | keyNotName (key : Value)
  /-- A struct literal with a key that names no field. -/
  | noField (structName field : String)

/-- The text of a value error. -/
def ValueError.message : ValueError → String
  | .expected what found => "expected " ++ what ++ ", found " ++ found.display
  | .outOfRange n what => toString n.toInt ++ " does not fit in " ++ what
  | .keyNotName key => "struct literal keys must be field names, found " ++ key.display
  | .noField structName field => structName ++ " has no field named " ++ field

/-- The types that the helpers of the wire format are made for. -/
inductive HelperShape where
  /-- Lists and sets. -/
  | list
  | map
  /-- Lists, sets and maps. -/
  | container
  deriving DecidableEq

/-- What messages call a shape. -/
def HelperShape.noun : HelperShape → String
  | .list => "list"
  | .map => "map"
  | .container => "container"

/-- States that a sound program does not lead to, the first one apart: there a package name or an
identifier has the form of a helper. -/
inductive InternalError where
  /-- The name of a helper is refused. -/
  | helperRefused (symbol : String) (error : Name.NameError)
  /-- A claim is refused, and not because its name is taken. -/
  | claimRefused (error : Name.NameError)
  /-- A helper for types of a shape is asked for another type. -/
  | wrongShape (shape : HelperShape)
  /-- A comparator of containers is asked for another type. -/
  | noComparator (ty : Ty)
  /-- A helper that logs containers is asked for another type. -/
  | noZapper (ty : Ty)
  /-- A pointer to a value of a type that is never held by pointer. -/
  | noPointer (ty : Ty)
  /-- A typedef that leads to no other type. -/
  | noRoot (ty : Ty)
  /-- An item that its enum does not have. -/
  | noItem (ref : Ref .enum) (item : Nat)
  /-- A function without declared names. -/
  | undeclared (function : String)

/-- The text of an internal error. -/
def InternalError.message : InternalError → String
  | .helperRefused symbol error => "helper " ++ symbol ++ ": " ++ error.message
  | .claimRefused error => error.message
  | .wrongShape shape => shape.noun ++ " helper requested for a non-" ++ shape.noun ++ " type"
  | .noComparator ty => "container comparator requested for " ++ ty.display
  | .noZapper ty => "zapper requested for " ++ ty.display
  | .noPointer ty => "no pointer form for " ++ ty.display
  | .noRoot ty => "typedef " ++ ty.display ++ " has no concrete root"
  | .noItem ref item => "enum item " ++ toString item ++ " of " ++ ref.text ++ " is out of range"
  | .undeclared function => "function " ++ function ++ " was not declared"

/-- Why generation stops. -/
inductive GenError where
  /-- Two declarations, or a declaration and a generated method, share an identifier. -/
  | conflict (site : Site) (identifier existing : String)
  /-- An identifier given by hand is not an exported identifier. -/
  | badIdentifier (site : Site) (identifier : String)
  /-- An annotation has a value without meaning. -/
  | badDirective (site : Site) (key value : String) (fault : AnnotationFault)
  /-- A value does not fit its type. -/
  | badValue (site : Site) (error : ValueError)
  /-- The program is not sound. -/
  | badProgram (error : GraphError)
  /-- The generator met a state that it does not expect. -/
  | internal (error : InternalError)
  /-- A reference points to nothing; this cannot happen in a sound program. -/
  | dangling

/-- The text of a generation error. -/
def GenError.message : GenError → String
  | .conflict site identifier existing =>
    site.file ++ ": identifier " ++ identifier ++ " of " ++ site.entity ++ " conflicts with "
      ++ existing
  | .badIdentifier site identifier =>
    site.file ++ ": " ++ site.entity ++ " has go.name " ++ Text.display identifier
      ++ ", which is not an exported identifier"
  | .badDirective site key value fault =>
    site.file ++ ": " ++ site.entity ++ " has invalid annotation " ++ key ++ " = "
      ++ Text.display value ++ ": " ++ fault.message
  | .badValue site error =>
    site.file ++ ": " ++ site.entity ++ " has an invalid value: " ++ error.message
  | .badProgram error => "invalid program: " ++ error.message
  | .internal error => "internal generator error: " ++ error.message
  | .dangling => "dangling reference"

end GoSchema
