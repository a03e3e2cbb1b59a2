import GoSchema.Document.Yaml.Dialect
import GoSchema.Schema.Check
import GoSchema.Schema.Reading

/-!
# Loading programs

A program is loaded from a text in one of two notations, and checked.
-/

namespace GoSchema

/-- The notations for programs. -/
inductive Format where
  | json
  | yaml
  deriving DecidableEq

/-- Why a program cannot be loaded. -/
inductive LoadError where
  /-- The text does not hold a program. -/
  | unreadable (error : ReadError)
  /-- The program is not sound. -/
  | unsound (error : GraphError)
  deriving DecidableEq

/-- The text of a load error. -/
def LoadError.message : LoadError → String
  | .unreadable _ => "failed to parse program:"
  | .unsound error => error.message

/-- The program in a text. -/
def Program.ofText (format : Format) (text : String) : Except ReadError Program :=
  match format with
  | .json => orMalformed do Json.dialect.program (← Json.read? text)
  | .yaml => do (← Yaml.Document.ofText text).decode Dialect.program

/-- Loads a program from a text. -/
def Program.load (format : Format) (text : String) : Except LoadError Program :=
  match Program.ofText format text with
  | .error e => .error (.unreadable e)
  | .ok p =>
    match p.check with
    | .ok () => .ok p
    | .error e => .error (.unsound e)

end GoSchema
