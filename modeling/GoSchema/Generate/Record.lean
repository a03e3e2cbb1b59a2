import GoSchema.Generate.Equality
import GoSchema.Generate.Logging
import GoSchema.Generate.Member
import GoSchema.Generate.Wire

/-!
# Structs, unions and exceptions

The code of a record: the Go struct, its wire codec, its text form, equality, logging and accessors. Absent
fields that have a default are set to it before a value is encoded and after one is decoded. A union has
exactly one field set, or at most one where it may be empty.
-/

namespace GoSchema

open Go

/-- The Go struct of a record. -/
def structType (r : Record) (members : List Member) : Code :=
  let identWidth := columnWidth (members.map Member.ident)
  let typeWidth := columnWidth (members.map fun m => m.goType.text)
  block s!"type {r.ident} struct"
    (lines (members.map fun m =>
      padRight identWidth m.ident ++ " " ++ padRight typeWidth m.goType.text ++ " " ++ m.tag))
    ++ blank

/-- Code followed by a blank line, unless there is none. -/
def spaced (code : Code) : Code := if code.isEmpty then [] else code ++ blank

/-- Code that runs when a field is there. -/
def guardedBy (m : Member) (code : Code) : Code :=
  if m.guarded then ifThen s!"v.{m.ident} != nil" code else code

/-- The statements that make an error of a union that does not have one field set. -/
def unionCheck (r : Record) (fmt count zero : String) : Code :=
  let test := if r.allowEmpty then ">" else "!="
  let bound := if r.allowEmpty then "at most" else "exactly"
  let message := s!"{r.ident} should have {bound} one field: got %v fields"
  ifThen s!"{count} {test} 1" (line s!"return {zero}{fmt}.Errorf(\"{message}\", {count})")

/-- The error for a required field that is missing. -/
def missingField (r : Record) (m : Member) (errors : String) : String :=
  s!"{errors}.New(\"field {m.ident} of {r.ident} is required\")"

/-- The local variables of the encoder. -/
def encoderLocals (wire : String) (count : Nat) : Code :=
  group "var"
    (line (s!"fields [" ++ toString count ++ s!"]{wire}.Field")
      ++ line "i      int = 0"
      ++ (if count = 0 then [] else line s!"w      {wire}.Value" ++ line "err    error"))
    ++ blank

/-- The comment on the encoder of a record. -/
def toWireComment (r : Record) (members : List Member) : Code :=
  lines
    [s!"// ToWire translates a {r.ident} into a Thrift-level intermediate",
     "// representation. This intermediate representation may be serialized",
     "// into bytes using a ThriftRW protocol implementation."]
    ++ if members.any fun m => m.filling.isSome then
      lines
        ["//",
         "// Absent fields that have a default value are set to that default",
         "// on v before it is encoded."]
    else []

/-- The accessors of a member, given the Go type of its value and the expression of its default. -/
def accessorCode (r : Record) (m : Member) (type : String) (default : Option String) : Code :=
  let body :=
    match m.holding with
    | .value => ifThen "v != nil" (line s!"o = v.{m.ident}")
    | .pointer | .nilable =>
      ifThen s!"v != nil && v.{m.ident} != nil" (line ("return " ++ m.valueOf "v"))
        ++ (match default with
          | some expr => line s!"o = {expr}"
          | none => [])
  let otherwise := if default.isSome then "default" else "zero"
  let presence := if m.holding = .value then "v != nil" else s!"v != nil && v.{m.ident} != nil"
  lines
    [s!"// {m.getter} returns the value of {m.ident} if it is set or its",
     s!"// {otherwise} value if it is unset."]
    ++ func s!"(v *{r.ident}) {m.getter}() (o {type})" (body ++ line "return")
    ++ line s!"// {m.isSet} returns true if {m.ident} is not nil."
    ++ func s!"(v *{r.ident}) {m.isSet}() bool" (line s!"return {presence}")

/-- The methods of an exception. -/
def exceptionCode (r : Record) : Code :=
  lines
    ["// ErrorName is the name of this type as defined in the Thrift",
     "// file."]
    ++ func s!"(*{r.ident}) ErrorName() string" (line ("return " ++ quote r.name))
    ++ func s!"(v *{r.ident}) Error() string" (line "return v.String()")

namespace Env

/-- The statements that set absent fields to their defaults. -/
def fillDefaults (env : Env) : List Member → Emit Code
  | [] => return []
  | m :: ms => do
    let code ←
      match m.filling with
      | none => pure []
      | some default => do
        let site := env.site ("default of " ++ m.entity)
        let value ← env.fieldValue site m.type m.required default
        pure (ifThen s!"v.{m.ident} == nil" (line s!"v.{m.ident} = {value}"))
    return code ++ (← env.fillDefaults ms)

/-- Refuses to encode a required field without value; lists and binary data without value are encoded
as empty ones. -/
def requiredCheck (env : Env) (r : Record) (m : Member) : Emit Code := do
  if m.guarded || m.holding != .nilable then return []
  match ← env.root m.type with
  | .struct _ | .set _ _ | .map _ _ =>
    let errors ← env.package "errors"
    return ifThen s!"v.{m.ident} == nil" (line ("return w, " ++ missingField r m errors))
  | _ => return []

/-- The statements that encode a member. -/
def encodeMember (env : Env) (r : Record) (wire : String) (m : Member) : Emit Code := do
  let encoded ← env.encode m.type (m.valueOf "v")
  let check ← env.requiredCheck r m
  let store :=
    line s!"w, err = {encoded}"
      ++ returnError "w, err"
      ++ line (s!"fields[i] = {wire}.Field" ++ braced ("ID: " ++ toString m.id.toInt ++ ", Value: w"))
      ++ line "i++"
  return check ++ guardedBy m store ++ blank

/-- The encoder of a record. -/
def toWire (env : Env) (r : Record) (members : List Member) : Emit Code := do
  let wire ← env.wire
  let defaults ← env.fillDefaults members
  let encoders ← members.mapM (env.encodeMember r wire)
  let check ←
    if r.isUnion then do
      let fmt ← env.package "fmt"
      pure (unionCheck r fmt "i" (s!"{wire}.Value" ++ braced "" ++ ", ") ++ blank)
    else pure []
  return toWireComment r members
    ++ func s!"(v *{r.ident}) ToWire() ({wire}.Value, error)"
      (encoderLocals wire members.length
        ++ spaced defaults
        ++ encoders.flatten
        ++ check
        ++ line (s!"return {wire}.NewValueStruct({wire}.Struct" ++ braced "Fields: fields[:i]" ++ "), nil"))

/-- The branch of the decoder for a member. Values with another wire tag are skipped. -/
def decodeMember (env : Env) (m : Member) : Emit Code := do
  let tag ← env.wireTag m.type
  let decoded ← env.decode m.type "field.Value"
  let read ←
    match m.holding with
    | .pointer => do
      let type ← env.typeText m.type
      pure (line s!"var x {type}"
        ++ line s!"x, err = {decoded}"
        ++ line s!"v.{m.ident} = &x")
    | .value | .nilable => pure (line s!"v.{m.ident}, err = {decoded}")
  let mark :=
    match m.flag with
    | some flag => line s!"{flag} = true"
    | none => []
  return caseOf ("case " ++ toString m.id.toInt)
    (ifThen s!"field.Value.Type() == {tag}" (read ++ returnError "err" ++ mark))

/-- The check that a required field was met. -/
def flagCheck (env : Env) (r : Record) (m : Member) : Emit Code :=
  match m.flag with
  | some flag => do
    let errors ← env.package "errors"
    return ifThen s!"!{flag}" (line ("return " ++ missingField r m errors)) ++ blank
  | none => return []

/-- The decoder of a record. -/
def fromWire (env : Env) (r : Record) (members : List Member) : Emit Code := do
  let wire ← env.wire
  let branches ← members.mapM env.decodeMember
  let defaults ← env.fillDefaults members
  let checks ← members.mapM (env.flagCheck r)
  let count ←
    if r.isUnion then do
      let fmt ← env.package "fmt"
      pure (line "count := 0"
        ++ members.flatMap (fun m => ifThen s!"v.{m.ident} != nil" (line "count++"))
        ++ unionCheck r fmt "count" "" ++ blank)
    else pure []
  let flags := members.filterMap Member.flag
  return lines
      [s!"// FromWire deserializes a {r.ident} struct from its Thrift-level",
       "// representation. Fields whose wire type does not match the schema",
       "// are skipped."]
    ++ func s!"(v *{r.ident}) FromWire(w {wire}.Value) error"
      ((if members.isEmpty then [] else line "var err error" ++ blank)
        ++ spaced (lines (flags.map fun f => f ++ " := false"))
        ++ forLoop "_, field := range w.GetStruct().Fields" (switch "field.ID" branches.flatten)
        ++ blank
        ++ spaced defaults
        ++ checks.flatten
        ++ count
        ++ line "return nil")

/-- The method that shows a record: the fields that are there. -/
def recordString (env : Env) (r : Record) (members : List Member) : Emit Code := do
  let body ←
    if members.isEmpty then pure (line ("return \"" ++ r.ident ++ braced "" ++ "\""))
    else do
      let fmt ← env.package "fmt"
      let strings ← env.package "strings"
      let shown (m : Member) : Code :=
        guardedBy m
          (line (s!"fields[i] = {fmt}.Sprintf(\"{m.ident}: %v\", " ++ m.valueOf "v" ++ ")")
            ++ line "i++")
      pure (line ("var fields [" ++ toString members.length ++ "]string")
        ++ line "i := 0"
        ++ members.flatMap shown
        ++ blank
        ++ line (s!"return {fmt}.Sprintf(\"" ++ r.ident ++ braced "%v"
          ++ s!"\", {strings}.Join(fields[:i], \", \"))"))
  return lines
      [s!"// String returns a readable string representation of a {r.ident}",
       "// struct."]
    ++ func s!"(v *{r.ident}) String() string"
      (ifThen "v == nil" (line "return \"<nil>\"") ++ blank ++ body)

/-- The expression that compares a member of `v` with that of `rhs`; absent equals absent. -/
def memberEquals (env : Env) (m : Member) : Emit String := do
  let lhs := s!"v.{m.ident}"
  let rhs := s!"rhs.{m.ident}"
  match m.holding with
  | .pointer =>
    let comparator ← env.equalsPtr m.type
    return s!"{comparator}({lhs}, {rhs})"
  | .value => env.equals m.type lhs rhs
  | .nilable =>
    let eq ← env.equals m.type lhs rhs
    if m.required then return eq
    else return s!"(({lhs} == nil && {rhs} == nil) || ({lhs} != nil && {rhs} != nil && {eq}))"

/-- The method that compares two records. -/
def recordEquals (env : Env) (r : Record) (members : List Member) : Emit Code := do
  let tests ← members.mapM env.memberEquals
  return lines
      [s!"// Equals returns true if all the fields of this {r.ident} match the",
       s!"// provided {r.ident}.",
       "//",
       "// This function performs a deep comparison."]
    ++ func s!"(v *{r.ident}) Equals(rhs *{r.ident}) bool"
      (line "if v == nil \x7b"
        ++ indent (line "return rhs == nil")
        ++ line "\x7d else if rhs == nil \x7b"
        ++ indent (line "return false")
        ++ line "\x7d"
        ++ tests.flatMap (fun t => ifThen s!"!{t}" (line "return false"))
        ++ blank
        ++ line "return true")

/-- The statements that log a member. -/
def logMember (env : Env) (m : Member) : Emit Code := do
  let value ← env.logValue m.type (m.valueOf "v")
  let add ← env.logAdd (quote m.label) value
  return guardedBy m add

/-- The method that logs a record. -/
def recordLog (env : Env) (r : Record) (members : List Member) : Emit Code := do
  if env.options.noZap then return []
  let zapcore ← env.zapcore
  let adds ← (members.filter fun m => !m.noLog).mapM env.logMember
  return marshalerComment .object r.ident
    ++ func s!"(v *{r.ident}) MarshalLogObject(enc {zapcore}.ObjectEncoder) (err error)"
      (ifThen "v == nil" (line "return nil")
        ++ adds.flatten
        ++ line "return err")

/-- The accessors of a member. -/
def memberAccessors (env : Env) (r : Record) (m : Member) : Emit Code := do
  let type ← env.typeText m.type
  let default ←
    match m.default with
    | none => pure none
    | some value => some <$> env.literal (env.site ("default of " ++ m.entity)) m.type value
  return accessorCode r m type default

/-- The methods of a record that travels in an envelope. -/
def envelopeCode (env : Env) (r : Record) (envelope : Envelope) : Emit Code := do
  let wire ← env.wire
  return lines
      ["// MethodName returns the name of the Thrift function as specified in",
       "// the IDL, for which this struct represent the arguments or result."]
    ++ func s!"(v *{r.ident}) MethodName() string" (line ("return " ++ quote envelope.method))
    ++ line "// EnvelopeType returns the kind of envelope this struct travels in."
    ++ func s!"(v *{r.ident}) EnvelopeType() {wire}.EnvelopeType"
      (line (s!"return {wire}." ++ envelope.kind.constant))

/-- The code of a record with these members. -/
def recordCode (env : Env) (r : Record) (members : List Member) : Emit Code := do
  let toWire ← env.toWire r members
  let fromWire ← env.fromWire r members
  let string ← env.recordString r members
  let equals ← env.recordEquals r members
  let log ← env.recordLog r members
  let accessors ← members.mapM (env.memberAccessors r)
  let envelope ←
    match r.envelope with
    | some envelope => env.envelopeCode r envelope
    | none => pure []
  return structType r members ++ toWire ++ fromWire ++ string ++ equals ++ log ++ accessors.flatten
    ++ (if r.kind = .exception then exceptionCode r else [])
    ++ envelope

end Env

/-- What messages call a struct. -/
def Struct.entity (s : Struct) : String := s.kind.noun ++ " " ++ s.name

/-- A struct of the schema as a record. -/
def Struct.record (s : Struct) (ident : String) : Record :=
  ⟨ident, s.name, s.kind, s.fields, s.allowEmpty, none⟩

/-- The declaration of a struct of this file, with its methods. -/
def Env.structCode (env : Env) (s : Struct) : Emit Code := do
  let ident ← identifier s.name s.annotations (env.site s.entity)
  let r := s.record ident
  let members ← env.layout r
  env.recordCode r members

end GoSchema
