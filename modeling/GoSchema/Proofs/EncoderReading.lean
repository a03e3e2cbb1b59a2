import GoSchema.Proofs.RecordCodec

/-!
# Reading encoders

Which tag the values of a type get is written in the generated code: in the expression that encodes a value, or
in the method of the type that the expression calls. This module reads both, the expression by its text and the
method as the first function of its signature in the code of a declaration, and says what is read for enums,
structs and typedefs.

## What is proved

* `encodingOf?_newValue` and `encodingOf?_toWire`: the two forms of an expression that gives a wire value are told
  apart by their texts, whatever stands between the parentheses.
* `funcBody?_func` and `funcBody?_append`: a function is found behind any code that does not open one of its
  signature.
* `Env.encode_makes` and `Env.encode_calls`: values of types without a name are made on the spot, and for all
  others an encoder is called.
* `Env.Declares.encoder` and `Env.Declares.layer`: what the encoders of enums, structs and typedefs return.

The names of the functions that make values, and the tags they put on them, are a table of this module (`makers`):
what the wire package does is taken from there.
-/

namespace GoSchema

open Go

/-! ### Expressions that give wire values -/

/-- How an expression gives a wire value: it makes one with a tag, or calls the encoder of a value. -/
inductive Encoding where
  | makes (tag : WireTag)
  | calls
  deriving DecidableEq

/-- The functions of the wire package that make a value, each by the end of its name, and the tags they put on
it. -/
def makers : List (String × WireTag) :=
  [("Bool", .bool), ("I8", .i8), ("I16", .i16), ("I32", .i32), ("I64", .i64), ("Double", .double),
   ("String", .binary), ("Binary", .binary), ("Struct", .struct), ("Map", .map), ("Set", .set), ("List", .list)]

/-- Reads how an expression gives a wire value, where the wire package has this alias. -/
def encodingOf? (wire expr : String) : Option Encoding :=
  if ".ToWire()".toList.isSuffixOf expr.toList then some .calls
  else do
    let rest ← (wire ++ ".NewValue").toList.isPrefixOf? expr.toList
    let tag ← makers.lookup (String.ofList (rest.takeWhile fun c => c ≠ '('))
    return .makes tag

theorem encodingOf?_toWire (wire value : String) : encodingOf? wire (value ++ ".ToWire()") = some .calls := by
  have hsuffix : ".ToWire()".toList.isSuffixOf (value ++ ".ToWire()").toList = true := by
    rw [List.isSuffixOf_iff_suffix, String.toList_append]
    exact List.suffix_append _ _
  rw [encodingOf?, if_pos hsuffix]

/-- Whatever stands between the parentheses, the function says what is made. -/
theorem encodingOf?_newValue {name : String} {tag : WireTag} (h : (name, tag) ∈ makers) (wire value : String)
    {tail : String} (htail : tail = ", error(nil)" ∨ tail = ", nil") :
    encodingOf? wire (wire ++ ".NewValue" ++ (name ++ ("(" ++ value ++ ")" ++ tail))) = some (.makes tag) := by
  obtain ⟨hlookup, hopen⟩ : makers.lookup name = some tag ∧ '(' ∉ name.toList := by
    have hall : ∀ m ∈ makers, makers.lookup m.1 = some m.2 ∧ '(' ∉ m.1.toList := by decide
    exact hall _ h
  have hsuffix : ¬ ".ToWire()".toList.isSuffixOf
      (wire ++ ".NewValue" ++ (name ++ ("(" ++ value ++ ")" ++ tail))).toList = true := by
    obtain rfl | rfl := htail <;> simp [List.isSuffixOf, List.isPrefixOf]
  have hrest : (wire ++ ".NewValue").toList.isPrefixOf?
      (wire ++ ".NewValue" ++ (name ++ ("(" ++ value ++ ")" ++ tail))).toList =
        some (name ++ ("(" ++ value ++ ")" ++ tail)).toList := by
    rw [List.isPrefixOf?_eq_some_iff_append_eq, ← String.toList_append]
  have hname : (name ++ ("(" ++ value ++ ")" ++ tail)).toList.takeWhile (fun c => c ≠ '(') = name.toList := by
    have hplain : ∀ c ∈ name.toList, decide (c ≠ '(') = true := by
      intro c hc
      exact decide_eq_true fun h => hopen (h ▸ hc)
    rw [String.toList_append, List.takeWhile_append_of_pos hplain]
    simp
  rw [encodingOf?, if_neg hsuffix, hrest]
  simp only [Option.bind_eq_bind, Option.bind_some, hname, String.ofList_toList, hlookup]
  rfl

/-! ### Functions in code -/

/-- The line that opens a function. -/
def header (signature : String) : Line := ⟨0, "func " ++ signature ++ " \x7b"⟩

/-- The body of the first function with this signature. -/
def funcBody? (signature : String) (code : Code) : Option Code :=
  match code.dropWhile fun l => l ≠ header signature with
  | [] => none
  | _ :: rest => some (rest.takeWhile fun l => l.depth ≠ 0)

theorem funcBody?_append {signature : String} {before : Code} (h : header signature ∉ before) (code : Code) :
    funcBody? signature (before ++ code) = funcBody? signature code := by
  have hbefore : ∀ l ∈ before, decide (l ≠ header signature) = true := by
    intro l hl
    exact decide_eq_true fun heq => h (heq ▸ hl)
  rw [funcBody?, List.dropWhile_append_of_pos hbefore]
  rfl

theorem funcBody?_func (signature : String) (body after : Code) :
    funcBody? signature (func signature body ++ after) = some (indent body) := by
  have hbody : ∀ l ∈ indent body, decide (l.depth ≠ 0) = true := by
    intro l hl
    obtain ⟨l', -, rfl⟩ := List.mem_map.mp hl
    simp
  have hfunc : func signature body ++ after =
      header signature :: (indent body ++ (⟨0, "\x7d"⟩ :: (blank ++ after))) := by
    simp [func, block, line, header]
  rw [funcBody?, hfunc, List.dropWhile_cons_of_neg (by simp)]
  simp only
  rw [List.takeWhile_append_of_pos hbody, List.takeWhile_cons_of_neg (by simp), List.append_nil]

theorem funcBody?_eq {signature : String} {before : Code} (h : header signature ∉ before) (body after : Code) :
    funcBody? signature (before ++ (func signature body ++ after)) = some (indent body) := by
  rw [funcBody?_append h, funcBody?_func]

/-- What stands in the body of a function stands in the function. -/
theorem indent_infix_func {part body : Code} (h : part <:+: body) (signature : String) :
    indent part <:+: func signature body := by
  have hbody : indent part <:+: indent body := h.map _
  exact List.infix_append_of_infix_left (List.infix_append_of_infix_left (List.infix_append_of_infix_right hbody))

section
variable {signature : String}

theorem header_notMem_indent (code : Code) : header signature ∉ indent code := by
  simp [indent, header]

theorem header_notMem_line {text : String} (h : text.toList.head? ≠ some 'f') : header signature ∉ line text := by
  intro hmem
  have htext : "func " ++ signature ++ " \x7b" = text := congrArg Line.text (List.mem_singleton.mp hmem)
  rw [← htext] at h
  simp at h

theorem header_notMem_lines {texts : List String} (h : ∀ t ∈ texts, t.toList.head? ≠ some 'f') :
    header signature ∉ lines texts := by
  intro hmem
  obtain ⟨t, ht, heq⟩ := List.mem_map.mp hmem
  exact header_notMem_line (h t ht) (List.mem_singleton.mpr heq.symm)

theorem header_notMem_func {signature' : String} (h : signature ≠ signature') (body : Code) :
    header signature ∉ func signature' body := by
  intro hmem
  simp only [func, block, List.mem_append] at hmem
  rcases hmem with ((hopen | hbody) | hclose) | hblank
  · have htext : "func " ++ signature ++ " \x7b" = "func " ++ signature' ++ " \x7b" :=
      congrArg Line.text (List.mem_singleton.mp hopen)
    exact h (by simpa using htext)
  · exact header_notMem_indent body hbody
  · exact header_notMem_line (by simp) hclose
  · exact header_notMem_line (by simp) hblank

end

/-! ### Signatures of encoders -/

/-- The receiver of the methods of a type that is this one below its layers: a pointer for structs. -/
def Ty.receiver (root : Ty) (ident : String) : String :=
  match root with
  | .struct _ => "*" ++ ident
  | _ => ident

/-- The signature of the encoder of a type. -/
def encoderSignature (receiver wire : String) : String := s!"(v {receiver}) ToWire() ({wire}.Value, error)"

section
variable {receiver wire : String}

theorem encoderSignature_ne {signature : String} (h : signature.toList.getLast? ≠ some ')') :
    encoderSignature receiver wire ≠ signature := by
  rintro rfl
  have hends : encoderSignature receiver wire = s!"(v {receiver}) ToWire() ({wire}.Value, error" ++ ")" := by
    simp [encoderSignature, toString, ← String.toList_inj]
  rw [hends, String.toList_append] at h
  simp at h

theorem encoderSignature_ne_ptr : encoderSignature receiver wire ≠ s!"(v {receiver}) Ptr() *{receiver}" := by
  simp [encoderSignature, toString, ← String.toList_inj]

theorem encoderSignature_ne_marshalText :
    encoderSignature receiver wire ≠ s!"(v {receiver}) MarshalText() ([]byte, error)" := by
  simp [encoderSignature, toString, ← String.toList_inj]

/-- If they were the same, the name would end the signature of the encoder, and begin it as well. -/
theorem encoderSignature_ne_values : encoderSignature receiver wire ≠ s!"{receiver}_Values() []{receiver}" := by
  intro h
  have hlist : ("(v " ++ receiver ++ ") ToWire(").toList ++ (") (" ++ wire ++ ".Value, error)").toList =
      (receiver ++ "_Values() []").toList ++ receiver.toList := by
    simpa [encoderSignature, toString, ← String.toList_inj] using h
  have hlength := congrArg List.length hlist
  have hname : (") (" ++ wire ++ ".Value, error)").toList = receiver.toList := by
    refine List.append_inj_right' hlist ?_
    simp at hlength ⊢
    omega
  have hhead := congrArg List.head? hlist
  simp [← hname] at hhead

end

/-! ### Encoders of enums and records -/

/-- In the code of an enum, nothing before the methods for the wire opens the encoder. -/
theorem header_notMem_enum (name wire fmt strconv : String) (items : List ItemLayout) :
    header (encoderSignature name wire) ∉
      line s!"type {name} int32" ++ blank ++ itemConstants name items ++ enumValues name items
        ++ enumUnmarshalText name fmt strconv (ItemLayout.byLabel items)
        ++ enumMarshalText name strconv (ItemLayout.byValue items) := by
  have hconstants : header (encoderSignature name wire) ∉ itemConstants name items := by
    unfold itemConstants
    split_ifs
    · exact List.not_mem_nil
    · simp only [group, List.mem_append, not_or]
      exact ⟨⟨⟨header_notMem_line (by simp), header_notMem_indent _⟩, header_notMem_line (by simp)⟩,
        header_notMem_line (by simp)⟩
  simp only [enumValues, enumUnmarshalText, enumMarshalText, List.mem_append, not_or]
  refine ⟨⟨⟨⟨⟨?_, ?_⟩, hconstants⟩, ?_, ?_⟩, ?_, ?_⟩, ?_, ?_⟩
  · exact header_notMem_line (by simp [toString])
  · exact header_notMem_line (by simp)
  · exact header_notMem_line (by simp [toString])
  · exact header_notMem_func encoderSignature_ne_values _
  · exact header_notMem_lines (by simp [toString])
  · exact header_notMem_func (encoderSignature_ne (by simp [toString, List.getLast?_cons])) _
  · exact header_notMem_lines (by simp [toString])
  · exact header_notMem_func encoderSignature_ne_marshalText _

theorem funcBody?_enumWire {name wire : String} {before : Code} (h : header (encoderSignature name wire) ∉ before)
    (after : Code) :
    funcBody? (encoderSignature name wire) (before ++ enumWire name wire ++ after) =
      some [⟨1, "return " ++ (wire ++ ".NewValueI32(int32(v)), nil")⟩] := by
  have hline : s!"return {wire}.NewValueI32(int32(v)), nil" = "return " ++ (wire ++ ".NewValueI32(int32(v)), nil") := by
    simp [toString, String.append_assoc]
  rw [enumWire, hline, ← encoderSignature]
  have hbefore : header (encoderSignature name wire) ∉
      before ++ (line "// Ptr returns a pointer to this enum value."
        ++ func s!"(v {name}) Ptr() *{name}" (line "return &v")
        ++ lines
          [s!"// ToWire translates {name} into a Thrift-level intermediate",
           "// representation."]) := by
    simp only [List.mem_append, not_or]
    refine ⟨h, ⟨header_notMem_line (by simp), header_notMem_func encoderSignature_ne_ptr _⟩, ?_⟩
    exact header_notMem_lines (by simp [toString])
  have hbody := funcBody?_eq hbefore (line ("return " ++ (wire ++ ".NewValueI32(int32(v)), nil")))
  simp only [List.append_assoc] at hbody ⊢
  exact hbody _

/-- In the code of a record, nothing before the encoder opens a function. -/
theorem header_notMem_record (signature : String) (r : Record) (ms : List Member) :
    header signature ∉ structType r ms ++ toWireComment r ms := by
  refine List.not_mem_append ?_ (List.not_mem_append (header_notMem_lines (by simp [toString])) ?_)
  · simp only [structType, block, List.mem_append, not_or]
    exact ⟨⟨⟨header_notMem_line (by simp [toString]), header_notMem_indent _⟩, header_notMem_line (by simp)⟩,
      header_notMem_line (by simp)⟩
  · split_ifs
    · exact header_notMem_lines (by simp)
    · exact List.not_mem_nil

/-- The expression that the encoder of a record returns. -/
def structValue (wire : String) : String :=
  s!"{wire}.NewValueStruct({wire}.Struct" ++ braced "Fields: fields[:i]" ++ "), nil"

theorem encodingOf?_structValue (wire : String) : encodingOf? wire (structValue wire) = some (.makes .struct) := by
  have hmaker : ("Struct", WireTag.struct) ∈ makers := by decide
  have hread := encodingOf?_newValue hmaker wire (wire ++ ".Struct" ++ braced "Fields: fields[:i]") (.inr rfl)
  have htext : structValue wire = wire ++ ".NewValue" ++ ("Struct" ++
      ("(" ++ (wire ++ ".Struct" ++ braced "Fields: fields[:i]") ++ ")" ++ ", nil")) := by
    simp [← String.toList_inj, structValue, toString]
  rw [htext]
  exact hread

theorem encoder_eq_func (r : Record) (wire : String) (count : Nat) (defaults encoders check : Code) :
    encoder r wire count defaults encoders check = func (encoderSignature ("*" ++ r.ident) wire)
      (encoderLocals wire count ++ spaced defaults ++ encoders ++ check ++ line ("return " ++ structValue wire)) := by
  have hsignature : s!"(v *{r.ident}) ToWire() ({wire}.Value, error)" = encoderSignature ("*" ++ r.ident) wire := by
    simp [← String.toList_inj, encoderSignature, toString]
  have hline : s!"return {wire}.NewValueStruct({wire}.Struct" ++ braced "Fields: fields[:i]" ++ "), nil" =
      "return " ++ structValue wire := by
    simp [← String.toList_inj, structValue, toString]
  rw [encoder, hsignature, hline]

/-! ### Encoders of types -/

/-- What declares a type that has a name. -/
def Ty.entity? : Ty → Option Entity
  | .enum r => some (.enum r)
  | .struct r => some (.struct r)
  | .typedef r => some (.typedef r)
  | .base _ | .list _ | .set _ _ | .map _ _ => none

theorem Program.declared_of_inRange {p : Program} {ty : Ty} (hty : p.TypeInRange ty) {e : Entity}
    (hnamed : ty.entity? = some e) :
    ∃ ident file, p.identOf? e = some ident ∧ p.owner? e = some file := by
  cases ty with
  | enum r =>
    cases hnamed
    obtain ⟨e, -, he⟩ := enum?_isSome hty
    exact ⟨goName e.name e.annotations, e.file, by simp [identOf?, he], by simp [owner?, he]⟩
  | struct r =>
    cases hnamed
    obtain ⟨s, -, hs⟩ := struct?_isSome hty
    exact ⟨goName s.name s.annotations, s.file, by simp [identOf?, hs], by simp [owner?, hs]⟩
  | typedef r =>
    cases hnamed
    obtain ⟨t, -, ht⟩ := typedef?_isSome hty
    exact ⟨goName t.name t.annotations, t.file, by simp [identOf?, ht], by simp [owner?, ht]⟩
  | base _ | list _ | set _ _ | map _ _ => cases hnamed

namespace Env

/-- The alias of the wire package. -/
def wireName (env : Env) : String := env.aliasOf env.options.wireImport

variable {env : Env}

theorem wire_gives : Gives env.wire fun wire => wire = env.wireName := .bind fun _ _ => .pure rfl

theorem newValue_makes {name : String} {tag : WireTag} (h : (name, tag) ∈ makers) (value : String) :
    Gives (env.newValue name value) fun expr => encodingOf? env.wireName expr = some (.makes tag) := by
  refine .bind fun wire hwire => .pure ?_
  obtain rfl := wire_gives wire hwire
  have hread := encodingOf?_newValue h env.wireName value (.inl rfl)
  simpa [toString, String.append_assoc] using hread

/-- Values of types without a name are made on the spot. -/
theorem encode_makes {ty : Ty} (h : ty.entity? = none) (value : String) :
    Gives (env.encode ty value) fun expr => encodingOf? env.wireName expr = some (.makes ty.wireTag) := by
  cases ty with
  | base b =>
    rw [encode]
    exact newValue_makes (by cases b <;> decide) value
  | list element =>
    rw [encode]
    have hmaker : ("List", WireTag.list) ∈ makers := by decide
    exact .bind fun adapter _ => newValue_makes hmaker _
  | set element annotations =>
    rw [encode]
    have hmaker : ("Set", WireTag.set) ∈ makers := by decide
    exact .bind fun adapter _ => newValue_makes hmaker _
  | map key value' =>
    rw [encode]
    have hmaker : ("Map", WireTag.map) ∈ makers := by decide
    exact .bind fun adapter _ => newValue_makes hmaker _
  | enum r | struct r | typedef r => cases h

/-- Values of types with a name have an encoder, which is called. -/
theorem encode_calls {ty : Ty} {e : Entity} (h : ty.entity? = some e) (value : String) :
    Gives (env.encode ty value) fun expr => encodingOf? env.wireName expr = some .calls := by
  cases ty with
  | enum r | struct r | typedef r =>
    rw [encode]
    refine .pure ?_
    have hread := encodingOf?_toWire env.wireName value
    simpa [toString] using hread
  | base _ | list _ | set _ _ | map _ _ => cases h

/-- The encoder of an enum makes an integer. -/
theorem enumCode_encoder (e : Enum) :
    Gives (env.enumCode e) fun code => ∃ body returned,
      funcBody? (encoderSignature (goName e.name e.annotations) env.wireName) code = some body ∧
        body.getLast? = some ⟨1, "return " ++ returned⟩ ∧
        encodingOf? env.wireName returned = some (.makes .i32) := by
  refine .bind fun name hname => .bind fun items _ => .bind fun wire hwire => .bind fun fmt _ => ?_
  refine .bind fun strconv _ => .bind fun json _ => .bind fun bytes _ => .bind fun math _ => ?_
  obtain ⟨-, rfl⟩ := identifier_eq_ok.mp hname.of_lift
  obtain rfl := wire_gives wire hwire
  have hread : encodingOf? env.wireName (env.wireName ++ ".NewValueI32(int32(v)), nil") = some (.makes .i32) := by
    have hmaker : ("I32", WireTag.i32) ∈ makers := by decide
    have hread := encodingOf?_newValue hmaker env.wireName "int32(v)" (.inr rfl)
    simpa [String.append_assoc] using hread
  -- Whatever the enum has for logging comes before the methods for the wire.
  have hbody (log : Code) (hlog : header (encoderSignature (goName e.name e.annotations) env.wireName) ∉ log) :=
    funcBody?_enumWire (List.not_mem_append (header_notMem_enum _ env.wireName fmt strconv items) hlog)
      (enumString (goName e.name e.annotations) fmt (ItemLayout.byValue items)
        ++ enumEquals (goName e.name e.annotations)
        ++ enumMarshalJSON (goName e.name e.annotations) strconv (ItemLayout.byValue items)
        ++ enumUnmarshalJSON (goName e.name e.annotations) fmt json bytes math)
  simp only [List.append_assoc] at hbody
  dsimp only
  refine .ite (.bind fun log hlog => .pure ?_) (.bind fun zapcore _ => .bind fun log hlog => .pure ?_)
  · obtain rfl := hlog.of_pure
    refine ⟨_, _, ?_, List.getLast?_singleton, hread⟩
    simpa only [List.append_assoc] using hbody [] List.not_mem_nil
  · obtain rfl := hlog.of_pure
    refine ⟨_, _, ?_, List.getLast?_singleton, hread⟩
    have hlog : header (encoderSignature (goName e.name e.annotations) env.wireName) ∉
        enumMarshalLog (goName e.name e.annotations) zapcore (ItemLayout.byValue items) := by
      refine List.not_mem_append (header_notMem_lines (by simp [toString])) ?_
      exact header_notMem_func (encoderSignature_ne (by simp [toString, List.getLast?_cons])) _
    simpa only [List.append_assoc] using hbody _ hlog

/-- The encoder of a struct makes a struct. -/
theorem structCode_encoder (s : Struct) :
    Gives (env.structCode s) fun code => ∃ body returned,
      funcBody? (encoderSignature ("*" ++ goName s.name s.annotations) env.wireName) code = some body ∧
        body.getLast? = some ⟨1, "return " ++ returned⟩ ∧
        encodingOf? env.wireName returned = some (.makes .struct) := by
  intro code hcode
  obtain ⟨ms, -, run, run', hrecord⟩ := structCode_record hcode
  obtain ⟨toWire, _, _, _, htoWire, -, ⟨after, rfl⟩, -⟩ := recordCode_eq_ok hrecord
  obtain ⟨wire, _, defaults, _, encoders, _, check, hwire, -, -, -, rfl⟩ := toWire_eq_ok htoWire
  obtain rfl := wire_gives wire ⟨_, _, hwire⟩
  have hbody := funcBody?_eq (header_notMem_record
    (encoderSignature ("*" ++ goName s.name s.annotations) env.wireName) (s.record (goName s.name s.annotations)) ms)
    (encoderLocals env.wireName ms.length ++ spaced defaults ++ encoders.flatten ++ check
      ++ line ("return " ++ structValue env.wireName)) after
  rw [encoder_eq_func]
  simp only [List.append_assoc] at hbody ⊢
  exact ⟨_, structValue env.wireName, hbody, by simp [indent, line], encodingOf?_structValue env.wireName⟩

/-- The receiver of a typedef is chosen by the type below its layers. -/
theorem receiver_of_isStructRooted {ty root : Ty} (hroot : env.program.rootType? ty = some root) {byReference : Bool}
    (h : env.isStructRooted ty = .ok byReference) (ident : String) :
    (if byReference = true then "*" ++ ident else ident) = root.receiver ident := by
  obtain ⟨root', hroot', hmatch⟩ := Except.bind_eq_ok.mp h
  obtain rfl : root = root' := Option.some.inj (hroot.symm.trans (present_eq_ok.mp hroot'))
  cases root <;> cases hmatch <;> rfl

/-- The encoder of a typedef goes on with the value of the layer below. -/
theorem typedefCode_encoder (t : Typedef) {root : Ty} (hroot : env.program.rootType? t.target = some root) :
    Gives (env.typedefCode t) fun code => ∃ target returned, Answers (env.typeText t.target) target ∧
      Answers (env.encode t.target "x") returned ∧
      funcBody? (encoderSignature (root.receiver (goName t.name t.annotations)) env.wireName) code =
        some [⟨1, s!"x := ({target})(v)"⟩, ⟨1, "return " ++ returned⟩] := by
  refine .bind fun _ _ => .bind fun name hname => .bind fun type htype => .bind fun root' hroot' => ?_
  refine .bind fun byReference hreference => .bind fun wire hwire => .bind fun fmt _ => .bind fun encoded hencoded => ?_
  obtain ⟨-, rfl⟩ := identifier_eq_ok.mp hname.of_lift
  obtain rfl := wire_gives wire hwire
  obtain rfl : root = root' := Option.some.inj (hroot.symm.trans (present_eq_ok.mp hroot'.of_lift))
  have htext : Answers (env.typeText t.target) type.text := by
    obtain ⟨r, r', htype⟩ := htype
    exact ⟨r, r', Emit.bind_eq_ok.mpr ⟨type, r', htype, rfl⟩⟩
  have hbefore (underlying : String) :
      header (encoderSignature (root.receiver (goName t.name t.annotations)) env.wireName) ∉
        line s!"type {goName t.name t.annotations} {underlying}" ++ blank
          ++ (if root.isScalar then line s!"// Ptr returns a pointer to this {goName t.name t.annotations}"
              ++ func s!"(v {goName t.name t.annotations}) Ptr() *{goName t.name t.annotations}" (line "return &v")
            else [])
          ++ lines
            [s!"// ToWire translates {goName t.name t.annotations} into a Thrift-level intermediate",
             "// representation."] := by
    simp only [List.mem_append, not_or]
    refine ⟨⟨⟨header_notMem_line (by simp [toString]), header_notMem_line (by simp)⟩, ?_⟩,
      header_notMem_lines (by simp [toString])⟩
    split_ifs with hscalar
    · have hplain : root.receiver (goName t.name t.annotations) = goName t.name t.annotations := by
        cases root with
        | struct _ => cases hscalar
        | _ => rfl
      rw [hplain]
      exact List.not_mem_append (header_notMem_line (by simp [toString])) (header_notMem_func encoderSignature_ne_ptr _)
    · exact List.not_mem_nil
  have hbody (underlying : String) :=
    funcBody?_eq (hbefore underlying) (line s!"x := ({type.text})(v)" ++ line ("return " ++ encoded))
  simp only [List.append_assoc] at hbody
  dsimp only
  rw [receiver_of_isStructRooted hroot hreference.of_lift]
  refine .ite (.bind fun _ _ => ?_) (.bind fun _ _ => .bind fun _ _ => ?_)
  all_goals
    refine .bind fun _ _ => .bind fun _ _ => .pure ⟨type.text, encoded, htext, hencoded, ?_⟩
    simp only [List.append_assoc]
    exact hbody _ _

/-- The code that declares an enum or a struct has its encoder, which makes a value with the tag of the type. -/
theorem Declares.encoder {ty : Ty} {e : Entity} {ident : String} {part : Code} (h : env.Declares ident part e)
    (hnamed : ty.entity? = some e) (hnot : ty.isTypedef = false) (hident : env.program.identOf? e = some ident) :
    ∃ body returned, funcBody? (encoderSignature (ty.receiver ident) env.wireName) part = some body ∧
      body.getLast? = some ⟨1, "return " ++ returned⟩ ∧
      encodingOf? env.wireName returned = some (.makes ty.wireTag) := by
  cases ty with
  | enum r =>
    cases hnamed
    obtain ⟨e, he, hcode, -⟩ := h
    obtain rfl : goName e.name e.annotations = ident := by simpa [Program.identOf?, he] using hident
    exact enumCode_encoder e part hcode
  | struct r =>
    cases hnamed
    obtain ⟨s, hs, hcode, -⟩ := h
    obtain rfl : goName s.name s.annotations = ident := by simpa [Program.identOf?, hs] using hident
    exact structCode_encoder s part hcode
  | typedef r => cases hnot
  | base _ | list _ | set _ _ | map _ _ => cases hnamed

/-- The code that declares a typedef has its encoder, which goes on with the value of the layer below. -/
theorem Declares.layer {r : Ref .typedef} {t : Typedef} {root : Ty} {ident : String} {part : Code}
    (h : env.Declares ident part (.typedef r)) (ht : env.program.typedef? r = some t)
    (hroot : env.program.rootType? t.target = some root) (hident : env.program.identOf? (.typedef r) = some ident) :
    ∃ target returned, Answers (env.typeText t.target) target ∧ Answers (env.encode t.target "x") returned ∧
      funcBody? (encoderSignature (root.receiver ident) env.wireName) part =
        some [⟨1, s!"x := ({target})(v)"⟩, ⟨1, "return " ++ returned⟩] := by
  obtain ⟨t', _, ht', hcode, -⟩ := h
  obtain rfl : t = t' := Option.some.inj (ht.symm.trans ht')
  obtain rfl : goName t.name t.annotations = ident := by simpa [Program.identOf?, ht] using hident
  exact typedefCode_encoder t hroot part hcode

end Env

end GoSchema
