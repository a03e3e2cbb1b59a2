import GoSchema.Proofs.BuiltOnce
import GoSchema.Proofs.EncoderReading

/-!
# Marshalers in code

A type is logged through a marshaler, which is one of two methods: one for objects and one for arrays. This module reads
off a piece of code which of them it has for a receiver (`marshalersOf`), and says what is read for the helpers that log
containers and entries of maps, and for enums, structs and typedefs in the file that declares them.

## What is proved

* `marshaler?_header`: the line that opens a marshaler is read as that marshaler and as no other.
* `Env.helperSource_marshals`: a helper that logs has one marshaler, in the shape of what it was built for.
* `Env.enumCode_marshals`, `Env.recordLog_marshals`, `Env.typedefLog_marshals` and `Env.Declares.marshals`: what is
  read off the code of a declaration.

A marshaler is known by the line that opens it. Its body is not looked at, and that Go takes a type with this
method for one that can be logged is known of Go.
-/

namespace GoSchema

open Go

/-! ### Reading -/

/-- The shape of the marshaler for this receiver that a line opens. Whatever single letter names the receiver inside the
method, the line has the method's name and an opening parenthesis behind it. -/
def marshaler? (receiver : String) (l : Line) : Option LogShape :=
  if l.depth = 0 ∧ "func (".toList <+: l.text.toList then
    [LogShape.object, .array].find? fun shape =>
      (" " ++ receiver ++ ") " ++ shape.marshaler ++ "(").toList.isPrefixOf (l.text.toList.drop 7)
  else none

/-- The shapes of the marshalers that a piece of code has for a receiver. -/
def marshalersOf (receiver : String) (code : Code) : List LogShape := code.filterMap (marshaler? receiver)

section
variable {receiver : String}

@[simp] theorem marshalersOf_append (a b : Code) :
    marshalersOf receiver (a ++ b) = marshalersOf receiver a ++ marshalersOf receiver b :=
  List.filterMap_append

theorem marshaler?_of_head {text : String} (h : text.toList.head? ≠ some 'f') (depth : Nat) :
    marshaler? receiver ⟨depth, text⟩ = none := by
  rw [marshaler?, if_neg]
  rintro ⟨-, rest, hrest⟩
  dsimp only at hrest
  rw [← hrest] at h
  simp at h

theorem marshalersOf_line {text : String} (h : text.toList.head? ≠ some 'f') :
    marshalersOf receiver (line text) = [] := by
  rw [line, marshalersOf, List.filterMap_cons_none (marshaler?_of_head h 0), List.filterMap_nil]

theorem marshalersOf_lines {texts : List String} (h : ∀ t ∈ texts, t.toList.head? ≠ some 'f') :
    marshalersOf receiver (lines texts) = [] := by
  rw [marshalersOf, List.filterMap_eq_nil_iff]
  intro l hl
  obtain ⟨t, ht, rfl⟩ := List.mem_map.mp hl
  exact marshaler?_of_head (h t ht) 0

theorem marshalersOf_indent (code : Code) : marshalersOf receiver (indent code) = [] := by
  rw [marshalersOf, List.filterMap_eq_nil_iff]
  intro l hl
  obtain ⟨l', -, rfl⟩ := List.mem_map.mp hl
  simp [marshaler?]

theorem marshalersOf_block {head : String} (h : (head ++ " \x7b").toList.head? ≠ some 'f') (body : Code) :
    marshalersOf receiver (block head body) = [] := by
  simp only [block, marshalersOf_append, marshalersOf_line h, marshalersOf_indent, List.append_nil, List.nil_append]
  exact marshalersOf_line (by simp)

/-- Names of marshalers differ before they end. -/
theorem marshaler_isPrefix_iff {shape shape' : LogShape} {rest : List Char} :
    (shape.marshaler ++ "(").toList <+: (shape'.marshaler ++ "(").toList ++ rest ↔ shape = shape' := by
  cases shape <;> cases shape' <;> simp [LogShape.marshaler, LogShape.noun]

/-- The signature of a marshaler, where `name` names the receiver inside the method. -/
def marshalerSignature (name : Char) (receiver : String) (shape : LogShape) (rest : String) : String :=
  "(" ++ String.singleton name ++ " " ++ receiver ++ ") " ++ shape.marshaler ++ "(" ++ rest

/-- The line that opens a marshaler is read as that marshaler and as no other. -/
theorem marshaler?_header (name : Char) (shape : LogShape) (rest : String) :
    marshaler? receiver (header (marshalerSignature name receiver shape rest)) = some shape := by
  have htext : (header (marshalerSignature name receiver shape rest)).text.toList =
      "func (".toList ++ name :: ((" " ++ receiver ++ ") ").toList ++
        ((shape.marshaler ++ "(").toList ++ (rest ++ " \x7b").toList)) := by
    simp [header, marshalerSignature]
  have hreads (shape' : LogShape) : (" " ++ receiver ++ ") " ++ shape'.marshaler ++ "(").toList.isPrefixOf
      ((header (marshalerSignature name receiver shape rest)).text.toList.drop 7) = decide (shape' = shape) := by
    have hdrop : (header (marshalerSignature name receiver shape rest)).text.toList.drop 7 =
        (" " ++ receiver ++ ") ").toList ++ ((shape.marshaler ++ "(").toList ++ (rest ++ " \x7b").toList) := by
      rw [htext]
      rfl
    rw [hdrop, String.append_assoc, String.toList_append, Bool.eq_iff_iff, List.isPrefixOf_iff_prefix,
      List.prefix_append_right_inj, marshaler_isPrefix_iff, decide_eq_true_eq]
  have hopens : "func (".toList <+: (header (marshalerSignature name receiver shape rest)).text.toList := by
    rw [htext]
    exact List.prefix_append _ _
  rw [marshaler?, if_pos ⟨rfl, hopens⟩]
  simp only [hreads]
  cases shape <;> rfl

theorem marshalersOf_func (name : Char) (shape : LogShape) (rest : String) (body : Code) :
    marshalersOf receiver (func (marshalerSignature name receiver shape rest) body) = [shape] := by
  have hopen : marshalersOf receiver (line ("func " ++ marshalerSignature name receiver shape rest ++ " \x7b")) =
      [shape] := List.filterMap_cons_some (marshaler?_header name shape rest)
  have hclose : marshalersOf receiver (line "\x7d") = [] := marshalersOf_line (by simp)
  have hblank : marshalersOf receiver blank = [] := @marshalersOf_line receiver "" (by simp)
  rw [func, block, marshalersOf_append, marshalersOf_append, marshalersOf_append, hopen, marshalersOf_indent, hclose,
    hblank]
  rfl

end

/-! ### Helpers -/

theorem marshalersOf_comment (shape : LogShape) (receiver name : String) :
    marshalersOf receiver (marshalerComment shape name) = [] :=
  marshalersOf_lines (by simp [toString])

theorem marshalersOf_marshalerCode {receiver : String} (hreceiver : ∃ c, receiver.toList = [c]) (shape : LogShape)
    (name zapcore : String) (body : Code) :
    marshalersOf name (marshalerCode shape receiver name zapcore body) = [shape] := by
  obtain ⟨c, hc⟩ := hreceiver
  have hsignature : s!"({receiver} {name}) {shape.marshaler}(enc {zapcore}.{shape.encoder}) (err error)" =
      marshalerSignature c name shape ("enc " ++ zapcore ++ "." ++ shape.encoder ++ ") (err error)") := by
    simp [← String.toList_inj, marshalerSignature, toString, hc]
  rw [marshalerCode, marshalersOf_append, marshalersOf_comment, hsignature, marshalersOf_func]
  rfl

/-- The shape of the marshaler that the helper for a request has: that of a container, or an object for the entries
of a map. -/
def Request.logShape? (p : Program) (q : Request) : Option LogShape :=
  match q.role, q.type with
  | .zapper, ty => p.logShape? ty
  | .itemZapper, .map _ _ => some .object
  | _, _ => none

/-- The shape in which a typedef of a struct or of a container is logged, by the type below all its layers. -/
def Program.marshaledAs? (p : Program) (root : Ty) : Option LogShape :=
  match root with
  | .struct _ => some .object
  | .list _ | .set _ _ | .map _ _ => p.logShape? root
  | .base _ | .enum _ | .typedef _ => none

/-- The shape of the marshaler that a declared type has; typedefs of base types and of enums have none. -/
def Program.declaredShape? (p : Program) : Ty → Option LogShape
  | .enum _ | .struct _ => some .object
  | .typedef r => (p.rootType? (.typedef r)).bind p.marshaledAs?
  | .base _ | .list _ | .set _ _ | .map _ _ => none

namespace Env

variable {env : Env}

theorem marshalersOf_typeLine (receiver name type : String) :
    marshalersOf receiver (line s!"type {name} {type}" ++ blank) = [] := by
  have htype : marshalersOf receiver (line s!"type {name} {type}") = [] := marshalersOf_line (by simp [toString])
  have hblank : marshalersOf receiver blank = [] := @marshalersOf_line receiver "" (by simp)
  rw [marshalersOf_append, htype, hblank]
  rfl

theorem sequenceZapper_marshals (type zapcore : String) (keyed : Except GenError Bool) (element : Emit LogValue)
    (name : String) :
    Gives (env.sequenceZapper type zapcore keyed element name) fun code => marshalersOf name code = [.array] := by
  refine .bind fun keyed _ => .bind fun value _ => .bind fun append _ => .pure ?_
  rw [marshalersOf_append, marshalersOf_typeLine, List.nil_append]
  exact marshalersOf_marshalerCode (by simp) .array name zapcore _

theorem mapZapper_marshals (type zapcore : String) (key value : Ty) (shape : LogShape)
    (logKey logEntry : String → Emit LogValue) (name : String) :
    Gives (env.mapZapper type zapcore key value shape logKey logEntry name) fun code =>
      marshalersOf name code = [shape] := by
  cases shape with
  | object =>
    refine .bind fun value _ => .bind fun add _ => .pure ?_
    rw [marshalersOf_append, marshalersOf_typeLine, List.nil_append]
    exact marshalersOf_marshalerCode (by simp) .object name zapcore _
  | array =>
    refine .bind fun item _ => .bind fun multierr _ => .bind fun keyed _ => .pure ?_
    rw [marshalersOf_append, marshalersOf_typeLine, List.nil_append]
    exact marshalersOf_marshalerCode (by simp) .array name zapcore _

theorem itemZapperCode_marshals (key value : Ty) (logKey logEntry : String → Emit LogValue) (name : String) :
    Gives (env.itemZapperCode key value logKey logEntry name) fun code => marshalersOf name code = [.object] := by
  refine .bind fun keyType _ => .bind fun valueType _ => .bind fun zapcore _ => .bind fun _ _ => ?_
  refine .bind fun addKey _ => .bind fun _ _ => .bind fun addValue _ => .pure ?_
  have htype (body : Code) : marshalersOf name (block s!"type {name} struct" body) = [] :=
    marshalersOf_block (by simp [toString]) body
  have hblank : marshalersOf name blank = [] := @marshalersOf_line name "" (by simp)
  rw [marshalersOf_append, marshalersOf_append, htype, hblank, List.nil_append, List.nil_append]
  exact marshalersOf_marshalerCode (by simp) .object name zapcore _

theorem zapperCode_marshals (ty : Ty) (name : String) :
    Gives (env.zapperCode ty name) fun code =>
      ∃ built, env.program.logShape? ty = some built ∧ marshalersOf name code = [built] := by
  cases ty with
  | list e | set e a =>
    refine .bind fun type _ => .bind fun zapcore _ code hcode => ⟨.array, rfl, ?_⟩
    exact sequenceZapper_marshals _ _ _ _ name code hcode
  | map k v =>
    refine .bind fun type _ => .bind fun zapcore _ => .bind fun shape hshape code hcode => ?_
    exact ⟨shape, present_eq_ok.mp hshape.of_lift, mapZapper_marshals _ _ k v shape _ _ name code hcode⟩
  | base _ | enum _ | struct _ | typedef _ => exact .bind fun _ _ => .bind fun _ _ => .throw

/-- A helper that logs has one marshaler, in the shape of what it was built for. -/
theorem helperSource_marshals {q : Request} (hrole : q.role.isLogging = true) :
    Gives (env.helperSource q.role q.type q.symbol) fun code =>
      ∃ built, q.logShape? env.program = some built ∧ marshalersOf q.symbol code = [built] := by
  obtain ⟨role, ty, name⟩ := q
  cases role with
  | valueList | mapItemList | read | equals | equalsPtr | ptr => cases hrole
  | zapper => exact zapperCode_marshals ty name
  | itemZapper =>
    cases ty with
    | map k v => exact fun code hcode => ⟨.object, rfl, itemZapperCode_marshals k v _ _ name code hcode⟩
    | base _ | list _ | set _ _ | enum _ | struct _ | typedef _ => exact .throw

/-! ### Declared types -/

/-- Enums are logged as objects. -/
theorem enumCode_marshals (hzap : env.options.noZap = false) (e : Enum) :
    Gives (env.enumCode e) fun code => LogShape.object ∈ marshalersOf (goName e.name e.annotations) code := by
  refine .bind fun name hname => .bind fun items _ => .bind fun wire _ => .bind fun fmt _ => ?_
  refine .bind fun strconv _ => .bind fun json _ => .bind fun bytes _ => .bind fun math _ => ?_
  obtain ⟨-, rfl⟩ := identifier_eq_ok.mp hname.of_lift
  dsimp only
  rw [hzap]
  refine .bind fun zapcore _ => .bind fun log hlog => .pure ?_
  obtain rfl := hlog.of_pure
  have hsignature : s!"(v {goName e.name e.annotations}) MarshalLogObject(enc {zapcore}.ObjectEncoder) error" =
      marshalerSignature 'v' (goName e.name e.annotations) .object ("enc " ++ zapcore ++ ".ObjectEncoder) error") := by
    simp [← String.toList_inj, marshalerSignature, LogShape.marshaler, LogShape.noun, toString]
  simp only [marshalersOf_append, List.mem_append]
  refine .inl (.inl (.inl (.inl (.inl (.inr ?_)))))
  rw [enumMarshalLog, hsignature, marshalersOf_append, marshalersOf_func]
  exact List.mem_append_right _ (List.mem_singleton_self _)

/-- Records are logged as objects. -/
theorem recordLog_marshals (hzap : env.options.noZap = false) (r : Record) (ms : List Member) :
    Gives (env.recordLog r ms) fun code => LogShape.object ∈ marshalersOf ("*" ++ r.ident) code := by
  unfold recordLog
  rw [hzap]
  refine .bind fun zapcore _ => .bind fun adds _ => .pure ?_
  have hsignature : s!"(v *{r.ident}) MarshalLogObject(enc {zapcore}.ObjectEncoder) (err error)" =
      marshalerSignature 'v' ("*" ++ r.ident) .object ("enc " ++ zapcore ++ ".ObjectEncoder) (err error)") := by
    simp [← String.toList_inj, marshalerSignature, LogShape.marshaler, LogShape.noun, toString]
  rw [hsignature, marshalersOf_append, marshalersOf_func]
  exact List.mem_append_right _ (List.mem_singleton_self _)

theorem recordCode_marshals (hzap : env.options.noZap = false) (r : Record) (ms : List Member) :
    Gives (env.recordCode r ms) fun code => LogShape.object ∈ marshalersOf ("*" ++ r.ident) code := by
  refine .bind fun toWire _ => .bind fun fromWire _ => .bind fun string _ => .bind fun equals _ => ?_
  refine .bind fun log hlog => .bind fun accessors _ => ?_
  have hlog := recordLog_marshals hzap r ms log hlog
  dsimp only
  cases r.envelope with
  | none | some _ =>
    refine .bind fun envelope _ => .pure ?_
    simp only [marshalersOf_append, List.mem_append]
    exact .inl (.inl (.inl (.inr hlog)))

theorem structCode_marshals (hzap : env.options.noZap = false) (s : Struct) :
    Gives (env.structCode s) fun code => LogShape.object ∈ marshalersOf ("*" ++ goName s.name s.annotations) code := by
  intro code hcode
  obtain ⟨ms, -, hrecord⟩ := structCode_record hcode
  exact recordCode_marshals hzap (s.record (goName s.name s.annotations)) ms code hrecord

theorem zapper_gives {root : Ty} {shape : LogShape} (hshape : env.program.logShape? root = some shape) :
    Gives (env.zapper root) fun answer => answer.2 = shape := by
  refine .bind fun shape' hshape' => .bind fun zapper _ => .pure ?_
  exact Option.some.inj ((present_eq_ok.mp hshape'.of_lift).symm.trans hshape)

/-- A typedef has the marshaler of the struct or the container below it. -/
theorem typedefLog_marshals (hzap : env.options.noZap = false) (receiver target : String) {root : Ty} {shape : LogShape}
    (hroot : env.program.marshaledAs? root = some shape) :
    Gives (env.typedefLog receiver target root) fun code => shape ∈ marshalersOf receiver code := by
  unfold typedefLog
  rw [hzap]
  refine .bind fun zapcore _ => ?_
  cases root with
  | base _ | enum _ | typedef _ => cases hroot
  | struct r =>
    cases hroot
    have hsignature : s!"(v {receiver}) MarshalLogObject(enc {zapcore}.ObjectEncoder) error" =
        marshalerSignature 'v' receiver .object ("enc " ++ zapcore ++ ".ObjectEncoder) error") := by
      simp [← String.toList_inj, marshalerSignature, LogShape.marshaler, LogShape.noun, toString]
    refine .pure ?_
    rw [hsignature, marshalersOf_func]
    exact List.mem_singleton_self _
  | list _ | set _ _ | map _ _ =>
    rw [Program.marshaledAs?] at hroot
    refine .bind fun ⟨zapper, built⟩ hanswer => .pure ?_
    obtain rfl : built = shape := zapper_gives hroot _ hanswer
    have hsignature : s!"(v {receiver}) {built.marshaler}(enc {zapcore}.{built.encoder}) error" =
        marshalerSignature 'v' receiver built ("enc " ++ zapcore ++ "." ++ built.encoder ++ ") error") := by
      simp [← String.toList_inj, marshalerSignature, toString]
    rw [hsignature, marshalersOf_func]
    exact List.mem_singleton_self _

theorem typedefCode_marshals (hzap : env.options.noZap = false) (t : Typedef) {root : Ty}
    (hroot : env.program.rootType? t.target = some root) {shape : LogShape}
    (hshape : env.program.marshaledAs? root = some shape) :
    Gives (env.typedefCode t) fun code => shape ∈ marshalersOf (root.receiver (goName t.name t.annotations)) code := by
  refine .bind fun _ _ => .bind fun name hname => .bind fun type _ => .bind fun root' hroot' => ?_
  refine .bind fun byReference hreference => .bind fun wire _ => .bind fun fmt _ => .bind fun encoded _ => ?_
  obtain ⟨-, rfl⟩ := identifier_eq_ok.mp hname.of_lift
  obtain rfl : root = root' := Option.some.inj (hroot.symm.trans (present_eq_ok.mp hroot'.of_lift))
  dsimp only
  rw [receiver_of_isStructRooted hroot hreference.of_lift]
  refine .ite (.bind fun _ _ => ?_) (.bind fun _ _ => .bind fun _ _ => ?_)
  all_goals
    refine .bind fun eq _ => .bind fun log hlog => .pure ?_
    rw [marshalersOf_append]
    exact List.mem_append_right _ (typedefLog_marshals hzap _ _ hshape log hlog)

/-- The code that declares a type has its marshaler. -/
theorem Declares.marshals (hzap : env.options.noZap = false) {ty root : Ty} {layers : List (Ref .typedef)} {e : Entity}
    {ident : String} {part : Code} {shape : LogShape} (h : env.Declares ident part e)
    (hnamed : ty.entity? = some e) (hident : env.program.identOf? e = some ident)
    (hunfolds : env.program.Unfolds ty layers root) (hshape : env.program.declaredShape? ty = some shape) :
    shape ∈ marshalersOf (root.receiver ident) part := by
  cases ty with
  | base _ | list _ | set _ _ | map _ _ => cases hnamed
  | enum r =>
    cases hnamed
    cases hshape
    cases hunfolds
    obtain ⟨e, he, hcode, -⟩ := h
    obtain rfl : goName e.name e.annotations = ident := by simpa [Program.identOf?, he] using hident
    exact enumCode_marshals hzap e part hcode
  | struct r =>
    cases hnamed
    cases hshape
    cases hunfolds
    obtain ⟨s, hs, hcode, -⟩ := h
    obtain rfl : goName s.name s.annotations = ident := by simpa [Program.identOf?, hs] using hident
    exact structCode_marshals hzap s part hcode
  | typedef r =>
    cases hnamed
    rw [Program.declaredShape?, hunfolds.rootType?_eq, Option.bind_some] at hshape
    cases hunfolds with
    | stop hnot => cases hnot
    | layer ht hbelow =>
      obtain ⟨t, _, ht', hcode, -⟩ := h
      obtain rfl : goName t.name t.annotations = ident := by simpa [Program.identOf?, ht'] using hident
      rw [Option.some.inj (ht.symm.trans ht')] at hbelow
      exact typedefCode_marshals hzap t hbelow.rootType?_eq hshape part hcode

end Env

end GoSchema
