import GoSchema.Proofs.RecordCodec
import GoSchema.Proofs.Steadiness

/-!
# Rendering is stable

The text that stands for a Go type, for an encoded or decoded value, for a comparison or for a literal is the same
wherever in a run it is put together, once it has been put together. So the statements that set absent fields to
their defaults are the same in the encoder and in the decoder of a record, though each puts them together anew.

## What is proved

* `Env.typeText_steady`, `Env.encode_steady`, `Env.decode_steady`, `Env.equals_steady` and `Env.literal_steady`:
  each of the emitters gives an answer again at every later point of the run.
* `Env.recordCode_sharesDefaults`: the defaults are put together twice, the second time at a later point, and are
  the same statements.
* `Program.rendering_stable`: this along any history from any point of a run, and for all structs of the file.

Stability begins with the first answer. Before it, the same type may get another symbol in another run, since
symbols are numbered in the order in which declarations are met.
-/

namespace GoSchema

open Go

namespace Env

variable {env : Env}

/-! ### Packages and types -/

theorem package_steady (path : String) : Steady (env.package path) := (Steady.usePaths _).bind fun _ => .pure _

theorem wire_steady : Steady env.wire := package_steady _

theorem refer_steady (ref : Reference) : Steady (refer ref) := (Steady.usePaths _).bind fun _ => .pure _

theorem typeRef_steady (ty : Ty) : Steady (env.typeRef ty) :=
  (Steady.lift _).bind fun t => (Steady.usePaths t.paths).bind fun _ => .pure t

theorem typeText_steady (ty : Ty) : Steady (env.typeText ty) := (typeRef_steady ty).bind fun _ => .pure _

/-! ### The wire format -/

theorem wireTag_steady (ty : Ty) : Steady (env.wireTag ty) :=
  wire_steady.bind fun _ => (Steady.lift _).bind fun _ => .pure _

theorem newValue_steady (accessor value : String) : Steady (env.newValue accessor value) :=
  wire_steady.bind fun _ => .pure _

theorem nilGuard_steady (ty : Ty) (element receiver what container : String) :
    Steady (env.nilGuard ty element receiver what container) := by
  refine (Steady.lift _).bind fun byReference => ?_
  cases byReference with
  | true => exact (package_steady _).bind fun _ => .pure _
  | false => exact .pure _

theorem sequenceAdapter_steady (ty element : Ty) (keyed : Bool) (container : String) {encodeElement : Emit String}
    (hencode : Steady encodeElement) (name : String) :
    Steady (env.sequenceAdapter ty element keyed container encodeElement name) :=
  (typeText_steady ty).bind fun _ => wire_steady.bind fun _ => (nilGuard_steady _ _ _ _ _).bind fun _ =>
    hencode.bind fun _ => (wireTag_steady element).bind fun _ => .pure _

theorem mapAdapter_steady (key value : Ty) {encodeKey encodeEntry : Emit String} (hkey : Steady encodeKey)
    (hentry : Steady encodeEntry) (name : String) :
    Steady (env.mapAdapter key value encodeKey encodeEntry name) := by
  refine (typeText_steady _).bind fun _ => wire_steady.bind fun _ => ?_
  refine (nilGuard_steady _ _ _ _ _).bind fun _ => (nilGuard_steady _ _ _ _ _).bind fun _ => ?_
  refine hkey.bind fun _ => hentry.bind fun _ => ?_
  refine (wireTag_steady key).bind fun _ => (wireTag_steady value).bind fun _ => ?_
  exact (Steady.lift _).bind fun _ => .pure _

theorem encode_steady (ty : Ty) (value : String) : Steady (env.encode ty value) := by
  induction ty generalizing value with
  | base b => exact newValue_steady _ _
  | enum r | struct r | typedef r => exact .pure _
  | list e ih =>
    refine (request_steady _ _ fun name => ?_).bind fun _ => newValue_steady _ _
    exact sequenceAdapter_steady _ _ _ _ (ih "x") name
  | set e a ih =>
    refine (request_steady _ _ fun name => ?_).bind fun _ => newValue_steady _ _
    exact (Steady.lift _).bind fun _ => sequenceAdapter_steady _ _ _ _ (ih "x") name
  | map k v ihk ihv =>
    refine (request_steady _ _ fun name => ?_).bind fun _ => newValue_steady _ _
    exact mapAdapter_steady k v (ihk "k") (ihv "v") name

theorem tagCheck_steady (container accessor : String) (expected : Ty) (what : String) :
    Steady (env.tagCheck container accessor expected what) :=
  (package_steady _).bind fun _ => (wireTag_steady expected).bind fun _ => .pure _

theorem sequenceReader_steady (ty element : Ty) (keyed : Bool) (container source : String)
    {decodeElement : Emit String} (hdecode : Steady decodeElement) (name : String) :
    Steady (env.sequenceReader ty element keyed container source decodeElement name) :=
  (typeText_steady ty).bind fun _ => wire_steady.bind fun _ => (tagCheck_steady _ _ _ _).bind fun _ =>
    hdecode.bind fun _ => .pure _

theorem mapReader_steady (key value : Ty) {decodeKey decodeEntry : Emit String} (hkey : Steady decodeKey)
    (hentry : Steady decodeEntry) (name : String) :
    Steady (env.mapReader key value decodeKey decodeEntry name) := by
  refine (typeRef_steady _).bind fun _ => wire_steady.bind fun _ => ?_
  refine (tagCheck_steady _ _ _ _).bind fun _ => (tagCheck_steady _ _ _ _).bind fun _ => ?_
  exact hkey.bind fun _ => hentry.bind fun _ => .pure _

theorem namedReaderCode_steady (ty : Ty) (name : String) : Steady (env.namedReaderCode ty name) :=
  (Steady.lift _).bind fun _ => (typeRef_steady ty).bind fun _ => wire_steady.bind fun _ => .pure _

theorem decode_steady (ty : Ty) (value : String) : Steady (env.decode ty value) := by
  induction ty generalizing value with
  | base b => exact .pure _
  | enum r | struct r | typedef r =>
    exact (request_steady _ _ fun name => namedReaderCode_steady _ name).bind fun _ => .pure _
  | list e ih =>
    refine (request_steady _ _ fun name => ?_).bind fun _ => .pure _
    exact sequenceReader_steady _ _ _ _ _ (ih "x") name
  | set e a ih =>
    refine (request_steady _ _ fun name => ?_).bind fun _ => .pure _
    exact (Steady.lift _).bind fun _ => sequenceReader_steady _ _ _ _ _ (ih "x") name
  | map k v ihk ihv =>
    refine (request_steady _ _ fun name => ?_).bind fun _ => .pure _
    exact mapReader_steady k v (ihk "x.Key") (ihv "x.Value") name

/-! ### Equality -/

theorem equals_steady (ty : Ty) (lhs rhs : String) : Steady (env.equals ty lhs rhs) := by
  induction ty generalizing lhs rhs with
  | base b =>
    cases b with
    | binary => exact (package_steady _).bind fun _ => .pure _
    | _ => exact .pure _
  | enum r | struct r | typedef r => exact .pure _
  | list e ih =>
    refine (request_steady _ _ fun name => ?_).bind fun _ => .pure _
    exact (typeText_steady _).bind fun _ => (ih _ _).bind fun _ => .pure _
  | set e a ih =>
    refine (request_steady _ _ fun name => ?_).bind fun _ => .pure _
    refine (typeText_steady _).bind fun _ => (Steady.lift _).bind fun keyed => ?_
    cases keyed with
    | true => exact .pure _
    | false => exact (ih _ _).bind fun _ => .pure _
  | map k v ihk ihv =>
    refine (request_steady _ _ fun name => ?_).bind fun _ => .pure _
    refine (typeText_steady _).bind fun _ => (ihv _ _).bind fun _ => (Steady.lift _).bind fun keyed => ?_
    cases keyed with
    | true => exact .pure _
    | false => exact (ihk _ _).bind fun _ => .pure _

/-! ### Literals -/

theorem ptrHelper_steady (ty : Ty) : Steady (env.ptrHelper ty) :=
  request_steady _ _ fun _ => (typeText_steady ty).bind fun _ => .pure _

theorem pointerTo_steady (ty : Ty) (expr : String) : Steady (env.pointerTo ty expr) := by
  cases ty with
  | enum r => exact .pure _
  | typedef r =>
    refine (Steady.lift _).bind fun byReference => ?_
    cases byReference with
    | true => exact .throw _
    | false => exact .pure _
  | base b =>
    cases b with
    | binary => exact .throw _
    | _ => exact (ptrHelper_steady _).bind fun _ => .pure _
  | list _ | set _ _ | map _ _ | struct _ => exact .throw _

theorem held_steady (ty : Ty) (required : Bool) (literal : String) : Steady (env.held ty required literal) := by
  refine (Steady.lift _).bind fun holding => ?_
  cases holding with
  | pointer => exact pointerTo_steady ty literal
  | value | nilable => exact .pure _

theorem convert_steady (layers : List (Ref .typedef)) (expr : String) : Steady (env.convert layers expr) := by
  induction layers with
  | nil => exact .pure _
  | cons layer layers ih =>
    rw [convert]
    exact ih.bind fun _ => (typeText_steady _).bind fun _ => .pure _

theorem doubleLiteral_steady (d : Double) : Steady (env.doubleLiteral d) := by
  refine .ite ?_ (.ite (.pure _) ?_)
  · exact (package_steady _).bind fun _ => .pure _
  · exact (package_steady _).bind fun _ => .pure _

theorem intAt_steady (site : Site) (root : Ty) (n : Int64) : Steady (env.intAt site root n) := by
  unfold intAt
  split
  · exact .ite (.pure _) (.ite (.pure _) (.throw _))
  · exact .pure _
  · split
    · exact .lift _
    · exact .throw _
  · exact (Steady.lift _).bind fun ref => (refer_steady ref).bind fun _ => (Steady.lift _).bind fun _ => .pure _
  · exact .throw _

mutual

theorem literal_steady (site : Site) (ty : Ty) : ∀ v : Value, Steady (env.literal site ty v)
  | .constant r => by
    rw [literal]
    exact (Steady.lift _).bind fun ref => refer_steady ref
  | .bool b => by
    rw [literal]
    refine (Steady.lift _).bind fun ⟨layers, root⟩ => ?_
    dsimp only
    split
    · exact convert_steady _ _
    · exact .throw _
  | .int n => by
    rw [literal]
    refine (Steady.lift _).bind fun ⟨layers, root⟩ => ?_
    exact (intAt_steady site root n).bind fun _ => convert_steady _ _
  | .double d => by
    rw [literal]
    refine (Steady.lift _).bind fun ⟨layers, root⟩ => ?_
    dsimp only
    split
    · exact (doubleLiteral_steady d).bind fun _ => convert_steady _ _
    · exact .throw _
  | .string s => by
    rw [literal]
    refine (Steady.lift _).bind fun ⟨layers, root⟩ => ?_
    exact (Steady.lift _).bind fun _ => convert_steady _ _
  | .enumItem e i => by
    rw [literal]
    refine (Steady.lift _).bind fun ⟨layers, root⟩ => ?_
    dsimp only
    split
    · refine .ite ?_ (.throw _)
      exact (Steady.lift _).bind fun ref => (refer_steady ref).bind fun _ => convert_steady _ _
    · exact .throw _
  | .list items => by
    rw [literal]
    refine (Steady.lift _).bind fun ⟨layers, root⟩ => ?_
    dsimp only
    split
    · exact (typeText_steady _).bind fun _ => (itemLiterals_steady site _ items).bind fun _ => convert_steady _ _
    · refine (typeText_steady _).bind fun _ => (itemLiterals_steady site _ items).bind fun _ => ?_
      exact (Steady.lift _).bind fun _ => convert_steady _ _
    · exact .throw _
  | .map entries => by
    rw [literal]
    refine (Steady.lift _).bind fun ⟨layers, root⟩ => ?_
    dsimp only
    split
    · refine (typeText_steady _).bind fun _ => (Steady.lift _).bind fun keyed => ?_
      exact (entryLiterals_steady site _ _ keyed entries).bind fun _ => convert_steady _ _
    · refine (Steady.lift _).bind fun s => (Steady.lift _).bind fun ref => (refer_steady ref).bind fun _ => ?_
      exact (fieldLiterals_steady site s entries).bind fun _ => convert_steady _ _
    · exact .throw _

theorem itemLiterals_steady (site : Site) (element : Ty) :
    ∀ vs : List Value, Steady (env.itemLiterals site element vs)
  | [] => by
    rw [itemLiterals]
    exact .pure _
  | v :: vs => by
    rw [itemLiterals]
    exact (literal_steady site element v).bind fun _ => (itemLiterals_steady site element vs).bind fun _ => .pure _

theorem entryLiterals_steady (site : Site) (key value : Ty) (keyed : Bool) :
    ∀ es : List (Value × Value), Steady (env.entryLiterals site key value keyed es)
  | [] => by
    rw [entryLiterals]
    exact .pure _
  | (k, v) :: es => by
    rw [entryLiterals]
    exact (literal_steady site key k).bind fun _ => (literal_steady site value v).bind fun _ =>
      (entryLiterals_steady site key value keyed es).bind fun _ => .pure _

theorem fieldLiterals_steady (site : Site) (s : Struct) :
    ∀ es : List (Value × Value), Steady (env.fieldLiterals site s es)
  | [] => by
    rw [fieldLiterals]
    exact .pure _
  | (k, v) :: es => by
    rw [fieldLiterals]
    refine (Steady.lift _).bind fun slot => (literal_steady site slot.type v).bind fun _ => ?_
    exact (held_steady _ _ _).bind fun _ => (fieldLiterals_steady site s es).bind fun _ => .pure _

end

/-! ### Defaults -/

theorem fillDefaults_steady (ms : List Member) : Steady (env.fillDefaults ms) := by
  induction ms with
  | nil => exact .pure _
  | cons m ms ih =>
    rw [fillDefaults]
    dsimp only
    cases m.filling with
    | none => exact (Steady.pure _).bind fun _ => ih.bind fun _ => .pure _
    | some default =>
      have hvalue : Steady (env.fieldValue (env.site ("default of " ++ m.entity)) m.type m.required default) :=
        (literal_steady _ _ _).bind fun _ => held_steady _ _ _
      exact hvalue.bind fun _ => (Steady.pure _).bind fun _ => ih.bind fun _ => .pure _

theorem requiredCheck_steady (r : Record) (m : Member) : Steady (env.requiredCheck r m) := by
  refine .ite (.pure _) ((Steady.lift _).bind fun root => ?_)
  cases root with
  | struct _ | set _ _ | map _ _ => exact (package_steady _).bind fun _ => .pure _
  | base _ | list _ | enum _ | typedef _ => exact .pure _

theorem encodeMember_steady (r : Record) (wire : String) (m : Member) : Steady (env.encodeMember r wire m) :=
  (encode_steady _ _).bind fun _ => (requiredCheck_steady r m).bind fun _ => .pure _

theorem decodeMember_steady (m : Member) : Steady (env.decodeMember m) := by
  refine (wireTag_steady _).bind fun _ => (decode_steady _ _).bind fun _ => ?_
  dsimp only
  cases m.holding with
  | pointer => exact (typeText_steady _).bind fun _ => (Steady.pure _).bind fun _ => .pure _
  | value | nilable => exact (Steady.pure _).bind fun _ => .pure _

variable {r : Record} {ms : List Member}

/-- In the code, the encoder and the decoder of a record set absent fields to their defaults by the same
statements. -/
def SharesDefaults (env : Env) (r : Record) (ms : List Member) (code : Code) : Prop :=
  ∃ wire defaults encoders check branches after, Answers (env.fillDefaults ms) defaults ∧
    Answers (ms.mapM (env.encodeMember r wire)) encoders ∧ Answers (ms.mapM env.decodeMember) branches ∧
    encoder r wire ms.length defaults encoders.flatten check <:+: code ∧
    decoder r wire ms branches.flatten defaults after <:+: code

/-- The defaults are put together twice, the second time at a later point. -/
theorem recordCode_sharesDefaults {part code : Code} (h : Answers (env.recordCode r ms) part)
    (hinside : part <:+: code) : env.SharesDefaults r ms code := by
  obtain ⟨run, run', h⟩ := h
  obtain ⟨toWire, run₁, fromWire, run₂, htoWire, hfromWire, hopening, hfromWireIn⟩ := recordCode_eq_ok h
  obtain ⟨wire, start, defaults, middle, encoders, last, check, hwire, hdefaults, hencoders, hend, hencoder⟩ :=
    toWire_eq_ok htoWire
  obtain ⟨wire', start', branches, last', defaults', _, after, hwire', hbranches, hdefaults', hdecoder⟩ :=
    fromWire_eq_ok hfromWire
  -- From the defaults of the encoder on: the fields are encoded, and then the fields are decoded.
  have hencoded : middle.Before run₁ := by
    refine ((Steady.mapM (encodeMember_steady r wire) ms).advances hencoders).trans ?_
    rcases hend with rfl | ⟨fmt, hfmt⟩
    · exact .refl _
    · exact (package_steady _).advances hfmt
  have hdecoded : run₁.Before last' :=
    (wire_steady.advances hwire').trans ((Steady.mapM decodeMember_steady ms).advances hbranches)
  have hfilled : start.Before middle := (fillDefaults_steady ms).advances hdefaults
  obtain rfl := wire_steady.agree hwire (hfilled.trans hencoded) hwire'
  obtain rfl := (fillDefaults_steady ms).agree hdefaults (hencoded.trans hdecoded) hdefaults'
  have htoWireIn : toWire <:+: part := (List.suffix_append _ _).isInfix.trans hopening.isInfix
  have hencoderIn : encoder r wire ms.length defaults encoders.flatten check <:+: toWire := by
    rw [hencoder]
    exact (List.suffix_append _ _).isInfix
  exact ⟨wire, defaults, encoders, check, branches, after, ⟨_, _, hdefaults⟩, ⟨_, _, hencoders⟩, ⟨_, _, hbranches⟩,
    hencoderIn.trans (htoWireIn.trans hinside), hdecoder.trans (hfromWireIn.trans hinside)⟩

end Env

/-! ### Whole runs -/

/-- What is rendered as an expression or a type of Go. -/
inductive Rendering where
  /-- The Go type of a schema type. -/
  | type (ty : Ty)
  /-- A value, encoded. -/
  | encoded (ty : Ty) (value : String)
  /-- A wire value, decoded. -/
  | decoded (ty : Ty) (value : String)
  /-- Two values, compared. -/
  | compared (ty : Ty) (lhs rhs : String)
  /-- A value of the schema as a literal. -/
  | literal (site : Site) (ty : Ty) (value : Value)

namespace Env

/-- The text of a rendering. -/
def rendered (env : Env) : Rendering → Emit String
  | .type ty => env.typeText ty
  | .encoded ty value => env.encode ty value
  | .decoded ty value => env.decode ty value
  | .compared ty lhs rhs => env.equals ty lhs rhs
  | .literal site ty value => env.literal site ty value

theorem rendered_steady {env : Env} (x : Rendering) : Steady (env.rendered x) := by
  cases x with
  | type ty => exact typeText_steady ty
  | encoded ty value => exact encode_steady ty value
  | decoded ty value => exact decode_steady ty value
  | compared ty lhs rhs => exact equals_steady ty lhs rhs
  | literal site ty value => exact literal_steady site ty value

end Env

namespace Program

variable {p : Program} {file : Ref .file} {o : Options}

/-- The run for a file is a history from its beginning to its end. Wherever something is rendered, it is rendered
by the same text at every later point, whatever happened in between. In particular the encoder and the decoder
of a struct set absent fields to their defaults by the same statements. -/
theorem rendering_stable {source : Source} (h : p.generate file o = .ok source) :
    ∃ d names events, p.draft file o = .ok d ∧ d.source = source ∧ d.env.Trace (Run.start names) events d.run ∧
      (∀ x r text r₁ events r₂, d.env.rendered x r = .ok (text, r₁) → d.env.Trace r₁ events r₂ →
        ∃ r₃, d.env.rendered x r₂ = .ok (text, r₃)) ∧
      ∀ ref s, p.struct? ref = some s → s.file = file →
        ∃ ms, Answers (d.env.layout (s.record (goName s.name s.annotations))) ms ∧
          d.env.SharesDefaults (s.record (goName s.name s.annotations)) ms d.code := by
  obtain ⟨d, hd, hsource⟩ := generate_eq_ok.mp h
  obtain ⟨self, names, -, -, -, hgrows⟩ := draft_eq_ok hd
  obtain ⟨events, htrace, -⟩ := hgrows.exists_trace
  refine ⟨d, names, events, hd, hsource, htrace, ?_, ?_⟩
  · intro x r text r₁ events r₂ hfirst htrace
    exact (Env.rendered_steady x).again hfirst htrace.before
  · intro ref s hs hown
    obtain ⟨hprogram, hfile, hcovers⟩ := draft_covers hd
    obtain ⟨part, hpart, hinside⟩ := hcovers.structs ref s (hprogram ▸ hs) (hown.trans hfile.symm)
    obtain ⟨ms, hms, hcode⟩ := Env.structCode_record hpart
    exact ⟨ms, hms, Env.recordCode_sharesDefaults hcode hinside⟩

/-- A struct with a default that needs a helper and one that is a list. -/
def kettle : Program :=
  { Program.empty with
    files := [⟨"a.thrift", "ex/a", "a"⟩]
    structs := [⟨"Kettle", ⟨0⟩, .struct,
      [⟨1, "litres", .base .i32, false, some (.int 2), .empty⟩,
       ⟨2, "stops", .list (.base .i32), false, some (.list [.int 40, .int 90]), .empty⟩], false, .empty⟩] }

/-- A comparison is put together, then an encoder that brings a helper of its own, and then the comparison again. -/
theorem rendering_stable_kettle :
    ∃ d s ms, kettle.draft ⟨0⟩ {} = .ok d ∧ kettle.struct? ⟨0⟩ = some s ∧
      Answers (d.env.layout (s.record "Kettle")) ms ∧ d.env.SharesDefaults (s.record "Kettle") ms d.code ∧
      d.code.count ⟨2, "v.Litres = _I32_ptr(2)"⟩ = 2 ∧
      ∃ r₁ r₂ r₃ events,
        d.env.rendered (.compared (.list (.base .i32)) "a" "b") d.run = .ok ("_List_I32_Equals(a, b)", r₁) ∧
        d.env.Trace r₁ events r₂ ∧ r₂.helpers.length = r₁.helpers.length + 1 ∧
        d.env.rendered (.compared (.list (.base .i32)) "a" "b") r₂ = .ok ("_List_I32_Equals(a, b)", r₃) := by
  obtain ⟨d, hd, hcount, htext⟩ : ∃ d, kettle.draft ⟨0⟩ {} = .ok d ∧
      d.code.count ⟨2, "v.Litres = _I32_ptr(2)"⟩ = 2 ∧
      (d.env.rendered (.compared (.list (.base .i32)) "a" "b") d.run).toOption.map
        (fun a => decide (a.1 = "_List_I32_Equals(a, b)" ∧
          (d.env.rendered (.encoded (.list (.base .i64)) "x") a.2).toOption.map
            (fun b => decide (b.2.helpers.length = a.2.helpers.length + 1)) = some true)) = some true :=
    exists_draft (by decide +kernel)
  obtain ⟨⟨text, r₁⟩, hfirst, rfl, hbetween⟩ := Except.exists_ok_of_decide htext
  obtain ⟨⟨_, r₂⟩, hencoded, hlength⟩ := Except.exists_ok_of_decide hbetween
  obtain ⟨hprogram, -⟩ := draft_covers hd
  have hgrows : d.env.Grows r₁ r₂ := by
    have hty : d.env.program.TypeInRange (.list (.base .i64)) := typeInRange_list.mpr (typeInRange_base _)
    exact ((Env.encode_emits (hprogram ▸ sound_of_draft hd) hty "x" r₁).1 _ r₂ hencoded).2
  obtain ⟨events, htrace, -⟩ := hgrows.exists_trace
  obtain ⟨d', _, _, hd', -, -, hstable, hstructs⟩ := rendering_stable (generate_eq_ok.mpr ⟨d, hd, rfl⟩)
  obtain rfl : d = d' := Except.ok.inj (hd.symm.trans hd')
  obtain ⟨ms, hms, hshares⟩ := hstructs ⟨0⟩ _ rfl rfl
  obtain ⟨r₃, hagain⟩ := hstable _ _ _ _ _ _ hfirst htrace
  exact ⟨d, _, ms, hd, rfl, hms, hshares, hcount, r₁, r₂, r₃, events, hfirst, htrace, hlength, hagain⟩

end Program

end GoSchema
