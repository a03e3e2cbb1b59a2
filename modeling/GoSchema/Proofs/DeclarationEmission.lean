import GoSchema.Proofs.Answers
import GoSchema.Proofs.Namespace
import GoSchema.Proofs.ValueEmission

/-!
# Code for declarations

Enums, typedefs, records and services, in a sound program. The members of a record carry what the emitters rely
on (`Env.MemberSound`): their types and defaults are there. With that the code of a record, of the
functions of a service and in the end of all declarations of a file keeps to the steps of `Env.Grows`.

## What is proved

* `Env.enumCode_emits`, `Env.typedefCode_emits`, `Env.recordCode_emits` and `Env.functionCode_emits`: the code of
  each kind of declaration follows the rules of a run.
* `Env.serviceCode_emits`: every function of a service is found in the table of declared functions, so the code of
  a service never ends for want of names.
* `Env.declarationsCode_emits`: the code of all declarations of a file of a sound program follows the rules.

From this on nothing needs the definitions of these emitters: that a run ends only for reasons that `Env.Stops`
names, and all that holds of steps, is derived from the rules alone. What is printed is not touched here.
-/

namespace GoSchema

open Go Program

namespace Env

variable {env : Env} {r : Record}

/-! ### Enums and typedefs -/

theorem enumCode_emits (e : Enum) : env.Emits (env.enumCode e) fun _ => True := by
  refine (Emits.lift (identifier_yields _ _ _)).bind fun name _ => ?_
  have hlayout : Yields (env.enumLayout e name) fun _ => True :=
    (Yields.mapM fun item _ => (itemIdent_yields name item _).bind fun _ _ =>
      Yields.pure (P := fun _ => True) trivial).mono fun _ _ => trivial
  refine (Emits.lift hlayout).bind fun items _ => wire_emits.bind fun _ _ => ?_
  refine (standard_emits (by decide)).bind fun _ _ => ?_
  refine (standard_emits (by decide)).bind fun _ _ => ?_
  refine (standard_emits (by decide)).bind fun _ _ => ?_
  refine (standard_emits (by decide)).bind fun _ _ => ?_
  refine (standard_emits (by decide)).bind fun _ _ => ?_
  dsimp only
  split_ifs with hlog
  · exact .pure trivial
  · rw [Bool.not_eq_true] at hlog
    exact (zapcore_emits hlog).bind fun _ _ => .pure trivial

theorem typedefLog_emits (hp : env.program.Sound) {root : Ty} (h : env.program.TypeInRange root)
    (receiver target : String) : env.Emits (env.typedefLog receiver target root) fun _ => True := by
  unfold typedefLog
  split_ifs with hlog
  · exact .pure trivial
  rw [Bool.not_eq_true] at hlog
  refine (zapcore_emits hlog).bind fun _ _ => ?_
  cases root with
  | base _ | enum _ | struct _ | typedef _ => exact .pure trivial
  | list _ | set _ _ | map _ _ =>
    exact (zapper_emits hp hlog h (zapperCode_emits hp hlog h rfl)).bind fun _ _ => .pure trivial

theorem typedefCode_emits (hp : env.program.Sound) {t : Typedef} (h : t ∈ env.program.typedefs) :
    env.Emits (env.typedefCode t) fun _ => True := by
  have hty := (hp.typedefs t h).2
  refine (Emits.lift (checkSets_yields _ _)).bind fun _ _ => ?_
  refine (Emits.lift (identifier_yields _ _ _)).bind fun _ _ => ?_
  refine (typeRef_emits hp hty).bind fun _ _ => ?_
  refine (Emits.lift (root_yields hp hty)).bind fun root hroot => ?_
  refine (Emits.lift (isStructRooted_yields hp hty)).bind fun byReference _ => ?_
  refine wire_emits.bind fun _ _ => (standard_emits (by decide)).bind fun _ _ => ?_
  refine (encode_emits hp hty _).bind fun _ _ => ?_
  have htail (m : String → Code → Emit Code) (hm : ∀ eq log, env.Emits (m eq log) fun _ => True)
      (lhs rhs receiver target : String) :
      env.Emits (env.equals t.target lhs rhs >>= fun eq =>
        env.typedefLog receiver target root >>= m eq) fun _ => True :=
    (equals_emits hp hty _ _).bind fun _ _ =>
      (typedefLog_emits hp hroot.2.1 _ _).bind fun _ _ => hm _ _
  refine Emits.ite (fun _ => ?_) fun _ => ?_
  · exact .after (htail _ (fun _ _ => .pure trivial) _ _ _ _)
  · exact (decode_emits hp hty _).bind fun _ _ => .after (htail _ (fun _ _ => .pure trivial) _ _ _ _)

/-! ### Members -/

/-- What a field refers to is there. -/
structure FieldInRange (p : Program) (f : Field) : Prop where
  type : p.TypeInRange f.type
  default : ∀ v, f.default = some v → p.ValueInRange v

/-- What a member refers to is there, and the packages of its Go type may be imported. -/
structure MemberSound (env : Env) (m : Member) : Prop where
  type : env.program.TypeInRange m.type
  default : ∀ v, m.default = some v → env.program.ValueInRange v
  paths : env.MayUseAll m.goType.paths

/-- A claim is refused only because its identifier is taken. -/
theorem claim_yields (claims : Claims) (c : Claim) : Yields (claims.claim c) fun _ => True := by
  unfold Claims.claim
  split
  · exact .ok trivial
  · exact .error trivial
  next error hother herror => exact absurd (Name.Namespace.reserve_eq_error.mp herror).1 (hother c.ident)

theorem claimAll_yields (claims : Claims) (cs : List Claim) :
    Yields (claims.claimAll cs) fun _ => True :=
  .foldlM trivial fun claims _ c _ => claim_yields claims c

theorem structTag_yields (label : String) (required : Bool) (a : Annotations) (site : Site) :
    Yields (structTag label required a site) fun _ => True := by
  unfold structTag
  dsimp only
  split
  · exact .ok trivial
  · split
    · exact .ok trivial
    · exact .error trivial

theorem memberOf_yields (hp : env.program.Sound) (r : Record) {f : Field}
    (h : FieldInRange env.program f) (ident : String) :
    Yields (env.memberOf r f ident) env.MemberSound := by
  refine (structTag_yields _ _ _ _).bind fun _ _ => ?_
  refine (holding_yields hp h.type _).bind fun holding _ => ?_
  refine (goType_yields hp h.type).bind fun t ht => .pure ⟨h.type, fun v hv => ?_, ?_⟩
  · dsimp only at hv
    split_ifs at hv
    exact h.default v hv
  · cases holding <;> exact ht

theorem membersFrom_yields (hp : env.program.Sound) (r : Record) {fields : List Field}
    (h : ∀ f ∈ fields, FieldInRange env.program f) (claims : Claims) :
    Yields (env.membersFrom r claims fields) fun x => ∀ m ∈ x.1, env.MemberSound m := by
  induction fields generalizing claims with
  | nil => exact .ok (by simp)
  | cons f fields ih =>
    rw [membersFrom]
    obtain ⟨hf, hrest⟩ := List.forall_mem_cons.mp h
    refine (checkSets_yields _ _).bind fun _ _ => (identifier_yields _ _ _).bind fun _ _ => ?_
    refine (claim_yields _ _).bind fun _ _ => (memberOf_yields hp r hf _).bind fun m hm => ?_
    exact (ih hrest _).bind fun _ hms => .pure (List.forall_mem_cons.mpr ⟨hm, hms⟩)

theorem members_yields (hp : env.program.Sound) {r : Record}
    (h : ∀ f ∈ r.fields, FieldInRange env.program f) :
    Yields (env.members r) fun ms => ∀ m ∈ ms, env.MemberSound m :=
  (membersFrom_yields hp r h _).bind fun _ hms => (claimAll_yields _ _).bind fun _ _ =>
    (claimAll_yields _ _).bind fun _ _ => .pure hms

/-- Flags change nothing else about members. -/
theorem assignFlags_sound (names : Name.Namespace) {ms : List Member}
    (h : ∀ m ∈ ms, env.MemberSound m) : ∀ m ∈ assignFlags names ms, env.MemberSound m := by
  induction ms generalizing names with
  | nil => simp [assignFlags]
  | cons m ms ih =>
    obtain ⟨hm, hms⟩ := List.forall_mem_cons.mp h
    rw [assignFlags]
    split_ifs
    · exact List.forall_mem_cons.mpr ⟨⟨hm.type, hm.default, hm.paths⟩, ih _ hms⟩
    · exact List.forall_mem_cons.mpr ⟨hm, ih _ hms⟩

theorem mayUseAll_members {ms : List Member} (h : ∀ m ∈ ms, env.MemberSound m) :
    env.MayUseAll (ms.flatMap fun m => m.goType.paths) := by
  intro path hpath
  obtain ⟨m, hm, hpath⟩ := List.mem_flatMap.mp hpath
  exact (h m hm).paths path hpath

theorem layout_emits (hp : env.program.Sound) (h : ∀ f ∈ r.fields, FieldInRange env.program f) :
    env.Emits (env.layout r) fun ms => ∀ m ∈ ms, env.MemberSound m :=
  (Emits.lift (members_yields hp h)).bind fun _ hms => (Emits.usePaths (mayUseAll_members hms)).bind
    fun _ _ => Emits.get.bind fun _ _ => .pure (assignFlags_sound _ hms)

/-! ### Records -/

variable {m : Member} {ms : List Member}

/-- A list of parts, each of which is emitted. -/
theorem mapM_emits {α β : Type} {f : α → Emit β} {as : List α}
    (h : ∀ a ∈ as, env.Emits (f a) fun _ => True) : env.Emits (as.mapM f) fun _ => True :=
  (Emits.mapM h).mono fun _ _ => trivial

theorem fillDefaults_emits (hp : env.program.Sound) (h : ∀ m ∈ ms, env.MemberSound m) :
    env.Emits (env.fillDefaults ms) fun _ => True := by
  induction ms with
  | nil => exact .pure trivial
  | cons m ms ih =>
    rw [fillDefaults]
    obtain ⟨hm, hms⟩ := List.forall_mem_cons.mp h
    have hrest (code : Code) : env.Emits (env.fillDefaults ms >>= fun rest => Pure.pure (code ++ rest))
        fun _ => True := (ih hms).bind fun _ _ => .pure trivial
    dsimp only
    cases hfill : m.filling with
    | none => exact .after (hrest _)
    | some v =>
      have hv : env.program.ValueInRange v := by
        unfold Member.filling at hfill
        split_ifs at hfill
        exact hm.default v hfill
      exact (fieldValue_emits hp _ hm.type _ hv).bind fun _ _ => .after (hrest _)

theorem requiredCheck_emits (hp : env.program.Sound) (hm : env.MemberSound m) :
    env.Emits (env.requiredCheck r m) fun _ => True := by
  refine Emits.ite (fun _ => .pure trivial) fun _ => ?_
  refine (Emits.lift (root_yields hp hm.type)).bind fun root _ => ?_
  cases root with
  | struct _ | set _ _ | map _ _ => exact (standard_emits (by decide)).bind fun _ _ => .pure trivial
  | base _ | list _ | enum _ | typedef _ => exact .pure trivial

theorem encodeMember_emits (hp : env.program.Sound) (wire : String) (hm : env.MemberSound m) :
    env.Emits (env.encodeMember r wire m) fun _ => True :=
  (encode_emits hp hm.type _).bind fun _ _ => (requiredCheck_emits hp hm).bind
    fun _ _ => .pure trivial

theorem toWire_emits (hp : env.program.Sound) (h : ∀ m ∈ ms, env.MemberSound m) :
    env.Emits (env.toWire r ms) fun _ => True := by
  refine wire_emits.bind fun wire _ => (fillDefaults_emits hp h).bind fun _ _ => ?_
  refine (mapM_emits fun m hm => encodeMember_emits hp wire (h m hm)).bind fun _ _ => ?_
  refine Emits.ite (fun _ => ?_) fun _ => .after (.pure trivial)
  exact (standard_emits (by decide)).bind fun _ _ => .after (.pure trivial)

theorem decodeMember_emits (hp : env.program.Sound) (hm : env.MemberSound m) :
    env.Emits (env.decodeMember m) fun _ => True := by
  refine (wireTag_emits hp hm.type).bind fun _ _ => (decode_emits hp hm.type _).bind fun _ _ => ?_
  dsimp only
  cases m.holding with
  | pointer => exact (typeText_emits hp hm.type).bind fun _ _ => .after (.pure trivial)
  | value | nilable => exact .after (.pure trivial)

theorem flagCheck_emits (m : Member) : env.Emits (env.flagCheck r m) fun _ => True := by
  unfold flagCheck
  cases m.flag with
  | some _ => exact (standard_emits (by decide)).bind fun _ _ => .pure trivial
  | none => exact .pure trivial

theorem fromWire_emits (hp : env.program.Sound) (h : ∀ m ∈ ms, env.MemberSound m) :
    env.Emits (env.fromWire r ms) fun _ => True := by
  refine wire_emits.bind fun _ _ => ?_
  refine (mapM_emits fun m hm => decodeMember_emits hp (h m hm)).bind fun _ _ => ?_
  refine (fillDefaults_emits hp h).bind fun _ _ => ?_
  refine (mapM_emits fun m _ => flagCheck_emits m).bind fun _ _ => ?_
  refine Emits.ite (fun _ => ?_) fun _ => .after (.pure trivial)
  exact (standard_emits (by decide)).bind fun _ _ => .after (.pure trivial)

theorem recordString_emits (ms : List Member) : env.Emits (env.recordString r ms) fun _ => True := by
  refine Emits.ite (fun _ => .after (.pure trivial)) fun _ => ?_
  exact (standard_emits (by decide)).bind fun _ _ => (standard_emits (by decide)).bind
    fun _ _ => .after (.pure trivial)

theorem memberEquals_emits (hp : env.program.Sound) (hm : env.MemberSound m) :
    env.Emits (env.memberEquals m) fun _ => True := by
  unfold memberEquals
  cases m.holding with
  | pointer => exact (equalsPtr_emits hp hm.type).bind fun _ _ => .pure trivial
  | value => exact equals_emits hp hm.type _ _
  | nilable =>
    exact (equals_emits hp hm.type _ _).bind fun _ _ =>
      Emits.ite (fun _ => .pure trivial) fun _ => .pure trivial

theorem recordEquals_emits (hp : env.program.Sound) (h : ∀ m ∈ ms, env.MemberSound m) :
    env.Emits (env.recordEquals r ms) fun _ => True :=
  (mapM_emits fun m hm => memberEquals_emits hp (h m hm)).bind fun _ _ => .pure trivial

theorem logMember_emits (hp : env.program.Sound) (hlog : env.options.noZap = false)
    (hm : env.MemberSound m) : env.Emits (env.logMember m) fun _ => True :=
  (logValue_emits hp hlog hm.type _).bind fun _ _ => (logAdd_emits hlog _ _).bind
    fun _ _ => .pure trivial

theorem recordLog_emits (hp : env.program.Sound) (h : ∀ m ∈ ms, env.MemberSound m) :
    env.Emits (env.recordLog r ms) fun _ => True := by
  refine Emits.ite (fun _ => .pure trivial) fun hlog => ?_
  rw [Bool.not_eq_true] at hlog
  refine (zapcore_emits hlog).bind fun _ _ => ?_
  refine (mapM_emits fun m hm => ?_).bind fun _ _ => .pure trivial
  exact logMember_emits hp hlog (h m (List.mem_filter.mp hm).1)

theorem memberAccessors_emits (hp : env.program.Sound) (hm : env.MemberSound m) :
    env.Emits (env.memberAccessors r m) fun _ => True := by
  refine (typeText_emits hp hm.type).bind fun _ _ => ?_
  dsimp only
  cases hdefault : m.default with
  | none => exact .after (.pure trivial)
  | some v =>
    have hv := literal_emits hp (env.site ("default of " ++ m.entity)) hm.type v (hm.default v hdefault)
    exact (Emits.map (R := fun _ => True) hv).bind fun _ _ => .pure trivial

theorem envelopeCode_emits (envelope : Envelope) :
    env.Emits (env.envelopeCode r envelope) fun _ => True :=
  wire_emits.bind fun _ _ => .pure trivial

theorem recordCode_emits (hp : env.program.Sound) (h : ∀ m ∈ ms, env.MemberSound m) :
    env.Emits (env.recordCode r ms) fun _ => True := by
  refine (toWire_emits hp h).bind fun _ _ => (fromWire_emits hp h).bind fun _ _ => ?_
  refine (recordString_emits ms).bind fun _ _ => (recordEquals_emits hp h).bind fun _ _ => ?_
  refine (recordLog_emits hp h).bind fun _ _ => ?_
  refine (mapM_emits fun m hm => memberAccessors_emits hp (h m hm)).bind fun _ _ => ?_
  dsimp only
  cases r.envelope with
  | some envelope => exact (envelopeCode_emits envelope).bind fun _ _ => .pure trivial
  | none => exact .after (.pure trivial)

theorem structCode_emits (hp : env.program.Sound) {s : Struct} (h : s ∈ env.program.structs) :
    env.Emits (env.structCode s) fun _ => True := by
  obtain ⟨_, hfields⟩ := hp.structs s h
  refine (Emits.lift (identifier_yields _ _ _)).bind fun ident _ => ?_
  refine (layout_emits hp fun f hf => ?_).bind fun _ hms => recordCode_emits hp hms
  exact ⟨hfields.types f hf, hfields.defaults f hf⟩

/-! ### Services -/

theorem argumentFields_inRange {p : Program} {f : Function} (h : p.FunctionSound f) :
    ∀ field ∈ f.argumentFields, FieldInRange p field := by
  intro field hfield
  obtain ⟨⟨argument, i⟩, hmem, rfl⟩ := List.mem_map.mp hfield
  exact ⟨h.arguments.types argument (List.fst_mem_of_mem_zipIdx hmem), by simp⟩

theorem resultFields_inRange {p : Program} {f : Function} (h : p.FunctionSound f) :
    ∀ field ∈ f.resultFields, FieldInRange p field := by
  intro field hfield
  unfold Function.resultFields at hfield
  cases hreply : f.reply with
  | none => simp [hreply] at hfield
  | some reply =>
    simp only [hreply, List.mem_append, List.mem_map, Option.mem_toList] at hfield
    rcases hfield with ⟨ty, hty, rfl⟩ | ⟨exception, hmem, rfl⟩
    · exact ⟨h.returns reply hreply ty hty, by simp⟩
    · exact ⟨(h.exceptions reply hreply).types exception hmem, by simp⟩

theorem argsHelper_emits (names : FunctionNames) (h : ∀ m ∈ ms, env.MemberSound m) :
    env.Emits (argsHelper names ms) fun _ => True :=
  Emits.get.bind fun _ _ => (Emits.usePaths (mayUseAll_members h)).bind fun _ _ => .pure trivial

theorem splitResult_sound (h : ∀ m ∈ ms, env.MemberSound m) :
    (∀ m, (splitResult ms).1 = some m → env.MemberSound m) ∧
      ∀ m ∈ (splitResult ms).2, env.MemberSound m := by
  cases ms with
  | nil => simp [splitResult]
  | cons m ms =>
    obtain ⟨hm, hms⟩ := List.forall_mem_cons.mp h
    rw [splitResult]
    split_ifs
    · exact ⟨fun _ heq => Option.some.inj heq ▸ hm, hms⟩
    · exact ⟨nofun, h⟩

theorem resultHelper_emits (hp : env.program.Sound) (names : FunctionNames) (result : String)
    (h : ∀ m ∈ ms, env.MemberSound m) :
    env.Emits (env.resultHelper names result ms) fun _ => True := by
  unfold resultHelper
  obtain ⟨hsuccess, hthrown⟩ := splitResult_sound h
  generalize splitResult ms = split at hsuccess hthrown
  obtain ⟨success, thrown⟩ := split
  dsimp only
  refine (mapM_emits fun m hm => ?_).bind fun exceptions _ => ?_
  · exact (typeText_emits hp (hthrown m hm).type).bind fun _ _ => .pure trivial
  cases success with
  | none =>
    refine Emits.ite (fun _ => ?_) fun _ => ?_
    · exact (standard_emits (by decide)).bind fun _ _ => .after (.pure trivial)
    · exact .after (.after (.pure trivial))
  | some m =>
    have htype := typeText_emits hp (hsuccess m rfl).type
    refine Emits.ite (fun _ => ?_) fun _ => ?_
    · exact (standard_emits (by decide)).bind fun _ _ => htype.bind fun _ _ => .after (.pure trivial)
    · exact .after (htype.bind fun _ _ => .after (.pure trivial))

theorem functionCode_emits (hp : env.program.Sound) (names : FunctionNames) {f : Function}
    (h : env.program.FunctionSound f) : env.Emits (env.functionCode names f) fun _ => True := by
  refine (layout_emits hp (argumentFields_inRange h)).bind fun args hargs => ?_
  refine (recordCode_emits hp hargs).bind fun _ _ => ?_
  dsimp only
  cases names.result with
  | none => exact (argsHelper_emits names hargs).bind fun _ _ => .pure trivial
  | some ident =>
    refine (layout_emits hp (resultFields_inRange h)).bind fun results hresults => ?_
    refine (recordCode_emits hp hresults).bind fun _ _ => ?_
    refine (argsHelper_emits names hargs).bind fun _ _ => ?_
    exact (resultHelper_emits hp names ident hresults).bind fun _ _ => .pure trivial

theorem functionNames_yields (s : Service) (f : Function) : Yields (env.functionNames s f) fun _ => True :=
  (identifier_yields _ _ _).bind fun _ _ => (identifier_yields _ _ _).bind fun _ _ => .pure trivial

/-- Every function of the service is found in the table of the names of functions. -/
theorem serviceCode_emits (hp : env.program.Sound) {functions : FunctionTable}
    (hfunctions : env.functionTable = .ok functions) {s : Service × Nat}
    (h : s ∈ env.program.numberedServicesOf env.file) : env.Emits (env.serviceCode functions s) fun _ => True := by
  have hs : s.1 ∈ env.program.services := List.fst_mem_of_mem_zipIdx (List.mem_of_mem_filter h)
  refine (mapM_emits fun f hf => ?_).bind fun _ _ => .pure trivial
  obtain ⟨names, hnames, -⟩ := names_of_functionTable hfunctions h hf
  rw [hnames]
  exact .after (functionCode_emits hp names ((hp.services s.1 hs).2.2 f.1 (List.fst_mem_of_mem_zipIdx hf)))

/-! ### Files -/

theorem functionTable_yields : Yields env.functionTable fun _ => True := by
  refine (Yields.mapM (R := fun _ => True) fun s _ => ?_).bind fun _ _ => .pure trivial
  refine (Yields.mapM (R := fun _ => True) fun f _ => ?_).mono fun _ _ => trivial
  exact (functionNames_yields s.1 f.1).bind fun _ _ => .pure trivial

/-- The code of all declarations of a file of a sound program keeps to the steps of a run. -/
theorem declarationsCode_emits (hp : env.program.Sound) {functions : FunctionTable}
    (hfunctions : env.functionTable = .ok functions) :
    env.Emits (env.declarationsCode functions) fun _ => True := by
  refine (mapM_emits fun c hc => constantCode_emits hp (List.mem_filter.mp hc).1).bind fun _ _ => ?_
  refine (mapM_emits fun e _ => enumCode_emits e).bind fun _ _ => ?_
  refine (mapM_emits fun t ht => typedefCode_emits hp (List.mem_filter.mp ht).1).bind fun _ _ => ?_
  refine (mapM_emits fun s hs => structCode_emits hp (List.mem_filter.mp hs).1).bind fun _ _ => ?_
  exact (mapM_emits fun s hs => serviceCode_emits hp hfunctions hs).bind fun _ _ => .pure trivial

end Env

end GoSchema
