import GoSchema.Proofs.Layout
import GoSchema.Proofs.ValuePrinting

/-!
# Paths in the code for records

What the methods of a record use, they print, apart from one thing: the accessors of a member take the literal
of its default, also where the member is always there and the default is never asked for.

## What is proved

* `Env.toWire_prints`, `Env.fromWire_prints`, `Env.recordString_prints`, `Env.recordEquals_prints` and
  `Env.recordLog_prints`: each method of a record shows the paths that it uses.
* `Env.inCode_memberAccessors`: the accessors of a member show its type.
* `Env.recordCode_passes` and `Env.structCode_prints`: the code of a record prints what its methods use and what
  was used to lay it out, or drops a default.

Where a default is dropped, its path is used for nothing, and the import of this path may be idle. Which fields
these are is said by `Env.Dropped`.
-/

namespace GoSchema

open Go

namespace Env

variable {env : Env} {r : Record}

/-! ### Members -/

/-- A member is a field of the record, laid out. -/
structure LaidOut (env : Env) (r : Record) (m : Member) : Prop where
  field : ∃ f ∈ r.fields, m.type = f.type ∧ m.required = (f.required && !r.isUnion) ∧
    m.default = (if r.isUnion then none else f.default) ∧ m.entity = fieldEntity f.name r.name
  holding : env.program.holding? m.type m.required = some m.holding
  goType : ∃ t, env.goType m.type = .ok t ∧ m.goType = m.holding.fieldType t

theorem laidOut_memberOf {f : Field} (hf : f ∈ r.fields) {ident : String} {m : Member}
    (h : env.memberOf r f ident = .ok m) : env.LaidOut r m := by
  obtain ⟨tag, -, h⟩ := Except.bind_eq_ok.mp h
  obtain ⟨holding, hholding, h⟩ := Except.bind_eq_ok.mp h
  obtain ⟨t, ht, h⟩ := Except.bind_eq_ok.mp h
  cases h
  exact ⟨⟨f, hf, rfl, rfl, rfl, rfl⟩, present_eq_ok.mp hholding, t, ht, rfl⟩

theorem laidOut_members {ms : List Member} (h : env.members r = .ok ms) : ∀ m ∈ ms, env.LaidOut r m := by
  intro m hm
  obtain ⟨field, hfield, hlays⟩ := exists_mem_left_of_forall₂ (laysOut_members h) hm
  exact laidOut_memberOf hfield hlays

/-- Flags change nothing else about members. -/
theorem exists_of_mem_assignFlags {names : Name.Namespace} {ms : List Member} {m : Member}
    (h : m ∈ assignFlags names ms) : ∃ m' ∈ ms, ∃ flag, m = { m' with flag } := by
  induction ms generalizing names with
  | nil => cases h
  | cons first ms ih =>
    rw [assignFlags] at h
    split_ifs at h
    · rcases List.mem_cons.mp h with rfl | h
      · exact ⟨first, List.mem_cons_self, _, rfl⟩
      · obtain ⟨m', hm', hflag⟩ := ih h
        exact ⟨m', List.mem_cons_of_mem _ hm', hflag⟩
    · rcases List.mem_cons.mp h with rfl | h
      · exact ⟨m, List.mem_cons_self, m.flag, rfl⟩
      · obtain ⟨m', hm', hflag⟩ := ih h
        exact ⟨m', List.mem_cons_of_mem _ hm', hflag⟩

theorem laidOut_layout {ms : List Member} (h : Answers (env.layout r) ms) : ∀ m ∈ ms, env.LaidOut r m := by
  obtain ⟨laid, names, hlaid, rfl⟩ := members_of_layout h
  intro m hm
  obtain ⟨m', hm', flag, rfl⟩ := exists_of_mem_assignFlags hm
  have h := laidOut_members hlaid m' hm'
  exact ⟨h.field, h.holding, h.goType⟩

/-- The alias of the path qualifies something in the Go type of the member. -/
def InMember (env : Env) (m : Member) (path : String) : Prop :=
  ∃ t, env.goType m.type = .ok t ∧ env.InText t.text path

theorem LaidOut.inMember {m : Member} (h : env.LaidOut r m) {path : String} (hpath : path ∈ m.goType.paths) :
    env.InMember m path := by
  obtain ⟨t, ht, hgoType⟩ := h.goType
  rw [hgoType] at hpath
  refine ⟨t, ht, (aliased_of_goType ht).qualifies ?_⟩
  cases hholding : m.holding <;> rw [hholding] at hpath <;> exact hpath

theorem LaidOut.inText {m : Member} (h : env.LaidOut r m) {path : String} (hpath : path ∈ m.goType.paths) :
    env.InText m.goType.text path := by
  obtain ⟨t, ht, hgoType⟩ := h.goType
  refine GoType.Aliased.qualifies ?_ hpath
  have haliased := aliased_of_goType ht
  rw [hgoType]
  cases m.holding <;> exact haliased

theorem layout_prints (r : Record) :
    env.Prints (env.layout r) fun ms path => ∃ m ∈ ms, env.InMember m path := by
  refine .given fun ms hms => (usePaths_prints _).bind fun _ _ => .get fun run => .pure fun path hpath => ?_
  obtain ⟨m, hm, hpath⟩ := List.mem_flatMap.mp hpath
  have hin := (laidOut_members hms m hm).inMember hpath
  have htype : m.type ∈ (assignFlags run.names.enter ms).map Member.type := by
    rw [map_assignFlags fun _ _ => rfl]
    exact List.mem_map_of_mem hm
  obtain ⟨m', hm', heq⟩ := List.mem_map.mp htype
  exact ⟨m', hm', by rw [InMember, heq]; exact hin⟩

/-! ### Records -/

@[simp] theorem hasLine_spaced {code : Code} {text : String} :
    HasLine (spaced code) text ↔ HasLine code text ∨ code ≠ [] ∧ HasLine blank text := by
  unfold spaced
  split_ifs with h
  · simp [List.isEmpty_iff.mp h]
  · simp [List.isEmpty_iff.not.mp h]

@[simp] theorem hasLine_guardedBy {m : Member} {code : Code} {text : String} :
    HasLine (guardedBy m code) text ↔
      HasLine code text ∨ m.guarded = true ∧ (text = "if " ++ s!"v.{m.ident} != nil" ++ " \x7b" ∨ text = "\x7d") := by
  unfold guardedBy
  split_ifs with h
  · simp [h, or_left_comm]
  · simp [h]

theorem qualifies_missingField (r : Record) (m : Member) (errors : String) :
    Qualifies errors (missingField r m errors) :=
  .of_isPrefix s!"{errors}.New(\"field " (by simp [missingField]) (.self_append rfl)

theorem fillDefaults_prints (ms : List Member) : env.Prints (env.fillDefaults ms) env.InCode := by
  induction ms with
  | nil => exact .nothing
  | cons m ms ih =>
    rw [fillDefaults]
    have hrest (code : Code) : env.Passes (env.InCode code)
        (env.fillDefaults ms >>= fun rest => Pure.pure (code ++ rest)) env.InCode :=
      ih.next fun _ _ => .pure fun _ => shows_append.mpr
    dsimp only
    cases m.filling with
    | none => exact .go (hrest _) fun _ => False.elim
    | some v =>
      refine (fieldValue_prints _ _ _ _).bind fun value _ => .go (hrest _) fun path h => ?_
      exact .of_line s!"v.{m.ident} = {value}" (by simp) (.append_append_append_right h rfl rfl)

theorem requiredCheck_prints (r : Record) (m : Member) : env.Prints (env.requiredCheck r m) env.InCode := by
  refine .ite (fun _ => .nothing) fun _ => .given fun root _ => ?_
  cases root with
  | struct _ | set _ _ | map _ _ =>
    refine (package_prints _).bind fun errors _ => .pure ?_
    rintro path rfl
    exact .of_line ("return w, " ++ missingField r m (env.aliasOf path)) (by simp)
      (.append_right (qualifies_missingField r m _) rfl)
  | base _ | list _ | enum _ | typedef _ => exact .nothing

theorem encodeMember_prints (r : Record) (wire : String) (m : Member) :
    env.Prints (env.encodeMember r wire m) env.InCode := by
  refine (encode_prints _ _).bind fun encoded _ => (requiredCheck_prints r m).next fun check _ => .pure ?_
  rintro path (h | h)
  · exact .of_line s!"w, err = {encoded}" (by simp) (.append_right h rfl)
  · exact .of_part h (by simp +contextual)

theorem shows_unionCheck {r : Record} {fmt count zero : String} (h : endsOpen ("return " ++ zero) = true) :
    Shows fmt (unionCheck r fmt count zero) := by
  let bound := if r.allowEmpty then "at most" else "exactly"
  let message := s!"{r.ident} should have {bound} one field: got %v fields"
  refine .of_line s!"return {zero}{fmt}.Errorf(\"{message}\", {count})" (by simp [unionCheck, bound, message]) ?_
  refine .of_isPrefix s!"return {zero}{fmt}.Errorf(\"" (by simp) ⟨?_, .append_self_append h rfl⟩
  exact plain_append (plain_append (plain_append rfl _) _) _

theorem toWire_prints (r : Record) (ms : List Member) : env.Prints (env.toWire r ms) env.InCode := by
  refine (package_prints _).bind fun wire _ => (fillDefaults_prints ms).next fun defaults _ => ?_
  refine (Prints.mapM fun m _ => encodeMember_prints r wire m).next fun encoders _ => ?_
  dsimp only
  refine .fork' env.InCode (fun check => .pure ?_) fun _ hk => ?_
  · rintro path (((rfl | h) | ⟨m, hm, code, hcode, h⟩) | h)
    · exact .of_signature s!"(v *{r.ident}) ToWire() ({env.aliasOf path}.Value, error)" (by simp)
        (.append_append_self_append rfl rfl)
    · exact .of_part h (by simp +contextual)
    · exact .of_part (.of_mem h hcode) (by simp +contextual)
    · exact .of_part h (by simp +contextual)
  · refine (package_prints _).next fun fmt _ => .go (hk _) ?_
    rintro path (h | rfl)
    · exact .inl h
    · exact .inr (shows_append.mpr (.inl (shows_unionCheck (endsOpen_append (endsOpen_append rfl _) _))))

theorem decodeMember_prints (m : Member) : env.Prints (env.decodeMember m) env.InCode := by
  refine (wireTag_prints _).bind fun tag _ => (decode_prints _ _).next fun decoded _ => ?_
  have hbranch (label : String) (read mark : Code) :
      env.Passes (fun path => env.InText tag path ∨ env.InCode read path)
      (Pure.pure (caseOf label (ifThen s!"field.Value.Type() == {tag}" (read ++ returnError "err" ++ mark))))
      env.InCode := by
    refine .pure ?_
    rintro path (h | h)
    · exact .of_condition s!"field.Value.Type() == {tag}" (by simp) (h.append_right rfl)
    · exact .of_part h (by simp +contextual)
  dsimp only
  cases m.holding with
  | pointer =>
    refine (typeText_prints _).next fun type _ => .go (hbranch _ _ _) ?_
    rintro path ((h | h) | h)
    · exact .inl h
    · exact .inr (.of_line s!"x, err = {decoded}" (by simp) (.append_right h rfl))
    · exact .inr (.of_line s!"var x {type}" (by simp) (.append_right h rfl))
  | value | nilable =>
    refine .go (hbranch _ _ _) fun path => Or.imp_right fun h => ?_
    exact .of_line s!"v.{m.ident}, err = {decoded}" (by simp) (.append_append_append_right h rfl rfl)

theorem flagCheck_prints (r : Record) (m : Member) : env.Prints (env.flagCheck r m) env.InCode := by
  unfold flagCheck
  cases m.flag with
  | some flag =>
    refine (package_prints _).bind fun errors _ => .pure ?_
    rintro path rfl
    exact .of_line ("return " ++ missingField r m (env.aliasOf path)) (by simp)
      (.append_right (qualifies_missingField r m _) rfl)
  | none => exact .nothing

theorem fromWire_prints (r : Record) (ms : List Member) : env.Prints (env.fromWire r ms) env.InCode := by
  refine (package_prints _).bind fun wire _ => ?_
  refine (Prints.mapM fun m _ => decodeMember_prints m).next fun branches _ => ?_
  refine (fillDefaults_prints ms).next fun defaults _ => ?_
  refine (Prints.mapM fun m _ => flagCheck_prints r m).next fun checks _ => ?_
  dsimp only
  refine .fork' env.InCode (fun count => .pure ?_) fun _ hk => ?_
  · rintro path ((((rfl | ⟨m, hm, code, hcode, h⟩) | h) | ⟨m, hm, code, hcode, h⟩) | h)
    · exact .of_signature s!"(v *{r.ident}) FromWire(w {env.aliasOf path}.Value) error" (by simp)
        (.append_append_self_append rfl rfl)
    · exact .of_part (.of_mem h hcode) (by simp +contextual)
    · exact .of_part h (by simp +contextual)
    · exact .of_part (.of_mem h hcode) (by simp +contextual)
    · exact .of_part h (by simp +contextual)
  · refine (package_prints _).next fun fmt _ => .go (hk _) ?_
    rintro path (h | rfl)
    · exact .inl h
    · exact .inr (.of_part (shows_unionCheck rfl) fun _ h => hasLine_append.mpr (.inl (hasLine_append.mpr (.inr h))))

theorem recordString_prints (r : Record) (ms : List Member) : env.Prints (env.recordString r ms) env.InCode := by
  refine .fork env.InCode (fun body => .pure ?_) fun _ hk => ?_
  · rintro path (h | h)
    · cases h
    · exact .of_part h (by simp +contextual)
  · refine (package_prints _).next fun fmt _ => (package_prints _).next fun strings _ => .go (hk _) ?_
    let start (fmt : String) := s!"return {fmt}.Sprintf(\""
    have hline {code : Code} (fmt strings : String) : HasLine (code ++ line (start fmt ++ r.ident ++ braced "%v"
        ++ s!"\", {strings}.Join(fields[:i], \", \"))")) _ := hasLine_append.mpr (.inr (hasLine_line.mpr rfl))
    rintro path ((h | rfl) | rfl)
    · cases h
    · exact .inr (.of_line _ (hline _ _) (.of_isPrefix (start (env.aliasOf path)) (by simp) (.append_self_append rfl rfl)))
    · refine .inr (.of_line _ (hline fmt _) ⟨?_, .append_of_inner rfl rfl⟩)
      exact plain_append (plain_append (plain_append (plain_append (plain_append rfl _) _) _) _) _

theorem memberEquals_prints (m : Member) : env.Prints (env.memberEquals m) env.InText := by
  unfold memberEquals
  cases m.holding with
  | pointer => exact (equalsPtr_prints _).silent fun _ _ => .nothing
  | value => exact equals_prints _ _ _
  | nilable =>
    refine (equals_prints _ _ _).bind fun eq _ => .ite (fun _ => .pure fun _ h => h) fun _ => ?_
    exact .pure fun _ h => (h.append_append_right rfl).append_left

theorem recordEquals_prints (r : Record) (ms : List Member) : env.Prints (env.recordEquals r ms) env.InCode := by
  refine (Prints.mapM fun m _ => memberEquals_prints m).bind fun tests _ => .pure ?_
  rintro path ⟨m, hm, test, htest, h⟩
  refine .of_condition s!"!{test}" ?_ (h.append_right rfl)
  simp only [hasLine_append, hasLine_func, hasLine_block, hasLine_flatMap]
  exact .inr (.inl (.inr (.inl (.inl (.inl (.inr ⟨test, htest, by simp⟩))))))

theorem logMember_prints (m : Member) : env.Prints (env.logMember m) env.InCode :=
  (logValue_prints _ _).bind fun value _ => (logAdd_passes _ value).bind fun _ _ =>
    .pure fun _ h => .of_part h (by simp +contextual)

theorem recordLog_prints (r : Record) (ms : List Member) : env.Prints (env.recordLog r ms) env.InCode := by
  refine .ite (fun _ => .nothing) fun _ => (package_prints _).bind fun zapcore _ => ?_
  refine (Prints.mapM fun m _ => logMember_prints m).next fun adds _ => .pure ?_
  rintro path (rfl | ⟨m, hm, add, hadd, h⟩)
  · exact .of_signature s!"(v *{r.ident}) MarshalLogObject(enc {env.aliasOf path}.ObjectEncoder) (err error)" (by simp)
      (.append_append_self_append rfl rfl)
  · exact .of_part (.of_mem h hadd) (by simp +contextual)

/-! ### Accessors -/

theorem shows_accessorType {m : Member} {type n : String} {default : Option String} (h : Qualifies n type) :
    Shows n (accessorCode r m type default) :=
  .of_signature s!"(v *{r.ident}) {m.getter}() (o {type})" (by simp [accessorCode])
    (h.append_append_right rfl).append_left

theorem shows_accessorDefault {m : Member} {type expr n : String} (hm : m.holding ≠ .value)
    (h : Qualifies n expr) : Shows n (accessorCode r m type (some expr)) := by
  refine .of_line s!"o = {expr}" ?_ (.append_right h rfl)
  cases hholding : m.holding with
  | value => exact absurd hholding hm
  | pointer | nilable => simp [accessorCode, hholding]

/-- The member is always there, and the literal of its default shows the path. -/
def Dropped (env : Env) (m : Member) (path : String) : Prop :=
  m.holding = .value ∧ ∃ value expr, m.default = some value ∧
    Answers (env.literal (env.site ("default of " ++ m.entity)) m.type value) expr ∧ env.InText expr path

theorem memberAccessors_prints (r : Record) (m : Member) :
    env.Prints (env.memberAccessors r m) fun code path => env.InCode code path ∨ env.Dropped m path := by
  refine (typeText_prints _).bind fun type _ => ?_
  dsimp only
  cases hdefault : m.default with
  | none =>
    rw [pure_bind]
    exact .pure fun _ h => .inl (shows_accessorType h)
  | some value =>
    dsimp only
    rw [bind_map_left]
    refine (literal_prints _ _ _).next fun expr hexpr => .pure ?_
    rintro path (h | h)
    · exact .inl (shows_accessorType h)
    by_cases hm : m.holding = .value
    · exact .inr ⟨hm, value, expr, hdefault, hexpr, h⟩
    · exact .inl (shows_accessorDefault hm h)

/-- The accessors of a member show its type. -/
theorem inCode_memberAccessors {m : Member} {code : Code} (h : Answers (env.memberAccessors r m) code)
    {path : String} (hpath : env.InMember m path) : env.InCode code path := by
  obtain ⟨t, ht, hpath⟩ := hpath
  obtain ⟨type, htype, h⟩ := h.of_bind
  obtain ⟨t', ht', rfl⟩ := typeText_eq htype
  obtain rfl : t = t' := Except.ok.inj (ht.symm.trans ht')
  dsimp only at h
  cases hdefault : m.default with
  | none =>
    rw [hdefault] at h
    obtain ⟨default, -, h⟩ := h.of_bind
    exact h.of_pure ▸ shows_accessorType hpath
  | some value =>
    rw [hdefault] at h
    obtain ⟨default, -, h⟩ := h.of_bind
    exact h.of_pure ▸ shows_accessorType hpath

theorem envelopeCode_prints (r : Record) (envelope : Envelope) :
    env.Prints (env.envelopeCode r envelope) env.InCode := by
  refine (package_prints _).bind fun wire _ => .pure ?_
  rintro path rfl
  exact .of_signature s!"(v *{r.ident}) EnvelopeType() {env.aliasOf path}.EnvelopeType" (by simp)
    (.append_append_self_append rfl rfl)

/-! ### Records -/

/-- One of the fields is always there, and the literal of its default shows the path. -/
def DropsDefault (env : Env) (owner : String) (fields : List Field) (path : String) : Prop :=
  ∃ f ∈ fields, env.program.holding? f.type f.required = some .value ∧ ∃ value expr, f.default = some value ∧
    Answers (env.literal (env.site ("default of " ++ fieldEntity f.name owner)) f.type value) expr ∧
    env.InText expr path

theorem LaidOut.dropsDefault {m : Member} (hm : env.LaidOut r m) {path : String} (h : env.Dropped m path) :
    r.isUnion = false ∧ env.DropsDefault r.name r.fields path := by
  obtain ⟨hvalue, value, expr, hdefault, hexpr, hpath⟩ := h
  obtain ⟨f, hf, htype, hrequired, hdefault', hentity⟩ := hm.field
  have hholding := hm.holding
  rw [hdefault] at hdefault'
  cases hunion : r.isUnion with
  | true => simp [hunion] at hdefault'
  | false =>
    rw [hunion, Bool.not_false, Bool.and_true] at hrequired
    rw [htype, hrequired, hvalue] at hholding
    rw [htype, hentity] at hexpr
    exact ⟨rfl, f, hf, hholding, value, expr, by simpa [hunion] using hdefault'.symm, hexpr, hpath⟩

/-- The code of a record prints what its methods use and what was used to lay it out. -/
theorem recordCode_passes {ms : List Member} (hms : Answers (env.layout r) ms) :
    env.Passes (fun path => ∃ m ∈ ms, env.InMember m path) (env.recordCode r ms) fun code path =>
      env.InCode code path ∨ r.isUnion = false ∧ env.DropsDefault r.name r.fields path := by
  refine (toWire_prints r ms).next fun toWire _ => (fromWire_prints r ms).next fun fromWire _ => ?_
  refine (recordString_prints r ms).next fun string _ => (recordEquals_prints r ms).next fun equals _ => ?_
  refine (recordLog_prints r ms).next fun log _ => ?_
  refine (Prints.mapM fun m _ => memberAccessors_prints r m).next fun accessors haccessors => ?_
  have haccessor {path : String} {code : Code} (hcode : code ∈ accessors) (h : env.InCode code path) :
      Shows (env.aliasOf path) accessors.flatten := .of_mem h hcode
  have hcode (envelope : Code) : env.Passes (fun path => (((((((∃ m ∈ ms, env.InMember m path) ∨
        env.InCode toWire path) ∨ env.InCode fromWire path) ∨ env.InCode string path) ∨ env.InCode equals path) ∨
        env.InCode log path) ∨ ∃ m ∈ ms, ∃ code ∈ accessors, env.InCode code path ∨ env.Dropped m path) ∨
        env.InCode envelope path)
      (Pure.pure (structType r ms ++ toWire ++ fromWire ++ string ++ equals ++ log ++ accessors.flatten
        ++ (if r.kind = .exception then exceptionCode r else []) ++ envelope)) fun code path =>
      env.InCode code path ∨ r.isUnion = false ∧ env.DropsDefault r.name r.fields path := by
    refine .pure ?_
    rintro path (((((((⟨m, hm, h⟩ | h) | h) | h) | h) | h) | ⟨m, hm, code, hcode, h | h⟩) | h)
    · obtain ⟨code, hcode, hanswer⟩ := haccessors.of_mapM m hm
      simp [InCode, haccessor hcode (inCode_memberAccessors hanswer h)]
    · simp [InCode, show Shows _ toWire from h]
    · simp [InCode, show Shows _ fromWire from h]
    · simp [InCode, show Shows _ string from h]
    · simp [InCode, show Shows _ equals from h]
    · simp [InCode, show Shows _ log from h]
    · simp [InCode, haccessor hcode h]
    · exact .inr ((laidOut_layout hms m hm).dropsDefault h)
    · simp [InCode, show Shows _ envelope from h]
  cases r.envelope with
  | none => exact .go (hcode _) fun _ => .inl
  | some envelope => exact (envelopeCode_prints r envelope).next fun _ _ => hcode _

/-- The code of a struct prints what it uses, or drops a default. -/
theorem structCode_prints (s : Struct) :
    env.Prints (env.structCode s) fun code path =>
      env.InCode code path ∨ s.kind ≠ .union ∧ env.DropsDefault s.name s.fields path := by
  refine .given fun ident _ => (layout_prints _).bind fun ms hms => (recordCode_passes hms).mono (fun _ h => h) ?_
  exact fun code path => Or.imp_right fun h => ⟨of_decide_eq_false h.1, h.2⟩

end Env

end GoSchema
