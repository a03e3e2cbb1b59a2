import GoSchema.Proofs.RecordPrinting

/-!
# Paths in the code for declarations

What the code of a declaration uses, it prints, apart from two things. The marshaler of a typedef takes the
alias of the package of log encoders before it is known whether there is a marshaler, and there is none for base
types and enums. And the accessors of a field take its default, also where the field is always there and the
default is never asked for.

## What is proved

* `Env.constantCode_prints`, `Env.enumCode_prints` and `Env.serviceCode_prints`: each path that the code of a
  constant, an enum or a service uses is shown in a line of it. For typedefs (`Env.typedefCode_prints`) and structs
  one of the two cases above is left.
* `Env.argsCode_passes` and `Env.resultCode_passes`: the records of a function do not have the second case, since
  neither arguments nor the members of a result have defaults.
* `Env.declarationsCode_prints` puts the declarations of a file together. `Env.Idle` names the cases that are left.

A line shows a path if the alias of the path stands in it before a dot, and the line is no comment. How often it is
shown is not counted: for an import once is enough.
-/

namespace GoSchema

open Go

/-- A struct or a container. -/
def Ty.isComposite : Ty → Bool
  | .struct _ | .list _ | .set _ _ | .map _ _ => true
  | .base _ | .enum _ | .typedef _ => false

namespace Env

variable {env : Env}

/-! ### Constants, enums and typedefs -/

theorem constantCode_prints (c : Constant) : env.Prints (env.constantCode c) env.InCode := by
  refine .given fun ident _ => .given fun _ _ => (typeText_prints _).bind fun type _ => ?_
  refine (literal_prints _ _ _).next fun value _ => .given fun isConstant _ => .pure ?_
  have hkeyword : plain (constantKeyword isConstant) = true := by cases isConstant <;> rfl
  have hplain (rest : String) : plain (constantKeyword isConstant ++ rest) = true := plain_append hkeyword rest
  rintro path (h | h)
  · exact .of_line s!"{constantKeyword isConstant} {ident} {type} = {value}" (by simp)
      (.append_left (.append_left (.append_append_append_right h (hplain _) rfl)))
  · exact .of_line s!"{constantKeyword isConstant} {ident} {type} = {value}" (by simp)
      (.append_append_append_right h (plain_append (plain_append (hplain _) _) _) rfl)

theorem shows_enumWire (name wire : String) : Shows wire (enumWire name wire) :=
  .of_signature s!"(v {name}) ToWire() ({wire}.Value, error)" (by simp [enumWire]) (.append_append_self_append rfl rfl)

theorem shows_enumString (name fmt : String) (table : List (Int32 × String)) :
    Shows fmt (enumString name fmt table) :=
  .of_line (s!"return {fmt}.Sprintf(" ++ quote (name ++ "(%d)") ++ ", w)") (by simp [enumString])
    (.append_left (.append_left (.append_self_append rfl rfl)))

theorem shows_enumMarshalText (name strconv : String) (table : List (Int32 × String)) :
    Shows strconv (enumMarshalText name strconv table) :=
  .of_line s!"return []byte({strconv}.FormatInt(int64(v), 10)), nil" (by simp [enumMarshalText])
    (.append_self_append rfl rfl)

theorem shows_enumMarshalLog (name zapcore : String) (table : List (Int32 × String)) :
    Shows zapcore (enumMarshalLog name zapcore table) :=
  .of_signature s!"(v {name}) MarshalLogObject(enc {zapcore}.ObjectEncoder) error" (by simp [enumMarshalLog])
    (.append_append_self_append rfl rfl)

theorem shows_enumUnmarshalJSON (name fmt json bytes math : String) :
    Shows json (enumUnmarshalJSON name fmt json bytes math) ∧
      Shows bytes (enumUnmarshalJSON name fmt json bytes math) ∧
      Shows math (enumUnmarshalJSON name fmt json bytes math) := by
  have hdecoder : HasLine (enumUnmarshalJSON name fmt json bytes math)
      s!"d := {json}.NewDecoder({bytes}.NewReader(text))" := by simp [enumUnmarshalJSON]
  refine ⟨.of_line _ hdecoder ?_, .of_line _ hdecoder ?_, ?_⟩
  · exact .append_left (.append_left (.append_self_append rfl rfl))
  · exact ⟨plain_append (plain_append (plain_append (plain_append rfl _) _) _) _, .append_append_self_append rfl rfl⟩
  · exact .of_condition s!"x > {math}.MaxInt32" (by simp [enumUnmarshalJSON]) (.append_self_append rfl rfl)

theorem enumCode_prints (e : Enum) : env.Prints (env.enumCode e) env.InCode := by
  refine .given fun name _ => .given fun items _ => (package_prints _).bind fun wire _ => ?_
  refine (package_prints _).next fun fmt _ => (package_prints _).next fun strconv _ => ?_
  refine (package_prints _).next fun json _ => (package_prints _).next fun bytes _ => ?_
  refine (package_prints _).next fun math _ => ?_
  dsimp only
  refine .fork env.InCode (fun log => .pure ?_) fun _ hk => ?_
  · have hJSON := shows_enumUnmarshalJSON name fmt json bytes math
    rintro path ((((((rfl | rfl) | rfl) | rfl) | rfl) | rfl) | h)
    · simp [InCode, shows_enumWire]
    · simp [InCode, shows_enumString]
    · simp [InCode, shows_enumMarshalText]
    · simp [InCode, hJSON]
    · simp [InCode, hJSON]
    · simp [InCode, hJSON]
    · simp [InCode, show Shows _ log from h]
  · refine (package_prints _).next fun zapcore _ => .go (hk _) ?_
    rintro path (h | rfl)
    · exact .inl h
    · exact .inr (shows_enumMarshalLog _ _ _)

/-- The path is that of the log encoders, and a typedef of this root has no marshaler for them. -/
def BareLog (env : Env) (root : Ty) (path : String) : Prop :=
  path = env.options.zapcoreImport ∧ env.options.noZap = false ∧ root.isComposite = false

theorem typedefLog_prints (receiver target : String) (root : Ty) :
    env.Prints (env.typedefLog receiver target root) fun code path =>
      env.InCode code path ∨ env.BareLog root path := by
  refine .ite (fun _ => .nothing) fun hlog => (package_prints_path _).bind fun zapcore _ => ?_
  rw [Bool.not_eq_true] at hlog
  cases root with
  | struct r =>
    refine .pure ?_
    rintro path ⟨-, rfl⟩
    exact .inl (.of_signature s!"(v {receiver}) MarshalLogObject(enc {env.aliasOf path}.ObjectEncoder) error"
      (by simp) (.append_append_self_append rfl rfl))
  | list e | set e a | map k v =>
    refine (zapper_prints _).silent fun ⟨zapper, shape⟩ _ => .pure ?_
    rintro path ⟨-, rfl⟩
    exact .inl (.of_signature
      s!"(v {receiver}) {shape.marshaler}(enc {env.aliasOf path}.{shape.encoder}) error" (by simp)
      (.append_left (.append_left (.append_append_self_append rfl rfl))))
  | base b | enum r | typedef r => exact .pure fun path hpath => .inr ⟨hpath.1, hlog, rfl⟩

theorem typedefCode_prints (t : Typedef) :
    env.Prints (env.typedefCode t) fun code path => env.InCode code path ∨
      ∃ root, env.root t.target = .ok root ∧ env.BareLog root path := by
  refine .given fun _ _ => .given fun name _ => (typeRef_prints _).bind fun targetType _ => ?_
  refine .given fun root hroot => .given fun byReference _ => (package_prints _).next fun wire _ => ?_
  refine (package_prints _).next fun fmt _ => (encode_prints _ _).next fun encoded _ => ?_
  dsimp only
  refine .fork env.InCode (fun fromWire => ?_) fun _ hk => ?_
  · refine (equals_prints _ _ _).next fun eq _ => (typedefLog_prints _ _ _).next fun log _ => .pure ?_
    rintro path ((((((h | rfl) | rfl) | h) | h) | h) | h | h)
    · exact .inl (.of_line s!"x := ({targetType.text})(v)" (by simp) (.append_left (.append_right h rfl)))
    · exact .inl (.of_signature s!"(v *{name}) FromWire(w {env.aliasOf path}.Value) error" (by simp)
        (.append_append_self_append rfl rfl))
    · exact .inl (.of_line s!"return {env.aliasOf path}.Sprint(x)" (by simp) (.append_self_append rfl rfl))
    · exact .inl (.of_line s!"return {encoded}" (by simp) (.append_right h rfl))
    · exact .inl (.of_part h (by simp +contextual))
    · exact .inl (.of_line s!"return {eq}" (by simp) (.append_right h rfl))
    · exact .inl (.of_part h (by simp +contextual))
    · exact .inr ⟨root, hroot, h⟩
  · refine (decode_prints _ _).next fun decoded _ => .go (hk _) fun path => Or.imp_right fun h => ?_
    exact .of_line s!"x, err := {decoded}" (by simp) (.append_right h rfl)

/-! ### Services -/

/-- One of the parts of a helper shows the path. -/
def InParts (env : Env) (parts : List HelperParts) (path : String) : Prop :=
  ∃ part ∈ parts, env.InCode part.fields path ∨ env.InCode part.init path

theorem mem_intersperse {α : Type} {a sep : α} {as : List α} (h : a ∈ as) : a ∈ as.intersperse sep := by
  induction as with
  | nil => cases h
  | cons b as ih =>
    cases as with
    | nil => exact h
    | cons c as =>
      rw [List.intersperse_cons_cons]
      rcases List.mem_cons.mp h with rfl | h
      · exact List.mem_cons_self
      · exact List.mem_cons_of_mem _ (List.mem_cons_of_mem _ (ih h))

theorem InParts.inCode {names : FunctionNames} {function path : String} {parts : List HelperParts}
    (h : env.InParts parts path) : env.InCode (helperCode names function parts) path := by
  obtain ⟨part, hpart, h | h⟩ := h
  · have hfields : Shows _ (parts.flatMap HelperParts.fields) := .of_mem h (List.mem_map_of_mem hpart)
    exact .of_part hfields (by simp +contextual [helperCode])
  · have hinit : Shows _ ((parts.map HelperParts.init).intersperse blank).flatten :=
      .of_mem h (mem_intersperse (List.mem_map_of_mem hpart))
    exact .of_part hinit (by simp +contextual [helperCode])

theorem argsHelper_prints {r : Record} (names : FunctionNames) {ms : List Member}
    (hms : ∀ m ∈ ms, env.LaidOut r m) :
    env.Prints (argsHelper names ms) fun part path => env.InCode part.fields path := by
  refine .get fun run => (usePaths_prints _).bind fun _ _ => .pure fun path hpath => ?_
  obtain ⟨m, hm, hpath⟩ := List.mem_flatMap.mp hpath
  have htype : m.goType.text ∈ ms.map fun m => m.goType.text := List.mem_map.mpr ⟨m, hm, rfl⟩
  let types := ", ".intercalate (ms.map fun m => m.goType.text)
  exact .of_line s!"Args func({types}) *{names.args}" (by simp [argsParts, types])
    (.append_left (.append_left (.append_right (.intercalate htype ((hms m hm).inText hpath)) rfl)))

@[simp] theorem hasLine_assignFunction {helper field signature text : String} {body : Code} :
    HasLine (assignFunction helper field signature body) text ↔
      text = s!"{helper}.{field} = func{signature} \x7b" ∨ HasLine body text ∨ text = "\x7d" := by
  simp [assignFunction]

theorem shows_isExceptionParts (names : FunctionNames) {exceptions : List ExceptionCase} {e : ExceptionCase}
    (he : e ∈ exceptions) {n : String} (h : Qualifies n e.type) :
    Shows n (isExceptionParts names exceptions).init := by
  refine .of_line (s!"case {e.type}" ++ ":") ?_ (.append_left (.append_right h rfl))
  have hbranch : ∃ x ∈ exceptions, HasLine (caseOf s!"case {x.type}" (line "return true")) (s!"case {e.type}" ++ ":") :=
    ⟨e, he, by simp⟩
  rw [isExceptionParts, hasLine_assignFunction, hasLine_switch, hasLine_append, hasLine_flatMap]
  exact .inr (.inl (.inr (.inl (.inl hbranch))))

theorem shows_wrapExceptions (result errors : String) {exceptions : List ExceptionCase} (h : exceptions ≠ []) :
    Shows errors (wrapExceptions result errors exceptions) := by
  obtain ⟨e, es, rfl⟩ := List.exists_cons_of_ne_nil h
  let message := s!"WrapResponse received non-nil error type with nil value for {result}.{e.ident}"
  exact .of_line s!"return nil, {errors}.New(\"{message}\")" (by simp [wrapExceptions, message])
    (.append_left (.append_left (.append_self_append rfl rfl)))

theorem shows_valueResponseType {names : FunctionNames} {result errors type n : String} {success : Member}
    {exceptions : List ExceptionCase} (h : Qualifies n type) :
    Shows n (valueResponseParts names result errors type success exceptions).fields :=
  .of_line s!"WrapResponse func({type}, error) (*{result}, error)" (by simp [valueResponseParts])
    (.append_left (.append_left (.append_left (.append_right h rfl))))

theorem shows_valueResponse {names : FunctionNames} {result errors type : String} {success : Member}
    {exceptions : List ExceptionCase} :
    Shows errors (valueResponseParts names result errors type success exceptions).init :=
  .of_line s!"err = {errors}.New(\"expected a non-void result\")" (by simp [valueResponseParts])
    (.append_self_append rfl rfl)

theorem shows_voidResponse {names : FunctionNames} {result errors : String} {exceptions : List ExceptionCase}
    (h : exceptions ≠ []) : Shows errors (voidResponseParts names result errors exceptions).init :=
  .of_part (shows_wrapExceptions result errors h) (by simp +contextual [voidResponseParts])

theorem resultHelper_prints (names : FunctionNames) (result : String) (ms : List Member) :
    env.Prints (env.resultHelper names result ms) env.InParts := by
  unfold resultHelper
  obtain ⟨success, thrown⟩ := splitResult ms
  have hcase (m : Member) : env.Prints (do return ExceptionCase.mk m.ident (← env.typeText m.type))
      fun e => env.InText e.type := (typeText_prints _).bind fun _ _ => .pure fun _ h => h
  refine (Prints.mapM fun m _ => hcase m).bind fun exceptions _ => ?_
  have hexception {path : String} {e : ExceptionCase} (he : e ∈ exceptions) (h : env.InText e.type path)
      (part : HelperParts) : env.InParts [isExceptionParts names exceptions, part] path :=
    ⟨_, List.mem_cons_self, .inr (shows_isExceptionParts names he h)⟩
  have hlast (first second : HelperParts) : second ∈ [first, second] := List.mem_cons_of_mem _ List.mem_cons_self
  dsimp only
  refine .fork' (fun errors path => env.aliasOf path = errors ∧
    (success.isSome || !exceptions.isEmpty) = true) (fun errors => ?_) fun hc hk => ?_
  · cases success with
    | some m =>
      refine (typeText_prints _).next fun type _ => ?_
      rw [pure_bind]
      refine .pure ?_
      rintro path ((⟨_, -, e, he, h⟩ | ⟨rfl, -⟩) | h)
      · exact hexception he h _
      · exact ⟨_, hlast _ _, .inr shows_valueResponse⟩
      · exact ⟨_, hlast _ _, .inl (shows_valueResponseType h)⟩
    | none =>
      rw [pure_bind]
      refine .pure ?_
      rintro path (⟨_, -, e, he, h⟩ | ⟨rfl, hc⟩)
      · exact hexception he h _
      · exact ⟨_, hlast _ _, .inr (shows_voidResponse (by simpa using hc))⟩
  · refine (package_prints _).next fun errors _ => (hk errors).mono (fun path => ?_) fun _ _ h => h
    exact Or.imp_right fun h => ⟨h, hc⟩

/-- Arguments have no defaults. -/
theorem argsCode_passes {f : Function} {ident : String} {ms : List Member}
    (hms : Answers (env.layout (f.argsRecord ident)) ms) :
    env.Passes (fun path => ∃ m ∈ ms, env.InMember m path) (env.recordCode (f.argsRecord ident) ms)
      env.InCode := by
  refine (recordCode_passes hms).mono (fun _ h => h) ?_
  rintro code path (h | ⟨-, field, hfield, -, value, expr, hdefault, -⟩)
  · exact h
  · obtain ⟨a, -, rfl⟩ := List.mem_map.mp hfield
    cases hdefault

/-- The members of a result are never all there. -/
theorem resultCode_passes {f : Function} {ident : String} {ms : List Member}
    (hms : Answers (env.layout (f.resultRecord ident)) ms) :
    env.Passes (fun path => ∃ m ∈ ms, env.InMember m path) (env.recordCode (f.resultRecord ident) ms)
      env.InCode := by
  refine (recordCode_passes hms).mono (fun _ h => h) ?_
  rintro code path (h | ⟨hunion, -⟩)
  · exact h
  · cases hunion

theorem functionCode_prints (names : FunctionNames) (f : Function) :
    env.Prints (env.functionCode names f) env.InCode := by
  refine (layout_prints _).bind fun args hargs => ?_
  refine (argsCode_passes hargs).bind fun argsCode _ => ?_
  have hparts := argsHelper_prints names (laidOut_layout hargs)
  cases names.result with
  | none =>
    refine hparts.next fun part _ => .pure ?_
    rintro path (h | h)
    · exact shows_append.mpr (.inl h)
    · exact shows_append.mpr (.inr (InParts.inCode ⟨part, by simp, .inl h⟩))
  | some ident =>
    refine (layout_prints _).next fun ms hms => (resultCode_passes hms).after fun resultCode _ => ?_
    refine hparts.next fun part _ => (resultHelper_prints names ident ms).next fun parts _ => .pure ?_
    rintro path (((h | h) | h) | ⟨more, hmore, h⟩)
    · exact .of_part h (by simp +contextual)
    · exact .of_part h (by simp +contextual)
    · exact shows_append.mpr (.inr (InParts.inCode ⟨part, by simp, .inl h⟩))
    · exact shows_append.mpr (.inr (InParts.inCode ⟨more, by simp [hmore], h⟩))

theorem serviceCode_prints (functions : FunctionTable) (s : Service × Nat) :
    env.Prints (env.serviceCode functions s) env.InCode := by
  have hfunction (f : Function × Nat) :
      env.Prints (do env.functionCode (← functions.names s.2 f.2 f.1) f.1) env.InCode :=
    .given fun names _ => functionCode_prints names f.1
  refine (Prints.mapM fun f _ => hfunction f).bind fun codes _ => .pure ?_
  rintro path ⟨f, hf, code, hcode, h⟩
  exact .of_mem h hcode

/-! ### Whole files -/

/-- Where a file takes the alias of a path for nothing: a typedef that is not logged takes that of the log
encoders, and the accessors of a field that is always there take those in its default. -/
def Idle (env : Env) (path : String) : Prop :=
  (∃ t ∈ env.program.typedefsOf env.file, ∃ root, env.root t.target = .ok root ∧ env.BareLog root path) ∨
    ∃ s ∈ env.program.structsOf env.file, s.kind ≠ .union ∧ env.DropsDefault s.name s.fields path

theorem declarationsCode_prints (functions : FunctionTable) :
    env.Prints (env.declarationsCode functions) fun code path => env.InCode code path ∨ env.Idle path := by
  refine (Prints.mapM fun c _ => constantCode_prints c).bind fun constants _ => ?_
  refine (Prints.mapM fun e _ => enumCode_prints e).next fun enums _ => ?_
  refine (Prints.mapM fun t _ => typedefCode_prints t).next fun typedefs _ => ?_
  refine (Prints.mapM fun s _ => structCode_prints s).next fun structs _ => ?_
  refine (Prints.mapM fun s _ => serviceCode_prints functions s).next fun services _ => .pure ?_
  rintro path ((((⟨_, -, code, hcode, h⟩ | ⟨_, -, code, hcode, h⟩) | ⟨t, ht, code, hcode, h⟩) |
    ⟨s, hs, code, hcode, h⟩) | ⟨_, -, code, hcode, h⟩)
  · exact .inl (.of_mem h (by simp [hcode]))
  · exact .inl (.of_mem h (by simp [hcode]))
  · rcases h with h | h
    · exact .inl (.of_mem h (by simp [hcode]))
    · exact .inr (.inl ⟨t, ht, h⟩)
  · rcases h with h | h
    · exact .inl (.of_mem h (by simp [hcode]))
    · exact .inr (.inr ⟨s, hs, h⟩)
  · exact .inl (.of_mem h (by simp [hcode]))

end Env

end GoSchema
