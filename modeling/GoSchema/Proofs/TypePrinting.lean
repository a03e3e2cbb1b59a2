import GoSchema.Proofs.Printing

/-!
# Paths in the code for types

What the emitters for types use, they print: Go types, the wire format, equality and logging. The code of a
helper shows all that it uses, so a request for a helper leaves nothing open. Only the texts that are handed
back have to be printed by those who asked for them.

## What is proved

* `Env.typeRef_prints`, `Env.encode_prints`, `Env.decode_prints`, `Env.equals_prints` and `Env.logWith_prints`:
  each emitter leaves only those paths open that stand in its answer.
* `Env.sequenceAdapter_prints`, `Env.sequenceReader_prints`, `Env.sequenceZapper_passes` and their like: the code
  of a helper shows what it uses. For each path the line that shows it is named.

The lines are found in the code by their texts. A change to the text of a helper that keeps the alias in some line
asks for a new name of the line here, and for nothing else.
-/

namespace GoSchema

open Go

namespace Env

variable {env : Env} {ty : Ty}

/-! ### References and Go types -/

/-- A reference goes by the alias of its package. -/
def Aliased (env : Env) (ref : Reference) : Prop := ∀ k ∈ ref.package, k.name = env.aliasOf k.path

theorem aliased_packageOf (file : Ref .file) (ident : String) : env.Aliased ⟨env.packageOf file, ident⟩ := by
  intro k hk
  unfold packageOf at hk
  split_ifs at hk
  · cases hk
  · split at hk
    · cases hk
    · split_ifs at hk
      · cases hk
      · cases hk
        rfl

theorem aliased_of_reference {file : Ref .file} {name : String} {a : Annotations} {ref : Reference}
    (h : env.reference file name a = .ok ref) : env.Aliased ref := by
  obtain ⟨path, -, h⟩ := Except.bind_eq_ok.mp h
  obtain ⟨ident, -, h⟩ := Except.bind_eq_ok.mp h
  cases h
  exact aliased_packageOf file ident

theorem aliased_of_structRef {r : Ref .struct} {ref : Reference} (h : env.structRef r = .ok ref) :
    env.Aliased ref := by
  obtain ⟨s, -, h⟩ := Except.bind_eq_ok.mp h
  exact aliased_of_reference h

theorem aliased_of_enumRef {r : Ref .enum} {ref : Reference} (h : env.enumRef r = .ok ref) :
    env.Aliased ref := by
  obtain ⟨e, -, h⟩ := Except.bind_eq_ok.mp h
  exact aliased_of_reference h

theorem aliased_of_typedefRef {r : Ref .typedef} {ref : Reference} (h : env.typedefRef r = .ok ref) :
    env.Aliased ref := by
  obtain ⟨t, -, h⟩ := Except.bind_eq_ok.mp h
  exact aliased_of_reference h

theorem aliased_of_constantRef {r : Ref .constant} {ref : Reference} (h : env.constantRef r = .ok ref) :
    env.Aliased ref := by
  obtain ⟨c, -, h⟩ := Except.bind_eq_ok.mp h
  exact aliased_of_reference h

theorem aliased_of_enumItemRef {r : Ref .enum} {item : Nat} {ref : Reference}
    (h : env.enumItemRef r item = .ok ref) : env.Aliased ref := by
  obtain ⟨e, -, h⟩ := Except.bind_eq_ok.mp h
  split at h
  · cases h
  · obtain ⟨path, -, h⟩ := Except.bind_eq_ok.mp h
    obtain ⟨enumIdent, -, h⟩ := Except.bind_eq_ok.mp h
    obtain ⟨ident, -, h⟩ := Except.bind_eq_ok.mp h
    cases h
    exact aliased_packageOf e.file ident

theorem aliased_of_goType {t : GoType} (h : env.goType ty = .ok t) : t.Aliased env.aliasOf := by
  induction ty generalizing t with
  | base b => cases b <;> cases h <;> trivial
  | list e ih =>
    obtain ⟨te, he, h⟩ := Except.bind_eq_ok.mp h
    cases h
    have hte := ih he
    exact hte
  | set e a ih =>
    obtain ⟨te, he, h⟩ := Except.bind_eq_ok.mp h
    obtain ⟨keyed, -, h⟩ := Except.bind_eq_ok.mp h
    have hte := ih he
    cases keyed <;> cases h
    · exact hte
    · exact ⟨hte, trivial⟩
  | map k v ihk ihv =>
    obtain ⟨tk, hk, h⟩ := Except.bind_eq_ok.mp h
    obtain ⟨tv, hv, h⟩ := Except.bind_eq_ok.mp h
    obtain ⟨keyed, -, h⟩ := Except.bind_eq_ok.mp h
    cases keyed <;> cases h <;> exact ⟨ihk hk, ihv hv⟩
  | enum r =>
    obtain ⟨ref, href, h⟩ := Except.bind_eq_ok.mp h
    cases h
    exact aliased_of_enumRef href
  | struct r =>
    obtain ⟨ref, href, h⟩ := Except.bind_eq_ok.mp h
    cases h
    exact aliased_of_structRef href
  | typedef r =>
    obtain ⟨ref, href, h⟩ := Except.bind_eq_ok.mp h
    obtain ⟨byReference, -, h⟩ := Except.bind_eq_ok.mp h
    cases byReference <;> cases h <;> exact aliased_of_typedefRef href

theorem refer_prints {ref : Reference} (h : env.Aliased ref) : env.Prints (refer ref) env.InText :=
  (usePaths_prints _).bind fun _ _ => .pure fun _ hpath => ref.qualifies h hpath

theorem package_prints_path (path : String) :
    env.Prints (env.package path) fun name p => p = path ∧ env.aliasOf p = name := by
  refine (usePaths_prints _).bind fun _ _ => .pure fun p hp => ?_
  obtain rfl := List.mem_singleton.mp hp
  exact ⟨rfl, rfl⟩

theorem package_prints (path : String) : env.Prints (env.package path) fun name p => env.aliasOf p = name :=
  (package_prints_path path).mono (fun _ h => h) fun _ _ h => h.2

theorem typeRef_prints (ty : Ty) : env.Prints (env.typeRef ty) fun t => env.InText t.text := by
  refine .given fun t ht => (usePaths_prints _).bind fun _ _ => .pure fun path hpath => ?_
  exact (aliased_of_goType ht).qualifies hpath

theorem typeText_prints (ty : Ty) : env.Prints (env.typeText ty) env.InText :=
  (typeRef_prints ty).bind fun _ _ => .pure fun _ h => h

/-! ### The wire format -/

theorem wireTag_prints (ty : Ty) : env.Prints (env.wireTag ty) env.InText := by
  refine (package_prints _).bind fun wire _ => .given fun tag _ => .pure ?_
  rintro path rfl
  exact .append_left (.self_append rfl)

theorem newValue_prints (accessor value : String) : env.Prints (env.newValue accessor value) env.InText := by
  refine (package_prints _).bind fun wire _ => .pure ?_
  rintro path rfl
  exact .of_isPrefix s!"{env.aliasOf path}.NewValue" (by simp) (.self_append rfl)

theorem nilGuard_prints (ty : Ty) (element receiver what container : String) :
    env.Prints (env.nilGuard ty element receiver what container) env.InCode := by
  refine .given fun byReference _ => ?_
  cases byReference with
  | false => exact .pure fun _ => False.elim
  | true =>
    refine (package_prints _).bind fun fmt _ => .pure ?_
    rintro path rfl
    refine .of_line
      s!"return {env.aliasOf path}.Errorf(\"invalid {container} '%T': contains nil {what}\", {receiver})"
      (by simp) ?_
    exact .of_isPrefix s!"return {env.aliasOf path}.Errorf(\"invalid " (by simp) (.append_self_append rfl rfl)

theorem sequenceAdapter_prints (ty element : Ty) (keyed : Bool) (container : String)
    {encodeElement : Emit String} (hencode : env.Prints encodeElement env.InText) (name : String) :
    env.Prints (env.sequenceAdapter ty element keyed container encodeElement name) env.InCode := by
  refine (typeText_prints ty).bind fun type _ => (package_prints _).next fun wire _ => ?_
  refine (nilGuard_prints _ _ _ _ _).next fun guard _ => hencode.next fun encoded _ => ?_
  refine (wireTag_prints element).next fun tag _ => .pure ?_
  rintro path ((((h | rfl) | h) | h) | h)
  · exact .of_line s!"type {name} {type}" (by simp) (.append_append_append_right h rfl rfl)
  · exact .of_signature s!"({name}) ValueType() {env.aliasOf path}.Type" (by simp)
      (.append_append_self_append rfl rfl)
  · exact .of_part h (by simp +contextual)
  · exact .of_line s!"w, err := {encoded}" (by simp) (.append_right h rfl)
  · exact .of_line s!"return {tag}" (by simp) (.append_right h rfl)

theorem mapAdapter_prints (key value : Ty) {encodeKey encodeEntry : Emit String}
    (hkey : env.Prints encodeKey env.InText) (hentry : env.Prints encodeEntry env.InText) (name : String) :
    env.Prints (env.mapAdapter key value encodeKey encodeEntry name) env.InCode := by
  refine (typeText_prints _).bind fun type _ => (package_prints _).next fun wire _ => ?_
  refine (nilGuard_prints _ _ _ _ _).next fun keyGuard _ => ?_
  refine (nilGuard_prints _ _ _ _ _).next fun valueGuard _ => ?_
  refine hkey.next fun encodedKey _ => hentry.next fun encodedValue _ => ?_
  refine (wireTag_prints key).next fun keyTag _ => (wireTag_prints value).next fun valueTag _ => ?_
  refine .given fun keyed _ => .pure ?_
  rintro path (((((((h | rfl) | h) | h) | h) | h) | h) | h)
  · exact .of_line s!"type {name} {type}" (by simp) (.append_append_append_right h rfl rfl)
  · exact .of_signature s!"({name}) ValueType() {env.aliasOf path}.Type" (by simp)
      (.append_append_self_append rfl rfl)
  -- The loop has one of two heads, and the same statements in both.
  · exact .of_part h (by cases keyed <;> simp +contextual)
  · exact .of_part h (by cases keyed <;> simp +contextual)
  · exact .of_line s!"kw, err := {encodedKey}" (by cases keyed <;> simp) (.append_right h rfl)
  · exact .of_line s!"vw, err := {encodedValue}" (by cases keyed <;> simp) (.append_right h rfl)
  · exact .of_line s!"return {keyTag}" (by simp) (.append_right h rfl)
  · exact .of_line s!"return {valueTag}" (by simp) (.append_right h rfl)

theorem encode_prints (ty : Ty) (value : String) : env.Prints (env.encode ty value) env.InText := by
  induction ty generalizing value with
  | base b => exact newValue_prints _ _
  | enum r | struct r | typedef r => exact .nothing
  | list e ih =>
    refine (request_prints fun name => ?_).silent fun _ _ => newValue_prints _ _
    exact sequenceAdapter_prints _ _ _ _ (ih "x") name
  | set e a ih =>
    refine (request_prints fun name => ?_).silent fun _ _ => newValue_prints _ _
    exact .given fun keyed _ => sequenceAdapter_prints _ _ _ _ (ih "x") name
  | map k v ihk ihv =>
    refine (request_prints fun name => ?_).silent fun _ _ => newValue_prints _ _
    exact mapAdapter_prints _ _ (ihk "k") (ihv "v") name

theorem tagCheck_prints (container accessor : String) (expected : Ty) (what : String) :
    env.Prints (env.tagCheck container accessor expected what) env.InCode := by
  refine (package_prints _).bind fun fmt _ => (wireTag_prints expected).next fun tag _ => .pure ?_
  let message := s!"unexpected wire type %v for {what} element, expected %v"
  rintro path (rfl | h)
  · refine .of_line
      s!"return nil, {env.aliasOf path}.Errorf(\"{message}\", {container}.{accessor}(), {tag})" (by simp [message]) ?_
    exact .of_isPrefix s!"return nil, {env.aliasOf path}.Errorf(\"" (by simp) (.append_self_append rfl rfl)
  · exact .of_condition s!"{container}.Size() > 0 && {container}.{accessor}() != {tag}" (by simp)
      (h.append_append_right rfl)

theorem sequenceReader_prints (ty element : Ty) (keyed : Bool) (container source : String)
    {decodeElement : Emit String} (hdecode : env.Prints decodeElement env.InText) (name : String) :
    env.Prints (env.sequenceReader ty element keyed container source decodeElement name) env.InCode := by
  refine (typeText_prints ty).bind fun type _ => (package_prints _).next fun wire _ => ?_
  refine (tagCheck_prints _ _ _ _).next fun check _ => hdecode.next fun decoded _ => .pure ?_
  rintro path (((h | rfl) | h) | h)
  · exact .of_signature s!"{name}({source} {wire}.ValueList) ({type}, error)" (by simp)
      (h.append_append_right rfl).append_left
  · exact .of_signature s!"{name}({source} {env.aliasOf path}.ValueList) ({type}, error)" (by simp)
      (.append_left (.append_left (.append_append_self_append rfl rfl)))
  · exact .of_part h (by simp +contextual)
  · exact .of_line s!"i, err := {decoded}" (by simp) (.append_right h rfl)

theorem mapReader_prints (key value : Ty) {decodeKey decodeEntry : Emit String}
    (hkey : env.Prints decodeKey env.InText) (hentry : env.Prints decodeEntry env.InText) (name : String) :
    env.Prints (env.mapReader key value decodeKey decodeEntry name) env.InCode := by
  refine (typeRef_prints _).bind fun goType _ => (package_prints _).next fun wire _ => ?_
  refine (tagCheck_prints _ _ _ _).next fun keyCheck _ => (tagCheck_prints _ _ _ _).next fun valueCheck _ => ?_
  refine hkey.next fun decodedKey _ => hentry.next fun decodedValue _ => .pure ?_
  rintro path (((((h | rfl) | h) | h) | h) | h)
  · exact .of_signature s!"{name}(m {wire}.MapItemList) ({goType.text}, error)" (by simp)
      (h.append_append_right rfl).append_left
  · exact .of_signature s!"{name}(m {env.aliasOf path}.MapItemList) ({goType.text}, error)" (by simp)
      (.append_left (.append_left (.append_append_self_append rfl rfl)))
  · exact .of_part h (by simp +contextual)
  · exact .of_part h (by simp +contextual)
  · exact .of_line s!"k, err := {decodedKey}" (by simp) (.append_right h rfl)
  · exact .of_line s!"v, err := {decodedValue}" (by simp) (.append_right h rfl)

theorem namedReaderCode_prints (ty : Ty) (name : String) :
    env.Prints (env.namedReaderCode ty name) env.InCode := by
  refine .given fun byReference _ => (typeRef_prints ty).bind fun goType _ => ?_
  refine (package_prints _).next fun wire _ => .pure ?_
  rintro path (h | rfl)
  · exact .of_signature s!"{name}(w {wire}.Value) ({goType.text}, error)" (by simp)
      (h.append_append_right rfl).append_left
  · exact .of_signature s!"{name}(w {env.aliasOf path}.Value) ({goType.text}, error)" (by simp)
      (.append_left (.append_left (.append_append_self_append rfl rfl)))

theorem decode_prints (ty : Ty) (value : String) : env.Prints (env.decode ty value) env.InText := by
  induction ty generalizing value with
  | base b => exact .nothing
  | enum r | struct r | typedef r =>
    exact (request_prints fun name => namedReaderCode_prints _ name).silent fun _ _ => .nothing
  | list e ih =>
    refine (request_prints fun name => ?_).silent fun _ _ => .nothing
    exact sequenceReader_prints _ _ _ _ _ (ih "x") name
  | set e a ih =>
    refine (request_prints fun name => ?_).silent fun _ _ => .nothing
    exact .given fun keyed _ => sequenceReader_prints _ _ _ _ _ (ih "x") name
  | map k v ihk ihv =>
    refine (request_prints fun name => ?_).silent fun _ _ => .nothing
    exact mapReader_prints _ _ (ihk "x.Key") (ihv "x.Value") name

/-! ### Equality -/

theorem shows_comparatorType {name type n : String} {loop : Code} (h : Qualifies n type) :
    Shows n (comparatorCode name type loop) :=
  .of_signature s!"{name}(lhs, rhs {type}) bool" (by simp [comparatorCode]) (h.append_append_right rfl).append_left

theorem shows_comparatorLoop {name type n : String} {loop : Code} (condition : String)
    (hline : HasLine loop ("if " ++ condition ++ " \x7b")) (h : Qualifies n condition) :
    Shows n (comparatorCode name type loop) :=
  .of_condition condition (by simp [comparatorCode, hline]) h

theorem equals_prints (ty : Ty) (lhs rhs : String) : env.Prints (env.equals ty lhs rhs) env.InText := by
  induction ty generalizing lhs rhs with
  | base b =>
    cases b with
    | binary =>
      refine (package_prints _).bind fun bytes _ => .pure ?_
      rintro path rfl
      exact .of_isPrefix s!"{env.aliasOf path}.Equal(" (by simp) (.self_append rfl)
    | _ => exact .nothing
  | enum r | struct r | typedef r => exact .nothing
  | list e ih =>
    refine (request_prints fun name => ?_).silent fun _ _ => .nothing
    refine (typeText_prints _).bind fun type _ => (ih _ _).next fun eq _ => .pure ?_
    rintro path (h | h)
    · exact shows_comparatorType h
    · exact shows_comparatorLoop s!"!{eq}" (by simp [listLoop]) (h.append_right rfl)
  | set e a ih =>
    refine (request_prints fun name => ?_).silent fun _ _ => .nothing
    refine (typeText_prints _).bind fun type _ => .given fun keyed _ => ?_
    cases keyed with
    | true => exact .pure fun _ => shows_comparatorType
    | false =>
      refine (ih _ _).next fun eq _ => .pure ?_
      rintro path (h | h)
      · exact shows_comparatorType h
      · exact shows_comparatorLoop eq (by simp [searchSetLoop]) h
  | map k v ihk ihv =>
    refine (request_prints fun name => ?_).silent fun _ _ => .nothing
    refine (typeText_prints _).bind fun type _ => (ihv _ _).next fun valueEq _ => ?_
    refine .given fun keyed _ => ?_
    cases keyed with
    | true =>
      refine .pure ?_
      rintro path (h | h)
      · exact shows_comparatorType h
      · exact shows_comparatorLoop s!"!{valueEq}" (by simp [keyedMapLoop]) (h.append_right rfl)
    | false =>
      refine (ihk _ _).next fun keyEq _ => .pure ?_
      rintro path ((h | h) | h)
      · exact shows_comparatorType h
      · exact shows_comparatorLoop s!"!{valueEq}" (by simp [searchMapLoop]) (h.append_right rfl)
      · exact shows_comparatorLoop s!"!{keyEq}" (by simp [searchMapLoop]) (h.append_right rfl)

theorem equalsPtr_prints (ty : Ty) : env.Prints (env.equalsPtr ty) fun _ _ => False := by
  refine request_prints fun name => ?_
  refine (typeText_prints ty).bind fun type _ => (equals_prints ty _ _).next fun eq _ => .pure ?_
  rintro path (h | h)
  · exact .of_signature s!"{name}(lhs, rhs *{type}) bool" (by simp) (h.append_append_right rfl).append_left
  · exact .of_line s!"return {eq}" (by simp) (.append_right h rfl)

/-! ### Logging -/

theorem shows_marshaler {shape : LogShape} {receiver name zapcore : String} {body : Code} :
    Shows zapcore (marshalerCode shape receiver name zapcore body) := by
  refine .of_signature s!"({receiver} {name}) {shape.marshaler}(enc {zapcore}.{shape.encoder}) (err error)"
    (by simp [marshalerCode]) ?_
  exact .append_left (.append_left (.append_append_self_append rfl rfl))

theorem logCall_passes (method : LogMethod) (call : String) :
    env.Passes (fun path => Displays (env.aliasOf path) call) (env.logCall method call) env.InCode := by
  cases method with
  | composite shape =>
    refine (package_prints _).next fun multierr _ => .pure ?_
    rintro path (h | rfl)
    · exact .of_line s!"err = {multierr}.Append(err, {call})" (by simp)
        (.append_left (.append_append_append_right h.qualifies rfl rfl))
    · exact .of_line s!"err = {env.aliasOf path}.Append(err, {call})" (by simp)
        (.append_left (.append_left (.append_self_append rfl rfl)))
  | _ => exact .pure fun _ h => .of_line call (by simp) h

theorem logAdd_passes (key : String) (value : LogValue) :
    env.Passes (env.InText value.expr) (env.logAdd key value) env.InCode := by
  refine (logCall_passes _ _).mono (fun _ h => ?_) fun _ _ h => h
  exact .append_left (.append_append_append_right h (plain_append (plain_append rfl _) _) rfl)

theorem logAppend_passes (value : LogValue) :
    env.Passes (env.InText value.expr) (env.logAppend value) env.InCode :=
  (logCall_passes _ _).mono (fun _ h => .append_left (.append_append_append_right h rfl rfl)) fun _ _ h => h

theorem logBase_passes (b : Base) (expr : String) :
    env.Passes (env.InText expr) (env.logBase b expr) fun value => env.InText value.expr := by
  cases b with
  | binary =>
    refine (package_prints _).next fun base64 _ => .pure ?_
    rintro path (h | rfl)
    · exact (h.append_append_right rfl).append_left
    · exact .append_left (.append_left (.self_append rfl))
  | _ => exact .pure fun _ h => h

theorem sequenceZapper_passes (type zapcore : String) (keyed : Except GenError Bool) {logElement : Emit LogValue}
    (helement : env.Prints logElement fun value => env.InText value.expr) (name : String) :
    env.Passes (fun path => env.InText type path ∨ env.aliasOf path = zapcore)
      (env.sequenceZapper type zapcore keyed logElement name) env.InCode := by
  refine .given fun keyed _ => helement.next fun value _ => ?_
  refine (logAppend_passes value).after fun append _ => .pure ?_
  rintro path ((h | rfl) | h)
  · exact .of_line s!"type {name} {type}" (by simp) (.append_append_append_right h rfl rfl)
  · exact shows_append.mpr (.inr shows_marshaler)
  · exact .of_part h (by simp +contextual [marshalerCode])

theorem itemZapper_prints (key value : Ty) {logKey logEntry : String → Emit LogValue}
    (hkey : ∀ e, env.Prints (logKey e) fun value => env.InText value.expr)
    (hentry : ∀ e, env.Prints (logEntry e) fun value => env.InText value.expr) :
    env.Prints (env.itemZapper key value logKey logEntry) fun _ _ => False := by
  refine request_prints fun name => ?_
  refine (typeText_prints key).bind fun keyType _ => (typeText_prints value).next fun valueType _ => ?_
  refine (package_prints _).next fun zapcore _ => ?_
  refine (hkey _).next fun k _ => (logAdd_passes _ k).after fun addKey _ => ?_
  refine (hentry _).next fun v _ => (logAdd_passes _ v).after fun addValue _ => .pure ?_
  rintro path ((((h | h) | rfl) | h) | h)
  · exact .of_line s!"Key   {keyType}" (by simp) (.append_right h rfl)
  · exact .of_line s!"Value {valueType}" (by simp) (.append_right h rfl)
  · exact shows_append.mpr (.inr shows_marshaler)
  · exact .of_part h (by simp +contextual [marshalerCode])
  · exact .of_part h (by simp +contextual [marshalerCode])

theorem mapZapper_passes (type zapcore : String) (key value : Ty) (shape : LogShape)
    {logKey logEntry : String → Emit LogValue}
    (hkey : ∀ e, env.Prints (logKey e) fun value => env.InText value.expr)
    (hentry : ∀ e, env.Prints (logEntry e) fun value => env.InText value.expr) (name : String) :
    env.Passes (fun path => env.InText type path ∨ env.aliasOf path = zapcore)
      (env.mapZapper type zapcore key value shape logKey logEntry name) env.InCode := by
  cases shape with
  | object =>
    refine (hentry _).next fun v _ => (logAdd_passes _ v).after fun add _ => .pure ?_
    rintro path ((h | rfl) | h)
    · exact .of_line s!"type {name} {type}" (by simp) (.append_append_append_right h rfl rfl)
    · exact shows_append.mpr (.inr shows_marshaler)
    · exact .of_part h (by simp +contextual [marshalerCode])
  | array =>
    refine (itemZapper_prints key value hkey hentry).silent fun item _ => ?_
    refine (package_prints _).next fun multierr _ => .given fun keyed _ => .pure ?_
    rintro path ((h | rfl) | rfl)
    · exact .of_line s!"type {name} {type}" (by simp) (.append_append_append_right h rfl rfl)
    · exact shows_append.mpr (.inr shows_marshaler)
    · let entry := if keyed then "Key: k, Value: v" else "Key: i.Key, Value: i.Value"
      refine .of_line (s!"err = {env.aliasOf path}.Append(err, enc.AppendObject({item}" ++ braced entry ++ "))")
        (by simp [marshalerCode, entry]) ?_
      exact .append_left (.append_left (.append_left (.append_self_append rfl rfl)))

theorem logTypedef_prints (ty root : Ty) (expr : String) :
    env.Prints (env.logTypedef ty root expr) fun value => env.InText value.expr := by
  cases root with
  | struct r => exact .nothing
  | typedef r => exact .throw
  | base b =>
    refine (typeText_prints _).bind fun type _ => (logBase_passes b _).mono (fun _ h => ?_) fun _ _ h => h
    exact (h.append_right rfl).append_left.append_left.append_left
  | enum r =>
    refine (typeText_prints _).bind fun type _ => .pure fun _ h => ?_
    exact (h.append_right rfl).append_left.append_left.append_left
  | list _ | set _ _ | map _ _ => exact .given fun shape _ => .nothing

theorem zapperWith_prints {zapper : String → Emit Code} (hzapper : ∀ name, env.Prints (zapper name) env.InCode)
    (ty : Ty) : env.Prints (env.zapperWith zapper ty) fun _ _ => False :=
  .given fun _ _ => (request_prints hzapper).silent fun _ _ => .nothing

theorem logWith_prints {zapper : String → Emit Code} (hzapper : ∀ name, env.Prints (zapper name) env.InCode)
    (ty : Ty) (expr : String) : env.Prints (env.logWith zapper ty expr) fun value => env.InText value.expr := by
  cases ty with
  | base b => exact (logBase_passes b expr).mono (fun _ h => h.elim) fun _ _ h => h
  | enum r | struct r => exact .nothing
  | typedef r => exact .given fun root _ => logTypedef_prints _ root expr
  | list _ | set _ _ | map _ _ => exact (zapperWith_prints hzapper _).silent fun _ _ => .nothing

theorem zapperCode_prints (ty : Ty) (name : String) : env.Prints (env.zapperCode ty name) env.InCode := by
  induction ty generalizing name with
  | base _ | enum _ | struct _ | typedef _ =>
    exact (typeText_prints _).bind fun _ _ => (package_prints _).next fun _ _ => .throw
  | list e ih | set e a ih =>
    refine (typeText_prints _).bind fun type _ => (package_prints _).next fun zapcore _ => ?_
    exact sequenceZapper_passes type zapcore _ (logWith_prints ih e "v") name
  | map k v ihk ihv =>
    refine (typeText_prints _).bind fun type _ => (package_prints _).next fun zapcore _ => ?_
    refine .given fun shape _ => ?_
    exact mapZapper_passes type zapcore k v shape (logWith_prints ihk k) (logWith_prints ihv v) name

theorem zapper_prints (ty : Ty) : env.Prints (env.zapper ty) fun _ _ => False :=
  zapperWith_prints (zapperCode_prints ty) ty

theorem logValue_prints (ty : Ty) (expr : String) :
    env.Prints (env.logValue ty expr) fun value => env.InText value.expr :=
  logWith_prints (zapperCode_prints ty) ty expr

end Env

end GoSchema
