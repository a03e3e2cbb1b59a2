import GoSchema.Proofs.Emission

/-!
# Code for types

The emitters that follow the structure of a type, in a sound program: its Go type, the wire format,
equality and logging. Each keeps to the steps of `Env.Grows`, and gives an answer for every type that is
there. A container asks for its helper, whose code asks for those of its parts, so the proofs go by induction on
the type.

## What is proved

* `Env.goType_yields` and `Env.typeText_emits`: every type that is there has a Go type, whose packages may be used.
* `Env.encode_emits`, `Env.decode_emits`, `Env.equals_emits` and `Env.logValue_emits`: the four families of
  emitters. Each asks for a helper only with a type of the shape that the helper is for, so that the branches for
  other shapes are never taken.
* `Env.logTypedef_emits`: below the layers of a typedef there is no typedef, so there is always a way to log it.

Logging is treated only where it is not switched off. What the helpers print is left to the modules about printing.
-/

namespace GoSchema

open Go Program

namespace Env

variable {env : Env} {ty : Ty}

/-! ### References and Go types -/

theorem mayUseAll_nil : env.MayUseAll [] := by simp [MayUseAll]

theorem MayUseAll.append {as bs : List String} (ha : env.MayUseAll as) (hb : env.MayUseAll bs) :
    env.MayUseAll (as ++ bs) := fun path h => (List.mem_append.mp h).elim (ha path) (hb path)

theorem identifier_yields (name : String) (a : Annotations) (site : Site) :
    Yields (identifier name a site) fun _ => True := by
  unfold identifier
  split
  · exact .ok trivial
  · split_ifs
    · exact .ok trivial
    · exact .error trivial

theorem pathOf_yields {r : Ref .file} (h : env.program.FileInRange r) :
    Yields (env.pathOf r) fun _ => True := by
  obtain ⟨f, hf⟩ := file?_isSome h
  exact .found ⟨f.path, by rw [hf, Option.map_some]⟩

/-- The package of a file is imported only when it is another one. -/
theorem mayUse_packageOf {r : Ref .file} {package : Package} (h : env.packageOf r = some package) :
    env.MayUse package.path := by
  unfold packageOf at h
  split_ifs at h with hfile
  split at h
  · cases h
  · rename_i f hf
    split_ifs at h with himport
    cases h
    exact .inr (.inr (.inr ⟨r, f, hf, hfile, himport, rfl⟩))

theorem mayUseAll_paths (r : Ref .file) (ident : String) :
    env.MayUseAll (Reference.paths ⟨env.packageOf r, ident⟩) := by
  intro path hpath
  simp only [Reference.paths, List.mem_map, Option.mem_toList] at hpath
  obtain ⟨package, hpackage, rfl⟩ := hpath
  exact mayUse_packageOf hpackage

theorem reference_yields {r : Ref .file} (h : env.program.FileInRange r) (name : String)
    (a : Annotations) : Yields (env.reference r name a) fun ref => env.MayUseAll ref.paths :=
  (pathOf_yields h).bind fun _ _ => (identifier_yields _ _ _).bind fun _ _ =>
    .pure (mayUseAll_paths r _)

theorem enumRef_yields (hp : env.program.Sound) {r : Ref .enum} (h : env.program.TypeInRange (.enum r)) :
    Yields (env.enumRef r) fun ref => env.MayUseAll ref.paths := by
  obtain ⟨e, hmem, he⟩ := enum?_isSome h
  exact (Yields.present he rfl).bind fun _ h => h ▸ reference_yields (hp.enums e hmem) _ _

theorem structRef_yields (hp : env.program.Sound) {r : Ref .struct}
    (h : env.program.TypeInRange (.struct r)) :
    Yields (env.structRef r) fun ref => env.MayUseAll ref.paths := by
  obtain ⟨s, hmem, hs⟩ := struct?_isSome h
  exact (Yields.present hs rfl).bind fun _ h => h ▸ reference_yields (hp.structs s hmem).1 _ _

theorem typedefRef_yields (hp : env.program.Sound) {r : Ref .typedef}
    (h : env.program.TypeInRange (.typedef r)) :
    Yields (env.typedefRef r) fun ref => env.MayUseAll ref.paths := by
  obtain ⟨t, hmem, ht⟩ := typedef?_isSome h
  exact (Yields.present ht rfl).bind fun _ h => h ▸ reference_yields (hp.typedefs t hmem).1 _ _

theorem constantRef_yields (hp : env.program.Sound) {r : Ref .constant}
    (h : env.program.ValueInRange (.constant r)) :
    Yields (env.constantRef r) fun ref => env.MayUseAll ref.paths := by
  obtain ⟨c, hmem, hc⟩ := constant?_isSome h
  exact (Yields.present hc rfl).bind fun _ h => h ▸ reference_yields (hp.constants c hmem).1 _ _

theorem root_yields (hp : env.program.Sound) (h : env.program.TypeInRange ty) :
    Yields (env.root ty) fun root => env.program.rootType? ty = some root ∧
      env.program.TypeInRange root ∧ root.isTypedef = false := by
  obtain ⟨root, hroot, hfacts⟩ := hp.rootType?_isSome h
  exact .present hroot ⟨hroot, hfacts⟩

theorem isKeyedSet_yields (hp : env.program.Sound) (h : env.program.TypeInRange ty) (a : Annotations) :
    Yields (env.isKeyedSet ty a) fun _ => True := .found (hp.isKeyedSet?_isSome h a)

theorem isKeyedMap_yields (hp : env.program.Sound) (h : env.program.TypeInRange ty) :
    Yields (env.isKeyedMap ty) fun _ => True := .found (hp.isHashable?_isSome h)

/-- A type is struct-rooted when the type below its layers is a struct. -/
theorem isStructRooted_yields (hp : env.program.Sound) (h : env.program.TypeInRange ty) :
    Yields (env.isStructRooted ty) fun b => b = true → ∃ r, env.program.rootType? ty = some (.struct r) := by
  refine (root_yields hp h).bind fun root hroot => ?_
  cases root with
  | struct r => exact .pure fun _ => ⟨r, hroot.1⟩
  | _ => exact .pure nofun

theorem goType_yields (hp : env.program.Sound) (h : env.program.TypeInRange ty) :
    Yields (env.goType ty) fun t => env.MayUseAll t.paths := by
  induction ty with
  | base b => cases b <;> exact .pure mayUseAll_nil
  | list e ih => exact (ih (typeInRange_list.mp h)).bind fun _ ht => .pure ht
  | set e a ih =>
    rw [goType]
    have he := typeInRange_set.mp h
    refine (ih he).bind fun t ht => (isKeyedSet_yields hp he a).bind fun keyed _ => ?_
    cases keyed
    · exact .pure ht
    · exact .pure (ht.append mayUseAll_nil)
  | map k v ihk ihv =>
    rw [goType]
    obtain ⟨hk, hv⟩ := typeInRange_map.mp h
    refine (ihk hk).bind fun tk htk => (ihv hv).bind fun tv htv => ?_
    refine (isKeyedMap_yields hp hk).bind fun keyed _ => ?_
    cases keyed <;> exact .pure (htk.append htv)
  | enum r => exact (enumRef_yields hp h).bind fun _ href => .pure href
  | struct r => exact (structRef_yields hp h).bind fun _ href => .pure href
  | typedef r =>
    rw [goType]
    refine (typedefRef_yields hp h).bind fun ref href => ?_
    refine (isStructRooted_yields hp h).bind fun byReference _ => ?_
    cases byReference <;> exact .pure href

/-! ### Packages and types in code -/

theorem refer_emits {ref : Reference} (h : env.MayUseAll ref.paths) :
    env.Emits (refer ref) fun _ => True :=
  (Emits.usePaths h).bind fun _ _ => .pure trivial

theorem package_emits {path : String} (h : env.MayUse path) :
    env.Emits (env.package path) fun _ => True :=
  (Emits.usePaths (by simpa [MayUseAll] using h)).bind fun _ _ => .pure trivial

theorem standard_emits {path : String} (h : path ∈ standardPackages) :
    env.Emits (env.package path) fun _ => True := package_emits (.inl h)

theorem wire_emits : env.Emits env.wire fun _ => True := package_emits (.inr (.inl rfl))

theorem zapcore_emits (hlog : env.options.noZap = false) : env.Emits env.zapcore fun _ => True :=
  package_emits (.inr (.inr (.inl ⟨hlog, .inl rfl⟩)))

theorem multierr_emits (hlog : env.options.noZap = false) : env.Emits env.multierr fun _ => True :=
  package_emits (.inr (.inr (.inl ⟨hlog, .inr rfl⟩)))

theorem typeRef_emits (hp : env.program.Sound) (h : env.program.TypeInRange ty) :
    env.Emits (env.typeRef ty) fun _ => True :=
  (Emits.lift (goType_yields hp h)).bind fun _ ht => (Emits.usePaths ht).bind fun _ _ => .pure trivial

theorem typeText_emits (hp : env.program.Sound) (h : env.program.TypeInRange ty) :
    env.Emits (env.typeText ty) fun _ => True :=
  (typeRef_emits hp h).bind fun _ _ => .pure trivial

/-- A helper that does not log may be asked for every type that is there. -/
theorem mayRequest {role : Role} (hrole : role.isLogging = false) (h : env.program.TypeInRange ty) :
    env.MayRequest role ty := ⟨h, by simp [hrole]⟩

/-! ### The wire format -/

theorem wireTag_emits (hp : env.program.Sound) (h : env.program.TypeInRange ty) :
    env.Emits (env.wireTag ty) fun _ => True := by
  obtain ⟨root, hroot, _⟩ := hp.rootType?_isSome h
  have htag : ∃ tag, env.program.wireTag? ty = some tag :=
    ⟨root.wireTag, by rw [wireTag?, hroot, Option.map_some]⟩
  exact wire_emits.bind fun _ _ => (Emits.lift (.found htag)).bind fun _ _ => .pure trivial

theorem newValue_emits (accessor value : String) :
    env.Emits (env.newValue accessor value) fun _ => True :=
  wire_emits.bind fun _ _ => .pure trivial

theorem nilGuard_emits (hp : env.program.Sound) (h : env.program.TypeInRange ty)
    (element receiver what container : String) :
    env.Emits (env.nilGuard ty element receiver what container) fun _ => True := by
  refine (Emits.lift (isStructRooted_yields hp h)).bind fun byReference _ => ?_
  cases byReference with
  | false => exact .pure trivial
  | true => exact (standard_emits (by decide)).bind fun _ _ => .pure trivial

theorem sequenceAdapter_emits (hp : env.program.Sound) {element : Ty} (h : env.program.TypeInRange ty)
    (he : env.program.TypeInRange element) (keyed : Bool) (container : String)
    {encodeElement : Emit String} (hencode : env.Emits encodeElement fun _ => True) (name : String) :
    env.Emits (env.sequenceAdapter ty element keyed container encodeElement name) fun _ => True :=
  (typeText_emits hp h).bind fun _ _ => wire_emits.bind fun _ _ =>
    (nilGuard_emits hp he _ _ _ _).bind fun _ _ => hencode.bind fun _ _ =>
      (wireTag_emits hp he).bind fun _ _ => .pure trivial

theorem mapAdapter_emits (hp : env.program.Sound) {key value : Ty}
    (hk : env.program.TypeInRange key) (hv : env.program.TypeInRange value)
    {encodeKey encodeEntry : Emit String} (hkey : env.Emits encodeKey fun _ => True)
    (hentry : env.Emits encodeEntry fun _ => True) (name : String) :
    env.Emits (env.mapAdapter key value encodeKey encodeEntry name) fun _ => True := by
  refine (typeText_emits hp (typeInRange_map.mpr ⟨hk, hv⟩)).bind fun _ _ => ?_
  refine wire_emits.bind fun _ _ => ?_
  refine (nilGuard_emits hp hk _ _ _ _).bind fun _ _ => ?_
  refine (nilGuard_emits hp hv _ _ _ _).bind fun _ _ => ?_
  refine hkey.bind fun _ _ => hentry.bind fun _ _ => ?_
  refine (wireTag_emits hp hk).bind fun _ _ => (wireTag_emits hp hv).bind fun _ _ => ?_
  exact (Emits.lift (isKeyedMap_yields hp hk)).bind fun _ _ => .pure trivial

theorem encode_emits (hp : env.program.Sound) (h : env.program.TypeInRange ty) (value : String) :
    env.Emits (env.encode ty value) fun _ => True := by
  induction ty generalizing value with
  | base b => exact newValue_emits _ _
  | enum r | struct r | typedef r => exact .pure trivial
  | list e ih =>
    rw [encode, encodeWith]
    have he := typeInRange_list.mp h
    refine (Emits.request hp rfl (mayRequest rfl h) fun name => ?_).bind fun _ _ => newValue_emits _ _
    rw [helperSource, valueListCode_list]
    exact sequenceAdapter_emits hp h he _ _ (ih he "x") name
  | set e a ih =>
    rw [encode, encodeWith]
    have he := typeInRange_set.mp h
    refine (Emits.request hp rfl (mayRequest rfl h) fun name => ?_).bind fun _ _ => newValue_emits _ _
    rw [helperSource, valueListCode_set]
    refine (Emits.lift (isKeyedSet_yields hp he a)).bind fun keyed _ => ?_
    exact sequenceAdapter_emits hp h he _ _ (ih he "x") name
  | map k v ihk ihv =>
    rw [encode, encodeWith]
    obtain ⟨hk, hv⟩ := typeInRange_map.mp h
    refine (Emits.request hp rfl (mayRequest rfl h) fun name => ?_).bind fun _ _ => newValue_emits _ _
    rw [helperSource, mapItemListCode_map]
    exact mapAdapter_emits hp hk hv (ihk hk "k") (ihv hv "v") name

theorem tagCheck_emits (hp : env.program.Sound) (h : env.program.TypeInRange ty)
    (container accessor what : String) :
    env.Emits (env.tagCheck container accessor ty what) fun _ => True :=
  (standard_emits (by decide)).bind fun _ _ => (wireTag_emits hp h).bind fun _ _ => .pure trivial

theorem sequenceReader_emits (hp : env.program.Sound) {element : Ty}
    (h : env.program.TypeInRange ty) (he : env.program.TypeInRange element) (keyed : Bool)
    (container source : String) {decodeElement : Emit String}
    (hdecode : env.Emits decodeElement fun _ => True) (name : String) :
    env.Emits (env.sequenceReader ty element keyed container source decodeElement name)
      fun _ => True :=
  (typeText_emits hp h).bind fun _ _ => wire_emits.bind fun _ _ =>
    (tagCheck_emits hp he _ _ _).bind fun _ _ => hdecode.bind fun _ _ => .pure trivial

theorem mapReader_emits (hp : env.program.Sound) {key value : Ty}
    (hk : env.program.TypeInRange key) (hv : env.program.TypeInRange value)
    {decodeKey decodeEntry : Emit String} (hkey : env.Emits decodeKey fun _ => True)
    (hentry : env.Emits decodeEntry fun _ => True) (name : String) :
    env.Emits (env.mapReader key value decodeKey decodeEntry name) fun _ => True := by
  refine (typeRef_emits hp (typeInRange_map.mpr ⟨hk, hv⟩)).bind fun _ _ => ?_
  refine wire_emits.bind fun _ _ => ?_
  refine (tagCheck_emits hp hk _ _ _).bind fun _ _ => (tagCheck_emits hp hv _ _ _).bind fun _ _ => ?_
  exact hkey.bind fun _ _ => hentry.bind fun _ _ => .pure trivial

theorem namedReaderCode_emits (hp : env.program.Sound) (h : env.program.TypeInRange ty) (name : String) :
    env.Emits (env.namedReaderCode ty name) fun _ => True :=
  (Emits.lift (isStructRooted_yields hp h)).bind fun _ _ => (typeRef_emits hp h).bind fun _ _ =>
    wire_emits.bind fun _ _ => .pure trivial

theorem decode_emits (hp : env.program.Sound) (h : env.program.TypeInRange ty) (value : String) :
    env.Emits (env.decode ty value) fun _ => True := by
  induction ty generalizing value with
  | base b => exact .pure trivial
  | enum r | struct r | typedef r =>
    rw [decode, decodeWith]
    refine (Emits.request hp rfl (mayRequest rfl h) fun name => ?_).bind fun _ _ => .pure trivial
    exact namedReaderCode_emits hp h name
  | list e ih =>
    rw [decode, decodeWith]
    have he := typeInRange_list.mp h
    refine (Emits.request hp rfl (mayRequest rfl h) fun name => ?_).bind fun _ _ => .pure trivial
    rw [helperSource, readerSource, containerReaderCode_list]
    exact sequenceReader_emits hp h he _ _ _ (ih he "x") name
  | set e a ih =>
    rw [decode, decodeWith]
    have he := typeInRange_set.mp h
    refine (Emits.request hp rfl (mayRequest rfl h) fun name => ?_).bind fun _ _ => .pure trivial
    rw [helperSource, readerSource, containerReaderCode_set]
    refine (Emits.lift (isKeyedSet_yields hp he a)).bind fun keyed _ => ?_
    exact sequenceReader_emits hp h he _ _ _ (ih he "x") name
  | map k v ihk ihv =>
    rw [decode, decodeWith]
    obtain ⟨hk, hv⟩ := typeInRange_map.mp h
    refine (Emits.request hp rfl (mayRequest rfl h) fun name => ?_).bind fun _ _ => .pure trivial
    rw [helperSource, readerSource, containerReaderCode_map]
    exact mapReader_emits hp hk hv (ihk hk "x.Key") (ihv hv "x.Value") name

/-! ### Equality -/

theorem equals_emits (hp : env.program.Sound) (h : env.program.TypeInRange ty) (lhs rhs : String) :
    env.Emits (env.equals ty lhs rhs) fun _ => True := by
  induction ty generalizing lhs rhs with
  | base b =>
    cases b with
    | binary => exact (standard_emits (by decide)).bind fun _ _ => .pure trivial
    | _ => exact .pure trivial
  | enum r | struct r | typedef r => exact .pure trivial
  | list e ih =>
    rw [equals, equalsWith]
    refine (Emits.request hp rfl (mayRequest rfl h) fun name => ?_).bind fun _ _ => .pure trivial
    rw [helperSource, containerComparator_list]
    exact (typeText_emits hp h).bind fun _ _ =>
      (ih (typeInRange_list.mp h) _ _).bind fun _ _ => .pure trivial
  | set e a ih =>
    rw [equals, equalsWith]
    have he := typeInRange_set.mp h
    refine (Emits.request hp rfl (mayRequest rfl h) fun name => ?_).bind fun _ _ => .pure trivial
    rw [helperSource, containerComparator_set]
    refine (typeText_emits hp h).bind fun _ _ => ?_
    refine (Emits.lift (isKeyedSet_yields hp he a)).bind fun keyed _ => ?_
    cases keyed with
    | true => exact .pure trivial
    | false => exact (ih he _ _).bind fun _ _ => .pure trivial
  | map k v ihk ihv =>
    rw [equals, equalsWith]
    obtain ⟨hk, hv⟩ := typeInRange_map.mp h
    refine (Emits.request hp rfl (mayRequest rfl h) fun name => ?_).bind fun _ _ => .pure trivial
    rw [helperSource, containerComparator_map]
    refine (typeText_emits hp h).bind fun _ _ => (ihv hv _ _).bind fun _ _ => ?_
    refine (Emits.lift (isKeyedMap_yields hp hk)).bind fun keyed _ => ?_
    cases keyed with
    | true => exact .pure trivial
    | false => exact (ihk hk _ _).bind fun _ _ => .pure trivial

theorem equalsPtr_emits (hp : env.program.Sound) (h : env.program.TypeInRange ty) :
    env.Emits (env.equalsPtr ty) fun _ => True :=
  Emits.request hp rfl (mayRequest rfl h) fun _ => (typeText_emits hp h).bind fun _ _ =>
    (equals_emits hp h _ _).bind fun _ _ => .pure trivial

/-! ### Logging -/

theorem logCall_emits (hlog : env.options.noZap = false) (method : LogMethod) (call : String) :
    env.Emits (env.logCall method call) fun _ => True := by
  cases method with
  | composite shape => exact (multierr_emits hlog).bind fun _ _ => .pure trivial
  | _ => exact .pure trivial

theorem logAdd_emits (hlog : env.options.noZap = false) (key : String) (value : LogValue) :
    env.Emits (env.logAdd key value) fun _ => True := logCall_emits hlog _ _

theorem logAppend_emits (hlog : env.options.noZap = false) (value : LogValue) :
    env.Emits (env.logAppend value) fun _ => True := logCall_emits hlog _ _

theorem logBase_emits (b : Base) (expr : String) : env.Emits (env.logBase b expr) fun _ => True := by
  cases b with
  | binary => exact (standard_emits (by decide)).bind fun _ _ => .pure trivial
  | _ => exact .pure trivial

theorem logShape?_isSome (hp : env.program.Sound) (h : env.program.TypeInRange ty) :
    ∃ shape, env.program.logShape? ty = some shape := by
  cases ty with
  | map k v =>
    obtain ⟨root, hroot, _⟩ := hp.rootType?_isSome (typeInRange_map.mp h).1
    exact ⟨_, by rw [logShape?, hroot, Option.map_some]⟩
  | _ => exact ⟨.array, rfl⟩

theorem sequenceZapper_emits (hlog : env.options.noZap = false) (type zapcore : String)
    {keyed : Except GenError Bool} (hkeyed : Yields keyed fun _ => True) {logElement : Emit LogValue}
    (helement : env.Emits logElement fun _ => True) (name : String) :
    env.Emits (env.sequenceZapper type zapcore keyed logElement name) fun _ => True := by
  refine (Emits.lift hkeyed).bind fun _ _ => helement.bind fun value _ => ?_
  exact (logAppend_emits hlog value).bind fun _ _ => .pure trivial

theorem itemZapper_emits (hp : env.program.Sound) (hlog : env.options.noZap = false) {key value : Ty}
    (hk : env.program.TypeInRange key) (hv : env.program.TypeInRange value)
    (hkey : ∀ e, env.Emits (env.logValue key e) fun _ => True)
    (hentry : ∀ e, env.Emits (env.logValue value e) fun _ => True) :
    env.Emits (env.itemZapper key value (env.logValue key) (env.logValue value)) fun _ => True := by
  refine Emits.request hp rfl ⟨typeInRange_map.mpr ⟨hk, hv⟩, fun _ => hlog⟩ fun name => ?_
  refine (typeText_emits hp hk).bind fun _ _ => (typeText_emits hp hv).bind fun _ _ => ?_
  refine (zapcore_emits hlog).bind fun _ _ => ?_
  refine (hkey _).bind fun _ _ => (logAdd_emits hlog _ _).bind fun _ _ => ?_
  exact (hentry _).bind fun _ _ => (logAdd_emits hlog _ _).bind fun _ _ => .pure trivial

theorem mapZapper_emits (hp : env.program.Sound) (hlog : env.options.noZap = false) {key value : Ty}
    (hk : env.program.TypeInRange key) (hv : env.program.TypeInRange value)
    (hkey : ∀ e, env.Emits (env.logValue key e) fun _ => True)
    (hentry : ∀ e, env.Emits (env.logValue value e) fun _ => True) (type zapcore : String) (shape : LogShape)
    (name : String) :
    env.Emits (env.mapZapper type zapcore key value shape (env.logValue key) (env.logValue value) name)
      fun _ => True := by
  cases shape with
  | object => exact (hentry _).bind fun _ _ => (logAdd_emits hlog _ _).bind fun _ _ => .pure trivial
  | array =>
    refine (itemZapper_emits hp hlog hk hv hkey hentry).bind fun _ _ => ?_
    refine (multierr_emits hlog).bind fun _ _ => ?_
    exact (Emits.lift (isKeyedMap_yields hp hk)).bind fun _ _ => .pure trivial

/-- A helper that logs a container is given out once it is built. -/
theorem zapper_emits (hp : env.program.Sound) (hlog : env.options.noZap = false) (h : env.program.TypeInRange ty)
    (hcode : ∀ name, env.Emits (env.zapperCode ty name) fun _ => True) :
    env.Emits (env.zapper ty) fun _ => True := by
  have hrequest : env.Emits (env.request .zapper ty (env.zapperCode ty)) fun _ => True :=
    Emits.request hp rfl ⟨h, fun _ => hlog⟩ hcode
  exact (Emits.lift (.found (logShape?_isSome hp h))).bind fun _ _ => hrequest.bind fun _ _ => .pure trivial

/-- The type below the layers of a typedef is no typedef, so there is always a way to log it. -/
theorem logTypedef_emits (hp : env.program.Sound) {root : Ty} (h : env.program.TypeInRange root)
    (hroot : root.isTypedef = false) (expr : String) :
    env.Emits (env.logTypedef ty root expr) fun _ => True := by
  cases root with
  | struct r => exact .pure trivial
  | typedef r => simp [Ty.isTypedef] at hroot
  | base b => exact (typeText_emits hp h).bind fun _ _ => logBase_emits b _
  | enum r => exact (typeText_emits hp h).bind fun _ _ => .pure trivial
  | list _ | set _ _ | map _ _ =>
    exact (Emits.lift (.found (logShape?_isSome hp h))).bind fun _ _ => .pure trivial

/-- The types whose values are logged, by induction: a container is logged by a helper that logs its parts. -/
theorem logValue_emits_and_zapperCode_emits (hp : env.program.Sound) (hlog : env.options.noZap = false)
    (h : env.program.TypeInRange ty) :
    (∀ expr, env.Emits (env.logValue ty expr) fun _ => True) ∧
      (ty.isContainer = true → ∀ name, env.Emits (env.zapperCode ty name) fun _ => True) := by
  -- Where the helper of a container can be built, its values can be logged.
  have hcontainer {t : Ty} (ht : env.program.TypeInRange t) (hc : t.isContainer = true)
      (hcode : ∀ name, env.Emits (env.zapperCode t name) fun _ => True) (expr : String) :
      env.Emits (env.logValue t expr) fun _ => True := by
    cases t with
    | base _ | enum _ | struct _ | typedef _ => cases hc
    | list _ | set _ _ | map _ _ => exact (zapper_emits hp hlog ht hcode).bind fun _ _ => .pure trivial
  induction ty with
  | base b => exact ⟨logBase_emits b, by simp [Ty.isContainer]⟩
  | enum r | struct r => exact ⟨fun _ => .pure trivial, by simp [Ty.isContainer]⟩
  | typedef r =>
    refine ⟨fun expr => ?_, by simp [Ty.isContainer]⟩
    exact (Emits.lift (root_yields hp h)).bind fun root hroot => logTypedef_emits hp hroot.2.1 hroot.2.2 expr
  | list e ih =>
    have hcode (name : String) : env.Emits (env.zapperCode (.list e) name) fun _ => True := by
      rw [zapperCode_list]
      refine (typeText_emits hp h).bind fun _ _ => (zapcore_emits hlog).bind fun _ _ => ?_
      exact sequenceZapper_emits hlog _ _ (.pure trivial) ((ih (typeInRange_list.mp h)).1 "v") name
    exact ⟨hcontainer h rfl hcode, fun _ => hcode⟩
  | set e a ih =>
    have he := typeInRange_set.mp h
    have hcode (name : String) : env.Emits (env.zapperCode (.set e a) name) fun _ => True := by
      rw [zapperCode_set]
      refine (typeText_emits hp h).bind fun _ _ => (zapcore_emits hlog).bind fun _ _ => ?_
      exact sequenceZapper_emits hlog _ _ (isKeyedSet_yields hp he a) ((ih he).1 "v") name
    exact ⟨hcontainer h rfl hcode, fun _ => hcode⟩
  | map k v ihk ihv =>
    obtain ⟨hk, hv⟩ := typeInRange_map.mp h
    have hcode (name : String) : env.Emits (env.zapperCode (.map k v) name) fun _ => True := by
      rw [zapperCode_map]
      refine (typeText_emits hp h).bind fun _ _ => (zapcore_emits hlog).bind fun _ _ => ?_
      refine (Emits.lift (.found (logShape?_isSome hp h))).bind fun shape _ => ?_
      exact mapZapper_emits hp hlog hk hv (ihk hk).1 (ihv hv).1 _ _ shape name
    exact ⟨hcontainer h rfl hcode, fun _ => hcode⟩

theorem logValue_emits (hp : env.program.Sound) (hlog : env.options.noZap = false)
    (h : env.program.TypeInRange ty) (expr : String) : env.Emits (env.logValue ty expr) fun _ => True :=
  (logValue_emits_and_zapperCode_emits hp hlog h).1 expr

theorem zapperCode_emits (hp : env.program.Sound) (hlog : env.options.noZap = false)
    (h : env.program.TypeInRange ty) (hcontainer : ty.isContainer = true) (name : String) :
    env.Emits (env.zapperCode ty name) fun _ => True :=
  (logValue_emits_and_zapperCode_emits hp hlog h).2 hcontainer name

end Env

end GoSchema
