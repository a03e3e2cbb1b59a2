import GoSchema.Proofs.ImportAliases
import GoSchema.Proofs.Layout
import GoSchema.Proofs.RecordCodec

/-!
# Names of local variables

Two kinds of local names follow the schema: the flags by which a decoder remembers the required fields that it has met,
and the parameters of the function that puts arguments together. Both are derived from names of the schema, of which
many have one spelling, so they are numbered in a scope inside the package (`parameterNames`).

A name that is free in such a scope is free in the package. There the locals of the generated code, the aliases of
packages and the declarations hold their names before the first line of code, and they keep them while helpers add
theirs (`Env.Holds`). So wherever a layout or an arguments helper is made, its names are apart from each other and from
all of these, and they are the ones that stand in the code (`Program.locals_never_collide`).

## What is proved

* `parameterNames_grantable`: names that are given one after the other are free, and all different.
* `Env.holds_of_declare`: once a file is declared, everything that local names have to avoid is held.
* `Env.Within` carries a property along all points of a run, with a rule for each way in which emitters are put
  together.
* `Program.locals_never_collide`: at each point of a run, and in the code of every draft, for all structs and
  functions of the file.

The fixed names of locals are a table (`fixedLocals`). That the generated functions use no local beside these, the
flags and the parameters is not proved: it is read off the texts of the emitters.
-/

namespace GoSchema

open Go Name

/-! ### Names in a scope -/

namespace Name.Namespace

variable {ns : Namespace}

@[simp] theorem isTaken_enter (ns : Namespace) (name : String) : ns.enter.isTaken name = ns.isTaken name := by
  simp [isTaken, enter, scopes, Scope.empty]

theorem grantable_enter {names : List String} : ns.enter.Grantable names ↔ ns.Grantable names := by
  simp [Grantable]

end Name.Namespace

/-- Names that are given one after the other are free, and all different. -/
theorem parameterNames_grantable (ns : Namespace) (bases : List String) :
    ns.Grantable (parameterNames ns bases) := by
  induction bases generalizing ns with
  | nil => exact ⟨List.nodup_nil, nofun⟩
  | cons base bases ih =>
    refine Namespace.grantable_cons.mpr ⟨Namespace.freshName_free ns base, ?_⟩
    exact ih (ns.newName base).2

theorem length_parameterNames (ns : Namespace) (bases : List String) :
    (parameterNames ns bases).length = bases.length := by
  induction bases generalizing ns with
  | nil => rfl
  | cons base bases ih => exact congrArg Nat.succ (ih (ns.newName base).2)

/-- What the name of the flag of a member begins with. -/
def Member.flagBase (m : Member) : String := Name.unexported m.name ++ "IsSet"

/-- Flags are given out as parameter names are, to the required members. -/
theorem flags_assignFlags (ns : Namespace) {ms : List Member} (h : ∀ m ∈ ms, m.flag = none) :
    (assignFlags ns ms).filterMap Member.flag =
      parameterNames ns ((ms.filter Member.required).map Member.flagBase) := by
  induction ms generalizing ns with
  | nil => rfl
  | cons m ms ih =>
    obtain ⟨hm, hrest⟩ := List.forall_mem_cons.mp h
    cases hrequired : m.required with
    | true => simp [assignFlags, parameterNames, hrequired, ih _ hrest, Member.flagBase]
    | false => simp [assignFlags, hrequired, hm, ih _ hrest]

theorem flag_isSome_of_mem_assignFlags {ns : Namespace} {ms : List Member} (h : ∀ m ∈ ms, m.flag = none) :
    ∀ m ∈ assignFlags ns ms, m.flag.isSome = m.required := by
  induction ms generalizing ns with
  | nil => nofun
  | cons m ms ih =>
    obtain ⟨hm, hrest⟩ := List.forall_mem_cons.mp h
    rw [assignFlags]
    split_ifs with hrequired
    · exact List.forall_mem_cons.mpr ⟨hrequired.symm, ih hrest⟩
    · exact List.forall_mem_cons.mpr ⟨by simp [hm, hrequired], ih hrest⟩

theorem Run.names_foldl_usePath (r : Run) (paths : List String) :
    (paths.foldl Run.usePath r).names = r.names := by
  induction paths generalizing r with
  | nil => rfl
  | cons path paths ih => rw [List.foldl_cons, ih, Run.usePath_names]

theorem Emit.lift_eq_ok {α : Type} {x : Except GenError α} {r r' : Run} {a : α} :
    (liftM x : Emit α) r = .ok (a, r') ↔ x = .ok a ∧ r = r' := by
  cases x with
  | error e => exact ⟨nofun, nofun⟩
  | ok b =>
    constructor
    · rintro ⟨⟩
      exact ⟨rfl, rfl⟩
    · rintro ⟨⟨⟩, rfl⟩
      rfl

/-! ### Names that are apart -/

namespace Env

variable {env : Env} {r r' : Run} {record : Record} {ms : List Member} {code code' : Code}

/-- A name that a local variable may have: the language does not reserve it, and in the generated code no other local,
no package and no declaration of the file has it. -/
structure LocalName (env : Env) (name : String) : Prop where
  unreserved : isReserved name = false
  unfixed : name ∉ fixedLocals
  unaliased : ∀ k ∈ env.packages, k.name ≠ name
  undeclared : ∀ cs, .ok cs ∈ env.declarations → ∀ c ∈ cs, c.ident ≠ name

/-- Names for the local variables of one function. -/
def Apart (env : Env) (names : List String) : Prop := names.Nodup ∧ ∀ name ∈ names, env.LocalName name

/-- The required members are those that have flags, and the flags are apart. -/
structure FlagsApart (env : Env) (ms : List Member) : Prop where
  flagged : ∀ m ∈ ms, m.flag.isSome = m.required
  apart : env.Apart (ms.filterMap Member.flag)

/-- The function that puts arguments together has a parameter for each member, and the parameters are apart. -/
def ParametersApart (env : Env) (names : FunctionNames) (ms : List Member) (parts : HelperParts) : Prop :=
  ∃ parameters, parameters.length = ms.length ∧ env.Apart parameters ∧
    parts = argsParts names (parameters.zipWith (fun p t => p ++ " " ++ t) (ms.map fun m => m.goType.text))
      (ms.map fun m => m.goType.text) (ms.zipWith (fun m p => m.ident ++ ": " ++ p) parameters)

/-- All that local variables have to be apart from is held. -/
structure Holds (env : Env) (ns : Namespace) : Prop where
  clean : ns.Clean
  locals : ∀ name ∈ fixedLocals, name ∈ ns.held
  packages : ∀ k ∈ env.packages, k.name ∈ ns.held
  declared : ∀ cs, .ok cs ∈ env.declarations → ∀ c ∈ cs, c.ident ∈ ns.held

theorem Holds.grows (h : env.Holds r.names) (hgrows : env.Grows r r') : env.Holds r'.names := by
  obtain ⟨hclean, hsub⟩ := hgrows.names h.clean
  exact ⟨hclean, fun name hname => hsub _ (h.locals name hname), fun k hk => hsub _ (h.packages k hk),
    fun cs hcs c hc => hsub _ (h.declared cs hcs c hc)⟩

theorem Holds.localName {ns : Namespace} (h : env.Holds ns) {name : String} (hfree : ns.isTaken name = false) :
    env.LocalName name := by
  obtain ⟨hreserved, hheld⟩ := Namespace.isTaken_eq_false_iff.mp hfree
  refine ⟨hreserved, fun hfixed => hheld (h.locals name hfixed), ?_, ?_⟩
  · rintro k hk rfl
    exact hheld (h.packages k hk)
  · rintro cs hcs c hc rfl
    exact hheld (h.declared cs hcs c hc)

theorem Holds.apart {ns : Namespace} (h : env.Holds ns) (bases : List String) :
    env.Apart (parameterNames ns.enter bases) := by
  obtain ⟨hnodup, hfree⟩ := Namespace.grantable_enter.mp (parameterNames_grantable ns.enter bases)
  exact ⟨hnodup, fun name hname => h.localName (hfree name hname)⟩

/-- Once a file is declared, all these names are held. -/
theorem holds_of_declare {p : Program} {file : Ref .file} {self : File} {o : Options} {claims claims' : Claims}
    (hof : Env.ofFile p file self o = .ok (env, claims)) (h : env.declare claims = .ok claims') :
    env.Holds claims'.names := by
  obtain ⟨env', claims₀, hof', henv, hclean, hheld⟩ := Env.ofFile_eq p file self o
  obtain ⟨rfl, rfl⟩ := Prod.mk.inj (Except.ok.inj (hof'.symm.trans hof))
  rw [← henv.program, ← henv.file, ← henv.self] at hheld
  have hstarts := starts_of_declare hclean hheld h
  obtain ⟨css, hcss⟩ := allKnown_of_foldlM h
  refine ⟨hstarts.clean, fun name hname => ?_, fun k hk => ?_, fun cs hcs c hc => ?_⟩ <;> rw [hstarts.held]
  · simp [ambientNames, hname]
  · have hname := List.mem_append.mp (henv.packages k hk)
    rw [← henv.program, ← henv.file, ← henv.self] at hname
    simp [hname.symm]
  · rw [hcss] at hcs
    obtain ⟨cs', hmem, rfl⟩ : ∃ cs' ∈ css, cs' = cs := by simpa using hcs
    have hname := List.mem_map_of_mem (f := Claim.ident) (List.mem_flatten_of_mem hmem hc)
    rw [declarations_spells.names css hcss] at hname
    exact List.mem_append_left _ (List.mem_reverse.mpr hname)

/-! ### Layouts and arguments helpers -/

theorem layout_eq_ok (h : env.layout record r = .ok (ms, r')) :
    ∃ laid, env.members record = .ok laid ∧ ms = assignFlags r.names.enter laid := by
  obtain ⟨laid, r₁, hlift, h⟩ := Emit.bind_eq_ok.mp h
  obtain ⟨hlaid, rfl⟩ := Emit.lift_eq_ok.mp hlift
  cases h
  refine ⟨laid, hlaid, ?_⟩
  exact congrArg (fun ns : Namespace => assignFlags ns.enter laid) (Run.names_foldl_usePath r _)

theorem Holds.flagsApart (hr : env.Holds r.names) (h : env.layout record r = .ok (ms, r')) : env.FlagsApart ms := by
  obtain ⟨laid, hlaid, rfl⟩ := layout_eq_ok h
  have hflag : ∀ m ∈ laid, m.flag = none := by
    intro m hm
    obtain ⟨field, -, hfield⟩ := exists_mem_left_of_forall₂ (laysOut_members hlaid) hm
    exact hfield.flag_eq
  refine ⟨flag_isSome_of_mem_assignFlags hflag, ?_⟩
  rw [flags_assignFlags _ hflag]
  exact hr.apart _

theorem Holds.parametersApart (hr : env.Holds r.names) {names : FunctionNames} {parts : HelperParts}
    (h : argsHelper names ms r = .ok (parts, r')) : env.ParametersApart names ms parts := by
  cases h
  exact ⟨_, by rw [length_parameterNames, List.length_map], hr.apart _, rfl⟩

/-! ### Along a run -/

/-- Wherever a run from `start` on has come to, the emitter leads it on, and its answer has the property. -/
def Within (env : Env) (start : Run) {α : Type} (m : Emit α) (P : α → Prop) : Prop :=
  ∀ r, env.Grows start r → ∀ a r', m r = .ok (a, r') → P a ∧ env.Grows start r'

section

variable {start : Run} {α β : Type} {P Q : α → Prop} {R : β → Prop}

theorem Emits.within {m : Emit α} (h : env.Emits m P) : env.Within start m P := by
  intro r hr a r' hm
  obtain ⟨ha, hgrows⟩ := (h r).1 a r' hm
  exact ⟨ha, hr.trans hgrows⟩

namespace Within

theorem pure {a : α} (h : P a) : env.Within start (Pure.pure a) P := (Emits.pure h).within

/-- More may be known of an answer at the point where it is given. -/
theorem strengthen {m : Emit α} (h : env.Within start m P)
    (hQ : ∀ r, env.Grows start r → ∀ a r', m r = .ok (a, r') → P a → Q a) : env.Within start m Q := by
  intro r hr a r' hm
  obtain ⟨ha, hr'⟩ := h r hr a r' hm
  exact ⟨hQ r hr a r' hm ha, hr'⟩

theorem bind {m : Emit α} {f : α → Emit β} (h : env.Within start m P)
    (hf : ∀ a, P a → env.Within start (f a) R) : env.Within start (m >>= f) R := by
  intro r hr b r' hm
  obtain ⟨a, r₁, ha, hb⟩ := Emit.bind_eq_ok.mp hm
  obtain ⟨hPa, hr₁⟩ := h r hr a r₁ ha
  exact hf a hPa r₁ hr₁ b r' hb

theorem lift {x : Except GenError α} (h : ∀ a, x = .ok a → P a) : env.Within start (liftM x) P := by
  intro r hr a r' hm
  obtain ⟨hx, rfl⟩ := Emit.lift_eq_ok.mp hm
  exact ⟨h a hx, hr⟩

/-- Each element of a list has its answer in the list of answers. -/
theorem mapM {f : α → Emit β} {S : α → β → Prop} {as : List α} (h : ∀ a ∈ as, env.Within start (f a) (S a)) :
    env.Within start (as.mapM f) fun bs => ∀ a ∈ as, ∃ b ∈ bs, S a b := by
  induction as with
  | nil => exact .pure nofun
  | cons a as ih =>
    obtain ⟨ha, has⟩ := List.forall_mem_cons.mp h
    rw [List.mapM_cons]
    refine ha.bind fun b hb => (ih has).bind fun bs hbs => .pure ?_
    refine List.forall_mem_cons.mpr ⟨⟨b, List.mem_cons_self, hb⟩, fun a' ha' => ?_⟩
    obtain ⟨b', hmem, hb'⟩ := hbs a' ha'
    exact ⟨b', List.mem_cons_of_mem _ hmem, hb'⟩

end Within

end

/-! ### In the code -/

/-- The decoder of the record stands in the code, with flags that are apart. -/
def DecodesApart (env : Env) (record : Record) (code : Code) : Prop :=
  ∃ ms wire branches defaults after, Answers (env.layout record) ms ∧ env.FlagsApart ms ∧
    decoder record wire ms branches defaults after <:+: code

/-- The helper of the function stands in the code, and begins with a constructor whose parameters are apart. -/
def ConstructsApart (env : Env) (f : Function) (names : FunctionNames) (code : Code) : Prop :=
  ∃ ms parts more, Answers (env.layout (f.argsRecord names.args)) ms ∧ env.ParametersApart names ms parts ∧
    helperCode names f.name (parts :: more) <:+: code

/-- All local variables that a function brings with it are apart in the code. -/
structure FunctionApart (env : Env) (f : Function) (names : FunctionNames) (code : Code) : Prop where
  args : env.DecodesApart (f.argsRecord names.args) code
  result : ∀ ident ∈ names.result, env.DecodesApart (f.resultRecord ident) code
  constructs : env.ConstructsApart f names code

/-- All local variables of the structs and functions of the file are apart in the code. -/
structure LocalsApart (env : Env) (code : Code) : Prop where
  structs : ∀ s ∈ env.program.structs, s.file = env.file →
    env.DecodesApart (s.record (goName s.name s.annotations)) code
  functions : ∀ s ∈ env.program.services, s.file = env.file → ∀ f ∈ s.functions,
    ∃ names, env.functionNames s f = .ok names ∧ env.FunctionApart f names code

theorem DecodesApart.mono (h : env.DecodesApart record code) (hcode : code <:+: code') :
    env.DecodesApart record code' := by
  obtain ⟨ms, wire, branches, defaults, after, hms, hflags, hdecoder⟩ := h
  exact ⟨ms, wire, branches, defaults, after, hms, hflags, hdecoder.trans hcode⟩

theorem FunctionApart.mono {f : Function} {names : FunctionNames} (h : env.FunctionApart f names code)
    (hcode : code <:+: code') : env.FunctionApart f names code' := by
  obtain ⟨ms, parts, more, hms, hparameters, hhelper⟩ := h.constructs
  exact ⟨h.args.mono hcode, fun ident hident => (h.result ident hident).mono hcode,
    ms, parts, more, hms, hparameters, hhelper.trans hcode⟩

/-- The members are a layout of the record in a run of a sound program, and their flags are apart. -/
structure LaidApart (env : Env) (record : Record) (ms : List Member) : Prop where
  answer : Answers (env.layout record) ms
  sound : ∀ m ∈ ms, env.MemberSound m
  flags : env.FlagsApart ms

section

variable {start : Run} (hp : env.program.Sound) (hstart : env.Holds start.names)

include hp

theorem recordCode_within (h : env.LaidApart record ms) :
    env.Within start (env.recordCode record ms) (env.DecodesApart record) := by
  refine (recordCode_emits hp h.sound).within.strengthen fun r _ code r' hcode _ => ?_
  obtain ⟨_, _, _, _, -, hfromWire, -, hinside⟩ := recordCode_eq_ok hcode
  obtain ⟨wire, _, branches, _, defaults, _, after, -, -, -, hdecoder⟩ := fromWire_eq_ok hfromWire
  exact ⟨ms, wire, branches.flatten, defaults, after, h.answer, h.flags, hdecoder.trans hinside⟩

include hstart

theorem layout_within (h : ∀ f ∈ record.fields, FieldInRange env.program f) :
    env.Within start (env.layout record) (env.LaidApart record) :=
  (layout_emits hp h).within.strengthen fun r hr _ r' hms hsound =>
    ⟨⟨r, r', hms⟩, hsound, (hstart.grows hr).flagsApart hms⟩

omit hp in
theorem argsHelper_within (names : FunctionNames) (h : env.LaidApart record ms) :
    env.Within start (argsHelper names ms) (env.ParametersApart names ms) :=
  (argsHelper_emits names h.sound).within.strengthen fun _ hr _ _ hparts _ =>
    (hstart.grows hr).parametersApart hparts

theorem structCode_within {s : Struct} (h : s ∈ env.program.structs) :
    env.Within start (env.structCode s) (env.DecodesApart (s.record (goName s.name s.annotations))) := by
  refine (Within.lift fun ident hident => (identifier_eq_ok.mp hident).2).bind ?_
  rintro _ rfl
  obtain ⟨_, hfields⟩ := hp.structs s h
  exact (layout_within hp hstart fun f hf => ⟨hfields.types f hf, hfields.defaults f hf⟩).bind
    fun _ hms => recordCode_within hp hms

theorem functionCode_within (names : FunctionNames) {f : Function} (h : env.program.FunctionSound f) :
    env.Within start (env.functionCode names f) (env.FunctionApart f names) := by
  refine (layout_within hp hstart (argumentFields_inRange h)).bind fun args hargs => ?_
  refine (recordCode_within hp hargs).bind fun argsCode hargsCode => ?_
  dsimp only
  cases hresult : names.result with
  | none =>
    refine (argsHelper_within hstart names hargs).bind fun parts hparts => .pure ⟨?_, ?_, ?_⟩
    · exact hargsCode.mono (List.infix_append' [] _ _)
    · rw [hresult]
      nofun
    · exact ⟨args, parts, [], hargs.answer, hparts, (List.suffix_append _ _).isInfix⟩
  | some ident =>
    refine (layout_within hp hstart (resultFields_inRange h)).bind fun results hresults => ?_
    refine (recordCode_within hp hresults).bind fun resultCode hresultCode => ?_
    refine (argsHelper_within hstart names hargs).bind fun parts hparts => ?_
    refine (resultHelper_emits hp names ident hresults.sound).within.bind fun more _ => .pure ?_
    refine ⟨?_, ?_, ?_⟩
    · rw [List.append_assoc]
      exact hargsCode.mono (List.infix_append' [] _ _)
    · rw [hresult]
      rintro _ ⟨⟩
      exact hresultCode.mono (List.infix_append _ _ _)
    · exact ⟨args, parts, more, hargs.answer, hparts, (List.suffix_append _ _).isInfix⟩

theorem serviceCode_within {functions : FunctionTable} (hfunctions : env.functionTable = .ok functions)
    {s : Service × Nat} (h : s ∈ env.program.numberedServicesOf env.file) :
    env.Within start (env.serviceCode functions s) fun code => ∀ f ∈ s.1.functions,
      ∃ names, env.functionNames s.1 f = .ok names ∧ env.FunctionApart f names code := by
  have hs : s.1 ∈ env.program.services := List.fst_mem_of_mem_zipIdx (List.mem_of_mem_filter h)
  have hfunction (f : Function × Nat) (hf : f ∈ s.1.functions.zipIdx) :
      env.Within start (do env.functionCode (← functions.names s.2 f.2 f.1) f.1) fun code =>
        ∃ names, env.functionNames s.1 f.1 = .ok names ∧ env.FunctionApart f.1 names code := by
    obtain ⟨names, hfound, hnames⟩ := names_of_functionTable hfunctions h hf
    rw [hfound]
    have hsound := (hp.services s.1 hs).2.2 f.1 (List.fst_mem_of_mem_zipIdx hf)
    exact (functionCode_within hp hstart names hsound).strengthen fun _ _ _ _ _ hapart => ⟨names, hnames, hapart⟩
  refine (Within.mapM hfunction).bind fun parts hparts => .pure fun f hf => ?_
  obtain ⟨i, hi⟩ := exists_mem_zipIdx hf
  obtain ⟨part, hpart, names, hnames, hapart⟩ := hparts (f, i) hi
  exact ⟨names, hnames, hapart.mono (List.infix_of_mem_flatten hpart)⟩

theorem declarationsCode_within {functions : FunctionTable} (hfunctions : env.functionTable = .ok functions) :
    env.Within start (env.declarationsCode functions) env.LocalsApart := by
  refine (mapM_emits fun c hc => constantCode_emits hp (List.mem_filter.mp hc).1).within.bind fun constants _ => ?_
  refine (mapM_emits fun e _ => enumCode_emits e).within.bind fun enums _ => ?_
  refine (mapM_emits fun t ht => typedefCode_emits hp (List.mem_filter.mp ht).1).within.bind fun typedefs _ => ?_
  refine (Within.mapM fun s hs => structCode_within hp hstart (List.mem_filter.mp hs).1).bind fun structs hstructs => ?_
  refine (Within.mapM fun s hs => serviceCode_within hp hstart hfunctions hs).bind
    fun services hservices => .pure ⟨fun s hs hfile => ?_, fun s hs hfile f hf => ?_⟩
  · obtain ⟨part, hpart, hapart⟩ := hstructs s (List.mem_filter.mpr ⟨hs, decide_eq_true hfile⟩)
    exact hapart.mono (List.infix_of_mem_flatten (by simp [hpart]))
  · obtain ⟨i, hi⟩ := Program.exists_numbered (List.mem_filter.mpr ⟨hs, decide_eq_true hfile⟩)
    obtain ⟨part, hpart, hapart⟩ := hservices (s, i) hi
    obtain ⟨names, hnames, hapart⟩ := hapart f hf
    exact ⟨names, hnames, hapart.mono (List.infix_of_mem_flatten (by simp [hpart]))⟩

end

end Env

namespace Program

variable {p : Program} {file : Ref .file} {self : File}

/-- **Local names never collide.** At each point of a run, the flags of a layout and the parameters of an arguments
constructor are all different, and none is reserved or the name of a fixed local, a package or a declaration. In the
code of a draft, every struct and function has names that were given at such a point. -/
theorem locals_never_collide (hp : p.check = .ok ()) (hself : p.file? file = some self) (o : Options) :
    ∃ env claims, Env.ofFile p file self o = .ok (env, claims) ∧ env.program = p ∧ env.file = file ∧
      (∀ claims' r, env.declare claims = .ok claims' → env.Grows (Run.start claims'.names) r →
        (∀ record ms r', env.layout record r = .ok (ms, r') → env.FlagsApart ms) ∧
        ∀ names ms parts r', argsHelper names ms r = .ok (parts, r') → env.ParametersApart names ms parts) ∧
      ∀ d, p.draft file o = .ok d → d.env = env ∧ env.LocalsApart d.code := by
  obtain ⟨env, claims, hof, henv, -, -⟩ := Env.ofFile_eq p file self o
  have hholds {claims'} (h : env.declare claims = .ok claims') : env.Holds (Run.start claims'.names).names :=
    Env.holds_of_declare hof h
  refine ⟨env, claims, hof, henv.program, henv.file, fun claims' r hdeclare hr => ?_, fun d hd => ?_⟩
  · have hpoint := (hholds hdeclare).grows hr
    exact ⟨fun _ _ _ h => hpoint.flagsApart h, fun _ _ _ _ h => hpoint.parametersApart h⟩
  · obtain ⟨henvOf, claims', functions, hdeclare, hfunctions, hcode⟩ := run_of_draft hp hself hof hd
    have hsound : env.program.Sound := henv.program ▸ sound_of_check hp
    obtain ⟨hlocals, -⟩ := Env.declarationsCode_within hsound (hholds hdeclare) hfunctions _ (.refl _) _ _ hcode
    exact ⟨henvOf, hlocals⟩

/-- A program in which two fields have one spelling for local variables, and in which the arguments of a function are
called like a fixed local, a word of the language and a package. -/
def crowded : Program :=
  { Program.empty with
    files := [⟨"desk.thrift", "ex/desk", "desk"⟩, ⟨"pier.thrift", "ex/pier", "pier"⟩]
    structs := [⟨"Desk", ⟨0⟩, .struct, [⟨1, "a_b", .base .i32, true, none, .empty⟩,
      ⟨2, "aB", .base .i32, true, none, ⟨[("go.name", "Again")], by decide⟩⟩], false, .empty⟩]
    services := [⟨"Clerk", ⟨0⟩, none, [⟨"note", [⟨1, "value", .base .i32, false, none, .empty⟩,
      ⟨2, "type", .base .i32, false, none, .empty⟩, ⟨3, "pier", .base .i32, false, none, .empty⟩], none, true,
      .empty⟩], .empty⟩] }

theorem locals_never_collide_crowded :
    ∃ env claims d,
      Env.ofFile crowded ⟨0⟩ ⟨"desk.thrift", "ex/desk", "desk"⟩ { noZap := true } = .ok (env, claims) ∧
      crowded.draft ⟨0⟩ { noZap := true } = .ok d ∧ env.LocalsApart d.code ∧
      ∀ text ∈ ["aBIsSet := false", "aBIsSet2 := false",
        "Clerk_Note_Helper.Args = func(value2 int32, type2 int32, pier2 int32) *Clerk_Note_Args \x7b"],
        ⟨1, text⟩ ∈ d.code := by
  have hcheck : crowded.check = .ok () := by decide +kernel
  have hself : crowded.file? ⟨0⟩ = some ⟨"desk.thrift", "ex/desk", "desk"⟩ := by decide +kernel
  obtain ⟨env, claims, hof, -, -, -, hdraft⟩ := locals_never_collide hcheck hself { noZap := true }
  obtain ⟨d, hd, htexts⟩ : ∃ d, crowded.draft ⟨0⟩ { noZap := true } = .ok d ∧
      ∀ text ∈ ["aBIsSet := false", "aBIsSet2 := false",
        "Clerk_Note_Helper.Args = func(value2 int32, type2 int32, pier2 int32) *Clerk_Note_Args \x7b"],
        ⟨1, text⟩ ∈ d.code := exists_draft (by decide +kernel)
  exact ⟨env, claims, d, hof, hd, (hdraft d hd).2, htexts⟩

end Program

end GoSchema
