import GoSchema.Generate.Source
import GoSchema.Proofs.Casing
import GoSchema.Proofs.Except
import GoSchema.Proofs.Namespace

/-!
# The names of a package

Before any code is generated, a file claims the names of its package: locals and packages first, then its
declarations. `Program.declaredNames` lists the names of the declarations without claiming them. The claims are
granted exactly when the names are free and all different (`Claims.claimAll_of_grantable`,
`Claims.claimAll_of_not_grantable`).

## What is proved

* `claimAll_ambientClaims` and `Env.ofFile_eq_initial`: the names of locals and packages are granted in every run,
  so the surroundings of a run are always found.
* `Env.declarations_spells`: the claims of a file are known exactly when the identifiers given by hand are valid,
  and they are then for the declared names.
* `Program.declaredNames_ne_initHook`: no declaration asks for the name of the initializer, the one name that is
  granted without being held.
* `Program.draft_eq_fromNames`, and with it `Program.exists_draft`: facts about a program that is given in full are
  evaluated from its declarations on.

Whether the names that a file asks for are in fact different depends on the schema. Both outcomes are treated.
-/

namespace GoSchema

open Name

/-! ### Claims -/

namespace Claims

/-- What is claimed after a claim was granted. -/
def grant (claims : Claims) (c : Claim) : Claims :=
  ⟨claims.names.hold c.ident, (c.ident, c.site.entity) :: claims.owners⟩

theorem names_foldl_grant (claims : Claims) (cs : List Claim) :
    (cs.foldl grant claims).names = (cs.map Claim.ident).foldl Namespace.hold claims.names := by
  induction cs generalizing claims with
  | nil => rfl
  | cons c cs ih => exact ih (claims.grant c)

/-- A claim is granted when its name is. -/
theorem claim_eq_ok {claims claims' : Claims} {c : Claim} : claims.claim c = .ok claims' ↔
    ∃ names, claims.names.reserve c.ident = .ok names ∧
      claims' = ⟨names, (c.ident, c.site.entity) :: claims.owners⟩ := by
  unfold claim
  split
  next names hnames => simp [hnames, eq_comm]
  next herror => simp [herror]
  next herror => simp [herror]

/-- A claim is refused only because its name is taken, and then there is a conflict. -/
theorem claim_eq_error {claims : Claims} {c : Claim} {e : GenError} : claims.claim c = .error e ↔
    (c.ident ≠ initHook ∧ claims.names.isTaken c.ident = true) ∧
      e = .conflict c.site c.ident (claims.ownerOf c.ident) := by
  unfold claim
  cases hreserve : claims.names.reserve c.ident with
  | ok names =>
    have hfree : ¬ (c.ident ≠ initHook ∧ claims.names.isTaken c.ident = true) := fun h => by
      rw [Namespace.reserve_eq_error.mpr ⟨rfl, h⟩] at hreserve
      cases hreserve
    simp only [hfree, false_and, reduceCtorEq]
  | error error =>
    obtain ⟨rfl, htaken⟩ := Namespace.reserve_eq_error.mp hreserve
    simp [htaken, eq_comm]

theorem claim_of_free {claims : Claims} {c : Claim} (hinit : c.ident ≠ initHook)
    (h : claims.names.isTaken c.ident = false) : claims.claim c = .ok (claims.grant c) :=
  claim_eq_ok.mpr ⟨_, (Namespace.reserve_eq_ok hinit).mpr ⟨h, rfl⟩, rfl⟩

theorem claim_of_taken {claims : Claims} {c : Claim} (hinit : c.ident ≠ initHook)
    (h : claims.names.isTaken c.ident = true) :
    ∃ existing, claims.claim c = .error (.conflict c.site c.ident existing) :=
  ⟨_, claim_eq_error.mpr ⟨⟨hinit, h⟩, rfl⟩⟩

/-- Claims for names that are free and all different are granted. -/
theorem claimAll_of_grantable {claims : Claims} {cs : List Claim}
    (hinit : ∀ c ∈ cs, c.ident ≠ initHook) (h : claims.names.Grantable (cs.map Claim.ident)) :
    claims.claimAll cs = .ok (cs.foldl grant claims) := by
  induction cs generalizing claims with
  | nil => rfl
  | cons c cs ih =>
    obtain ⟨hc, hcs⟩ := List.forall_mem_cons.mp hinit
    obtain ⟨hfree, hrest⟩ := Namespace.grantable_cons.mp h
    rw [claimAll, List.foldlM_cons, claim_of_free hc hfree]
    exact ih hcs hrest

/-- Otherwise they meet a conflict. -/
theorem claimAll_of_not_grantable {claims : Claims} {cs : List Claim}
    (hinit : ∀ c ∈ cs, c.ident ≠ initHook) (h : ¬ claims.names.Grantable (cs.map Claim.ident)) :
    ∃ site ident existing, claims.claimAll cs = .error (.conflict site ident existing) := by
  induction cs generalizing claims with
  | nil => exact absurd ⟨List.nodup_nil, by simp⟩ h
  | cons c cs ih =>
    obtain ⟨hc, hcs⟩ := List.forall_mem_cons.mp hinit
    rw [claimAll, List.foldlM_cons]
    cases hfree : claims.names.isTaken c.ident with
    | true =>
      obtain ⟨existing, hclaim⟩ := claim_of_taken hc hfree
      rw [hclaim]
      exact ⟨_, _, _, rfl⟩
    | false =>
      rw [claim_of_free hc hfree]
      exact ih hcs fun hrest => h (Namespace.grantable_cons.mpr ⟨hfree, hrest⟩)

end Claims

/-! ### Locals and packages -/

/-- The names that every file claims: those of locals, standard packages and runtime packages. -/
def ambientNames : List String :=
  fixedLocals ++ standardAliases.map Go.Package.name ++ ["wire", "zapcore", "multierr"]

/-- The names that the packages of other files get, one after the other. -/
def aliasesFrom (ns : Namespace) : List File → List String
  | [] => []
  | f :: fs => (ns.newName f.package).1 :: aliasesFrom (ns.newName f.package).2 fs

/-- The names of the packages of other files. -/
def Program.fileAliases (p : Program) (file : Ref .file) (self : File) : List String :=
  aliasesFrom (ambientNames.foldl Namespace.hold .empty) (foreignFiles p file self)

theorem ambientNames_grantable : Namespace.empty.Grantable ambientNames := by
  unfold Namespace.Grantable
  decide +kernel

theorem ambientNames_ne_initHook : ∀ name ∈ ambientNames, name ≠ initHook := by decide +kernel

theorem mem_register {packages : List Go.Package} {path name : String} {k : Go.Package}
    (h : k ∈ Go.register packages path name) : k ∈ packages ∨ k = ⟨path, name⟩ := by
  unfold Go.register at h
  split_ifs at h
  · exact .inl h
  · simpa using h

theorem nameFiles_names {ns : Namespace} (h : ns.Clean) (packages : List Go.Package) (fs : List File) :
    (nameFiles ns packages fs).1.Clean ∧
      (nameFiles ns packages fs).1.held = (aliasesFrom ns fs).reverse ++ ns.held := by
  induction fs generalizing ns packages with
  | nil => exact ⟨h, rfl⟩
  | cons f fs ih =>
    obtain ⟨hclean, hheld⟩ := ih (h.newName f.package)
      (Go.register packages f.importPath (ns.newName f.package).1)
    refine ⟨hclean, hheld.trans ?_⟩
    rw [Namespace.held_newName, aliasesFrom, List.reverse_cons, List.append_assoc]
    rfl

theorem mem_nameFiles {ns : Namespace} {packages : List Go.Package} {fs : List File} {k : Go.Package}
    (h : k ∈ (nameFiles ns packages fs).2) : k ∈ packages ∨ k.name ∈ aliasesFrom ns fs := by
  induction fs generalizing ns packages with
  | nil => exact .inl h
  | cons f fs ih =>
    rcases ih h with h | h
    · rcases mem_register h with h | rfl
      · exact .inl h
      · exact .inr List.mem_cons_self
    · exact .inr (List.mem_cons_of_mem _ h)

theorem mem_foldl_register {ps packages : List Go.Package} {k : Go.Package}
    (h : k ∈ ps.foldl (fun ps p => Go.register ps p.path p.name) packages) : k ∈ packages ∨ k ∈ ps := by
  induction ps generalizing packages with
  | nil => exact .inl h
  | cons p ps ih =>
    rcases ih h with h | h
    · rcases mem_register h with h | rfl
      · exact .inl h
      · exact .inr List.mem_cons_self
    · exact .inr (List.mem_cons_of_mem _ h)

/-- The surroundings of a run for this file with these options. -/
structure Env.IsFor (env : Env) (p : Program) (r : Ref .file) (f : File) (o : Options) : Prop where
  program : env.program = p
  file : env.file = r
  self : env.self = f
  options : env.options = o
  /-- The code refers to packages by names that are held. -/
  packages : ∀ k ∈ env.packages, k.name ∈ ambientNames ++ p.fileAliases r f

/-- The claims of locals and packages, all granted. -/
def ambientGranted (o : Options) (path : String) : Claims := (ambientClaims o path).foldl Claims.grant .empty

theorem idents_ambientClaims (o : Options) (path : String) : (ambientClaims o path).map Claim.ident = ambientNames := by
  simp [ambientClaims, ambientNames, Options.runtimePackages, Function.comp_def]

theorem names_ambientGranted (o : Options) (path : String) :
    (ambientGranted o path).names = ambientNames.foldl Namespace.hold .empty := by
  rw [ambientGranted, Claims.names_foldl_grant, idents_ambientClaims]
  rfl

/-- The names of locals and packages are always granted. -/
theorem claimAll_ambientClaims (o : Options) (path : String) :
    Claims.empty.claimAll (ambientClaims o path) = .ok (ambientGranted o path) := by
  have hinit : ∀ c ∈ ambientClaims o path, c.ident ≠ initHook := fun c hc =>
    ambientNames_ne_initHook c.ident (idents_ambientClaims o path ▸ List.mem_map_of_mem hc)
  exact Claims.claimAll_of_grantable hinit (idents_ambientClaims o path ▸ ambientNames_grantable)

/-- The packages that all generated code may call, as they are registered. -/
def calledPackages (o : Options) : List Go.Package :=
  (standardAliases ++ o.runtimePackages).foldl (fun ps p => Go.register ps p.path p.name) []

/-- The surroundings of a run for a file and the names claimed so far, when those of locals and packages are granted
and other files have theirs. -/
def Env.initial (p : Program) (file : Ref .file) (self : File) (o : Options) : Env × Claims :=
  let named := nameFiles (ambientGranted o self.path).names (calledPackages o) (foreignFiles p file self)
  (⟨p, file, self, o, named.2⟩, ⟨named.1, (ambientGranted o self.path).owners⟩)

/-- A run always comes to its declarations. -/
theorem Env.ofFile_eq_initial (p : Program) (file : Ref .file) (self : File) (o : Options) :
    Env.ofFile p file self o = .ok (Env.initial p file self o) := by
  rw [Env.ofFile, claimAll_ambientClaims]
  rfl

/-- The surroundings of a run are always found. -/
theorem Env.ofFile_eq (p : Program) (file : Ref .file) (self : File) (o : Options) :
    ∃ (env : Env) (claims : Claims), Env.ofFile p file self o = .ok (env, claims) ∧
      env.IsFor p file self o ∧ claims.names.Clean ∧
      claims.names.held = (p.fileAliases file self).reverse ++ ambientNames.reverse := by
  have hclean : (ambientGranted o self.path).names.Clean :=
    names_ambientGranted o self.path ▸ Namespace.clean_empty.foldl_hold ambientNames_grantable
  obtain ⟨hclean', hheld⟩ := nameFiles_names hclean (calledPackages o) (foreignFiles p file self)
  refine ⟨_, _, Env.ofFile_eq_initial p file self o, ⟨rfl, rfl, rfl, rfl, fun k hk => ?_⟩, hclean', ?_⟩
  · rcases mem_nameFiles hk with hk | hk
    · rcases List.mem_append.mp ((mem_foldl_register hk).resolve_left List.not_mem_nil) with hk | hk
      · exact List.mem_append_left _ (by simp [ambientNames, List.mem_map_of_mem hk])
      · refine List.mem_append_left _ (List.mem_append_right _ ?_)
        exact (List.mem_map_of_mem hk : k.name ∈ o.runtimePackages.map Go.Package.name)
    · rw [names_ambientGranted] at hk
      exact List.mem_append_right _ hk
  · rw [hheld, names_ambientGranted, Namespace.held_foldl_hold, Program.fileAliases]
    rfl

/-! ### Evaluation

A draft is evaluated from its declarations on, since the names of locals and packages are granted in every run. -/

namespace Program

variable {p : Program} {file : Ref .file} {o : Options}

/-- The run for a file of a program, from its declarations on. -/
def draftFromNames (p : Program) (file : Ref .file) (o : Options) : Except GenError Draft :=
  match p.check with
  | .error e => .error (.badProgram e)
  | .ok () =>
    match p.file? file with
    | none => .error (.badProgram (.dangling "generation target" .file file.toNat p.files.length))
    | some self => do
      let start := Env.initial p file self o
      let claims ← start.1.declare start.2
      let functions ← start.1.functionTable
      let done ← (start.1.declarationsCode functions).run ⟨claims.names, [], [], [], []⟩
      return ⟨start.1, done.1, done.2⟩

theorem draft_eq_fromNames (p : Program) (file : Ref .file) (o : Options) :
    p.draft file o = p.draftFromNames file o := by
  unfold draft draftFromNames
  cases p.check with
  | error e => rfl
  | ok u =>
    cases p.file? file with
    | none => rfl
    | some self =>
      dsimp only
      rw [Env.draft, Env.ofFile_eq_initial]
      rfl

/-- A draft with a property, as evaluation shows. -/
theorem exists_draft {P : Draft → Prop} [DecidablePred P]
    (h : (p.draftFromNames file o).toOption.map (fun d => decide (P d)) = some true) :
    ∃ d, p.draft file o = .ok d ∧ P d :=
  draft_eq_fromNames p file o ▸ Except.exists_ok_of_decide h

/-- There is a draft, as evaluation shows. -/
theorem exists_draft_of_isOk (h : (p.draftFromNames file o).isOk = true) : ∃ d, p.draft file o = .ok d :=
  draft_eq_fromNames p file o ▸ Except.exists_ok_of_isOk h

/-- There is a source, as evaluation shows. -/
theorem exists_source (h : (p.draftFromNames file o).isOk = true) : ∃ source, p.generate file o = .ok source := by
  obtain ⟨d, hd⟩ := exists_draft_of_isOk h
  exact ⟨d.source, by rw [generate, hd]; rfl⟩

end Program

/-! ### Identifiers -/

/-- An identifier given by hand is exported and not reserved. -/
def OverrideValid (a : Annotations) : Prop :=
  ∀ ident, a.get? nameKey = some ident → isExported ident = true ∧ isReserved ident = false

instance (a : Annotations) : Decidable (OverrideValid a) :=
  inferInstanceAs (Decidable (∀ ident ∈ a.get? nameKey, isExported ident = true ∧ isReserved ident = false))

/-- The identifier of an entity: the one given by hand, else the exported spelling of the name. -/
def goName (name : String) (a : Annotations) : String := (a.get? nameKey).getD (exported name)

theorem identifier_eq_ok {name : String} {a : Annotations} {site : Site} {ident : String} :
    identifier name a site = .ok ident ↔ OverrideValid a ∧ goName name a = ident := by
  unfold identifier OverrideValid goName
  cases a.get? nameKey with
  | none => simp
  | some given =>
    dsimp only
    split_ifs with hvalid
    · simp_all
    · simp_all

/-- The identifier of an item: the one given by hand, else the spelling of its name behind the identifier
of the enum. -/
def itemName (enumIdent : String) (item : EnumItem) : String :=
  (item.annotations.get? nameKey).getD (enumIdent ++ exported item.name)

theorem itemIdent_eq_ok {enumIdent : String} {item : EnumItem} {site : Site} {ident : String} :
    Env.itemIdent enumIdent item site = .ok ident ↔
      OverrideValid item.annotations ∧ itemName enumIdent item = ident := by
  unfold Env.itemIdent itemName Annotations.contains
  cases hget : item.annotations.get? nameKey with
  | none => simp [OverrideValid, hget]
  | some given => simp [identifier_eq_ok, goName, hget]

/-! ### Declared names -/

/-- The names that an enum declares. -/
def Enum.declaredNames (e : Enum) : List String :=
  let ident := goName e.name e.annotations
  ident :: (ident ++ "_Values") :: e.items.map (itemName ident)

/-- The names that a function of a service declares. -/
def Function.declaredNames (f : Function) (service : String) : List String :=
  let names := FunctionNames.of service (goName f.name f.annotations) f.oneway
  names.args :: (names.result.toList ++ [names.helper])

/-- The names that a service declares. -/
def Service.declaredNames (s : Service) : List String :=
  s.functions.flatMap fun f => f.declaredNames (goName s.name s.annotations)

namespace Program

/-- The names that the declarations of a file ask for, in order. -/
def declaredNames (p : Program) (file : Ref .file) : List String :=
  (p.constantsOf file).map (fun c => goName c.name c.annotations)
    ++ (p.enumsOf file).flatMap Enum.declaredNames
    ++ (p.typedefsOf file).map (fun t => goName t.name t.annotations)
    ++ (p.structsOf file).map (fun s => goName s.name s.annotations)
    ++ (p.servicesOf file).flatMap Service.declaredNames

/-- The identifiers given by hand to the declarations of a file are valid. -/
structure OverridesValid (p : Program) (file : Ref .file) : Prop where
  constants : ∀ c ∈ p.constantsOf file, OverrideValid c.annotations
  enums : ∀ e ∈ p.enumsOf file, OverrideValid e.annotations ∧
    ∀ item ∈ e.items, OverrideValid item.annotations
  typedefs : ∀ t ∈ p.typedefsOf file, OverrideValid t.annotations
  structs : ∀ s ∈ p.structsOf file, OverrideValid s.annotations
  services : ∀ s ∈ p.servicesOf file, OverrideValid s.annotations ∧
    ∀ f ∈ s.functions, OverrideValid f.annotations

instance (p : Program) (file : Ref .file) : Decidable (p.OverridesValid file) :=
  decidable_of_iff
    ((∀ c ∈ p.constantsOf file, OverrideValid c.annotations) ∧
      (∀ e ∈ p.enumsOf file, OverrideValid e.annotations ∧ ∀ item ∈ e.items, OverrideValid item.annotations) ∧
      (∀ t ∈ p.typedefsOf file, OverrideValid t.annotations) ∧
      (∀ s ∈ p.structsOf file, OverrideValid s.annotations) ∧
      ∀ s ∈ p.servicesOf file, OverrideValid s.annotations ∧ ∀ f ∈ s.functions, OverrideValid f.annotations)
    ⟨fun ⟨hc, he, ht, hs, hv⟩ => ⟨hc, he, ht, hs, hv⟩,
      fun h => ⟨h.constants, h.enums, h.typedefs, h.structs, h.services⟩⟩

end Program

/-! ### Pending claims -/

/-- The pending claims are all known. -/
def AllKnown (pending : List Pending) (css : List (List Claim)) : Prop := pending = css.map .ok

/-- The pending claims are known exactly when the condition holds, and they are then for these names. -/
structure Spells (pending : List Pending) (valid : Prop) (names : List String) : Prop where
  known : valid → ∃ css, AllKnown pending css
  valid : ∀ css, AllKnown pending css → valid
  names : ∀ css, AllKnown pending css → css.flatten.map Claim.ident = names

namespace Spells

variable {α : Type} {ps qs : List Pending} {v w : Prop} {ns ms : List String}

theorem nil : Spells [] True [] :=
  ⟨fun _ => ⟨[], rfl⟩, fun _ _ => trivial, fun css h => by simp [List.map_eq_nil_iff.mp h.symm]⟩

theorem append (hp : Spells ps v ns) (hq : Spells qs w ms) : Spells (ps ++ qs) (v ∧ w) (ns ++ ms) := by
  refine ⟨fun ⟨hv, hw⟩ => ?_, fun css h => ?_, fun css h => ?_⟩
  · obtain ⟨as, ha⟩ := hp.known hv
    obtain ⟨bs, hb⟩ := hq.known hw
    exact ⟨as ++ bs, by rw [AllKnown, ha, hb, List.map_append]⟩
  · obtain ⟨as, bs, rfl, ha, hb⟩ := List.append_eq_map_iff.mp h
    exact ⟨hp.valid as ha.symm, hq.valid bs hb.symm⟩
  · obtain ⟨as, bs, rfl, ha, hb⟩ := List.append_eq_map_iff.mp h
    rw [List.flatten_append, List.map_append, hp.names as ha.symm, hq.names bs hb.symm]

theorem congr (h : Spells ps v ns) (hv : v ↔ w) : Spells ps w ns :=
  ⟨fun hw => h.known (hv.mpr hw), fun css hcss => hv.mp (h.valid css hcss), h.names⟩

theorem flatMap {f : α → List Pending} {V : α → Prop} {N : α → List String} {as : List α}
    (h : ∀ a ∈ as, Spells (f a) (V a) (N a)) :
    Spells (as.flatMap f) (∀ a ∈ as, V a) (as.flatMap N) := by
  induction as with
  | nil => exact nil.congr (by simp)
  | cons a as ih =>
    obtain ⟨ha, hrest⟩ := List.forall_mem_cons.mp h
    rw [List.flatMap_cons, List.flatMap_cons]
    exact (ha.append (ih hrest)).congr (by simp)

theorem ok (cs : List Claim) : Spells [.ok cs] True (cs.map Claim.ident) := by
  refine ⟨fun _ => ⟨[cs], rfl⟩, fun _ _ => trivial, fun css h => ?_⟩
  obtain ⟨cs', rfl, hcs⟩ := List.map_eq_singleton_iff.mp h.symm
  rw [List.flatten_singleton, Except.ok.inj hcs]

theorem error (e : GenError) (hv : ¬ v) (names : List String) : Spells [.error e] v names := by
  have hnone : ∀ css, ¬ AllKnown [.error e] css := by
    intro css h
    obtain ⟨_, _, hcs⟩ := List.map_eq_singleton_iff.mp h.symm
    cases hcs
  exact ⟨fun h => absurd h hv, fun css h => absurd h (hnone css), fun css h => absurd h (hnone css)⟩

/-- Claims that are known once an identifier is. -/
theorem ofIdentifier {x : Except GenError String} {ident : String} {f : String → List Claim}
    (hx : ∀ i, x = .ok i ↔ v ∧ ident = i) (hn : (f ident).map Claim.ident = ns) :
    Spells [x >>= fun i => pure (f i)] v ns := by
  subst hn
  cases x with
  | error e => exact error e (fun hv => by cases (hx ident).mpr ⟨hv, rfl⟩) _
  | ok i =>
    obtain ⟨hv, rfl⟩ := (hx i).mp rfl
    exact (ok (f ident)).congr (by simp [hv])

theorem map {f : α → Pending} {V : α → Prop} {N : α → List String} {as : List α}
    (h : ∀ a ∈ as, Spells [f a] (V a) (N a)) : Spells (as.map f) (∀ a ∈ as, V a) (as.flatMap N) := by
  rw [List.map_eq_flatMap]
  exact flatMap h

end Spells

namespace Env

variable {env : Env}

theorem nameClaim_spells (name : String) (a : Annotations) (entity : String) :
    Spells [env.nameClaim name a entity] (OverrideValid a) [goName name a] :=
  .ofIdentifier (fun _ => identifier_eq_ok) rfl

theorem enumClaims_spells (e : Enum) :
    Spells (env.enumClaims e) (OverrideValid e.annotations ∧ ∀ item ∈ e.items, OverrideValid item.annotations)
      e.declaredNames := by
  unfold enumClaims
  dsimp only
  cases hident : identifier e.name e.annotations (env.site e.entity) with
  | error error =>
    refine .error error (fun hv => ?_) _
    rw [identifier_eq_ok.mpr ⟨hv.1, rfl⟩] at hident
    cases hident
  | ok ident =>
    obtain ⟨hvalid, rfl⟩ := identifier_eq_ok.mp hident
    have hitem (item : EnumItem) : Spells [do
        let itemIdent ← itemIdent (goName e.name e.annotations) item (env.site (e.itemEntity item))
        return [⟨itemIdent, env.site (e.itemEntity item)⟩]] (OverrideValid item.annotations)
        [itemName (goName e.name e.annotations) item] := .ofIdentifier (fun _ => itemIdent_eq_ok) rfl
    have hall := (Spells.ok [⟨goName e.name e.annotations, env.site e.entity⟩,
      ⟨goName e.name e.annotations ++ "_Values", env.site e.entity⟩]).append
        (Spells.map fun item (_ : item ∈ e.items) => hitem item)
    rw [← List.map_eq_flatMap] at hall
    exact hall.congr (by simp [hvalid])

theorem functionClaims_spells (s : Service) (service : String) (f : Function) :
    Spells [env.functionClaims s service f] (OverrideValid f.annotations) (f.declaredNames service) := by
  refine Spells.ofIdentifier (fun _ => identifier_eq_ok) ?_
  simp [Function.declaredNames, Function.comp_def]

theorem serviceClaims_spells (s : Service) :
    Spells (env.serviceClaims s)
      (OverrideValid s.annotations ∧ ∀ f ∈ s.functions, OverrideValid f.annotations)
      s.declaredNames := by
  unfold serviceClaims
  cases hident : identifier s.name s.annotations (env.site s.entity) with
  | error error =>
    refine .error error (fun hv => ?_) _
    rw [identifier_eq_ok.mpr ⟨hv.1, rfl⟩] at hident
    cases hident
  | ok service =>
    obtain ⟨hvalid, rfl⟩ := identifier_eq_ok.mp hident
    exact (Spells.map fun f _ => functionClaims_spells s _ f).congr (by simp [hvalid])

/-- The claims of a file are known exactly when the identifiers given by hand are valid, and they are then
for the declared names. -/
theorem declarations_spells :
    Spells env.declarations (env.program.OverridesValid env.file)
      (env.program.declaredNames env.file) := by
  have hconstants := Spells.map fun c (_ : c ∈ env.program.constantsOf env.file) =>
    @nameClaim_spells env c.name c.annotations c.entity
  have henums := Spells.flatMap fun e (_ : e ∈ env.program.enumsOf env.file) =>
    @enumClaims_spells env e
  have htypedefs := Spells.map fun t (_ : t ∈ env.program.typedefsOf env.file) =>
    @nameClaim_spells env t.name t.annotations t.entity
  have hstructs := Spells.map fun s (_ : s ∈ env.program.structsOf env.file) =>
    @nameClaim_spells env s.name s.annotations s.entity
  have hservices := Spells.flatMap fun s (_ : s ∈ env.program.servicesOf env.file) =>
    @serviceClaims_spells env s
  rw [← List.map_eq_flatMap] at hconstants htypedefs hstructs
  exact ((((hconstants.append henums).append htypedefs).append hstructs).append hservices).congr
    ⟨fun ⟨⟨⟨⟨hc, he⟩, ht⟩, hs⟩, hv⟩ => ⟨hc, he, ht, hs, hv⟩,
      fun ⟨hc, he, ht, hs, hv⟩ => ⟨⟨⟨⟨hc, he⟩, ht⟩, hs⟩, hv⟩⟩

/-- Claims that are all known are granted like one list. -/
theorem foldlM_pending (css : List (List Claim)) (claims : Claims) :
    (css.map (Except.ok (ε := GenError))).foldlM
      (fun claims (pending : Pending) => do claims.claimAll (← pending)) claims =
        claims.claimAll css.flatten := by
  induction css generalizing claims with
  | nil => rfl
  | cons cs css ih =>
    rw [List.map_cons, List.foldlM_cons, List.flatten_cons, Claims.claimAll, List.foldlM_append]
    exact congrArg _ (funext ih)

/-- When the claims of a file are granted, all of them were known. -/
theorem allKnown_of_foldlM {ps : List Pending} {claims claims' : Claims}
    (h : ps.foldlM (fun claims pending => do claims.claimAll (← pending)) claims = .ok claims') :
    ∃ css, AllKnown ps css := by
  induction ps generalizing claims with
  | nil => exact ⟨[], rfl⟩
  | cons pending ps ih =>
    rw [List.foldlM_cons] at h
    obtain ⟨claims₁, hfirst, hrest⟩ := Except.bind_eq_ok.mp h
    obtain ⟨cs, rfl, _⟩ := Except.bind_eq_ok.mp hfirst
    obtain ⟨css, hcss⟩ := ih hrest
    exact ⟨cs :: css, by rw [AllKnown, hcss]; rfl⟩

end Env

/-! ### The initializer is never declared -/

theorem head?_append_ne {a b : String} {x : Char} (ha : a.toList.head? ≠ some x)
    (hb : b.toList.head? ≠ some x) : (a ++ b).toList.head? ≠ some x := by
  rw [String.toList_append]
  cases hlist : a.toList with
  | nil => simpa using hb
  | cons c rest => simpa [hlist] using ha

/-- An identifier given by hand begins with a capital. -/
theorem head?_isExported_ne {ident : String} (h : isExported ident = true) {x : Char}
    (hx : x.isUpper = false) : ident.toList.head? ≠ some x := by
  unfold isExported at h
  split at h
  · cases h
  · rename_i c rest hlist
    rw [hlist]
    rintro heq
    simp only [List.head?_cons, Option.some.injEq] at heq
    subst heq
    simp [hx] at h

/-- The Go name of a declaration begins with no small letter of ASCII. -/
theorem head?_goName_ne {a : Annotations} (h : OverrideValid a) (name : String) {x : Char} (hx : x.isLower = true) :
    (goName name a).toList.head? ≠ some x := by
  unfold goName
  cases hget : a.get? nameKey with
  | none => exact head?_exported_ne hx name
  | some ident => exact head?_isExported_ne (h ident hget).1 (Text.isUpper_eq_false_of_isLower hx)

theorem head?_itemName_ne {enumIdent : String} (hident : enumIdent.toList.head? ≠ some 'i')
    {item : EnumItem} (h : OverrideValid item.annotations) :
    (itemName enumIdent item).toList.head? ≠ some 'i' := by
  unfold itemName
  cases hget : item.annotations.get? nameKey with
  | none => exact head?_append_ne hident (head?_exported_ne (by decide) item.name)
  | some ident => exact head?_isExported_ne (h ident hget).1 (by decide)

theorem head?_functionNames_ne {service function : String} (hs : service.toList.head? ≠ some 'i')
    (hf : function.toList.head? ≠ some 'i') (oneway : Bool) {name : String}
    (h : name ∈ (FunctionNames.of service function oneway).args ::
      ((FunctionNames.of service function oneway).result.toList ++
        [(FunctionNames.of service function oneway).helper])) : name.toList.head? ≠ some 'i' := by
  have hstem : (service ++ "_" ++ function).toList.head? ≠ some 'i' :=
    head?_append_ne (head?_append_ne hs (by decide)) hf
  simp only [FunctionNames.of, List.mem_cons, List.mem_append, Option.mem_toList, List.not_mem_nil,
    or_false] at h
  rcases h with rfl | h | rfl
  · exact head?_append_ne hstem (by decide)
  · split_ifs at h
    cases h
    exact head?_append_ne hstem (by decide)
  · exact head?_append_ne hstem (by decide)

/-- No declared name is that of the initializer. -/
theorem Program.declaredNames_ne_initHook {p : Program} {file : Ref .file} (h : p.OverridesValid file)
    {name : String} (hname : name ∈ p.declaredNames file) : name ≠ initHook := by
  have hhead : name.toList.head? ≠ some 'i' := by
    simp only [declaredNames, List.mem_append, List.mem_map, List.mem_flatMap] at hname
    rcases hname with (((⟨c, hc, rfl⟩ | ⟨e, he, hname⟩) | ⟨t, ht, rfl⟩) | ⟨s, hs, rfl⟩) | ⟨s, hs, hname⟩
    · exact head?_goName_ne (h.constants c hc) c.name (by decide)
    · obtain ⟨hvalid, hitems⟩ := h.enums e he
      have hident := @head?_goName_ne _ hvalid e.name 'i' (by decide)
      simp only [Enum.declaredNames, List.mem_cons, List.mem_map] at hname
      rcases hname with rfl | rfl | ⟨item, hitem, rfl⟩
      · exact hident
      · exact head?_append_ne hident (by decide)
      · exact head?_itemName_ne hident (hitems item hitem)
    · exact head?_goName_ne (h.typedefs t ht) t.name (by decide)
    · exact head?_goName_ne (h.structs s hs) s.name (by decide)
    · obtain ⟨hvalid, hfunctions⟩ := h.services s hs
      obtain ⟨f, hf, hname⟩ := List.mem_flatMap.mp hname
      exact head?_functionNames_ne (head?_goName_ne hvalid s.name (by decide))
        (head?_goName_ne (hfunctions f hf) f.name (by decide)) f.oneway hname
  rintro rfl
  exact hhead (by decide)

end GoSchema
