import GoSchema.Proofs.ImportLines
import GoSchema.Proofs.RunHistory

/-!
# Import aliases throughout a run

The aliases of a run are given before its first declaration: those of standard and runtime packages are fixed, and each
other package gets a name that is new. A path that comes twice keeps its first alias, whether it is given for two
runtime packages, is that of a standard package, or is shared by files. So the paths and the aliases that are registered
correspond to each other one to one, and every alias is held (`aliases_of_ofFile`).

From there on nothing is registered and names are only added. At each point of the run (`Env.Reaches`) every path that
the code may use is registered, so its alias never changes, and the import block lists the paths used so far, each once
(`aliases_consistent`).

## What is proved

* `Env.aliases_of_ofFile`: what is registered at the beginning, for any options.
* `Env.reaches_of_declare`: every run of the declarations goes through such points, one step after the other.
* `Program.aliases_consistent`: at each point, paths and aliases correspond one to one, a path that is taken is
  used from then on and nothing else changes, and the import block lists the paths that are used.

That each listed alias occurs in the code is another statement, with two exceptions, and has its own module. So has
what a line without an alias binds.
-/

namespace GoSchema

open Go Name

/-! ### Registered names -/

namespace Go

/-- Each path has one alias, and each alias is that of one path. -/
structure OneToOne (packages : List Package) : Prop where
  paths : Distinct packages
  names : (packages.map Package.name).Nodup

theorem names_register (packages : List Package) (path name : String) :
    ((register packages path name).map Package.name).Sublist (packages.map Package.name ++ [name]) := by
  unfold register
  split_ifs
  · exact List.sublist_append_left _ _
  · rw [List.map_append]
    exact List.Sublist.refl _

theorem names_foldl_register (ps packages : List Package) :
    ((ps.foldl (fun ps p => register ps p.path p.name) packages).map Package.name).Sublist
      (packages.map Package.name ++ ps.map Package.name) := by
  induction ps generalizing packages with
  | nil => simp
  | cons p ps ih =>
    have hrest := ih (register packages p.path p.name)
    have hfirst := (names_register packages p.path p.name).append_right (ps.map Package.name)
    rw [List.append_assoc] at hfirst
    exact hrest.trans hfirst

/-- A package with a name that none has yet keeps the names apart. -/
theorem nodup_names_register {packages : List Package} (h : (packages.map Package.name).Nodup) (path : String)
    {name : String} (hnew : ∀ k ∈ packages, k.name ≠ name) :
    ((register packages path name).map Package.name).Nodup := by
  refine (names_register packages path name).nodup (List.nodup_append.mpr ⟨h, List.nodup_singleton _, ?_⟩)
  rintro a ha b hb rfl
  obtain ⟨k, hk, rfl⟩ := List.mem_map.mp ha
  exact hnew k hk (List.mem_singleton.mp hb)

end Go

/-- The names that files get are new, so they are apart from those given before, and they are held. -/
theorem nameFiles_apart {ns : Namespace} {packages : List Package} (hnodup : (packages.map Package.name).Nodup)
    (hheld : ∀ k ∈ packages, k.name ∈ ns.held) (fs : List File) :
    ((nameFiles ns packages fs).2.map Package.name).Nodup ∧
      ∀ k ∈ (nameFiles ns packages fs).2, k.name ∈ (nameFiles ns packages fs).1.held := by
  induction fs generalizing ns packages with
  | nil => exact ⟨hnodup, hheld⟩
  | cons f fs ih =>
    have hfree := (Namespace.isTaken_eq_false_iff.mp (Namespace.freshName_free ns f.package)).2
    refine ih (nodup_names_register hnodup f.importPath fun k hk heq => hfree ?_) fun k hk => ?_
    · exact heq ▸ hheld k hk
    · change k.name ∈ (ns.newName f.package).2.held
      rw [Namespace.held_newName]
      rcases mem_register hk with hk | rfl
      · exact List.mem_cons_of_mem _ (hheld k hk)
      · exact List.mem_cons_self

namespace Env

variable {env : Env} {p : Program} {file : Ref .file} {self : File} {o : Options} {claims : Claims}

theorem aliases_of_ofFile (h : Env.ofFile p file self o = .ok (env, claims)) :
    OneToOne env.packages ∧ ∀ k ∈ env.packages, k.name ∈ claims.names.held := by
  rw [ofFile_eq_initial] at h
  cases h
  have hsub := names_foldl_register (standardAliases ++ o.runtimePackages) []
  have hcalled : (standardAliases ++ o.runtimePackages).map Package.name =
      standardAliases.map Package.name ++ ["wire", "zapcore", "multierr"] := by
    rw [List.map_append]
    rfl
  rw [List.map_nil, List.nil_append, hcalled] at hsub
  have hnodup : (standardAliases.map Package.name ++ ["wire", "zapcore", "multierr"]).Nodup := by decide +kernel
  have hheld : ∀ k ∈ calledPackages o, k.name ∈ (ambientGranted o self.path).names.held := by
    intro k hk
    have hname := hsub.subset (List.mem_map_of_mem hk)
    rw [names_ambientGranted, Namespace.held_foldl_hold, List.mem_append, List.mem_reverse, ambientNames,
      List.append_assoc]
    exact .inl (List.mem_append_right _ hname)
  obtain ⟨hapart, hheld'⟩ := nameFiles_apart (hsub.nodup hnodup) hheld (foreignFiles p file self)
  exact ⟨⟨(nameFiles_registers (distinct_nil.foldl_register _) _).1, hapart⟩, hheld'⟩

end Env

/-! ### Points of a run -/

theorem held_subset_of_claim {claims claims' : Claims} {c : Claim} (h : claims.claim c = .ok claims') :
    claims.names.held ⊆ claims'.names.held := by
  obtain ⟨names, hnames, rfl⟩ := Claims.claim_eq_ok.mp h
  by_cases hinit : c.ident = initHook
  · rw [Namespace.reserve, if_pos hinit] at hnames
    exact Except.ok.inj hnames ▸ List.Subset.refl _
  · obtain ⟨-, rfl⟩ := (Namespace.reserve_eq_ok hinit).mp hnames
    exact List.subset_cons_self _ _

theorem held_subset_of_claimAll {claims claims' : Claims} {cs : List Claim} (h : claims.claimAll cs = .ok claims') :
    claims.names.held ⊆ claims'.names.held := by
  induction cs generalizing claims with
  | nil =>
    cases h
    exact List.Subset.refl _
  | cons c cs ih =>
    obtain ⟨claims₁, hclaim, h⟩ := Except.bind_eq_ok.mp h
    exact List.Subset.trans (held_subset_of_claim hclaim) (ih h)

namespace Env

variable {env : Env} {r r' : Run} {e : Event} {es : List Event}

theorem Step.held (h : env.Step r e r') : r.names.held ⊆ r'.names.held := by
  cases h with
  | use _ => simp
  | again _ _ | finish _ => exact List.Subset.refl _
  | begin hasks _ hnames =>
    obtain ⟨-, rfl⟩ := (Namespace.reserve_eq_ok hasks.ne_initHook).mp hnames
    exact List.subset_cons_self _ _

/-- The paths used are some that may be used, each noted once. -/
structure UsesOnce (env : Env) (r : Run) : Prop where
  permitted : env.MayUseAll r.used
  nodup : r.used.Nodup

theorem Step.usesOnce (h : env.Step r e r') (hr : env.UsesOnce r) : env.UsesOnce r' := by
  cases h with
  | @use path hmay =>
    by_cases hpath : path ∈ r.used
    · rw [Run.usePath, if_pos hpath]
      exact hr
    · rw [Run.usePath, if_neg hpath]
      refine ⟨List.forall_mem_append.mpr ⟨hr.permitted, List.forall_mem_singleton.mpr hmay⟩, ?_⟩
      refine List.nodup_append.mpr ⟨hr.nodup, List.nodup_singleton _, ?_⟩
      rintro a ha b hb rfl
      exact hpath (List.mem_singleton.mp hb ▸ ha)
  | again _ _ | begin _ _ _ | finish _ => exact ⟨hr.permitted, hr.nodup⟩

theorem Trace.held (h : env.Trace r es r') : r.names.held ⊆ r'.names.held := by
  induction h with
  | nil => exact List.Subset.refl _
  | cons step _ ih => exact List.Subset.trans step.held ih

theorem Trace.usesOnce (h : env.Trace r es r') (hr : env.UsesOnce r) : env.UsesOnce r' := by
  induction h with
  | nil => exact hr
  | cons step _ ih => exact ih (step.usesOnce hr)

/-- A point of a run after the names `claims` were claimed for locals and packages: some declarations have claimed their
names, and a part of the code is put together. The run may fail later on. -/
def Reaches (env : Env) (claims : Claims) (r : Run) : Prop :=
  ∃ granted claims' events, claims.claimAll granted = .ok claims' ∧ env.Trace (Run.start claims'.names) events r

theorem Reaches.held {claims : Claims} (h : env.Reaches claims r) : claims.names.held ⊆ r.names.held := by
  obtain ⟨granted, claims', events, hgranted, htrace⟩ := h
  exact List.Subset.trans (held_subset_of_claimAll hgranted) htrace.held

theorem Reaches.usesOnce {claims : Claims} (h : env.Reaches claims r) : env.UsesOnce r := by
  obtain ⟨granted, claims', events, -, htrace⟩ := h
  refine htrace.usesOnce ⟨?_, List.nodup_nil⟩
  exact fun path hpath => absurd hpath List.not_mem_nil

theorem Reaches.usePath {claims : Claims} (h : env.Reaches claims r) {path : String} (hmay : env.MayUse path) :
    env.Reaches claims (r.usePath path) := by
  obtain ⟨granted, claims', events, hgranted, htrace⟩ := h
  exact ⟨granted, claims', _, hgranted, htrace.append (Step.use hmay).trace⟩

theorem reaches_of_declare {claims claims' : Claims} (h : env.declare claims = .ok claims')
    (hgrows : env.Grows (Run.start claims'.names) r) : env.Reaches claims r := by
  obtain ⟨css, hcss⟩ := allKnown_of_foldlM h
  obtain ⟨events, htrace, -⟩ := hgrows.exists_trace
  refine ⟨css.flatten, claims', events, ?_, htrace⟩
  rw [declare, hcss, foldlM_pending] at h
  exact h

end Env

/-! ### Import blocks -/

namespace Go

/-- Two groups of packages that are imported for these paths: each path stands in one of them once and under its
alias, standard packages in the first and all others in the second, and in each the paths increase. -/
structure Lists (standard others : List Package) (paths : List String) (aliasOf : String → String) : Prop where
  once : ((standard ++ others).map Package.path).Perm paths
  nodup : paths.Nodup
  named : ∀ k ∈ standard ++ others, k.name = aliasOf k.path
  standard_paths : ∀ k ∈ standard, k.path ∈ standardPackages
  others_paths : ∀ k ∈ others, k.path ∉ standardPackages
  standard_increase : standard.Pairwise fun a b => a.path < b.path
  others_increase : others.Pairwise fun a b => a.path < b.path

variable {paths : List String} {aliasOf : String → String}

theorem lists_importGroups (h : paths.Nodup) {packages : List Package}
    (hpackages : packages = paths.map fun path => ⟨path, aliasOf path⟩) :
    Lists (importGroups packages).1 (importGroups packages).2 paths aliasOf := by
  have hperm := sortByPath_perm packages
  have hpaths : ((sortByPath packages).map Package.path).Perm paths := by
    simpa [hpackages, Function.comp_def] using hperm.map Package.path
  have hincrease : (sortByPath packages).Pairwise fun a b => a.path < b.path := by
    have hne := List.pairwise_map.mp (hpaths.nodup_iff.mpr h)
    refine (pairwise_sortByPath packages).imp₂ (fun a b hle hne => ?_) hne
    exact String.not_le.mp fun hge => hne (String.le_antisymm hle hge)
  rw [importGroups, List.partition_eq_filter_filter]
  refine ⟨((List.filter_append_perm _ _).map _).trans hpaths, h, fun k hk => ?_, ?_, ?_, ?_, ?_⟩
  · have hmem := hperm.mem_iff.mp ((List.filter_append_perm _ _).mem_iff.mp hk)
    rw [hpackages] at hmem
    obtain ⟨path, -, rfl⟩ := List.mem_map.mp hmem
    rfl
  · simp
  · simp
  · exact hincrease.filter _
  · exact hincrease.filter _

/-- The lines of two groups, with a gap between them if neither is empty. -/
def blockText (standard others : List Package) : String :=
  "import (\n" ++ String.join (standard.map Package.importLine)
    ++ (if standard.isEmpty || others.isEmpty then "" else "\n")
    ++ String.join (others.map Package.importLine) ++ ")\n"

theorem importBlock_eq (packages : List Package) :
    importBlock packages =
      if packages.isEmpty then "" else blockText (importGroups packages).1 (importGroups packages).2 := by
  have hempty : packages.isEmpty = ((importGroups packages).1.isEmpty && (importGroups packages).2.isEmpty) := by
    rw [Bool.eq_iff_iff]
    simp only [List.isEmpty_iff, Bool.and_eq_true, List.eq_nil_iff_forall_not_mem, ← forall_and, ← not_or,
      mem_importGroups]
  rw [hempty]
  rfl

end Go

namespace Program

variable {p : Program} {file : Ref .file} {self : File} {o : Options} {env : Env} {claims : Claims}

/-- A draft is the code of its declarations, put together from the names on that these have claimed. -/
theorem run_of_draft (hp : p.check = .ok ()) (hself : p.file? file = some self)
    (hof : Env.ofFile p file self o = .ok (env, claims)) {d : Draft} (hd : p.draft file o = .ok d) :
    d.env = env ∧ ∃ granted functions, env.declare claims = .ok granted ∧ env.functionTable = .ok functions ∧
      env.declarationsCode functions (Run.start granted.names) = .ok (d.code, d.run) := by
  rw [draft, hp] at hd
  dsimp only at hd
  rw [hself] at hd
  obtain ⟨⟨env', claims'⟩, hof', hd⟩ := Except.bind_eq_ok.mp hd
  obtain ⟨rfl, rfl⟩ := Prod.mk.inj (Except.ok.inj (hof'.symm.trans hof))
  obtain ⟨granted, hdeclare, hd⟩ := Except.bind_eq_ok.mp hd
  obtain ⟨functions, hfunctions, hd⟩ := Except.bind_eq_ok.mp hd
  obtain ⟨⟨code, run⟩, hcode, hd⟩ := Except.bind_eq_ok.mp hd
  cases hd
  exact ⟨rfl, granted, functions, hdeclare, hfunctions, hcode⟩

theorem reaches_of_draft (hp : p.check = .ok ()) (hself : p.file? file = some self)
    (hof : Env.ofFile p file self o = .ok (env, claims)) {d : Draft} (hd : p.draft file o = .ok d) :
    d.env = env ∧ env.Reaches claims d.run := by
  obtain ⟨hprogram, -, -, -⟩ := Env.registers_of_ofFile hself hof
  have hsound : env.program.Sound := hprogram ▸ sound_of_check hp
  obtain ⟨henv, granted, functions, hdeclare, hfunctions, hcode⟩ := run_of_draft hp hself hof hd
  exact ⟨henv, Env.reaches_of_declare hdeclare ((Env.declarationsCode_emits hsound hfunctions _).1 _ _ hcode).2⟩

/-- **Aliases are consistent.** The surroundings of a run are always found, with paths and aliases that correspond one
to one. At each point of the run all aliases are held, a path that the code may use is registered and gets its one alias,
so does the package of each file with another import path, and the import block lists the paths used so far. When an alias
is taken, this leads to a point at which its path is used, beside those that were used before. -/
theorem aliases_consistent (hp : p.check = .ok ()) (hself : p.file? file = some self) (o : Options) :
    ∃ env claims, Env.ofFile p file self o = .ok (env, claims) ∧
      (∀ d, p.draft file o = .ok d → d.env = env ∧ env.Reaches claims d.run) ∧
      OneToOne env.packages ∧
      (∀ path path', env.MayUse path → env.MayUse path' → env.aliasOf path = env.aliasOf path' → path = path') ∧
      ∀ r, env.Reaches claims r →
        (∀ k ∈ env.packages, k.name ∈ r.names.held) ∧
        (∀ path, env.MayUse path → ⟨path, env.aliasOf path⟩ ∈ env.packages ∧
          env.package path r = .ok (env.aliasOf path, r.usePath path) ∧ env.Reaches claims (r.usePath path) ∧
          ∀ other, other ∈ (r.usePath path).used ↔ other ∈ r.used ∨ other = path) ∧
        (∀ other f, p.file? other = some f → f.importPath ≠ self.importPath →
          ⟨f.importPath, env.aliasOf f.importPath⟩ ∈ env.packages ∧
            env.packageOf other = some ⟨f.importPath, env.aliasOf f.importPath⟩) ∧
        (∀ path ∈ r.used, env.MayUse path) ∧
        ∀ code, ∃ standard others, Lists standard others r.used env.aliasOf ∧
          importBlock (Draft.imports ⟨env, code, r⟩) = if r.used.isEmpty then "" else blockText standard others := by
  obtain ⟨env, claims, hof, henv, -, -⟩ := Env.ofFile_eq p file self o
  obtain ⟨hone, hheld⟩ := Env.aliases_of_ofFile hof
  refine ⟨env, claims, hof, fun d hd => reaches_of_draft hp hself hof hd, hone, fun path path' hmay hmay' heq => ?_,
    fun r hr => ?_⟩
  · have hmem := Env.mem_packages_of_mayUse hself hof hmay
    have hmem' := Env.mem_packages_of_mayUse hself hof hmay'
    exact congrArg Package.path (List.inj_on_of_nodup_map hone.names hmem hmem' heq)
  refine ⟨fun k hk => hr.held (hheld k hk), fun path hmay => ?_, fun other f hf hpath => ?_, hr.usesOnce.permitted,
    fun code => ?_⟩
  · exact ⟨Env.mem_packages_of_mayUse hself hof hmay, rfl, hr.usePath hmay, fun _ => Run.mem_used_usePath⟩
  · have hne : other ≠ file := by
      rintro rfl
      exact hpath (congrArg File.importPath (Option.some.inj (hf.symm.trans hself)))
    have hmay : env.MayUse f.importPath :=
      .inr (.inr (.inr ⟨other, f, henv.program ▸ hf, henv.file ▸ hne, henv.self ▸ hpath, rfl⟩))
    refine ⟨Env.mem_packages_of_mayUse hself hof hmay, ?_⟩
    rw [Env.packageOf, henv.file, if_neg hne, henv.program, hf, henv.self]
    exact if_neg hpath
  · refine ⟨_, _, lists_importGroups hr.usesOnce.nodup rfl, ?_⟩
    rw [importBlock_eq, Draft.imports, List.isEmpty_map]

/-- A program in which two files share an import path. -/
def twins : Program :=
  { Program.empty with
    files := [⟨"port.thrift", "ex/port", "port"⟩, ⟨"pier.thrift", "ex/pier", "fmt"⟩,
      ⟨"quay.thrift", "ex/pier", "pier"⟩, ⟨"dock.thrift", "ex/dock", "dock"⟩] }

/-- Options in which the paths of the runtime packages are those of other packages. -/
def borrowing : Options := { wireImport := "ex/pier", zapcoreImport := "fmt", multierrImport := "fmt" }

theorem aliases_consistent_twins :
    ∃ env claims, Env.ofFile twins ⟨0⟩ ⟨"port.thrift", "ex/port", "port"⟩ borrowing = .ok (env, claims) ∧
      env.aliasOf "ex/pier" = "wire" ∧ env.aliasOf "fmt" = "fmt" ∧ env.aliasOf "ex/dock" = "dock" ∧
      env.packageOf ⟨1⟩ = some ⟨"ex/pier", "wire"⟩ ∧ env.packageOf ⟨2⟩ = some ⟨"ex/pier", "wire"⟩ ∧
      (∀ r, env.Reaches claims r → "wire" ∈ r.names.held) ∧
      ∃ r, env.wire (Run.start claims.names) = .ok ("wire", r) ∧ env.Reaches claims r ∧ r.used = ["ex/pier"] ∧
        importBlock (Draft.imports ⟨env, [], r⟩) = "import (\n\twire \"ex/pier\"\n)\n" := by
  have hp : twins.check = .ok () := by decide +kernel
  have hself : twins.file? ⟨0⟩ = some ⟨"port.thrift", "ex/port", "port"⟩ := by decide +kernel
  obtain ⟨env, claims, hof, -, -, -, hpoints⟩ := aliases_consistent hp hself borrowing
  have haliases : (Env.ofFile twins ⟨0⟩ ⟨"port.thrift", "ex/port", "port"⟩ borrowing).toOption.map
      (fun x => (x.1.aliasOf "ex/pier", x.1.aliasOf "fmt", x.1.aliasOf "ex/dock", x.1.options.wireImport)) =
        some ("wire", "fmt", "dock", "ex/pier") := by
    rw [Env.ofFile_eq_initial]
    decide +kernel
  rw [hof] at haliases
  obtain ⟨hpier, hfmt, hdock, hwire⟩ : env.aliasOf "ex/pier" = "wire" ∧ env.aliasOf "fmt" = "fmt" ∧
      env.aliasOf "ex/dock" = "dock" ∧ env.options.wireImport = "ex/pier" := by
    simpa [Except.toOption] using haliases
  obtain ⟨-, hpaths, hfiles, -⟩ := hpoints (Run.start claims.names) ⟨[], claims, [], rfl, .nil _⟩
  obtain ⟨hmem, hfirst⟩ := hfiles ⟨1⟩ ⟨"pier.thrift", "ex/pier", "fmt"⟩ (by decide +kernel) (by decide)
  obtain ⟨-, hsecond⟩ := hfiles ⟨2⟩ ⟨"quay.thrift", "ex/pier", "pier"⟩ (by decide +kernel) (by decide)
  obtain ⟨-, htaken, hreaches, -⟩ := hpaths "ex/pier" (.inr (.inl hwire.symm))
  rw [hpier] at hmem hfirst hsecond htaken
  refine ⟨env, claims, hof, hpier, hfmt, hdock, hfirst, hsecond, fun r hr => (hpoints r hr).1 _ hmem,
    _, ?_, hreaches, rfl, ?_⟩
  · rw [Env.wire, hwire, htaken]
  · have himports : Draft.imports ⟨env, [], (Run.start claims.names).usePath "ex/pier"⟩ = [⟨"ex/pier", "wire"⟩] := by
      rw [← hpier]
      rfl
    rw [himports]
    decide +kernel

end Program

end GoSchema
