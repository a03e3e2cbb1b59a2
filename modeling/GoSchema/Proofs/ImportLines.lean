import GoSchema.Proofs.Answers
import GoSchema.Proofs.References
import GoSchema.Proofs.UsedImports

/-!
# The names that imports bind

A line of an import block binds the alias that is written in it, and if none is written the name that the imported
package declares. The alias is left out when it is the last element of the import path, whatever name the package
declares. For a package named like the last element of its path nothing is lost. For others the line may bind a
name that the code does not use: the alias is then the name of another package, or the name of its own with a
number behind it, and the path happens to end in it.

## What is proved

* `Go.Binds` reads a line of an import block by itself, and `Go.importLine_in_block` says that each import has its
  line.
* `namedAfter_of_mem_nameFiles` and `packages_of_ofFile`: where the aliases of a run come from.
* `Program.import_line_binds`: each line binds one name. For the package of a file it is the alias exactly if the
  alias is written, or is the name that the package declares. `Program.tape_binds_another_name` shows a line that
  binds another name.

What a package declares as its name is the one that its schema file gives. For standard and runtime packages it is
the one that Go programs know them by.
-/

namespace GoSchema

open Go Name

/-! ### What a line binds -/

/-- The names that a line binds when it imports a package from this path that declares this name. -/
inductive Go.Binds (path declared : String) : String → String → Prop where
  /-- The name is that of the package. -/
  | plain : Binds path declared ("\t\"" ++ path ++ "\"\n") declared
  /-- The name is written in the line. -/
  | named (name : String) : Binds path declared ("\t" ++ name ++ " \"" ++ path ++ "\"\n") name

theorem Go.binds_importLine {k : Package} {declared name : String} :
    Binds k.path declared k.importLine name ↔ name = if defaultAlias k.path = k.name then declared else k.name := by
  constructor
  · intro h
    generalize hline : k.importLine = line at h
    unfold Package.importLine at hline
    -- A line with an alias is longer, so the two forms are never the same.
    cases h with
    | plain =>
      split_ifs at hline ⊢
      · rfl
      · have hlength := congrArg (fun l => l.toList.length) hline
        simp at hlength
        omega
    | named name =>
      split_ifs at hline ⊢
      · have hlength := congrArg (fun l => l.toList.length) hline
        simp at hlength
        omega
      · simpa using hline.symm
  · rintro rfl
    unfold Package.importLine
    split_ifs
    · exact .plain
    · exact .named k.name

/-- The line of each package stands in the import block. -/
theorem Go.importLine_in_block {k : Package} {packages : List Package}
    (hk : k ∈ (importGroups packages).1 ∨ k ∈ (importGroups packages).2) :
    k.importLine.toList <:+: (importBlock packages).toList := by
  have hjoin {ks : List Package} (hk : k ∈ ks) :
      k.importLine.toList <:+: (String.join (ks.map Package.importLine)).toList := by
    obtain ⟨before, after, rfl⟩ := List.append_of_mem hk
    exact ⟨(String.join (before.map Package.importLine)).toList, (String.join (after.map Package.importLine)).toList,
      by simp [String.join_append, String.join_cons]⟩
  unfold importBlock
  generalize importGroups packages = groups at hk ⊢
  obtain ⟨standard, others⟩ := groups
  dsimp only at hk ⊢
  have hsome : ¬ (standard.isEmpty && others.isEmpty) = true := by
    rintro hempty
    simp_all
  rw [if_neg hsome]
  generalize (if (standard.isEmpty || others.isEmpty) = true then "" else "\n") = gap
  rcases hk with hk | hk
  · refine (hjoin hk).trans ⟨"import (\n".toList, (gap ++ String.join (others.map Package.importLine) ++ ")\n").toList, ?_⟩
    simp
  · refine (hjoin hk).trans ⟨("import (\n" ++ String.join (standard.map Package.importLine) ++ gap).toList, ")\n".toList, ?_⟩
    simp

theorem Draft.importLine_in_contents {d : Draft} {k : Package}
    (hk : k ∈ (importGroups d.imports).1 ∨ k ∈ (importGroups d.imports).2) :
    k.importLine.toList <:+: d.source.contents.toList := by
  have hblock := importLine_in_block hk
  change k.importLine.toList <:+: d.contents.toList
  unfold Draft.contents
  dsimp only
  split_ifs with hempty
  · rw [String.isEmpty_iff.mp hempty] at hblock
    have hnone : k.importLine.toList = [] := List.infix_nil.mp hblock
    unfold Package.importLine at hnone
    split_ifs at hnone <;> simp at hnone
  · exact hblock.trans ⟨d.header.toList, "\n".toList ++ (render d.body).toList, by simp⟩

/-! ### Where an alias comes from -/

namespace Name.Namespace

theorem exists_firstFree (taken : String → Bool) (base : String) (tries k : Nat) :
    ∃ n, k ≤ n ∧ firstFree taken base tries k = base ++ toString n := by
  induction tries generalizing k with
  | zero => exact ⟨k, Nat.le_refl k, rfl⟩
  | succ tries ih =>
    rw [firstFree]
    split_ifs
    · obtain ⟨n, hn, h⟩ := ih (k + 1)
      exact ⟨n, by omega, h⟩
    · exact ⟨k, Nat.le_refl k, rfl⟩

end Name.Namespace

/-- The alias is the name of the package, or this name is taken and a number stands behind it. -/
def NamedAfter (names : List String) (package name : String) : Prop :=
  name = package ∨
    (isReserved package = true ∨ package ∈ names) ∧ ∃ n, 2 ≤ n ∧ name = package ++ toString n

theorem NamedAfter.mono {names names' : List String} {package name : String} (h : NamedAfter names package name)
    (hsub : names ⊆ names') : NamedAfter names' package name :=
  h.imp id (And.imp_left (Or.imp_right (@hsub package)))

theorem namedAfter_newName (ns : Namespace) (package : String) :
    NamedAfter ns.held package (ns.newName package).1 := by
  change NamedAfter ns.held package (ns.freshName package)
  unfold Namespace.freshName
  split_ifs with htaken
  · obtain ⟨n, hn, h⟩ := Namespace.exists_firstFree ns.isTaken package (reservedNames.length + ns.held.length) 2
    exact .inr ⟨Namespace.isTaken_iff.mp htaken, n, hn, h⟩
  · exact .inl rfl

/-- A package is registered from the beginning, or it is named after the first file with its path. -/
theorem namedAfter_of_mem_nameFiles {ns : Namespace} {packages : List Package} {fs : List File} {k : Package}
    (h : k ∈ (nameFiles ns packages fs).2) :
    k ∈ packages ∨ ∃ f ∈ fs, k.path = f.importPath ∧
      NamedAfter (ns.held ++ aliasesFrom ns fs) f.package k.name := by
  induction fs generalizing ns packages with
  | nil => exact .inl h
  | cons f fs ih =>
    rcases @ih (ns.newName f.package).2 _ h with h | ⟨g, hg, hpath, hname⟩
    · rcases mem_register h with h | rfl
      · exact .inl h
      · exact .inr ⟨f, List.mem_cons_self, rfl, (namedAfter_newName ns f.package).mono (List.subset_append_left _ _)⟩
    · refine .inr ⟨g, List.mem_cons_of_mem _ hg, hpath, hname.mono ?_⟩
      rw [Namespace.held_newName, aliasesFrom]
      intro name hmem
      simp only [List.mem_append, List.mem_cons] at hmem ⊢
      tauto

/-! ### The packages of a run -/

theorem exists_mem_foldl_register {ps packages : List Package} {k : Package} (h : k ∈ ps ∨ k ∈ packages) :
    ∃ k' ∈ ps.foldl (fun ps k => register ps k.path k.name) packages, k'.path = k.path := by
  induction ps generalizing packages k with
  | nil => exact ⟨k, h.resolve_left List.not_mem_nil, rfl⟩
  | cons first ps ih =>
    rcases h with h | h
    · rcases List.mem_cons.mp h with rfl | h
      · obtain ⟨k', hk', hpath⟩ := exists_mem_register packages k.path k.name
        obtain ⟨k'', hk'', hpath'⟩ := ih (.inr hk')
        exact ⟨k'', hk'', hpath'.trans hpath⟩
      · exact ih (.inl h)
    · exact ih (.inr (subset_register _ _ _ h))

theorem mem_files_of_mem_foreignFiles {p : Program} {file : Ref .file} {self f : File}
    (h : f ∈ foreignFiles p file self) : f ∈ p.files := by
  obtain ⟨⟨_, i⟩, hmem, rfl⟩ := List.mem_map.mp h
  exact List.mem_of_getElem? (List.mem_zipIdx_iff_getElem?.mp (List.mem_filter.mp hmem).1)

namespace Env

variable {env : Env} {p : Program} {file : Ref .file} {self : File} {o : Options}

/-- Registered are the packages that generated code calls, and those of other files under names of their own. -/
theorem packages_of_ofFile {claims : Claims} (h : Env.ofFile p file self o = .ok (env, claims)) :
    (∀ k ∈ standardAliases ++ o.runtimePackages, ∃ k' ∈ env.packages, k'.path = k.path) ∧
      ∀ k ∈ env.packages, k ∈ standardAliases ++ o.runtimePackages ∨
        ∃ f ∈ foreignFiles p file self, k.path = f.importPath ∧
          NamedAfter (ambientNames ++ p.fileAliases file self) f.package k.name := by
  rw [ofFile_eq_initial] at h
  cases h
  constructor
  · intro k hk
    obtain ⟨k', hk', hpath⟩ := exists_mem_foldl_register (.inl hk)
    exact ⟨k', (nameFiles_registers (distinct_nil.foldl_register _) _).2.1 hk', hpath⟩
  · intro k hk
    rcases namedAfter_of_mem_nameFiles hk with hk | ⟨f, hf, hpath, hname⟩
    · exact .inl ((mem_foldl_register hk).resolve_left List.not_mem_nil)
    · refine .inr ⟨f, hf, hpath, hname.mono ?_⟩
      rw [names_ambientGranted, Namespace.held_foldl_hold, Program.fileAliases]
      refine List.append_subset.mpr ⟨?_, List.subset_append_right _ _⟩
      intro name hmem
      exact List.mem_append_left _ (List.mem_reverse.mp ((List.mem_append.mp hmem).resolve_right List.not_mem_nil))

theorem Grows.used {r r' : Run} (h : env.Grows r r') : ∀ path ∈ r'.used, path ∈ r.used ∨ env.MayUse path := by
  induction h with
  | refl => exact fun path hpath => .inl hpath
  | trans _ _ ih₁ ih₂ => exact fun path hpath => (ih₂ path hpath).elim (ih₁ path) .inr
  | @use r path hmay =>
    intro path' hpath
    rcases (@mem_used_foldl_usePath [path] r path').mp hpath with hpath | hpath
    · exact .inl hpath
    · rw [List.mem_singleton.mp hpath]
      exact .inr hmay
  | again _ _ => exact fun path hpath => .inl hpath
  | build _ _ _ _ _ ih => exact ih

/-- Every path that the code may use is registered. -/
theorem mem_packages_of_mayUse {claims : Claims} (hself : p.file? file = some self)
    (h : Env.ofFile p file self o = .ok (env, claims)) {path : String} (hmay : env.MayUse path) :
    ⟨path, env.aliasOf path⟩ ∈ env.packages := by
  obtain ⟨-, -, -, hregisters⟩ := registers_of_ofFile hself h
  have hcalled := (packages_of_ofFile h).1
  have hoptions : env.options = o := by
    obtain ⟨_, -, h⟩ := Except.bind_eq_ok.mp h
    cases h
    rfl
  have hregistered : ∃ k ∈ env.packages, k.path = path := by
    rw [MayUse, hoptions] at hmay
    rcases hmay with hstandard | rfl | ⟨-, rfl | rfl⟩ | ⟨r, f, hf, -, hne, rfl⟩
    · exact hcalled ⟨path, defaultAlias path⟩ (List.mem_append_left _ (List.mem_map_of_mem hstandard))
    · exact hcalled ⟨o.wireImport, "wire"⟩ (by simp [Options.runtimePackages])
    · exact hcalled ⟨o.zapcoreImport, "zapcore"⟩ (by simp [Options.runtimePackages])
    · exact hcalled ⟨o.multierrImport, "multierr"⟩ (by simp [Options.runtimePackages])
    · exact hregisters.files f (mem_foreignFiles hf hregisters.self hne)
  obtain ⟨k, hk, rfl⟩ := hregistered
  rwa [aliasOf, hregisters.distinct.aliasOf_eq hk]

end Env

namespace Program

variable {p : Program} {file : Ref .file} {o : Options} {d : Draft}

/-- A file imports registered packages. -/
theorem imports_subset_packages (hd : p.draft file o = .ok d) : d.imports ⊆ d.env.packages := by
  intro k hk
  obtain ⟨path, hpath, rfl⟩ := List.mem_map.mp hk
  obtain ⟨self, claims, _, _, hself, hof, -⟩ := draft_eq_env hd
  obtain ⟨_, _, -, -, -, hgrows⟩ := draft_eq_ok hd
  exact Env.mem_packages_of_mayUse hself hof ((hgrows.used path hpath).resolve_left List.not_mem_nil)

/-- A line of an import block binds one name. For the package of a file this is the alias by which the code calls it
exactly if the alias is written or is the name that the file declares, so always if this name is the last element
of the import path. Where it is not, the path is that of a package that all generated code calls, or another file has
the same path and another package, or the name of the package was taken. -/
theorem import_line_binds {source : Source} (h : p.generate file o = .ok source) :
    ∃ d, p.draft file o = .ok d ∧ d.source = source ∧
      ∀ r f k, p.file? r = some f → k ∈ (importGroups d.imports).1 ∨ k ∈ (importGroups d.imports).2 →
        k.path = f.importPath →
        k.importLine.toList <:+: source.contents.toList ∧
        (f.importPath ≠ d.env.self.importPath →
          ∀ ident, Reference.text ⟨d.env.packageOf r, ident⟩ = k.name ++ "." ++ ident) ∧
        ∃ bound, (∀ name, Binds f.importPath f.package k.importLine name ↔ name = bound) ∧
          (bound = k.name ↔ defaultAlias f.importPath ≠ k.name ∨ f.package = k.name) ∧
          (f.package = defaultAlias f.importPath → bound = k.name) ∧
          (bound ≠ k.name →
            k ∈ standardAliases ++ o.runtimePackages ∨
            (∃ g ∈ p.files, g.importPath = f.importPath ∧ g.package ≠ f.package) ∨
            (isReserved f.package = true ∨ f.package ∈ ambientNames ++ p.fileAliases file d.env.self) ∧
              ∃ n, 2 ≤ n ∧ k.name = f.package ++ toString n) := by
  obtain ⟨d, hd, rfl⟩ := generate_eq_ok.mp h
  obtain ⟨self, claims, _, _, hself, hof, -⟩ := draft_eq_env hd
  obtain ⟨hprogram, -, rfl, hregisters⟩ := Env.registers_of_ofFile hself hof
  refine ⟨d, hd, rfl, fun r f k hf hk hpath => ?_⟩
  have hregistered := imports_subset_packages hd (mem_importGroups.mp hk)
  refine ⟨Draft.importLine_in_contents hk, fun hforeign ident => ?_, ?_⟩
  · obtain ⟨hsame, -⟩ | ⟨-, k', -, -, honly, htext⟩ := hregisters.spells (hprogram ▸ hf) ident
    · exact absurd hsame hforeign
    · rw [htext, honly k hregistered hpath]
  rw [← hpath]
  refine ⟨_, fun name => binds_importLine, ?_, ?_, ?_⟩
  · by_cases hdefault : defaultAlias k.path = k.name <;> simp [hdefault]
  · intro hpackage
    split_ifs with hdefault
    · exact hpackage.trans hdefault
    · rfl
  · intro hne
    split_ifs at hne with hdefault
    · -- The alias is not the name of the package, so it was made up for something else.
      rcases (Env.packages_of_ofFile hof).2 k hregistered with hcalled | ⟨g, hg, hgpath, hname⟩
      · exact .inl hcalled
      by_cases hpackage : g.package = f.package
      · rw [hpackage] at hname
        exact .inr (.inr (hname.resolve_left (Ne.symm hne)))
      · exact .inr (.inl ⟨g, mem_files_of_mem_foreignFiles hg, hgpath.symm, hpackage⟩)
    · exact absurd rfl hne

theorem import_line_binds_gallery :
    ∃ d, gallery.draft ⟨0⟩ { noZap := true } = .ok d ∧
      gallery.generate ⟨0⟩ { noZap := true } = .ok d.source ∧
      ⟨"ex/paint", "paint"⟩ ∈ (importGroups d.imports).2 ∧
      (∀ ident, Reference.text ⟨d.env.packageOf ⟨1⟩, ident⟩ = "paint" ++ "." ++ ident) ∧
      Binds "ex/paint" "paint" (Package.importLine ⟨"ex/paint", "paint"⟩) "paint" := by
  obtain ⟨d, hd, hself, hmem⟩ : ∃ d, gallery.draft ⟨0⟩ { noZap := true } = .ok d ∧
      d.env.self.importPath = "ex/shop" ∧ ⟨"ex/paint", "paint"⟩ ∈ (importGroups d.imports).2 :=
    exists_draft (by decide +kernel)
  obtain ⟨d', hd', -, hall⟩ := import_line_binds (generate_eq_ok.mpr ⟨d, hd, rfl⟩)
  cases hd.symm.trans hd'
  obtain ⟨-, htext, bound, hbinds, -, hlast, -⟩ := hall ⟨1⟩ _ _ rfl (.inr hmem) rfl
  have hbound : bound = "paint" := hlast (by decide +kernel)
  refine ⟨d, hd, generate_eq_ok.mpr ⟨d, hd, rfl⟩, hmem, htext ?_, (hbinds _).mpr hbound.symm⟩
  rw [hself]
  decide

/-- A type of a package named like the one for wire values, whose import path ends in another name. -/
def tape : Program :=
  { Program.empty with
    files := [⟨"a.thrift", "ex/a", "a"⟩, ⟨"w.thrift", "ex/wire2", "wire"⟩]
    typedefs := [⟨"Copy", ⟨0⟩, .typedef ⟨1⟩, .empty⟩, ⟨"Original", ⟨1⟩, .base .i32, .empty⟩] }

/-- An import may bind another name than the one by which the code calls the package. -/
theorem tape_binds_another_name :
    tape.check = .ok () ∧ ∃ d, tape.draft ⟨0⟩ { noZap := true } = .ok d ∧
      tape.generate ⟨0⟩ { noZap := true } = .ok d.source ∧
      ⟨"ex/wire2", "wire2"⟩ ∈ (importGroups d.imports).2 ∧
      d.env.packageOf ⟨1⟩ = some ⟨"ex/wire2", "wire2"⟩ ∧ (∃ l ∈ d.body, l.text = "type Copy wire2.Original") ∧
      ∀ name, Binds "ex/wire2" "wire" (Package.importLine ⟨"ex/wire2", "wire2"⟩) name ↔ name = "wire" := by
  obtain ⟨d, hd, hmem, halias, hline⟩ : ∃ d, tape.draft ⟨0⟩ { noZap := true } = .ok d ∧
      ⟨"ex/wire2", "wire2"⟩ ∈ (importGroups d.imports).2 ∧ d.env.packageOf ⟨1⟩ = some ⟨"ex/wire2", "wire2"⟩ ∧
      ∃ l ∈ d.body, l.text = "type Copy wire2.Original" :=
    exists_draft (by decide +kernel)
  have hdefault : defaultAlias "ex/wire2" = "wire2" := by decide +kernel
  refine ⟨rfl, d, hd, generate_eq_ok.mpr ⟨d, hd, rfl⟩, hmem, halias, hline, fun name => ?_⟩
  have hbinds := @binds_importLine ⟨"ex/wire2", "wire2"⟩ "wire" name
  rwa [if_pos hdefault] at hbinds

end Program

end GoSchema
