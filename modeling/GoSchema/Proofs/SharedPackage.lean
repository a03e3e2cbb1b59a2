import GoSchema.Proofs.Failure
import GoSchema.Proofs.WrittenFiles

/-!
# Files that share a package

The runs for the files of a program know nothing of each other, and a source is named after its package alone.
So two files with the same import path and the same package have one target, and the source that is written
first is lost. Nor do the runs keep their identifiers apart: two files declare the same identifier if their
schemas do, or if both need the same helper.

## What is proved

* `Draft.target_eq_iff`: a target tells the import path and the package, and no more.
* `read_ne_of_target_eq`: a source is lost if a later one has the same target and another text.
* `disjoint_identifiers_iff`: when two sources declare different identifiers, by the names that their schemas ask
  for and the helpers that their code needs.
* `Program.targets_of_generateAll`: all this for the files of one program, and `Program.siblings_collide` for two
  files of one package that declare different names and still get in each other's way.

Files of one package are a part of the schema language, and nothing refuses them. Whether Go would accept the two
sources together is only looked at through the identifiers that they declare.
-/

namespace GoSchema

open Name Command

/-- Where a source goes: its import path, and its name there. -/
def Source.target (s : Source) : String × String := (s.importPath, s.fileName)

namespace Draft

/-- The symbols of the helpers. -/
def helperNames (d : Draft) : List String := d.run.helpers.map Helper.symbol

/-- The identifiers that the source declares in its package. -/
def identifiers (d : Draft) : List String := d.env.program.declaredNames d.env.file ++ d.helperNames

end Draft

/-! ### Targets -/

/-- A target tells the import path and the package, and no more. -/
theorem Draft.target_eq_iff {d e : Draft} :
    d.source.target = e.source.target ↔
      d.env.self.importPath = e.env.self.importPath ∧ d.env.self.package = e.env.self.package := by
  simp [Source.target, Draft.source]

theorem targetPath_eq_of_target_eq {s t : Source} (h : s.target = t.target) (output : String) :
    targetPath output s = targetPath output t := by
  obtain ⟨hpath, hname⟩ := Prod.mk.inj h
  rw [targetPath, targetPath, targetDir, targetDir, hpath, hname]

/-- A source with the same target as another is not behind the last one at its place. -/
theorem le_of_target_eq {m : Memory} {output : String} {place : Place} {sources : List Source} {j k : Nat}
    {s t last : Source} (hlast : LastAt m output place sources k last)
    (hplace : m.placeOf (targetPath output s) = .ok place) (ht : sources[j]? = some t) (h : t.target = s.target) :
    j ≤ k := by
  by_contra hlt
  refine hlast.last j t (by omega) ht ?_
  rw [targetPath_eq_of_target_eq h, hplace]

/-- A source is lost if a later one has the same target and another text. -/
theorem read_ne_of_target_eq {output : String} {sources : List Source} {before after : String × Memory}
    {paths : List String} (hends : Ends (sources.mapM (writeSource Memory.disk output)) before paths after)
    (hnodup : (sources.map Source.contents).Nodup) {i j : Nat} (hij : i < j) {s t : Source}
    (hs : sources[i]? = some s) (ht : sources[j]? = some t) (h : t.target = s.target) :
    after.2.read (targetPath output s) ≠ .ok s.contents := by
  obtain ⟨place, k, last, hplace, hlast, hread⟩ := hends.read_eq (List.mem_of_getElem? hs)
  have hjk := le_of_target_eq hlast hplace ht h
  intro hsame
  have htext : last.contents = s.contents := Except.ok.inj (hread.symm.trans hsame)
  have hlt : i < (sources.map Source.contents).length := by simpa using (List.getElem?_eq_some_iff.mp hs).1
  have hik : i = k := (List.getElem?_inj hlt hnodup).mp (by simp [hs, hlast.source, htext])
  omega

namespace Program

variable {p : Program} {f : Ref .file} {o : Options} {sources : List Source}

theorem getElem?_fileRefs {self : File} (h : p.file? f = some self) : p.fileRefs[f.toNat]? = some f := by
  have hlt : f.toNat < p.files.length := (List.getElem?_eq_some_iff.mp h).1
  rw [fileRefs, List.getElem?_map, List.getElem?_range hlt, Option.map_some, Ref.toNat, UInt32.ofNat_toNat]

/-- The source of a file stands at its position. -/
theorem getElem?_generateAll (hall : p.generateAll o = .ok sources) {self : File} (h : p.file? f = some self) :
    ∃ d, p.draft f o = .ok d ∧ sources[f.toNat]? = some d.source := by
  obtain ⟨s, hs, hgenerate⟩ := Except.getElem?_of_mapM hall (getElem?_fileRefs h)
  obtain ⟨d, hd, rfl⟩ := generate_eq_ok.mp hgenerate
  exact ⟨d, hd, hs⟩

theorem generateAll_of_drafts {drafts : List Draft} (h : p.fileRefs.mapM (fun f => p.draft f o) = .ok drafts) :
    p.generateAll o = .ok (drafts.map Draft.source) := by
  unfold generateAll
  generalize p.fileRefs = refs at h ⊢
  induction refs generalizing drafts with
  | nil =>
    cases h
    rfl
  | cons f refs ih =>
    rw [List.mapM_cons] at h ⊢
    obtain ⟨d, hd, h⟩ := Except.bind_eq_ok.mp h
    obtain ⟨rest, hrest, h⟩ := Except.bind_eq_ok.mp h
    cases h
    rw [generate_eq_ok.mpr ⟨d, hd, rfl⟩, ih hrest]
    rfl

end Program

/-! ### Identifiers -/

theorem Env.Grows.isHelperSymbol {env : Env} {r r' : Run} (h : env.Grows r r') :
    ∀ a ∈ r'.helpers, a ∈ r.helpers ∨ env.program.IsHelperSymbol a.symbol := by
  induction h with
  | refl => exact fun a ha => .inl ha
  | trans _ _ ih₁ ih₂ => exact fun a ha => (ih₂ a ha).elim (ih₁ a) .inr
  | use _ => exact fun a ha => .inl (by simpa using ha)
  | again _ _ => exact fun a ha => .inl ha
  | build hasks _ _ _ _ ih =>
    intro a ha
    rcases List.mem_append.mp ha with ha | ha
    · exact ih a ha
    · rw [List.mem_singleton.mp ha]
      exact .inr hasks.isHelperSymbol

namespace Program

variable {p : Program} {f g : Ref .file} {o : Options} {symbol : String}

theorem isHelperSymbol_of_mem {d : Draft} (hd : p.draft f o = .ok d) (h : symbol ∈ d.helperNames) :
    p.IsHelperSymbol symbol := by
  obtain ⟨self, names, -, henv, -, hgrows⟩ := draft_eq_ok hd
  obtain ⟨a, ha, rfl⟩ := List.mem_map.mp h
  rcases hgrows.isHelperSymbol a ha with ha | ha
  · cases ha
  · exact henv.program ▸ ha

theorem mem_declaredNames_of_isBareItem (h : p.IsBareItem f symbol) : symbol ∈ p.declaredNames f := by
  obtain ⟨e, he, hget, hbare, item, hitem, hitemGet, rfl⟩ := h
  have hname : e.name ++ exported item.name ∈ e.declaredNames := by
    have hident : goName e.name e.annotations = e.name := by
      rw [goName, hget, Option.getD_none, exported_eq_self hbare]
    have hitemName : itemName e.name item = e.name ++ exported item.name := by
      rw [itemName, hitemGet, Option.getD_none]
    rw [Enum.declaredNames, hident]
    exact List.mem_cons_of_mem _ (List.mem_cons_of_mem _ (List.mem_map.mpr ⟨item, hitem, hitemName⟩))
  simp only [declaredNames, List.mem_append]
  exact .inl (.inl (.inl (.inr (List.mem_flatMap.mpr ⟨e, he, hname⟩))))

/-- A helper is called like a declaration only where that is an item behind a bare enum. -/
theorem disjoint_helperNames_iff {d e : Draft} (hd : p.draft f o = .ok d) (he : p.draft g o = .ok e) :
    d.helperNames.Disjoint (p.declaredNames g) ↔ ∀ name ∈ d.helperNames, ¬ p.IsBareItem g name := by
  obtain ⟨_, _, -, henv, hstarts, -⟩ := draft_eq_ok he
  have hvalid : p.OverridesValid g := henv.program ▸ henv.file ▸ hstarts.valid
  constructor
  · intro h name hname hbare
    exact h hname (mem_declaredNames_of_isBareItem hbare)
  · intro h name hname hdeclared
    exact h name hname ((isHelperSymbol_of_mem hd hname).isBareItem_of_mem hvalid hdeclared)

theorem identifiers_eq {d : Draft} (hd : p.draft f o = .ok d) :
    d.identifiers = p.declaredNames f ++ d.helperNames := by
  obtain ⟨_, _, -, henv, -, -⟩ := draft_eq_ok hd
  rw [Draft.identifiers, henv.program, henv.file]

theorem disjoint_identifiers_iff {d e : Draft} (hd : p.draft f o = .ok d) (he : p.draft g o = .ok e) :
    d.identifiers.Disjoint e.identifiers ↔
      (p.declaredNames f).Disjoint (p.declaredNames g) ∧ d.helperNames.Disjoint e.helperNames ∧
      (∀ name ∈ d.helperNames, ¬ p.IsBareItem g name) ∧ ∀ name ∈ e.helperNames, ¬ p.IsBareItem f name := by
  have hsymm : (p.declaredNames f).Disjoint e.helperNames ↔ e.helperNames.Disjoint (p.declaredNames f) :=
    List.disjoint_comm
  rw [identifiers_eq hd, identifiers_eq he, List.disjoint_append_left, List.disjoint_append_right,
    List.disjoint_append_right, hsymm, disjoint_helperNames_iff hd he, disjoint_helperNames_iff he hd]
  tauto

/-! ### All files -/

/-- Two files have the same target exactly if they have the same import path and the same package. They
declare the same identifier if the declarations of both do, if both have a helper with this symbol, or if a
helper of one is called like an item behind a bare enum of the other. When the sources are written, the path of each
holds the text of the last one that leads to the same place; those with its target are among them. -/
theorem targets_of_generateAll (p : Program) (o : Options) (sources : List Source)
    (hall : p.generateAll o = .ok sources) :
    (∀ f g self other, p.file? f = some self → p.file? g = some other →
      ∃ d e, p.draft f o = .ok d ∧ p.draft g o = .ok e ∧
        sources[f.toNat]? = some d.source ∧ sources[g.toNat]? = some e.source ∧
        (d.source.target = e.source.target ↔
          self.importPath = other.importPath ∧ self.package = other.package) ∧
        (d.identifiers.Disjoint e.identifiers ↔
          (p.declaredNames f).Disjoint (p.declaredNames g) ∧ d.helperNames.Disjoint e.helperNames ∧
          (∀ name ∈ d.helperNames, ¬ p.IsBareItem g name) ∧ ∀ name ∈ e.helperNames, ¬ p.IsBareItem f name)) ∧
    ∀ output before paths after, Ends (sources.mapM (writeSource Memory.disk output)) before paths after →
      ∀ s ∈ sources, ∃ place k last, after.2.placeOf (targetPath output s) = .ok place ∧
        LastAt after.2 output place sources k last ∧
        after.2.read (targetPath output s) = .ok last.contents ∧
        ∀ j t, sources[j]? = some t → t.target = s.target → j ≤ k := by
  constructor
  · intro f g self other hf hg
    obtain ⟨d, hd, hdsource⟩ := getElem?_generateAll hall hf
    obtain ⟨e, he, hesource⟩ := getElem?_generateAll hall hg
    refine ⟨d, e, hd, he, hdsource, hesource, ?_, disjoint_identifiers_iff hd he⟩
    obtain ⟨self', _, hf', hdenv, -, -⟩ := draft_eq_ok hd
    obtain ⟨other', _, hg', heenv, -, -⟩ := draft_eq_ok he
    obtain rfl : self = self' := Option.some.inj (hf.symm.trans hf')
    obtain rfl : other = other' := Option.some.inj (hg.symm.trans hg')
    rw [Draft.target_eq_iff, hdenv.self, heenv.self]
  · intro output before paths after hends s hs
    obtain ⟨place, k, last, hplace, hlast, hread⟩ := hends.read_eq hs
    exact ⟨place, k, last, hplace, hlast, hread, fun j t ht htarget => le_of_target_eq hlast hplace ht htarget⟩

/-- A program with two files of one package, whose declarations are different, and a file of another package. -/
def siblings : Program :=
  { Program.empty with
    files := [⟨"a.thrift", "ex/s", "s"⟩, ⟨"b.thrift", "ex/s", "s"⟩, ⟨"c.thrift", "ex/t", "t"⟩]
    typedefs := [⟨"Left", ⟨0⟩, .list (.base .bool), .empty⟩, ⟨"Right", ⟨1⟩, .list (.base .bool), .empty⟩] }

theorem siblings_drafts :
    ∃ drafts, siblings.fileRefs.mapM (fun f => siblings.draft f { noZap := true }) = .ok drafts ∧
      drafts.map (fun d => d.source.target) = [("ex/s", "s.go"), ("ex/s", "s.go"), ("ex/t", "t.go")] ∧
      ((drafts.map Draft.source).map Source.contents).Nodup ∧
      ((((drafts.map Draft.source).mapM (writeSource Memory.disk "out")).run.run "").run Memory.empty).1.1.isOk =
        true ∧
      ∀ d ∈ drafts.take 2, "_List_Bool_ValueList" ∈ d.identifiers :=
  Except.exists_ok_of_decide (by simp only [draft_eq_fromNames]; decide +kernel)

theorem targets_of_generateAll_siblings :
    ∃ sources s t u, siblings.generateAll { noZap := true } = .ok sources ∧
      sources[0]? = some s ∧ sources[1]? = some t ∧ sources[2]? = some u ∧
      s.target = t.target ∧ t.target ≠ u.target ∧
      ∃ paths after place k last, Ends (sources.mapM (writeSource Memory.disk "out")) ("", .empty) paths after ∧
        LastAt after.2 "out" place sources k last ∧ 1 ≤ k ∧
        after.2.read (targetPath "out" s) = .ok last.contents := by
  obtain ⟨drafts, hdrafts, -, -, hends, -⟩ := siblings_drafts
  have hall := generateAll_of_drafts hdrafts
  obtain ⟨htargets, hwritten⟩ := targets_of_generateAll siblings { noZap := true } _ hall
  obtain ⟨d, e, -, he, hs, ht, hsame, -⟩ := htargets ⟨0⟩ ⟨1⟩ _ _ rfl rfl
  obtain ⟨e', c, he', -, -, hu, hother, -⟩ := htargets ⟨1⟩ ⟨2⟩ _ _ rfl rfl
  cases he.symm.trans he'
  obtain ⟨paths, after, hends⟩ : ∃ paths after,
      Ends ((drafts.map Draft.source).mapM (writeSource Memory.disk "out")) ("", .empty) paths after :=
    exists_ends hends
  have htarget : d.source.target = e.source.target := hsame.mpr ⟨rfl, rfl⟩
  obtain ⟨place, k, last, -, hlast, hread, hbehind⟩ := hwritten _ _ _ _ hends _ (List.mem_of_getElem? hs)
  refine ⟨_, _, _, _, hall, hs, ht, hu, htarget, ?_, paths, after, place, k, last, hends, hlast,
    hbehind 1 _ ht htarget.symm, hread⟩
  intro h
  exact absurd (hother.mp h).1 (by decide)

/-- Files of one package get in each other's way, although they declare different names: once all sources are written
that of the first is lost, and both declare the same helper. -/
theorem siblings_collide :
    siblings.check = .ok () ∧ (siblings.declaredNames ⟨0⟩).Disjoint (siblings.declaredNames ⟨1⟩) ∧
      ∃ sources d e, siblings.generateAll { noZap := true } = .ok sources ∧
        siblings.draft ⟨0⟩ { noZap := true } = .ok d ∧ siblings.draft ⟨1⟩ { noZap := true } = .ok e ∧
        sources[0]? = some d.source ∧ sources[1]? = some e.source ∧ d.source.target = e.source.target ∧
        (∃ paths after, Ends (sources.mapM (writeSource Memory.disk "out")) ("", .empty) paths after) ∧
        (∀ output before paths after, Ends (sources.mapM (writeSource Memory.disk output)) before paths after →
          after.2.read (targetPath output d.source) ≠ .ok d.source.contents) ∧
        "_List_Bool_ValueList" ∈ d.identifiers ∧ "_List_Bool_ValueList" ∈ e.identifiers := by
  have hapart : ∀ name ∈ siblings.declaredNames ⟨0⟩, name ∉ siblings.declaredNames ⟨1⟩ := by decide +kernel
  obtain ⟨drafts, hdrafts, htargets, hcontents, hends, hhelper⟩ := siblings_drafts
  obtain ⟨d, e, c, rfl⟩ : ∃ d e c, drafts = [d, e, c] :=
    List.length_eq_three.mp (by simpa using congrArg List.length htargets)
  have hdraft {i : Nat} {f : Ref .file} {d' : Draft} (hf : siblings.fileRefs[i]? = some f)
      (hget : [d, e, c][i]? = some d') : siblings.draft f { noZap := true } = .ok d' := by
    obtain ⟨d'', hget', hd''⟩ := Except.getElem?_of_mapM hdrafts hf
    rwa [Option.some.inj (hget.symm.trans hget')]
  have htarget : e.source.target = d.source.target := by simp_all
  refine ⟨rfl, fun name h h' => hapart name h h', _, d, e, generateAll_of_drafts hdrafts,
    hdraft (i := 0) rfl rfl, hdraft (i := 1) rfl rfl, rfl, rfl, htarget.symm, exists_ends hends, ?_, ?_, ?_⟩
  · intro output before paths after hends
    exact read_ne_of_target_eq hends hcontents (i := 0) (j := 1) (by decide) rfl rfl htarget
  · exact hhelper d (by simp)
  · exact hhelper e (by simp)

end Program

end GoSchema
