import Mathlib.Data.List.Sort
import GoSchema.Proofs.DeclarationPrinting

/-!
# Imports are used

A file imports the packages whose aliases were taken while its code was put together. Each of them is called in
the code that follows the imports, but for two slips: the alias of the log encoders is taken for a typedef that
has no marshaler, and the literal of a default is written for an accessor that never returns it. Both slips
happen.

## What is proved

* `mem_importGroups`: an import block lists the packages that it is for. The lines are sorted with the insertion
  sort of the library, so they are the same packages in another order.
* `used_shown_or_idle`: a path that was used is shown by the declarations or by a helper, or is one of the two
  slips.
* `Program.import_shown_or_idle`: so every import of a generated file is called by its alias in a line that is no
  comment, or is one of the slips.
* `Program.idle_imports`: both slips happen, in code in which nothing is qualified by the alias.

Go refuses a file with an idle import. The two slips are therefore files that do not compile, and not only idle
lines.
-/

namespace GoSchema

open Go

namespace Go

theorem insertByPath_eq_orderedInsert (k : Package) (packages : List Package) :
    insertByPath k packages = packages.orderedInsert (fun a b => a.path ≤ b.path) k := by
  induction packages with
  | nil => rfl
  | cons first packages ih => rw [insertByPath, List.orderedInsert, ih]

theorem sortByPath_eq_insertionSort (packages : List Package) :
    sortByPath packages = packages.insertionSort fun a b => a.path ≤ b.path := by
  induction packages with
  | nil => rfl
  | cons k packages ih =>
    rw [sortByPath, List.foldr_cons, insertByPath_eq_orderedInsert, List.insertionSort_cons, ← ih, sortByPath]

theorem sortByPath_perm (packages : List Package) : (sortByPath packages).Perm packages := by
  rw [sortByPath_eq_insertionSort]
  exact List.perm_insertionSort _ packages

theorem pairwise_sortByPath (packages : List Package) :
    (sortByPath packages).Pairwise fun a b => a.path ≤ b.path := by
  have : Std.Total fun a b : Package => a.path ≤ b.path := ⟨fun a b => String.le_total a.path b.path⟩
  have : IsTrans Package fun a b => a.path ≤ b.path := ⟨fun _ _ _ => String.le_trans⟩
  rw [sortByPath_eq_insertionSort]
  exact List.pairwise_insertionSort _ packages

/-- An import block lists the packages that it is for. -/
theorem mem_importGroups {k : Package} {packages : List Package} :
    k ∈ (importGroups packages).1 ∨ k ∈ (importGroups packages).2 ↔ k ∈ packages := by
  rw [importGroups, List.partition_eq_filter_filter, List.mem_filter, List.mem_filter, ← and_or_left,
    (sortByPath_perm packages).mem_iff]
  refine and_iff_left_of_imp fun _ => ?_
  simpa using em (k.path ∈ standardPackages)

end Go

/-- The package is imported under this name, and no line of the code has the name with a dot behind it. -/
def Draft.ImportsIdly (d : Draft) (path name : String) : Prop :=
  (⟨path, name⟩ ∈ (importGroups d.imports).1 ∨ ⟨path, name⟩ ∈ (importGroups d.imports).2) ∧
    ∀ l ∈ d.body, ¬ (name ++ ".").toList <:+: l.text.toList

/-- The bytes of a text. -/
def bytes (t : String) : List UInt8 := t.toByteArray.data.toList

theorem bytes_mono {t u : String} (h : t.toList <:+: u.toList) : bytes t <:+: bytes u := by
  obtain ⟨before, after, h⟩ := h
  obtain rfl : String.ofList before ++ t ++ String.ofList after = u := by
    rw [← String.toList_inj, ← h]
    simp
  exact ⟨bytes (String.ofList before), bytes (String.ofList after), by simp [bytes]⟩

/-- The same, looking at the bytes of the code. -/
def Draft.IdleInBytes (d : Draft) (path name : String) : Prop :=
  (⟨path, name⟩ ∈ (importGroups d.imports).1 ∨ ⟨path, name⟩ ∈ (importGroups d.imports).2) ∧
    ∀ l ∈ d.body, ¬ bytes (name ++ ".") <:+: bytes l.text

instance (d : Draft) (path name : String) : Decidable (d.IdleInBytes path name) :=
  inferInstanceAs (Decidable (_ ∧ _))

theorem Draft.IdleInBytes.importsIdly {d : Draft} {path name : String} (h : d.IdleInBytes path name) :
    d.ImportsIdly path name := ⟨h.1, fun l hl hinfix => h.2 l hl (bytes_mono hinfix)⟩

theorem Draft.ImportsIdly.not_shows {d : Draft} {path name : String} (h : d.ImportsIdly path name) :
    ¬ Shows name d.body := by
  rintro ⟨_, ⟨l, hl, rfl⟩, hdisplays⟩
  exact h.2 l hl hdisplays.qualifies.toList_infix

namespace Program

variable {p : Program} {file : Ref .file} {o : Options}

/-- A path that was used is shown by the declarations or by a helper, or is idle. -/
theorem used_shown_or_idle {d : Draft} (h : p.draft file o = .ok d) {path : String} (hpath : path ∈ d.run.used) :
    d.env.InCode d.body path ∨ d.env.Idle path := by
  obtain ⟨_, _, _, functions, _, _, _, hcode⟩ := draft_eq_env h
  have hsettled := Env.declarationsCode_prints functions (fun _ => False) _ _ _ hcode fun _ h => absurd h List.not_mem_nil
  rcases hsettled path hpath with (h | h | h) | ⟨helper, hhelper, h⟩
  · exact h.elim
  · exact .inl (shows_append.mpr (.inl h))
  · exact .inr h
  · exact .inl (shows_append.mpr (.inr (.of_mem h (List.mem_map_of_mem hhelper))))

/-- Every package that a generated file imports is called by its alias in a line of the code that follows the
imports, unless it is the package of log encoders and the file has a typedef of a base type or an enum, or it
is named in the default of a field that is always there. -/
theorem import_shown_or_idle {source : Source} (h : p.generate file o = .ok source) :
    ∃ d, p.draft file o = .ok d ∧ d.source = source ∧
      ∀ k, k ∈ (importGroups d.imports).1 ∨ k ∈ (importGroups d.imports).2 →
        Shows k.name d.body ∨
        (k.path = o.zapcoreImport ∧ o.noZap = false ∧
          ∃ t ∈ p.typedefsOf file, ∃ root, p.rootType? t.target = some root ∧ root.isComposite = false) ∨
        ∃ s ∈ p.structsOf file, s.kind ≠ .union ∧ d.env.DropsDefault s.name s.fields k.path := by
  obtain ⟨d, hdraft, hsource⟩ := generate_eq_ok.mp h
  refine ⟨d, hdraft, hsource, fun k hk => ?_⟩
  obtain ⟨path, hpath, rfl⟩ := List.mem_map.mp (mem_importGroups.mp hk)
  obtain ⟨self, _, -, henv, -⟩ := draft_eq_ok hdraft
  obtain ⟨hprogram, hfile, -, hoptions, -⟩ := henv
  rcases used_shown_or_idle hdraft hpath with h | ⟨t, ht, root, hroot, hzap, hlog, hbare⟩ | ⟨s, hs, h⟩
  · exact .inl h
  · rw [hoptions] at hzap hlog
    rw [hprogram, hfile] at ht
    rw [Env.root, hprogram] at hroot
    exact .inr (.inl ⟨hzap, hlog, t, ht, root, present_eq_ok.mp hroot, hbare⟩)
  · rw [hprogram, hfile] at hs
    exact .inr (.inr ⟨s, hs, h⟩)

/-- A constant of one package that is given by a constant of another one. -/
def limits : Program :=
  { Program.empty with
    files := [⟨"a.thrift", "ex/a", "a"⟩, ⟨"b.thrift", "ex/b", "b"⟩]
    constants := [⟨"low", ⟨0⟩, .base .i32, .constant ⟨1⟩, .empty⟩, ⟨"limit", ⟨1⟩, .base .i32, .int 3, .empty⟩] }

theorem import_shown_or_idle_limits :
    ∃ source d, limits.generate ⟨0⟩ {} = .ok source ∧ limits.draft ⟨0⟩ {} = .ok d ∧ d.source = source ∧
      ∀ k, k ∈ (importGroups d.imports).1 ∨ k ∈ (importGroups d.imports).2 → Shows k.name d.body := by
  obtain ⟨source, hgenerate⟩ : ∃ source, limits.generate ⟨0⟩ {} = .ok source := exists_source (by decide +kernel)
  obtain ⟨d, hdraft, hsource, hshown⟩ := import_shown_or_idle hgenerate
  refine ⟨source, d, hgenerate, hdraft, hsource, fun k hk => ?_⟩
  rcases hshown k hk with h | ⟨-, -, t, ht, -⟩ | ⟨s, hs, -⟩
  · exact h
  · cases ht
  · cases hs

/-- A file with nothing but a typedef of a base type. -/
def counting : Program :=
  { Program.empty with
    files := [⟨"a.thrift", "ex/a", "a"⟩]
    typedefs := [⟨"Count", ⟨0⟩, .base .i32, .empty⟩] }

/-- A struct with a required number whose default is a constant of another package. -/
def bounded : Program :=
  { Program.empty with
    files := [⟨"a.thrift", "ex/a", "a"⟩, ⟨"b.thrift", "ex/b", "b"⟩]
    constants := [⟨"limit", ⟨1⟩, .base .i32, .int 3, .empty⟩]
    structs := [⟨"S", ⟨0⟩, .struct, [⟨1, "n", .base .i32, true, some (.constant ⟨0⟩), .empty⟩], false, .empty⟩] }

/-- Some imports are idle: nothing in the code is qualified by their alias. -/
theorem idle_imports :
    counting.check = .ok () ∧ bounded.check = .ok () ∧
      (∃ d, counting.draft ⟨0⟩ {} = .ok d ∧ counting.generate ⟨0⟩ {} = .ok d.source ∧
        d.ImportsIdly "go.uber.org/zap/zapcore" "zapcore" ∧ ¬ Shows "zapcore" d.body) ∧
      ∃ d, bounded.draft ⟨0⟩ { noZap := true } = .ok d ∧ bounded.generate ⟨0⟩ { noZap := true } = .ok d.source ∧
        d.ImportsIdly "ex/b" "b" ∧ ¬ Shows "b" d.body := by
  obtain ⟨d, hd, hidle⟩ : ∃ d, counting.draft ⟨0⟩ {} = .ok d ∧
      d.IdleInBytes "go.uber.org/zap/zapcore" "zapcore" := exists_draft (by decide +kernel)
  obtain ⟨d', hd', hidle'⟩ : ∃ d, bounded.draft ⟨0⟩ { noZap := true } = .ok d ∧ d.IdleInBytes "ex/b" "b" :=
    exists_draft (by decide +kernel)
  exact ⟨rfl, rfl, ⟨d, hd, generate_eq_ok.mpr ⟨d, hd, rfl⟩, hidle.importsIdly, hidle.importsIdly.not_shows⟩,
    d', hd', generate_eq_ok.mpr ⟨d', hd', rfl⟩, hidle'.importsIdly, hidle'.importsIdly.not_shows⟩

end Program

end GoSchema
