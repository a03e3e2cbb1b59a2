import GoSchema.Proofs.WholeRun

/-!
# The names of a package

The names of a generated package are those of the locals and packages that its functions use, those of its
declarations and those of its helpers. They are claimed in that order, so each is free when its turn
comes: in a package that was generated no two are the same and none is reserved. The same holds the other
way round: if the declared names of a file cannot all be granted, nothing is generated for it.

## What is proved

* `Env.Starts.nodup_helpers`: helpers join the names of the file, and all stay different and not reserved.
* `Program.generate_conflict`: nothing is generated for a file whose declared names cannot all be granted.
* `Program.generate_keeps_names_apart`: both directions for every file of a program.

The names of struct members, of methods and of local variables are not names of the package. They have scopes and
modules of their own.
-/

namespace GoSchema

open Name Program

namespace Env

variable {env : Env} {names : Namespace} {r : Run}

theorem Starts.held_eq (h : env.Starts names) :
    names.held = (ambientNames ++ env.program.fileAliases env.file env.self ++
      env.program.declaredNames env.file).reverse := by
  rw [h.held, List.reverse_append, List.reverse_append]

/-- Helpers join the names of the file, and all are different and not reserved. -/
theorem Starts.nodup_helpers (h : env.Starts names) (hgrows : env.Grows (Run.start names) r) :
    (names.held.reverse ++ r.helpers.map Helper.symbol).Nodup ∧
      ∀ name ∈ names.held.reverse ++ r.helpers.map Helper.symbol, isReserved name = false := by
  obtain ⟨added, hhelpers, hnodup, hadded⟩ := hgrows.helpers h.clean
  have hfree : ∀ name ∈ r.helpers.map Helper.symbol, isReserved name = false ∧ name ∉ names.held := by
    intro name hname
    rw [hhelpers] at hname
    obtain ⟨a, ha, rfl⟩ := List.mem_map.mp hname
    exact Namespace.isTaken_eq_false_iff.mp (hadded a ha).2.2
  constructor
  · rw [List.nodup_append]
    refine ⟨List.nodup_reverse.mpr h.clean.nodup, hhelpers ▸ hnodup, ?_⟩
    intro x hx y hy hxy
    exact (hfree y hy).2 (hxy ▸ List.mem_reverse.mp hx)
  · intro name hname
    rcases List.mem_append.mp hname with hname | hname
    · exact h.clean.free name (List.mem_reverse.mp hname)
    · exact (hfree name hname).1

end Env

namespace Program

variable {p : Program} {file : Ref .file} {self : File} {o : Options}

/-- Nothing is generated for a file whose declared names cannot all be granted. -/
theorem generate_conflict (hp : p.check = .ok ()) (hfile : p.file? file = some self)
    (hvalid : p.OverridesValid file)
    (h : ¬ (p.declaredNames file).Nodup ∨ ∃ name ∈ p.declaredNames file,
      isReserved name = true ∨ name ∈ ambientNames ++ p.fileAliases file self) :
    ∃ site ident existing, p.generate file o = .error (.conflict site ident existing) := by
  obtain ⟨env, claims, henv, hclean, hheld, hdraft⟩ := exists_env hp hfile o
  obtain ⟨rfl, rfl, rfl, rfl, -⟩ := henv
  obtain ⟨cs, hdeclare, hidents, hinit⟩ := Env.declare_eq hvalid claims
  have hgrant : ¬ claims.names.Grantable (cs.map Claim.ident) := by
    rw [hidents]
    rintro ⟨hnodup, hfree⟩
    rcases h with h | ⟨name, hname, h⟩
    · exact h hnodup
    · refine Bool.false_ne_true ((hfree name hname).symm.trans (Namespace.isTaken_iff.mpr ?_))
      exact h.imp id fun hmem => by simpa [hheld, or_comm] using hmem
  obtain ⟨site, ident, existing, herror⟩ := Claims.claimAll_of_not_grantable hinit hgrant
  refine ⟨site, ident, existing, ?_⟩
  rw [generate, hdraft, hdeclare, herror]
  rfl

/-- In a package that was generated, the names of locals and packages, of declarations and of helpers are
all different, and none is reserved. If a declared name is repeated, is reserved, or is the name of a
local or of a package, generation ends with a conflict. -/
theorem generate_keeps_names_apart (p : Program) (hp : p.check = .ok ()) (file : Ref .file) (self : File)
    (hfile : p.file? file = some self) (o : Options) :
    (∀ source, p.generate file o = .ok source →
      ∃ d, p.draft file o = .ok d ∧ d.source = source ∧
        (∀ k ∈ d.env.packages, k.name ∈ ambientNames ++ p.fileAliases file self) ∧
        (ambientNames ++ p.fileAliases file self ++ p.declaredNames file ++
          d.run.helpers.map Helper.symbol).Nodup ∧
        ∀ name ∈ ambientNames ++ p.fileAliases file self ++ p.declaredNames file ++
          d.run.helpers.map Helper.symbol, isReserved name = false) ∧
    (p.OverridesValid file →
      (¬ (p.declaredNames file).Nodup ∨ ∃ name ∈ p.declaredNames file,
        isReserved name = true ∨ name ∈ ambientNames ++ p.fileAliases file self) →
      ∃ site ident existing, p.generate file o = .error (.conflict site ident existing)) := by
  constructor
  · intro source hsource
    obtain ⟨d, hdraft, hd⟩ := generate_eq_ok.mp hsource
    obtain ⟨self', names, hfile', henv, hstarts, hgrows⟩ := draft_eq_ok hdraft
    obtain rfl : self = self' := Option.some.inj (hfile.symm.trans hfile')
    have hnames := hstarts.nodup_helpers hgrows
    rw [hstarts.held_eq, List.reverse_reverse, henv.program, henv.file, henv.self] at hnames
    exact ⟨d, hdraft, hd, henv.packages, hnames⟩
  · exact generate_conflict hp hfile

/-- A program with a file whose names are all different, and one in which a struct and a typedef share
theirs. -/
def namesakes : Program :=
  { Program.empty with
    files := [⟨"a.thrift", "ex/a", "a"⟩, ⟨"b.thrift", "ex/b", "b"⟩]
    typedefs := [⟨"UserName", ⟨1⟩, .base .string, .empty⟩]
    structs :=
      [⟨"Flags", ⟨0⟩, .struct, [⟨1, "flags", .list (.base .bool), true, none, .empty⟩], false, .empty⟩,
        ⟨"user_name", ⟨1⟩, .struct, [], false, .empty⟩] }

theorem generate_keeps_names_apart_namesakes :
    namesakes.check = .ok () ∧
      (∃ d source, namesakes.draft ⟨0⟩ {} = .ok d ∧ namesakes.generate ⟨0⟩ {} = .ok source ∧
        (ambientNames ++ namesakes.fileAliases ⟨0⟩ ⟨"a.thrift", "ex/a", "a"⟩ ++ namesakes.declaredNames ⟨0⟩ ++
          d.run.helpers.map Helper.symbol).Nodup) ∧
      ∃ site ident existing, namesakes.generate ⟨1⟩ {} = .error (.conflict site ident existing) := by
  have hcheck : namesakes.check = .ok () := rfl
  refine ⟨hcheck, ?_, ?_⟩
  · obtain ⟨source, hsource⟩ : ∃ source, namesakes.generate ⟨0⟩ {} = .ok source := exists_source (by decide +kernel)
    obtain ⟨d, hdraft, _, _, hnodup, _⟩ :=
      (generate_keeps_names_apart namesakes hcheck ⟨0⟩ _ rfl {}).1 source hsource
    exact ⟨d, source, hdraft, hsource, hnodup⟩
  · have hrepeated : ¬ (namesakes.declaredNames ⟨1⟩).Nodup := by decide +kernel
    exact (generate_keeps_names_apart namesakes hcheck ⟨1⟩ _ rfl {}).2 (by decide +kernel) (.inl hrepeated)

end Program

end GoSchema
