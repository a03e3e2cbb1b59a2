import GoSchema.Proofs.BuiltOnce
import GoSchema.Proofs.ImportAliases

/-!
# Runs without logging

Enums, records and typedefs are logged, each by an emitter of its own that looks at the option to leave logging out, and
containers are logged through helpers that ask for further helpers. What a run may ask for and use is said once for all
emitters (`Env.MayRequest`, `Env.MayUse`), and every step of a run keeps to it (`Env.Step.permitted`). So a run without
logging has no helper that logs, and it imports no package that is there for logging alone (`Program.logging_left_out`).

A path may be there for another reason as well: the options may give the path of a standard package, of the wire package
or of a schema file for a package of logging. Such a path is imported as long as the other package is used.

## What is proved

* `Env.Step.permitted` and `Env.Trace.permitted`: a step, and so a run, asks for what it may ask for and uses what
  it may use.
* `Env.Permitted.not_suffix_zapper`: where nothing is logged, no helper has the symbol of one that logs.
* `Env.not_mayUse_of_onlyLogs`: nor may a path be used that is there for logging alone.
* `Program.logging_left_out`: both for the files that are generated without logging, read off the helpers and off
  the import block.

That with logging there are such helpers is shown by the example, not in general: a file without containers has
none.
-/

namespace GoSchema

open Go Name

/-! ### What a run keeps to -/

namespace Env

variable {env : Env} {r r' : Run} {e : Event} {es : List Event}

/-- The helpers of a run are some that were asked for, and it asked for none but those that it may ask for. -/
structure Permitted (env : Env) (r : Run) : Prop where
  requests : ∀ q ∈ r.requests, env.MayRequest q.role q.type ∧ ∃ m, q.symbol = "_" ++ m ++ "_" ++ q.role.suffix
  helpers : ∀ h ∈ r.helpers, r.Known h.symbol

theorem permitted_start (names : Namespace) : env.Permitted (Run.start names) :=
  ⟨fun _ h => absurd h List.not_mem_nil, fun _ h => absurd h List.not_mem_nil⟩

theorem Permitted.noted (h : env.Permitted r) {q : Request} {symbols : Symbols} (hasks : env.Asks r q symbols) :
    env.Permitted (r.noted symbols q) := by
  obtain ⟨m, -, hsymbol⟩ := hasks.symbol
  refine ⟨List.forall_mem_append.mpr ⟨h.requests, List.forall_mem_singleton.mpr ?_⟩, fun helper hmem => ?_⟩
  · exact ⟨hasks.permitted, m, hsymbol⟩
  · exact Run.known_noted.mpr (.inl (h.helpers helper hmem))

theorem Step.permitted (h : env.Step r e r') (hr : env.Permitted r) : env.Permitted r' := by
  cases h with
  | use _ => exact ⟨by simpa using hr.requests, by simpa [Run.Known] using hr.helpers⟩
  | again hasks _ => exact hr.noted hasks
  | begin hasks _ _ =>
    have hnoted := hr.noted hasks
    exact ⟨hnoted.requests, hnoted.helpers⟩
  | finish hknown =>
    exact ⟨hr.requests, List.forall_mem_append.mpr ⟨hr.helpers, List.forall_mem_singleton.mpr hknown⟩⟩

theorem Trace.permitted (h : env.Trace r es r') (hr : env.Permitted r) : env.Permitted r' := by
  induction h with
  | nil => exact hr
  | cons step _ ih => exact ih (step.permitted hr)

/-- The code of each helper declares its symbol. -/
theorem Grows.declares (h : env.Grows r r') (hr : ∀ h ∈ r.helpers, DeclaresFirst h.symbol h.code) :
    ∀ h ∈ r'.helpers, DeclaresFirst h.symbol h.code := by
  induction h with
  | refl => exact hr
  | trans _ _ ih₁ ih₂ => exact ih₂ (ih₁ hr)
  | use _ => simpa using hr
  | again _ _ => exact hr
  | build _ _ _ hcode _ ih =>
    refine List.forall_mem_append.mpr ⟨ih hr, List.forall_mem_singleton.mpr ?_⟩
    exact helperSource_declares _ _ _ _ ⟨_, _, hcode⟩

/-- Where nothing is logged, no helper has a symbol of one that logs. -/
theorem Permitted.not_suffix_zapper (h : env.Permitted r) (hquiet : env.options.noZap = true) {helper : Helper}
    (hmem : helper ∈ r.helpers) : ¬ "_Zapper".toList <:+ helper.symbol.toList := by
  obtain ⟨q, hq, hsymbol⟩ := h.helpers helper hmem
  obtain ⟨⟨-, hlogs⟩, m, hm⟩ := h.requests q hq
  rw [← hsymbol, hm, ← Role.isLogging_iff_suffix]
  intro hlogging
  exact Bool.false_ne_true ((hlogs hlogging).symm.trans hquiet)

end Env

/-! ### Packages of logging -/

/-- No package that the code of the program uses for other reasons than logging has the path. -/
structure Options.OnlyLogs (o : Options) (p : Program) (path : String) : Prop where
  standard : path ∉ standardPackages
  wire : path ≠ o.wireImport
  files : ∀ f ∈ p.files, f.importPath ≠ path

/-- Where nothing is logged, a path that is there for logging alone may not be used. -/
theorem Env.not_mayUse_of_onlyLogs {env : Env} (hquiet : env.options.noZap = true) {path : String}
    (h : env.options.OnlyLogs env.program path) : ¬ env.MayUse path := by
  rintro (hstandard | hwire | ⟨hlogs, -⟩ | ⟨other, f, hf, -, -, hpath⟩)
  · exact h.standard hstandard
  · exact h.wire hwire
  · exact Bool.false_ne_true (hlogs.symm.trans hquiet)
  · exact h.files f (List.mem_of_getElem? hf) hpath.symm

namespace Program

variable {p : Program} {file : Ref .file} {o : Options}

/-- **Logging is left out.** If a file is generated without logging, with packages of logging whose paths no other package
has, then none of its helpers has the symbol of one that logs, and its import block lists neither of the two paths. The
contents of the file are this import block, the code of the declarations and these helpers. -/
theorem logging_left_out (hquiet : o.noZap = true) (hzapcore : o.OnlyLogs p o.zapcoreImport)
    (hmultierr : o.OnlyLogs p o.multierrImport) {source : Source} (h : p.generate file o = .ok source) :
    ∃ d, p.draft file o = .ok d ∧ d.source = source ∧
      source.contents = d.opening ++ render d.code ++ String.join (d.run.helpers.map fun h => render h.code) ∧
      (∀ h ∈ d.run.helpers, DeclaresFirst h.symbol h.code ∧ ¬ "_Zapper".toList <:+ h.symbol.toList) ∧
      ∃ standard others, Lists standard others d.run.used d.env.aliasOf ∧
        importBlock d.imports = (if d.run.used.isEmpty then "" else blockText standard others) ∧
        ∀ k ∈ standard ++ others, k.path ≠ o.zapcoreImport ∧ k.path ≠ o.multierrImport := by
  obtain ⟨d, hdraft, rfl⟩ := generate_eq_ok.mp h
  obtain ⟨self, names, -, henv, -, hgrows⟩ := draft_eq_ok hdraft
  obtain ⟨events, htrace, -⟩ := hgrows.exists_trace
  have hpermitted : d.env.Permitted d.run := htrace.permitted (Env.permitted_start names)
  have hused : d.env.UsesOnce d.run := htrace.usesOnce ⟨fun _ h => absurd h List.not_mem_nil, List.nodup_nil⟩
  have hdeclares := hgrows.declares fun _ h => absurd h List.not_mem_nil
  have hquiet' : d.env.options.noZap = true := henv.options ▸ hquiet
  have hlists := lists_importGroups hused.nodup (rfl : d.imports = _)
  refine ⟨d, hdraft, rfl, d.contents_eq, fun helper hmem => ⟨hdeclares helper hmem, ?_⟩, _, _, hlists, ?_, fun k hk => ?_⟩
  · exact hpermitted.not_suffix_zapper hquiet' hmem
  · rw [importBlock_eq, Draft.imports, List.isEmpty_map]
  · have hmay : d.env.MayUse k.path := hused.permitted _ (hlists.once.mem_iff.mp (List.mem_map_of_mem hk))
    have hother {path : String} (honly : o.OnlyLogs p path) : k.path ≠ path := by
      rintro rfl
      refine Env.not_mayUse_of_onlyLogs hquiet' ?_ hmay
      rwa [henv.options, henv.program]
    exact ⟨hother hzapcore, hother hmultierr⟩

/-- With logging the same schema has helpers that log, and imports the package that they are written for. -/
theorem logging_left_out_forest :
    (∃ d, forest.draft ⟨0⟩ {} = .ok d ∧ "_List_Node_Zapper" ∈ d.run.helpers.map Helper.symbol ∧
      "go.uber.org/zap/zapcore" ∈ d.run.used) ∧
    ∃ d, forest.draft ⟨0⟩ { noZap := true } = .ok d ∧ d.run.helpers.length = 7 ∧
      (∀ h ∈ d.run.helpers, ¬ "_Zapper".toList <:+ h.symbol.toList) ∧
      ∃ standard others, importBlock d.imports = blockText standard others ∧
        ∀ k ∈ standard ++ others, k.path ≠ "go.uber.org/zap/zapcore" ∧ k.path ≠ "go.uber.org/multierr" := by
  have hlogging : ∃ d, forest.draft ⟨0⟩ {} = .ok d ∧ "_List_Node_Zapper" ∈ d.run.helpers.map Helper.symbol ∧
      "go.uber.org/zap/zapcore" ∈ d.run.used :=
    exists_draft (by decide +kernel)
  obtain ⟨d, hd, hhelpers, hused⟩ : ∃ d, forest.draft ⟨0⟩ { noZap := true } = .ok d ∧
      d.run.helpers.length = 7 ∧ d.run.used.isEmpty = false :=
    exists_draft (by decide +kernel)
  have hgenerate : forest.generate ⟨0⟩ { noZap := true } = .ok d.source := generate_eq_ok.mpr ⟨d, hd, rfl⟩
  have hzapcore : Options.OnlyLogs { noZap := true } forest "go.uber.org/zap/zapcore" :=
    ⟨by decide +kernel, by decide +kernel, by decide +kernel⟩
  have hmultierr : Options.OnlyLogs { noZap := true } forest "go.uber.org/multierr" :=
    ⟨by decide +kernel, by decide +kernel, by decide +kernel⟩
  obtain ⟨d', hd', -, -, hquiet, standard, others, -, hblock, hpaths⟩ :=
    logging_left_out rfl hzapcore hmultierr hgenerate
  obtain rfl : d = d' := Except.ok.inj (hd.symm.trans hd')
  rw [hused] at hblock
  exact ⟨hlogging, d, hd, hhelpers, fun h hmem => (hquiet h hmem).2, standard, others, hblock, hpaths⟩

end Program

end GoSchema
