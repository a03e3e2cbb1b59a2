import GoSchema.Proofs.DeclarationEmission
import GoSchema.Proofs.PackageNames

/-!
# Whole runs

What holds of a run from its beginning to its end, by induction on its steps. A known helper stays known, and a
name that is held stays held. What is held at the end was held at the beginning, or is the symbol of a
helper. Every helper that is finished was new when it was asked for, so no two have one symbol.

A draft is such a run, from the names of locals, packages and declarations on (`Program.draft_eq_ok`,
`Program.draft_eq_error`).

## What is proved

* `Env.Grows.names`, `Env.Grows.helpers` and `Env.Stops.cases`: what a run leaves behind and how it can end.
* `Env.declare_eq` and `Env.starts_of_declare`: declaring a file ends with a refusal or with the names with which
  its code begins.
* `Program.draft_eq_ok`, `Program.draft_eq_error` and `Program.generate_eq_ok`: drafts and sources, as such runs.

From here on the definition of a draft is not opened any more. The order of events inside a run is not visible in
these statements; where it matters, the history of the run is used.
-/

namespace GoSchema

open Name Program

theorem Run.known_noted {r : Run} {symbols : Symbols} {q : Request} {symbol : String} :
    (r.noted symbols q).Known symbol ↔ r.Known symbol ∨ q.symbol = symbol := by
  simp [Run.Known, Run.noted, or_and_right, exists_or]

theorem Run.known_begun {r : Run} {symbols : Symbols} {q : Request} {names : Namespace} {symbol : String} :
    (r.begun symbols q names).Known symbol ↔ r.Known symbol ∨ q.symbol = symbol :=
  @Run.known_noted r symbols q symbol

@[simp] theorem Run.usePath_names (r : Run) (path : String) : (r.usePath path).names = r.names := by
  unfold Run.usePath
  split_ifs <;> rfl

@[simp] theorem Run.usePath_requests (r : Run) (path : String) :
    (r.usePath path).requests = r.requests := by
  unfold Run.usePath
  split_ifs <;> rfl

@[simp] theorem Run.usePath_symbols (r : Run) (path : String) :
    (r.usePath path).symbols = r.symbols := by
  unfold Run.usePath
  split_ifs <;> rfl

@[simp] theorem Run.usePath_helpers (r : Run) (path : String) :
    (r.usePath path).helpers = r.helpers := by
  unfold Run.usePath
  split_ifs <;> rfl

theorem Run.mem_used_usePath {r : Run} {path other : String} :
    other ∈ (r.usePath path).used ↔ other ∈ r.used ∨ other = path := by
  unfold Run.usePath
  split_ifs with h
  · exact ⟨.inl, fun hother => hother.elim id fun heq => heq ▸ h⟩
  · simp

namespace Env

variable {env : Env} {r r' : Run} {q : Request} {symbols : Symbols} {e : GenError} {symbol : String}

/-- The symbol of a helper is never that of the initializer. -/
theorem Asks.ne_initHook (h : env.Asks r q symbols) : q.symbol ≠ initHook := by
  obtain ⟨m, _, hsymbol⟩ := h.symbol
  rw [hsymbol]
  intro heq
  have := congrArg (fun s => s.toList.head?) heq
  simp [initHook] at this

/-! ### What grows -/

theorem Grows.known (h : env.Grows r r') (hk : r.Known symbol) : r'.Known symbol := by
  induction h with
  | refl => exact hk
  | trans _ _ ih₁ ih₂ => exact ih₂ (ih₁ hk)
  | use _ => simpa [Run.Known] using hk
  | again _ _ => exact Run.known_noted.mpr (.inl hk)
  | build _ _ _ _ _ ih => exact ih (Run.known_begun.mpr (.inl hk))

/-- Names are only added, each when it was free. -/
theorem Grows.names (h : env.Grows r r') (hclean : r.names.Clean) :
    r'.names.Clean ∧ ∀ name ∈ r.names.held, name ∈ r'.names.held := by
  induction h with
  | refl => exact ⟨hclean, fun _ h => h⟩
  | trans _ _ ih₁ ih₂ =>
    obtain ⟨hclean₁, hsub₁⟩ := ih₁ hclean
    obtain ⟨hclean₂, hsub₂⟩ := ih₂ hclean₁
    exact ⟨hclean₂, fun name h => hsub₂ name (hsub₁ name h)⟩
  | use _ => simpa using hclean
  | again _ _ => exact ⟨hclean, fun _ h => h⟩
  | build hasks _ hnames _ _ ih =>
    obtain ⟨hfree, rfl⟩ := (Namespace.reserve_eq_ok hasks.ne_initHook).mp hnames
    obtain ⟨hclean', hsub⟩ := ih (hclean.hold hfree)
    exact ⟨hclean', fun name h => hsub name (List.mem_cons_of_mem _ h)⟩

/-- A name that is held is one of these, or the symbol of a helper that was asked for. -/
def HoldsOnly (r : Run) (names : List String) : Prop := ∀ name ∈ r.names.held, name ∈ names ∨ r.Known name

theorem HoldsOnly.begun {names : List String} {ns : Namespace} (h : HoldsOnly r names)
    (hasks : env.Asks r q symbols) (hnames : r.names.reserve q.symbol = .ok ns) :
    HoldsOnly (r.begun symbols q ns) names := by
  obtain ⟨_, rfl⟩ := (Namespace.reserve_eq_ok hasks.ne_initHook).mp hnames
  intro name hname
  rcases List.mem_cons.mp hname with rfl | hname
  · exact .inr (Run.known_begun.mpr (.inr rfl))
  · exact (h name hname).imp id fun hk => Run.known_begun.mpr (.inl hk)

theorem Grows.holdsOnly (h : env.Grows r r') {names : List String} (hr : HoldsOnly r names) :
    HoldsOnly r' names := by
  induction h with
  | refl => exact hr
  | trans _ _ ih₁ ih₂ => exact ih₂ (ih₁ hr)
  | use _ => simpa [HoldsOnly, Run.Known] using hr
  | again _ _ => exact fun name h => (hr name h).imp id fun hk => Run.known_noted.mpr (.inl hk)
  | build hasks _ hnames _ _ ih => exact ih (hr.begun hasks hnames)

/-- The helpers that are finished were new at the beginning, are known in the end, have different symbols, and
these were free. -/
theorem Grows.helpers (h : env.Grows r r') (hclean : r.names.Clean) :
    ∃ added, r'.helpers = r.helpers ++ added ∧ (added.map Helper.symbol).Nodup ∧
      ∀ a ∈ added, ¬ r.Known a.symbol ∧ r'.Known a.symbol ∧ r.names.isTaken a.symbol = false := by
  induction h with
  | refl => exact ⟨[], by simp⟩
  | use _ => exact ⟨[], by simp⟩
  | again _ _ => exact ⟨[], by simp [Run.noted]⟩
  | @trans r r₁ r₂ h₁ h₂ ih₁ ih₂ =>
    obtain ⟨hclean₁, hsub⟩ := h₁.names hclean
    obtain ⟨as, hhelpers₁, hnodup₁, has⟩ := ih₁ hclean
    obtain ⟨bs, hhelpers₂, hnodup₂, hbs⟩ := ih₂ hclean₁
    refine ⟨as ++ bs, by rw [hhelpers₂, hhelpers₁, List.append_assoc], ?_, ?_⟩
    · -- The first ones are known when the second ones are still new.
      rw [List.map_append, List.nodup_append]
      refine ⟨hnodup₁, hnodup₂, ?_⟩
      intro x hx y hy hxy
      obtain ⟨a, ha, rfl⟩ := List.mem_map.mp hx
      obtain ⟨b, hb, rfl⟩ := List.mem_map.mp hy
      exact (hbs b hb).1 (hxy ▸ (has a ha).2.1)
    · intro a ha
      rcases List.mem_append.mp ha with ha | ha
      · exact ⟨(has a ha).1, h₂.known (has a ha).2.1, (has a ha).2.2⟩
      · obtain ⟨hnew, hknown, hfree⟩ := hbs a ha
        obtain ⟨hreserved, hheld⟩ := Namespace.isTaken_eq_false_iff.mp hfree
        exact ⟨fun hk => hnew (h₁.known hk), hknown,
          Namespace.isTaken_eq_false_iff.mpr ⟨hreserved, fun hmem => hheld (hsub _ hmem)⟩⟩
  | @build r r' q symbols names code hasks hnew hnames _ hgrow ih =>
    obtain ⟨hfree, rfl⟩ := (Namespace.reserve_eq_ok hasks.ne_initHook).mp hnames
    obtain ⟨as, hhelpers, hnodup, has⟩ := ih (hclean.hold hfree)
    have hq : r'.Known q.symbol := hgrow.known (Run.known_begun.mpr (.inr rfl))
    refine ⟨as ++ [⟨q.symbol, code⟩], ?_, ?_, ?_⟩
    · rw [Run.finished, hhelpers, List.append_assoc]
      rfl
    · -- The helper itself comes last, and was known while the others were new.
      rw [List.map_append, List.nodup_append]
      refine ⟨hnodup, by simp, ?_⟩
      intro x hx y hy hxy
      obtain ⟨a, ha, rfl⟩ := List.mem_map.mp hx
      simp only [List.map_cons, List.map_nil, List.mem_singleton] at hy
      exact (has a ha).1 (Run.known_begun.mpr (.inr (hy ▸ hxy.symm)))
    · intro a ha
      rcases List.mem_append.mp ha with ha | ha
      · obtain ⟨hnew', hknown, hfree'⟩ := has a ha
        exact ⟨fun hk => hnew' (Run.known_begun.mpr (.inl hk)), hknown,
          (Namespace.isTaken_hold.mp hfree').2⟩
      · rw [List.mem_singleton] at ha
        subst ha
        exact ⟨hnew, hq, hfree⟩

/-- A run ends early for a fault of the schema, or because the symbol of a helper was held at the
beginning or is reserved. -/
theorem Stops.cases (h : env.Stops r e) {names : List String} (hr : HoldsOnly r names) :
    e.IsRefusal ∨ ∃ r' q symbols, env.Asks r' q symbols ∧
      e = .internal (.helperRefused q.symbol (.taken q.symbol)) ∧
      (q.symbol ∈ names ∨ isReserved q.symbol = true) := by
  induction h with
  | refused h => exact .inl h
  | @taken r q symbols _ hasks hnew herror =>
    obtain ⟨rfl, -, htaken⟩ := Namespace.reserve_eq_error.mp herror
    refine .inr ⟨r, q, symbols, hasks, rfl, ?_⟩
    rcases Namespace.isTaken_iff.mp htaken with h | h
    · exact .inr h
    · exact .inl ((hr _ h).resolve_right hnew)
  | later hgrow _ ih => exact ih (hgrow.holdsOnly hr)
  | inside hasks _ hnames _ ih => exact ih (hr.begun hasks hnames)

/-! ### Declaring -/

/-- A declaration is refused only for an identifier given by hand. -/
theorem declarations_yield : ∀ pending ∈ env.declarations, Yields pending fun _ => True := by
  have hname (name : String) (a : Annotations) (entity : String) :
      Yields (env.nameClaim name a entity) fun _ => True :=
    (identifier_yields _ _ _).bind fun _ _ => .pure trivial
  have henum (e : Enum) : ∀ pending ∈ env.enumClaims e, Yields pending fun _ => True := by
    unfold enumClaims
    dsimp only
    cases hident : identifier e.name e.annotations (env.site e.entity) with
    | error error =>
      exact List.forall_mem_singleton.mpr (.error ((identifier_yields _ _ _).2 error hident))
    | ok ident =>
      refine List.forall_mem_cons.mpr ⟨.ok trivial, fun pending hpending => ?_⟩
      obtain ⟨item, _, rfl⟩ := List.mem_map.mp hpending
      exact (itemIdent_yields _ _ _).bind fun _ _ => .pure trivial
  have hservice (s : Service) : ∀ pending ∈ env.serviceClaims s, Yields pending fun _ => True := by
    unfold serviceClaims
    cases hident : identifier s.name s.annotations (env.site s.entity) with
    | error error =>
      exact List.forall_mem_singleton.mpr (.error ((identifier_yields _ _ _).2 error hident))
    | ok service =>
      intro pending hpending
      obtain ⟨f, _, rfl⟩ := List.mem_map.mp hpending
      exact (identifier_yields _ _ _).bind fun _ _ => .pure trivial
  intro pending hpending
  simp only [declarations, List.mem_append, List.mem_map, List.mem_flatMap] at hpending
  rcases hpending with (((⟨c, _, rfl⟩ | ⟨e, _, h⟩) | ⟨t, _, rfl⟩) | ⟨s, _, rfl⟩) | ⟨s, _, h⟩
  · exact hname _ _ _
  · exact henum e pending h
  · exact hname _ _ _
  · exact hname _ _ _
  · exact hservice s pending h

theorem declare_yields (claims : Claims) : Yields (env.declare claims) fun _ => True :=
  .foldlM trivial fun claims _ pending hpending =>
    (declarations_yield pending hpending).bind fun cs _ => claimAll_yields claims cs

/-- Declaring claims the declared names, as far as the identifiers given by hand are valid. -/
theorem declare_eq (hvalid : env.program.OverridesValid env.file) (claims : Claims) :
    ∃ cs, env.declare claims = claims.claimAll cs ∧
      cs.map Claim.ident = env.program.declaredNames env.file ∧ ∀ c ∈ cs, c.ident ≠ initHook := by
  obtain ⟨css, hcss⟩ := declarations_spells.known hvalid
  have hidents := declarations_spells.names css hcss
  refine ⟨css.flatten, ?_, hidents, fun c hc => ?_⟩
  · rw [declare, hcss]
    exact foldlM_pending css claims
  · exact declaredNames_ne_initHook hvalid (hidents ▸ List.mem_map_of_mem hc)

/-- These are the names with which the code of a file begins: those of its declarations, of the packages
of other files, and of locals and packages. -/
structure Starts (env : Env) (names : Namespace) : Prop where
  valid : env.program.OverridesValid env.file
  clean : names.Clean
  held : names.held = (env.program.declaredNames env.file).reverse ++
    ((env.program.fileAliases env.file env.self).reverse ++ ambientNames.reverse)

/-- Declaring ends with a refusal or with these names. -/
theorem starts_of_declare {claims claims' : Claims} (hclean : claims.names.Clean)
    (hheld : claims.names.held =
      (env.program.fileAliases env.file env.self).reverse ++ ambientNames.reverse)
    (h : env.declare claims = .ok claims') : env.Starts claims'.names := by
  obtain ⟨css, hcss⟩ := allKnown_of_foldlM h
  have hvalid := declarations_spells.valid css hcss
  obtain ⟨cs, heq, hidents, hinit⟩ := declare_eq hvalid claims
  rw [heq] at h
  by_cases hgrant : claims.names.Grantable (cs.map Claim.ident)
  · rw [Claims.claimAll_of_grantable hinit hgrant] at h
    cases h
    have hnames := Claims.names_foldl_grant claims cs
    exact ⟨hvalid, hnames ▸ hclean.foldl_hold hgrant,
      by rw [hnames, Namespace.held_foldl_hold, hidents, hheld]⟩
  · obtain ⟨_, _, _, herror⟩ := Claims.claimAll_of_not_grantable hinit hgrant
    rw [h] at herror
    cases herror

end Env

/-- A run at its beginning. -/
def Run.start (names : Namespace) : Run := ⟨names, [], [], [], []⟩

namespace Program

variable {p : Program} {file : Ref .file} {self : File} {o : Options}

/-- The surroundings of a run for a file, which are always found, and what is left to do in them. -/
theorem exists_env (hp : p.check = .ok ()) (hfile : p.file? file = some self) (o : Options) :
    ∃ (env : Env) (claims : Claims), env.IsFor p file self o ∧ claims.names.Clean ∧
      claims.names.held =
        (env.program.fileAliases env.file env.self).reverse ++ ambientNames.reverse ∧
      p.draft file o = env.declare claims >>= fun claims => env.functionTable >>= fun functions =>
        env.declarationsCode functions (Run.start claims.names) >>= fun x => .ok ⟨env, x.1, x.2⟩ := by
  obtain ⟨env, claims, hof, henv, hclean, hheld⟩ := Env.ofFile_eq p file self o
  refine ⟨env, claims, henv, hclean, ?_, ?_⟩
  · rw [hheld, henv.program, henv.file, henv.self]
  rw [draft, hp]
  dsimp only
  rw [hfile]
  dsimp only
  rw [Env.draft, hof]
  rfl

theorem sound_of_draft {d : Draft} (h : p.draft file o = .ok d) : p.Sound := by
  cases hp : p.check with
  | error e => simp [draft, hp] at h
  | ok u => exact sound_of_check hp

/-- A draft is a run from the names of its file on. -/
theorem draft_eq_ok {d : Draft} (h : p.draft file o = .ok d) :
    ∃ self names, p.file? file = some self ∧ d.env.IsFor p file self o ∧ d.env.Starts names ∧
      d.env.Grows (Run.start names) d.run := by
  cases hp : p.check with
  | error e => simp [draft, hp] at h
  | ok u =>
    cases hfile : p.file? file with
    | none => simp [draft, hp, hfile] at h
    | some self =>
      obtain ⟨env, claims, henv, hclean, hheld, hdraft⟩ := exists_env hp hfile o
      rw [hdraft] at h
      obtain ⟨claims', hdeclare, h⟩ := Except.bind_eq_ok.mp h
      obtain ⟨functions, hfunctions, h⟩ := Except.bind_eq_ok.mp h
      obtain ⟨⟨code, run⟩, hcode, h⟩ := Except.bind_eq_ok.mp h
      cases h
      have hsound : env.program.Sound := henv.program ▸ sound_of_check hp
      exact ⟨self, claims'.names, rfl, henv, Env.starts_of_declare hclean hheld hdeclare,
        ((Env.declarationsCode_emits hsound hfunctions _).1 _ _ hcode).2⟩

/-- A draft fails because the schema is refused, or because its run ends early. -/
theorem draft_eq_error (hp : p.check = .ok ()) (hfile : p.file? file = some self) {e : GenError}
    (h : p.draft file o = .error e) :
    e.IsRefusal ∨ ∃ (env : Env) (names : Namespace), env.IsFor p file self o ∧ env.Starts names ∧
      env.Stops (Run.start names) e := by
  obtain ⟨env, claims, henv, hclean, hheld, hdraft⟩ := exists_env hp hfile o
  rw [hdraft] at h
  rcases Except.bind_eq_error.mp h with hdeclare | ⟨claims', hdeclare, h⟩
  · exact .inl ((Env.declare_yields claims).2 e hdeclare)
  rcases Except.bind_eq_error.mp h with htable | ⟨functions, hfunctions, h⟩
  · exact .inl (Env.functionTable_yields.2 e htable)
  rcases Except.bind_eq_error.mp h with hcode | ⟨_, _, h⟩
  · have hsound : env.program.Sound := henv.program ▸ sound_of_check hp
    exact .inr ⟨env, claims'.names, henv, Env.starts_of_declare hclean hheld hdeclare,
      (Env.declarationsCode_emits hsound hfunctions _).2 e hcode⟩
  · cases h

/-- A source is what becomes of a draft. -/
theorem generate_eq_ok {source : Source} :
    p.generate file o = .ok source ↔ ∃ d, p.draft file o = .ok d ∧ d.source = source := by
  rw [generate, Except.bind_eq_ok]
  exact exists_congr fun d => and_congr_right fun _ => ⟨fun h => Except.ok.inj h, fun h => congrArg _ h⟩

end Program

end GoSchema
