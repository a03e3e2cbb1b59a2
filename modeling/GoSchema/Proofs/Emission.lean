import GoSchema.Proofs.HelperSources
import GoSchema.Proofs.Lookup

/-!
# What a part of a run can do

The emitters put code together step after step. `Env.Grows` says once what a step can do to a run: it
uses an import path that the surroundings know, it asks again for a helper that is known, or it asks for a
new one, reserves its symbol, builds it as `Env.helperSource` says, and sets it down when it is built. `Env.Stops` says how a run can
end early: the schema is refused, or the symbol of a new helper is taken. `Env.Emits` ties both to an
emitter, and has one rule for each way in which emitters are put together.

No rule lets a run end because a reference points to nothing. So an emitter that follows the rules never
does, and everything that holds of all steps holds of all emitters.

## What is proved

* `Env.Emits.bind`, `Env.Emits.lift`, `Env.Emits.request` and their like: the rules, one for each way in which
  emitters are put together.
* `Env.fulfil_outcome`: what becomes of a request. Its helper is known, its symbol is refused, or it is built, and
  the three exclude each other.
* `Role.isLogging_iff_suffix`: the end of a symbol tells whether the helper logs.

The rules speak of what accumulates and not of the answers. Properties of answers are carried along as a
postcondition, and what is printed is followed in modules of its own.
-/

namespace GoSchema

/-- The error lies in the schema: the generator works as it should. -/
def GenError.IsRefusal : GenError → Prop
  | .conflict _ _ _ | .badIdentifier _ _ | .badDirective _ _ _ _ | .badValue _ _ => True
  | .badProgram _ | .internal _ | .dangling => False

/-- The answer has the property, unless the schema is refused. -/
def Yields {α : Type} (x : Except GenError α) (P : α → Prop) : Prop :=
  (∀ a, x = .ok a → P a) ∧ ∀ e, x = .error e → e.IsRefusal

namespace Yields

variable {α β : Type} {P Q : α → Prop} {R : β → Prop}

theorem ok {a : α} (h : P a) : Yields (.ok a) P :=
  ⟨fun _ ha => Except.ok.inj ha ▸ h, nofun⟩

theorem pure {a : α} (h : P a) : Yields (Pure.pure a) P := ok h

theorem error {e : GenError} (h : e.IsRefusal) : Yields (.error e) P :=
  ⟨nofun, fun _ he => Except.error.inj he ▸ h⟩

theorem mono {x : Except GenError α} (h : Yields x P) (hpq : ∀ a, P a → Q a) : Yields x Q :=
  ⟨fun a ha => hpq a (h.1 a ha), h.2⟩

theorem bind {x : Except GenError α} {f : α → Except GenError β} (h : Yields x P)
    (hf : ∀ a, P a → Yields (f a) R) : Yields (x >>= f) R := by
  cases x with
  | error e => exact error (h.2 e rfl)
  | ok a => exact hf a (h.1 a rfl)

theorem present {o : Option α} {a : α} (ho : o = some a) (h : P a) : Yields (present o) P := by
  rw [ho]
  exact ok h

theorem found {o : Option α} (ho : ∃ a, o = some a) : Yields (GoSchema.present o) fun _ => True :=
  ho.elim fun _ ha => present ha trivial

theorem foldlM {f : β → α → Except GenError β} {as : List α} {b : β} (hb : R b)
    (hf : ∀ b, R b → ∀ a ∈ as, Yields (f b a) R) : Yields (as.foldlM f b) R := by
  induction as generalizing b with
  | nil => exact pure hb
  | cons a as ih =>
    rw [List.foldlM_cons]
    exact (hf b hb a List.mem_cons_self).bind fun b' hb' =>
      ih hb' fun b hb a ha => hf b hb a (List.mem_cons_of_mem _ ha)

theorem mapM {f : α → Except GenError β} {as : List α} (hf : ∀ a ∈ as, Yields (f a) R) :
    Yields (as.mapM f) fun bs => ∀ b ∈ bs, R b := by
  induction as with
  | nil => exact pure (by simp)
  | cons a as ih =>
    rw [List.mapM_cons]
    refine (hf a List.mem_cons_self).bind fun b hb => ?_
    refine (ih fun a ha => hf a (List.mem_cons_of_mem _ ha)).bind fun bs hbs => ?_
    exact pure (List.forall_mem_cons.mpr ⟨hb, hbs⟩)

end Yields

/-! ### Steps -/

/-- The helpers of this role log values. -/
def Role.isLogging : Role → Bool
  | .zapper | .itemZapper => true
  | .valueList | .mapItemList | .read | .equals | .equalsPtr | .ptr => false

/-- The symbol of a helper ends as its role says, so its end tells whether the helper logs. -/
theorem Role.isLogging_iff_suffix (role : Role) (m : String) :
    role.isLogging = true ↔ "_Zapper".toList <:+ ("_" ++ m ++ "_" ++ role.suffix).toList := by
  rw [← List.reverse_prefix]
  cases role <;> simp [Role.isLogging, Role.suffix, List.prefix_cons_iff]

/-- A request is noted, and with it the symbols given on the way. -/
def Run.noted (r : Run) (symbols : Symbols) (q : Request) : Run :=
  { r with symbols, requests := r.requests ++ [q] }

/-- A new request is noted, and its symbol is held. -/
def Run.begun (r : Run) (symbols : Symbols) (q : Request) (names : Name.Namespace) : Run :=
  { r.noted symbols q with names }

/-- A finished helper is set down. -/
def Run.finished (r : Run) (h : Helper) : Run := { r with helpers := r.helpers ++ [h] }

/-- A helper with this symbol was asked for before. -/
def Run.Known (r : Run) (symbol : String) : Prop := ∃ q ∈ r.requests, q.symbol = symbol

theorem Run.any_symbol_iff {r : Run} {symbol : String} :
    r.requests.any (·.symbol == symbol) = true ↔ r.Known symbol := by
  simp [Run.Known]

namespace Env

/-- The code may import this path: that of a standard package, of the wire package or of a package of
another file, and where values are logged those of the packages for it. -/
def MayUse (env : Env) (path : String) : Prop :=
  path ∈ Go.standardPackages ∨ path = env.options.wireImport ∨
    (env.options.noZap = false ∧
      (path = env.options.zapcoreImport ∨ path = env.options.multierrImport)) ∨
    ∃ r f, env.program.file? r = some f ∧ r ≠ env.file ∧ f.importPath ≠ env.self.importPath ∧
      path = f.importPath

/-- All import paths of a list may be used. -/
def MayUseAll (env : Env) (paths : List String) : Prop := ∀ path ∈ paths, env.MayUse path

/-- The code may ask for such a helper: of a type whose declarations are all there, and for logging only
where values are logged. -/
def MayRequest (env : Env) (role : Role) (ty : Ty) : Prop :=
  env.program.TypeInRange ty ∧ (role.isLogging = true → env.options.noZap = false)

/-- In the run `r` the request `q` is due, which brings the symbols of declarations to `symbols`. -/
structure Asks (env : Env) (r : Run) (q : Request) (symbols : Symbols) : Prop where
  permitted : env.MayRequest q.role q.type
  symbol : ∃ m, Symbols.mangle env.program q.type r.symbols = (some m, symbols) ∧
    q.symbol = "_" ++ m ++ "_" ++ q.role.suffix

/-- What a part of a run adds to what has accumulated. -/
inductive Grows (env : Env) : Run → Run → Prop where
  | refl (r : Run) : Grows env r r
  | trans {r r₁ r₂ : Run} : Grows env r r₁ → Grows env r₁ r₂ → Grows env r r₂
  /-- A path is used. -/
  | use {r : Run} {path : String} : env.MayUse path → Grows env r (r.usePath path)
  /-- A known helper is asked for again. -/
  | again {r : Run} {q : Request} {symbols : Symbols} :
      env.Asks r q symbols → r.Known q.symbol → Grows env r (r.noted symbols q)
  /-- A new helper is asked for and built; other helpers may be finished before it. -/
  | build {r r' : Run} {q : Request} {symbols : Symbols} {names : Name.Namespace} {code : Go.Code} :
      env.Asks r q symbols → ¬ r.Known q.symbol → r.names.reserve q.symbol = .ok names →
      env.helperSource q.role q.type q.symbol (r.begun symbols q names) = .ok (code, r') →
      Grows env (r.begun symbols q names) r' → Grows env r (r'.finished ⟨q.symbol, code⟩)

/-- How a part of a run can end early. -/
inductive Stops (env : Env) : Run → GenError → Prop where
  /-- The schema is refused. -/
  | refused {r : Run} {e : GenError} : e.IsRefusal → Stops env r e
  /-- The symbol of a new helper is refused. -/
  | taken {r : Run} {q : Request} {symbols : Symbols} {error : Name.NameError} :
      env.Asks r q symbols → ¬ r.Known q.symbol → r.names.reserve q.symbol = .error error →
      Stops env r (.internal (.helperRefused q.symbol error))
  /-- The run goes on for a while before. -/
  | later {r r' : Run} {e : GenError} : env.Grows r r' → Stops env r' e → Stops env r e
  /-- A helper is left unfinished. -/
  | inside {r : Run} {q : Request} {symbols : Symbols} {names : Name.Namespace} {e : GenError} :
      env.Asks r q symbols → ¬ r.Known q.symbol → r.names.reserve q.symbol = .ok names →
      Stops env (r.begun symbols q names) e → Stops env r e

/-- From every run on, the emitter makes steps that are allowed and gives an answer with the property, or
ends the run in a way that is allowed. -/
def Emits (env : Env) {α : Type} (m : Emit α) (P : α → Prop) : Prop :=
  ∀ r, (∀ a r', m r = .ok (a, r') → P a ∧ env.Grows r r') ∧ ∀ e, m r = .error e → env.Stops r e

namespace Emits

variable {env : Env} {α β : Type} {P Q : α → Prop} {R : β → Prop}

theorem pure {a : α} (h : P a) : env.Emits (Pure.pure a) P := by
  refine fun r => ⟨fun b r' hb => ?_, nofun⟩
  cases hb
  exact ⟨h, .refl r⟩

theorem throw {e : GenError} (h : e.IsRefusal) : env.Emits (MonadExcept.throw e : Emit α) P :=
  fun r => ⟨nofun, fun e' he => by cases he; exact .refused h⟩

theorem mono {m : Emit α} (h : env.Emits m P) (hpq : ∀ a, P a → Q a) : env.Emits m Q :=
  fun r => ⟨fun a r' ha => ⟨hpq a ((h r).1 a r' ha).1, ((h r).1 a r' ha).2⟩, (h r).2⟩

theorem bind {m : Emit α} {f : α → Emit β} (h : env.Emits m P)
    (hf : ∀ a, P a → env.Emits (f a) R) : env.Emits (m >>= f) R := by
  intro r
  change (∀ b r', (m r >>= fun x => f x.1 x.2) = .ok (b, r') → _) ∧
    ∀ e, (m r >>= fun x => f x.1 x.2) = .error e → _
  cases hm : m r with
  | error e =>
    refine ⟨nofun, fun e' he => ?_⟩
    cases he
    exact (h r).2 e hm
  | ok x =>
    obtain ⟨a, r₁⟩ := x
    obtain ⟨ha, hgrow⟩ := (h r).1 a r₁ hm
    refine ⟨fun b r' hb => ?_, fun e he => .later hgrow ((hf a ha r₁).2 e he)⟩
    obtain ⟨hb', hgrow'⟩ := (hf a ha r₁).1 b r' hb
    exact ⟨hb', hgrow.trans hgrow'⟩

theorem after {a : α} {f : α → Emit β} (h : env.Emits (f a) R) :
    env.Emits (Pure.pure a >>= f) R :=
  (pure (P := (· = a)) rfl).bind fun _ ha => ha ▸ h

theorem lift {x : Except GenError α} (h : Yields x P) : env.Emits (liftM x) P := by
  cases x with
  | ok a => exact pure (h.1 a rfl)
  | error e => exact throw (h.2 e rfl)

theorem ite {c : Prop} [Decidable c] {m₁ m₂ : Emit α} (h₁ : c → env.Emits m₁ P)
    (h₂ : ¬ c → env.Emits m₂ P) : env.Emits (if c then m₁ else m₂) P := by
  split_ifs with h
  · exact h₁ h
  · exact h₂ h

theorem get : env.Emits (MonadState.get : Emit Run) fun _ => True := by
  refine fun r => ⟨fun a r' h => ?_, nofun⟩
  cases h
  exact ⟨trivial, .refl r⟩

theorem map {m : Emit α} {f : α → β} (h : env.Emits m fun a => R (f a)) : env.Emits (f <$> m) R := by
  rw [← bind_pure_comp]
  exact h.bind fun a ha => pure ha

theorem mapM {f : α → Emit β} {as : List α} (hf : ∀ a ∈ as, env.Emits (f a) R) :
    env.Emits (as.mapM f) fun bs => ∀ b ∈ bs, R b := by
  induction as with
  | nil => exact pure (by simp)
  | cons a as ih =>
    rw [List.mapM_cons]
    refine (hf a List.mem_cons_self).bind fun b hb => ?_
    refine (ih fun a ha => hf a (List.mem_cons_of_mem _ ha)).bind fun bs hbs => ?_
    exact pure (List.forall_mem_cons.mpr ⟨hb, hbs⟩)

theorem usePaths {paths : List String} (h : env.MayUseAll paths) :
    env.Emits (usePaths paths) fun _ => True := by
  refine fun r => ⟨fun a r' heq => ?_, nofun⟩
  cases heq
  refine ⟨trivial, ?_⟩
  induction paths generalizing r with
  | nil => exact .refl r
  | cons path paths ih =>
    have hrest := ih (fun path hp => h path (List.mem_cons_of_mem _ hp)) (r.usePath path)
    exact (Grows.use (h path List.mem_cons_self)).trans hrest

end Emits

/-! ### Requests -/

section Requests

variable {env : Env} {r : Run} {q : Request}

theorem fulfil_of_known (build : Emit Go.Code) (h : r.Known q.symbol) :
    fulfil q build r = .ok ((), { r with requests := r.requests ++ [q] }) := by
  change ((if r.requests.any (·.symbol == q.symbol) = true then _ else _ : Emit Unit) r :
    Except GenError (Unit × Run)) = _
  rw [if_pos (Run.any_symbol_iff.mpr h)]
  rfl

theorem fulfil_of_taken {error : Name.NameError} (build : Emit Go.Code) (h : ¬ r.Known q.symbol)
    (hnames : r.names.reserve q.symbol = .error error) :
    fulfil q build r = .error (.internal (.helperRefused q.symbol error)) := by
  change ((if r.requests.any (·.symbol == q.symbol) = true then _ else _ : Emit Unit) r :
    Except GenError (Unit × Run)) = _
  rw [if_neg (mt Run.any_symbol_iff.mp h), hnames]
  rfl

theorem fulfil_of_free {names : Name.Namespace} (build : Emit Go.Code) (h : ¬ r.Known q.symbol)
    (hnames : r.names.reserve q.symbol = .ok names) :
    fulfil q build r =
      build { r with names, requests := r.requests ++ [q] } >>= fun x =>
        .ok ((), x.2.finished ⟨q.symbol, x.1⟩) := by
  change ((if r.requests.any (·.symbol == q.symbol) = true then _ else _ : Emit Unit) r :
    Except GenError (Unit × Run)) = _
  rw [if_neg (mt Run.any_symbol_iff.mp h), hnames]
  rfl

theorem symbolOf_eq {ty : Ty} {m : String} {symbols : Symbols}
    (h : Symbols.mangle env.program ty r.symbols = (some m, symbols)) :
    env.symbolOf ty r = .ok (m, { r with symbols }) := by
  unfold symbolOf
  dsimp [bind, StateT.bind, get, getThe, MonadStateOf.get, StateT.get, Pure.pure, Except.pure, Except.bind]
  rw [h]
  rfl

/-- A type that is given a symbol gets it from the table of symbols, and nothing else changes. -/
theorem symbolOf_eq_ok {ty : Ty} {m : String} {r' : Run} (h : env.symbolOf ty r = .ok (m, r')) :
    ∃ symbols, Symbols.mangle env.program ty r.symbols = (some m, symbols) ∧ r' = { r with symbols } := by
  rcases hm : Symbols.mangle env.program ty r.symbols with ⟨_ | m', symbols⟩
  · unfold symbolOf at h
    dsimp [bind, StateT.bind, get, getThe, MonadStateOf.get, StateT.get, Pure.pure, Except.pure, Except.bind] at h
    rw [hm] at h
    cases h
  · rw [symbolOf_eq hm] at h
    cases h
    exact ⟨symbols, rfl, rfl⟩

/-- What becomes of a request that is due: its helper is known, its symbol is taken, or it is built. -/
theorem fulfil_outcome {symbols : Symbols} (hq : env.Asks r q symbols)
    (hbuild : env.Emits (env.helperSource q.role q.type q.symbol) fun _ => True) :
    (∀ x, fulfil q (env.helperSource q.role q.type q.symbol) { r with symbols } = .ok x → env.Grows r x.2) ∧
      ∀ e, fulfil q (env.helperSource q.role q.type q.symbol) { r with symbols } = .error e →
        env.Stops r e := by
  by_cases hknown : r.Known q.symbol
  · rw [@fulfil_of_known { r with symbols } q _ hknown]
    exact ⟨fun x hx => Except.ok.inj hx ▸ .again hq hknown, nofun⟩
  cases hnames : r.names.reserve q.symbol with
  | error refusal =>
    rw [@fulfil_of_taken { r with symbols } q refusal _ hknown hnames]
    exact ⟨nofun, fun e he => Except.error.inj he ▸ .taken hq hknown hnames⟩
  | ok names =>
    rw [@fulfil_of_free { r with symbols } q names _ hknown hnames]
    obtain ⟨hok, herror⟩ := hbuild (r.begun symbols q names)
    refine ⟨fun x hx => ?_, fun e he => ?_⟩
    · obtain ⟨⟨code, r'⟩, hbuilt, hx⟩ := Except.bind_eq_ok.mp hx
      exact Except.ok.inj hx ▸ .build hq hknown hnames hbuilt (hok code r' hbuilt).2
    · rcases Except.bind_eq_error.mp he with he | ⟨_, _, he⟩
      · exact .inside hq hknown hnames (herror e he)
      · cases he

theorem Emits.request (hp : env.program.Sound) {role : Role} {ty : Ty} {build : String → Emit Go.Code}
    (hsource : build = env.helperSource role ty) (hq : env.MayRequest role ty)
    (hbuild : ∀ name, env.Emits (build name) fun _ => True) :
    env.Emits (env.request role ty build) fun _ => True := by
  subst hsource
  intro r
  obtain ⟨m, symbols, hm⟩ := hp.mangle_isSome hq.1 r.symbols
  have hsplit : env.request role ty (env.helperSource role ty) r =
      fulfil ⟨role, ty, "_" ++ m ++ "_" ++ role.suffix⟩
        (env.helperSource role ty ("_" ++ m ++ "_" ++ role.suffix)) { r with symbols } >>= fun y => .ok ("_" ++ m ++ "_" ++ role.suffix, y.2) := by
    change (env.symbolOf ty r >>= fun x => _) = _
    rw [symbolOf_eq hm]
    rfl
  have hasks : env.Asks r ⟨role, ty, "_" ++ m ++ "_" ++ role.suffix⟩ symbols := ⟨hq, m, hm, rfl⟩
  obtain ⟨hok, herror⟩ := fulfil_outcome hasks (hbuild _)
  rw [hsplit]
  refine ⟨fun a r' h => ⟨trivial, ?_⟩, fun e h => ?_⟩
  · obtain ⟨x, hx, h⟩ := Except.bind_eq_ok.mp h
    cases h
    exact hok x hx
  · rcases Except.bind_eq_error.mp h with h | ⟨_, _, h⟩
    · exact herror e h
    · cases h

end Requests

end Env

end GoSchema
