import GoSchema.Proofs.Answers
import GoSchema.Proofs.Qualifier
import GoSchema.Proofs.WholeRun

/-!
# Used paths are printed

An emitter notes that an import path is used when it takes the alias of the path, and the path is in use for
nothing unless the alias gets into the code. A path is open from the one moment to the other: what has been put
together so far shows it, and has to be printed. `Env.Passes` says that an emitter passes on to its answer what
was open before and what it uses itself, and leaves nothing else open. A helper closes what it shows, since its
code is set down.

## What is proved

* `Env.Passes.bind`, `Env.Passes.frame`, `Env.Passes.after` and their like: the rules by which what is open is
  handed on through an emitter, with one rule for each way of putting emitters together.
* `Env.fulfil_prints` and `Env.request_prints`: what a helper uses it shows, so nothing is open when it is set
  down.
* `Env.refer_prints` and `Env.package_prints`: the two ways in which a path comes to be open.

No emitter for a declaration is treated here. The modules about the printing of types, values, records and
declarations go through the emitters one by one, and the last of them says what is left open at the end of a file.
-/

namespace GoSchema

open Go

namespace Env

/-- The alias of the path qualifies something in the text. -/
def InText (env : Env) (text path : String) : Prop := Qualifies (env.aliasOf path) text

/-- The alias of the path qualifies something in the code. -/
def InCode (env : Env) (code : Code) (path : String) : Prop := Shows (env.aliasOf path) code

/-- Every path that is used is shown by a finished helper, or else is one of these. -/
def Settled (env : Env) (r : Run) (P : String → Prop) : Prop :=
  ∀ path ∈ r.used, P path ∨ ∃ h ∈ r.helpers, env.InCode h.code path

/-- Where the paths `D` are open, the emitter leaves the paths `S` open that its answer has to show. -/
def Passes (env : Env) {α : Type} (D : String → Prop) (m : Emit α) (S : α → String → Prop) : Prop :=
  ∀ (P : String → Prop) r a r', m r = .ok (a, r') → env.Settled r (fun path => P path ∨ D path) →
    env.Settled r' fun path => P path ∨ S a path

/-- The emitter leaves only those paths open that its answer has to show. -/
def Prints (env : Env) {α : Type} (m : Emit α) (S : α → String → Prop) : Prop :=
  env.Passes (fun _ => False) m S

variable {env : Env} {α β : Type} {D E : String → Prop} {S : α → String → Prop} {T : β → String → Prop}

theorem Settled.mono {r : Run} {P Q : String → Prop} (h : env.Settled r P) (hpq : ∀ path, P path → Q path) :
    env.Settled r Q := fun path hpath => (h path hpath).imp_left (hpq path)

namespace Passes

theorem pure {a : α} (h : ∀ path, D path → S a path) : env.Passes D (Pure.pure a) S := by
  intro P r b r' hb hr
  cases hb
  exact hr.mono fun path => Or.imp_right (h path)

/-- An answer where nothing is open. -/
theorem nothing {a : α} : env.Passes (fun _ => False) (Pure.pure a) S := pure fun _ => False.elim

theorem throw {e : GenError} : env.Passes D (MonadExcept.throw e : Emit α) S := by
  intro P r a r' h
  cases h

theorem bind {m : Emit α} {f : α → Emit β} (h : env.Passes D m S)
    (hf : ∀ a, Answers m a → env.Passes (S a) (f a) T) : env.Passes D (m >>= f) T := by
  intro P r b r' hb hr
  obtain ⟨⟨a, r₁⟩, hm, hb⟩ := Except.bind_eq_ok.mp hb
  exact hf a ⟨r, r₁, hm⟩ P r₁ b r' hb (h P r a r₁ hm hr)

/-- What else is open stays so. -/
theorem frame {m : Emit α} (h : env.Passes D m S) (E : String → Prop) :
    env.Passes (fun path => E path ∨ D path) m fun a path => E path ∨ S a path := by
  intro P r a r' ha hr
  refine (h (fun path => P path ∨ E path) r a r' ha ?_).mono fun path => or_assoc.mp
  exact hr.mono fun path => or_assoc.mpr

theorem mono {D' : String → Prop} {S' : α → String → Prop} {m : Emit α} (h : env.Passes D m S)
    (hD : ∀ path, D' path → D path) (hS : ∀ a path, S a path → S' a path) : env.Passes D' m S' :=
  fun P r a r' ha hr => (h P r a r' ha (hr.mono fun path => Or.imp_right (hD path))).mono
    fun path => Or.imp_right (hS a path)

/-- A step that uses the last of what is open, and leaves the rest. -/
theorem after {m : Emit α} {f : α → Emit β} (h : env.Passes E m S)
    (hf : ∀ a, Answers m a → env.Passes (fun path => D path ∨ S a path) (f a) T) :
    env.Passes (fun path => D path ∨ E path) (m >>= f) T :=
  (h.frame D).bind hf

/-- A step that takes an answer from the surroundings. -/
theorem given {x : Except GenError α} {f : α → Emit β} (hf : ∀ a, x = .ok a → env.Passes D (f a) T) :
    env.Passes D (liftM x >>= f) T := by
  cases x with
  | error e =>
    intro P r b r' hb
    cases hb
  | ok a => exact hf a rfl

theorem ite {c : Prop} [Decidable c] {m₁ m₂ : Emit α} (h₁ : c → env.Passes D m₁ S)
    (h₂ : ¬ c → env.Passes D m₂ S) : env.Passes D (if c then m₁ else m₂) S := by
  split_ifs with h
  · exact h₁ h
  · exact h₂ h

/-- An answer with which the emitter goes on. -/
theorem go {a : α} {f : α → Emit β} (h : env.Passes E (f a) T) (hE : ∀ path, D path → E path) :
    env.Passes D (Pure.pure a >>= f) T := by
  rw [pure_bind]
  exact h.mono hE fun _ _ h => h

/-- Branches that go on in one way, after the first has given its answer at once. -/
theorem fork (S : α → String → Prop) {c : Prop} [Decidable c] {a : α} {k : α → Emit β} {m : Emit β}
    (hk : ∀ a, env.Passes (fun path => D path ∨ S a path) (k a) T)
    (hm : ¬ c → (∀ a, env.Passes (fun path => D path ∨ S a path) (k a) T) → env.Passes D m T) :
    env.Passes D (if c then Pure.pure a >>= k else m) T :=
  ite (fun _ => go (hk a) fun _ => .inl) fun h => hm h hk

/-- Branches that go on in one way, after the second has given its answer at once. -/
theorem fork' (S : α → String → Prop) {c : Prop} [Decidable c] {a : α} {k : α → Emit β} {m : Emit β}
    (hk : ∀ a, env.Passes (fun path => D path ∨ S a path) (k a) T)
    (hm : c → (∀ a, env.Passes (fun path => D path ∨ S a path) (k a) T) → env.Passes D m T) :
    env.Passes D (if c then m else Pure.pure a >>= k) T :=
  ite (fun h => hm h hk) fun _ => go (hk a) fun _ => .inl

theorem get {f : Run → Emit β} (hf : ∀ r, env.Passes D (f r) T) :
    env.Passes D (MonadState.get >>= f) T := by
  intro P r b r' hb hr
  exact hf r P r b r' hb hr

theorem map {m : Emit α} {f : α → β} (h : env.Passes D m fun a => T (f a)) : env.Passes D (f <$> m) T := by
  rw [← bind_pure_comp]
  exact h.bind fun a _ => pure fun _ h => h

end Passes

namespace Prints

/-- A step after which more is open. -/
theorem next {m : Emit α} {f : α → Emit β} (h : env.Prints m S)
    (hf : ∀ a, Answers m a → env.Passes (fun path => D path ∨ S a path) (f a) T) :
    env.Passes D (m >>= f) T :=
  (h.after hf).mono (fun _ => .inl) fun _ _ h => h

/-- A step that leaves nothing open. -/
theorem silent {m : Emit α} {f : α → Emit β} (h : env.Prints m fun _ _ => False)
    (hf : ∀ a, Answers m a → env.Passes D (f a) T) : env.Passes D (m >>= f) T :=
  h.next fun a ha => (hf a ha).mono (fun _ => Or.rec id False.elim) fun _ _ h => h

theorem lift {x : Except GenError α} : env.Prints (liftM x) S := by
  cases x with
  | error e => exact Passes.throw
  | ok a => exact Passes.nothing

theorem mapM {f : α → Emit β} {S : α → β → String → Prop} {as : List α}
    (h : ∀ a ∈ as, env.Prints (f a) (S a)) :
    env.Prints (as.mapM f) fun bs path => ∃ a ∈ as, ∃ b ∈ bs, S a b path := by
  induction as with
  | nil => exact Passes.nothing
  | cons a as ih =>
    obtain ⟨ha, hrest⟩ := List.forall_mem_cons.mp h
    rw [List.mapM_cons]
    refine Passes.bind ha fun b _ => (ih hrest).next fun bs _ => Passes.pure fun path hpath => ?_
    rcases hpath with hpath | ⟨a', ha', b', hb', hpath⟩
    · exact ⟨a, List.mem_cons_self, b, List.mem_cons_self, hpath⟩
    · exact ⟨a', List.mem_cons_of_mem _ ha', b', List.mem_cons_of_mem _ hb', hpath⟩

end Prints

/-! ### Paths and helpers -/

theorem mem_used_foldl_usePath {paths : List String} {r : Run} {path : String} :
    path ∈ (paths.foldl Run.usePath r).used ↔ path ∈ r.used ∨ path ∈ paths := by
  induction paths generalizing r with
  | nil => simp
  | cons first paths ih => rw [List.foldl_cons, ih, Run.mem_used_usePath, List.mem_cons, or_assoc]

theorem helpers_foldl_usePath (paths : List String) (r : Run) :
    (paths.foldl Run.usePath r).helpers = r.helpers := by
  induction paths generalizing r with
  | nil => rfl
  | cons first paths ih => rw [List.foldl_cons, ih, Run.usePath_helpers]

theorem usePaths_prints (paths : List String) : env.Prints (usePaths paths) fun _ path => path ∈ paths := by
  intro P r a r' h hr path hpath
  cases h
  rw [helpers_foldl_usePath]
  rcases mem_used_foldl_usePath.mp hpath with hpath | hpath
  · exact (hr path hpath).imp_left fun h => h.imp_right False.elim
  · exact .inl (.inr hpath)

/-- What a helper uses it shows, so nothing is open when it is set down. -/
theorem fulfil_prints {q : Request} {build : Emit Code} (hbuild : env.Prints build env.InCode) :
    env.Prints (fulfil q build) fun _ _ => False := by
  intro P r a r' h hr
  by_cases hknown : r.Known q.symbol
  · rw [fulfil_of_known build hknown] at h
    cases h
    exact hr
  cases hnames : r.names.reserve q.symbol with
  | error _ =>
    rw [fulfil_of_taken build hknown hnames] at h
    cases h
  | ok names =>
    rw [fulfil_of_free build hknown hnames] at h
    obtain ⟨⟨code, r₁⟩, hcode, h⟩ := Except.bind_eq_ok.mp h
    cases h
    have hbuilt := hbuild P _ code r₁ hcode hr
    intro path hpath
    rcases hbuilt path hpath with (hopen | hopen) | ⟨helper, hmem, hshown⟩
    · exact .inl (.inl hopen)
    · exact .inr ⟨⟨q.symbol, code⟩, by simp [Run.finished], hopen⟩
    · exact .inr ⟨helper, by simp [Run.finished, hmem], hshown⟩

theorem request_prints {role : Role} {ty : Ty} {build : String → Emit Code}
    (hbuild : ∀ name, env.Prints (build name) env.InCode) :
    env.Prints (env.request role ty build) fun _ _ => False := by
  have hsymbol : env.Prints (env.symbolOf ty) fun _ _ => False := by
    intro P r m r' h hr
    obtain ⟨symbols, -, rfl⟩ := symbolOf_eq_ok h
    exact hr
  exact hsymbol.bind fun m _ => (fulfil_prints (hbuild _)).bind fun _ _ => .pure fun _ h => h

end Env

end GoSchema
