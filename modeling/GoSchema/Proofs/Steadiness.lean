import GoSchema.Proofs.Answers
import GoSchema.Proofs.HelperTypes
import GoSchema.Proofs.RunHistory

/-!
# Emitters that keep to their answer

What an emitter puts together depends on the run: the symbol of a type on the symbols that were given before, and
what is done for a helper on the requests that were made before. Both tables only grow. An emitter is steady if
an answer that it gave once is the answer it gives at every later point, whatever happened in between. A
declaration keeps its symbol and a known helper stays known, so emitters that are put together from symbols,
requests and the surroundings are steady.

## What is proved

* `Symbols.mangle_again`: a type that has got a symbol gets the same one later.
* `Steady.bind`, `Steady.lift`, `Steady.mapM` and their like: the rules for steady emitters.
* `Env.fulfil_advances` and `Env.request_steady`: a helper is asked for under the same symbol again. By then it is
  known, and is not built.
* `Env.Trace.before`: along a history the tables only grow.

An emitter that reads the names of the package is not steady, since names are held from some time on. The emitters
of local names are therefore treated in another way.
-/

namespace GoSchema

open Go

/-- One point of a run lies before another: both tables have grown, or stayed as they were. -/
structure Run.Before (r r' : Run) : Prop where
  symbols : r.symbols <+: r'.symbols
  requests : r.requests <+: r'.requests

namespace Run.Before

variable {r r₁ r₂ : Run}

theorem refl (r : Run) : r.Before r := ⟨List.prefix_rfl, List.prefix_rfl⟩

theorem trans (h : r.Before r₁) (h' : r₁.Before r₂) : r.Before r₂ :=
  ⟨h.symbols.trans h'.symbols, h.requests.trans h'.requests⟩

theorem known (h : r.Before r₁) {symbol : String} (hk : r.Known symbol) : r₁.Known symbol := by
  obtain ⟨q, hq, hsymbol⟩ := hk
  exact ⟨q, h.requests.subset hq, hsymbol⟩

end Run.Before

/-! ### Symbols given again -/

/-- A type whose declarations all have symbols gets its symbol from these, and the table stays as it is. -/
theorem Symbols.mangle_of_seen {p : Program} {ty : Ty} {a : Shape} (ha : p.HasShape ty a) {s : Symbols}
    (hs : a.All s.Seen) : mangle p ty s = (some (a.text s), s) := by
  induction ha with
  | base b => rfl
  | list _ ih => simp [mangle, ih hs, Shape.text]
  | @set _ _ _ keyed hkeyed _ ih => cases keyed <;> simp [mangle, hkeyed, ih hs, Shape.text]
  | map _ _ ihk ihv => simp [mangle, ihk hs.1, ihv hs.2, Shape.text]
  | @declared ty file name hkey =>
    obtain ⟨symbol, hsymbol⟩ := Option.isSome_iff_exists.mp hs
    have hnamed : s.named file name = (symbol, s) := named_of_find?_some hsymbol
    cases ty with
    | enum r | struct r | typedef r =>
      obtain ⟨d, hd, heq⟩ := Option.map_eq_some_iff.mp hkey
      obtain ⟨rfl, rfl⟩ := Prod.mk.inj heq
      simp [mangle, hd, hnamed, Shape.text, hsymbol]
    | base | list | set | map => cases hkey

/-- A type that has got a symbol gets the same one later. -/
theorem Symbols.mangle_again {p : Program} {ty : Ty} {s s₁ s₂ : Symbols} {m : String}
    (h : mangle p ty s = (some m, s₁)) (hs : s₁ <+: s₂) : mangle p ty s₂ = (some m, s₂) := by
  obtain ⟨-, -, a, hshape, hseen, rfl⟩ := mangle_adds h
  rw [mangle_of_seen hshape (hseen.imp fun _ _ h => h.mono hs), text_stable hseen hs]

/-! ### Steady emitters -/

/-- The emitter brings the run forward, and an answer that it gave it gives again at every later point. -/
structure Steady {α : Type} (m : Emit α) : Prop where
  advances : ∀ {r a r₁}, m r = .ok (a, r₁) → r.Before r₁
  again : ∀ {r a r₁ r₂}, m r = .ok (a, r₁) → r₁.Before r₂ → ∃ r₃, m r₂ = .ok (a, r₃)

namespace Steady

variable {α β : Type}

/-- Two answers, one later than the other, are the same. -/
theorem agree {m : Emit α} (h : Steady m) {r r₁ r₂ r₃ : Run} {a b : α} (ha : m r = .ok (a, r₁))
    (hbefore : r₁.Before r₂) (hb : m r₂ = .ok (b, r₃)) : a = b := by
  obtain ⟨r₄, ha'⟩ := h.again ha hbefore
  rw [ha'] at hb
  cases hb
  rfl

theorem pure (a : α) : Steady (Pure.pure a) := by
  constructor
  · intro r b r₁ h
    cases h
    exact .refl r
  · intro r b r₁ r₂ h _
    cases h
    exact ⟨r₂, rfl⟩

theorem throw (e : GenError) : Steady (MonadExcept.throw e : Emit α) := ⟨nofun, nofun⟩

theorem bind {m : Emit α} {f : α → Emit β} (h : Steady m) (hf : ∀ a, Steady (f a)) : Steady (m >>= f) := by
  constructor
  · intro r b r₂ hb
    obtain ⟨a, r₁, ha, hb⟩ := Emit.bind_eq_ok.mp hb
    exact (h.advances ha).trans ((hf a).advances hb)
  · intro r b r₂ r₃ hb hafter
    obtain ⟨a, r₁, ha, hb⟩ := Emit.bind_eq_ok.mp hb
    obtain ⟨r₄, ha'⟩ := h.again ha (((hf a).advances hb).trans hafter)
    -- The second step starts from a point that is even later, now that the first was made again.
    obtain ⟨r₅, hb'⟩ := (hf a).again hb (hafter.trans (h.advances ha'))
    exact ⟨r₅, Emit.bind_eq_ok.mpr ⟨a, r₄, ha', hb'⟩⟩

theorem lift (x : Except GenError α) : Steady (liftM x) := by
  cases x with
  | error e => exact throw e
  | ok a => exact pure a

theorem ite {c : Prop} [Decidable c] {m₁ m₂ : Emit α} (h₁ : Steady m₁) (h₂ : Steady m₂) :
    Steady (if c then m₁ else m₂) := by
  split_ifs
  · exact h₁
  · exact h₂

theorem mapM {f : α → Emit β} (hf : ∀ a, Steady (f a)) (as : List α) : Steady (as.mapM f) := by
  induction as with
  | nil => exact pure []
  | cons a as ih =>
    rw [List.mapM_cons]
    exact (hf a).bind fun b => ih.bind fun bs => pure (b :: bs)

theorem usePaths (paths : List String) : Steady (usePaths paths) := by
  constructor
  · intro r a r₁ h
    cases h
    have hkeeps (r : Run) : (paths.foldl Run.usePath r).symbols = r.symbols ∧
        (paths.foldl Run.usePath r).requests = r.requests := by
      induction paths generalizing r with
      | nil => exact ⟨rfl, rfl⟩
      | cons path paths ih =>
        obtain ⟨hsymbols, hrequests⟩ := ih (r.usePath path)
        exact ⟨hsymbols.trans (r.usePath_symbols path), hrequests.trans (r.usePath_requests path)⟩
    exact ⟨(hkeeps r).1 ▸ List.prefix_rfl, (hkeeps r).2 ▸ List.prefix_rfl⟩
  · intro r a r₁ r₂ h _
    cases h
    exact ⟨_, rfl⟩

end Steady

/-! ### Requests -/

namespace Env

variable {env : Env}

/-- Making a request brings the run forward, and its symbol is known from then on. -/
theorem fulfil_advances {q : Request} {build : Emit Code} (hbuild : Steady build) {r r₁ : Run}
    (h : fulfil q build r = .ok ((), r₁)) : r.Before r₁ ∧ r₁.Known q.symbol := by
  by_cases hknown : r.Known q.symbol
  · rw [fulfil_of_known build hknown] at h
    cases h
    have hbefore : r.Before { r with requests := r.requests ++ [q] } := ⟨List.prefix_rfl, List.prefix_append _ _⟩
    exact ⟨hbefore, hbefore.known hknown⟩
  cases hnames : r.names.reserve q.symbol with
  | error _ =>
    rw [fulfil_of_taken build hknown hnames] at h
    cases h
  | ok names =>
    rw [fulfil_of_free build hknown hnames] at h
    obtain ⟨⟨code, r₂⟩, hcode, h⟩ := Except.bind_eq_ok.mp h
    cases h
    have hbuilt := hbuild.advances hcode
    have hbefore : r.Before r₂ := ⟨hbuilt.symbols, (List.prefix_append _ _).trans hbuilt.requests⟩
    exact ⟨⟨hbefore.symbols, hbefore.requests⟩, q, hbuilt.requests.subset (by simp), rfl⟩

theorem symbolOf_steady (ty : Ty) : Steady (env.symbolOf ty) := by
  constructor
  · intro r m r₁ h
    obtain ⟨symbols, hm, rfl⟩ := symbolOf_eq_ok h
    exact ⟨(Symbols.mangle_adds hm).grows, List.prefix_rfl⟩
  · intro r m r₁ r₂ h hafter
    obtain ⟨symbols, hm, rfl⟩ := symbolOf_eq_ok h
    exact ⟨_, symbolOf_eq (Symbols.mangle_again hm hafter.symbols)⟩

/-- A helper is asked for under the same symbol again; by then it is known, and is not built. -/
theorem request_steady (role : Role) (ty : Ty) {build : String → Emit Code} (hbuild : ∀ name, Steady (build name)) :
    Steady (env.request role ty build) := by
  refine (symbolOf_steady ty).bind fun m => ⟨?_, ?_⟩
  · intro r symbol r₁ h
    obtain ⟨⟨⟩, r₂, hfulfil, h⟩ := Emit.bind_eq_ok.mp h
    cases h
    exact (fulfil_advances (hbuild _) hfulfil).1
  · intro r symbol r₁ r₂ h hafter
    obtain ⟨⟨⟩, r₃, hfulfil, h⟩ := Emit.bind_eq_ok.mp h
    cases h
    have hknown := hafter.known (fulfil_advances (hbuild _) hfulfil).2
    exact ⟨_, Emit.bind_eq_ok.mpr ⟨(), _, fulfil_of_known _ hknown, rfl⟩⟩

/-! ### Points of a run -/

theorem Step.before {r r' : Run} {e : Event} (h : env.Step r e r') : r.Before r' := by
  have hasks {q : Request} {symbols : Symbols} (h : env.Asks r q symbols) : r.symbols <+: symbols := by
    obtain ⟨m, hm, -⟩ := h.symbol
    exact (Symbols.mangle_adds hm).grows
  refine ⟨?_, ⟨_, h.requests.symm⟩⟩
  cases h with
  | use _ => simp
  | again h _ => exact hasks h
  | begin h _ _ => exact hasks h
  | finish _ => exact List.prefix_rfl

/-- Along a history the tables grow. -/
theorem Trace.before {r r' : Run} {events : List Event} (h : env.Trace r events r') : r.Before r' := by
  induction h with
  | nil r => exact .refl r
  | cons step _ ih => exact step.before.trans ih

end Env

end GoSchema
