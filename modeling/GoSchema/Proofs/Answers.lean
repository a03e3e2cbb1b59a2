import GoSchema.Generate.Source
import GoSchema.Proofs.Except

/-!
# Answers of emitters

What an emitter can answer, whatever has accumulated before. An answer of several steps comes from answers
of the single steps, so it can be taken apart along the definition of the emitter.

## What is proved

* `Answers m a` says that `m` gives the answer `a` in some run, and `Gives m P` that every answer of `m` has the
  property `P`. There is a rule for each way in which emitters are put together (`Answers.of_bind`, `Gives.bind`).
* `Env.names_of_functionTable`: every function of a file is found in the table of declared functions, under the
  names that follow from its service and its own name. So the branch for a function that is missing there is never
  taken.
* `Program.draft_eq_env` and `Program.draft_code`: a draft is what the declarations of its file answer in the
  surroundings of the file, from a run on in which nothing has been asked for.

Nothing is said here about the run that an answer leaves behind, nor that there is an answer at all. Where this
matters, the steps of a run are followed instead (`Env.Emits`).
-/

namespace GoSchema

theorem present_eq_ok {α : Type} {o : Option α} {a : α} : present o = .ok a ↔ o = some a := by
  cases o <;> simp [present]

/-- Two steps succeed one after the other. -/
theorem Emit.bind_eq_ok {α β : Type} {m : Emit α} {f : α → Emit β} {r r' : Run} {b : β} :
    (m >>= f) r = .ok (b, r') ↔ ∃ a r₁, m r = .ok (a, r₁) ∧ f a r₁ = .ok (b, r') := by
  refine Iff.trans Except.bind_eq_ok ⟨?_, ?_⟩
  · rintro ⟨⟨a, r₁⟩, hm, hf⟩
    exact ⟨a, r₁, hm, hf⟩
  · rintro ⟨a, r₁, hm, hf⟩
    exact ⟨(a, r₁), hm, hf⟩

/-- The emitter gives this answer in some run. -/
def Answers {α : Type} (m : Emit α) (a : α) : Prop := ∃ r r', m r = .ok (a, r')

namespace Answers

variable {α β : Type} {a : α} {b : β}

theorem of_pure {a' : α} (h : Answers (pure a') a) : a' = a := by
  obtain ⟨r, r', h⟩ := h
  exact (Prod.mk.inj (Except.ok.inj h)).1

theorem of_lift {x : Except GenError α} (h : Answers (liftM x) a) : x = .ok a := by
  obtain ⟨r, r', h⟩ := h
  cases x with
  | error e => cases h
  | ok a' =>
    cases h
    rfl

theorem of_bind {m : Emit α} {f : α → Emit β} (h : Answers (m >>= f) b) :
    ∃ a, Answers m a ∧ Answers (f a) b := by
  obtain ⟨r, r', h⟩ := h
  obtain ⟨a, r₁, hm, hf⟩ := Emit.bind_eq_ok.mp h
  exact ⟨a, ⟨r, r₁, hm⟩, r₁, r', hf⟩

theorem of_map {m : Emit α} {f : α → β} (h : Answers (f <$> m) b) : ∃ a, Answers m a ∧ f a = b := by
  rw [← bind_pure_comp] at h
  obtain ⟨a, ha, hb⟩ := of_bind h
  exact ⟨a, ha, of_pure hb⟩

/-- Each element of a list has its answer in the list of answers. -/
theorem of_mapM {f : α → Emit β} {as : List α} {bs : List β} (h : Answers (as.mapM f) bs) :
    ∀ a ∈ as, ∃ b ∈ bs, Answers (f a) b := by
  induction as generalizing bs with
  | nil => exact fun a ha => absurd ha List.not_mem_nil
  | cons first as ih =>
    rw [List.mapM_cons] at h
    obtain ⟨b, hb, h⟩ := of_bind h
    obtain ⟨rest, hrest, h⟩ := of_bind h
    obtain rfl := of_pure h
    intro a ha
    rcases List.mem_cons.mp ha with rfl | ha
    · exact ⟨b, List.mem_cons_self, hb⟩
    · obtain ⟨b', hmem, hb'⟩ := ih hrest a ha
      exact ⟨b', List.mem_cons_of_mem _ hmem, hb'⟩

end Answers

/-- Every answer of the emitter has the property. -/
def Gives {α : Type} (m : Emit α) (P : α → Prop) : Prop := ∀ a, Answers m a → P a

namespace Gives

variable {α β : Type} {P : α → Prop} {Q : β → Prop}

theorem pure {a : α} (h : P a) : Gives (Pure.pure a) P := fun _ ha => ha.of_pure ▸ h

theorem bind {m : Emit α} {f : α → Emit β} (h : ∀ a, Answers m a → Gives (f a) Q) : Gives (m >>= f) Q := by
  intro b hb
  obtain ⟨a, ha, hb⟩ := hb.of_bind
  exact h a ha b hb

theorem throw {e : GenError} : Gives (MonadExcept.throw e : Emit α) P := by
  rintro a ⟨r, r', h⟩
  cases h

theorem ite {c : Prop} [Decidable c] {m₁ m₂ : Emit α} (h₁ : Gives m₁ P) (h₂ : Gives m₂ P) :
    Gives (if c then m₁ else m₂) P := by
  split_ifs
  · exact h₁
  · exact h₂

end Gives

theorem Env.typeText_eq {env : Env} {ty : Ty} {text : String} (h : Answers (env.typeText ty) text) :
    ∃ t, env.goType ty = .ok t ∧ t.text = text := by
  obtain ⟨t, ht, h⟩ := h.of_bind
  obtain ⟨t', ht', hpaths⟩ := ht.of_bind
  obtain ⟨_, -, hpaths⟩ := hpaths.of_bind
  obtain rfl := hpaths.of_pure
  exact ⟨t', ht'.of_lift, h.of_pure⟩

/-! ### The names of functions -/

/-- The services of a file, without their positions. -/
theorem Program.map_numberedServicesOf (p : Program) (file : Ref .file) :
    (p.numberedServicesOf file).map Prod.fst = p.servicesOf file := by
  have hall : p.services.zipIdx.map Prod.fst = p.services := List.zipIdx_map_fst 0 _
  rw [numberedServicesOf, servicesOf]
  conv_rhs => rw [← hall]
  rw [List.filter_map]
  rfl

/-- Every service of a file has its position in the program. -/
theorem Program.exists_numbered {p : Program} {file : Ref .file} {s : Service} (h : s ∈ p.servicesOf file) :
    ∃ i, (s, i) ∈ p.numberedServicesOf file := by
  rw [← map_numberedServicesOf] at h
  obtain ⟨⟨_, i⟩, hmem, rfl⟩ := List.mem_map.mp h
  exact ⟨i, hmem⟩

/-- Every function has its position in the service. -/
theorem exists_mem_zipIdx {α : Type} {as : List α} {a : α} (h : a ∈ as) : ∃ i, (a, i) ∈ as.zipIdx := by
  obtain ⟨i, hi⟩ := List.mem_iff_getElem?.mp h
  exact ⟨i, List.mem_zipIdx_iff_getElem?.mpr hi⟩

/-- A position belongs to one element. -/
theorem eq_of_mem_zipIdx {α : Type} {as : List α} {a b : α × Nat} (ha : a ∈ as.zipIdx) (hb : b ∈ as.zipIdx)
    (h : a.2 = b.2) : a = b := by
  have hget := List.mem_zipIdx_iff_getElem?.mp ha
  rw [h, List.mem_zipIdx_iff_getElem?.mp hb, Option.some.injEq] at hget
  exact Prod.ext hget.symm h

namespace Env

variable {env : Env} {functions : FunctionTable} {s : Service × Nat} {f : Function × Nat} {names : FunctionNames}

/-- The table has names for every function of the file. -/
theorem exists_mem_functionTable (h : env.functionTable = .ok functions)
    (hs : s ∈ env.program.numberedServicesOf env.file) (hf : f ∈ s.1.functions.zipIdx) :
    ∃ names, ((s.2, f.2), names) ∈ functions := by
  obtain ⟨tables, htables, hflat⟩ := Except.bind_eq_ok.mp h
  cases hflat
  obtain ⟨table, hmem, htable⟩ := Except.exists_of_mapM htables s hs
  obtain ⟨e, he, hentry⟩ := Except.exists_of_mapM htable f hf
  obtain ⟨names, -, hkey⟩ := Except.bind_eq_ok.mp hentry
  cases hkey
  exact ⟨names, List.mem_flatten.mpr ⟨table, hmem, he⟩⟩

/-- What the table has are the names of functions of the file. -/
theorem functionNames_of_mem (h : env.functionTable = .ok functions) {key : Nat × Nat}
    (hmem : (key, names) ∈ functions) :
    ∃ s ∈ env.program.numberedServicesOf env.file, ∃ f ∈ s.1.functions.zipIdx,
      key = (s.2, f.2) ∧ env.functionNames s.1 f.1 = .ok names := by
  obtain ⟨tables, htables, hflat⟩ := Except.bind_eq_ok.mp h
  cases hflat
  obtain ⟨table, htable, he⟩ := List.mem_flatten.mp hmem
  obtain ⟨s, hs, hserved⟩ := Except.exists_of_mem_mapM htables table htable
  obtain ⟨f, hf, hentry⟩ := Except.exists_of_mem_mapM hserved _ he
  obtain ⟨names, hnames, hkey⟩ := Except.bind_eq_ok.mp hentry
  cases hkey
  exact ⟨s, hs, f, hf, rfl, hnames⟩

/-- Every function of the file was declared: it is found in the table, under the names that its service and its
own name give it. -/
theorem names_of_functionTable (h : env.functionTable = .ok functions)
    (hs : s ∈ env.program.numberedServicesOf env.file) (hf : f ∈ s.1.functions.zipIdx) :
    ∃ names, functions.names s.2 f.2 f.1 = .ok names ∧ env.functionNames s.1 f.1 = .ok names := by
  obtain ⟨_, hmem⟩ := exists_mem_functionTable h hs hf
  unfold FunctionTable.names
  cases hlookup : functions.lookup (s.2, f.2) with
  | none =>
    have hne := List.lookup_eq_none_iff.mp hlookup _ hmem
    simp at hne
  | some names =>
    obtain ⟨before, after, rfl, -⟩ := List.lookup_eq_some_iff.mp hlookup
    obtain ⟨s', hs', f', hf', hkey, hnames⟩ := functionNames_of_mem h (List.mem_append_right _ List.mem_cons_self)
    obtain ⟨hservice, hposition⟩ := Prod.mk.inj hkey
    obtain rfl := eq_of_mem_zipIdx (List.mem_of_mem_filter hs) (List.mem_of_mem_filter hs') hservice
    obtain rfl := eq_of_mem_zipIdx hf hf' hposition
    exact ⟨names, rfl, hnames⟩

end Env

namespace Program

variable {p : Program} {file : Ref .file} {o : Options} {d : Draft}

/-- A draft is made of the surroundings of its file and of what the declarations answer in them, from a run on
in which nothing has been asked for. -/
theorem draft_eq_env (h : p.draft file o = .ok d) :
    ∃ self claims names functions, p.file? file = some self ∧ Env.ofFile p file self o = .ok (d.env, claims) ∧
      d.env.functionTable = .ok functions ∧
      d.env.declarationsCode functions ⟨names, [], [], [], []⟩ = .ok (d.code, d.run) := by
  unfold draft at h
  split at h
  · cases h
  split at h
  · cases h
  next self hself =>
    obtain ⟨⟨env, claims⟩, henv, h⟩ := Except.bind_eq_ok.mp h
    obtain ⟨granted, -, h⟩ := Except.bind_eq_ok.mp h
    obtain ⟨functions, hfunctions, h⟩ := Except.bind_eq_ok.mp h
    obtain ⟨⟨code, run⟩, hcode, h⟩ := Except.bind_eq_ok.mp h
    cases h
    exact ⟨self, claims, granted.names, functions, hself, henv, hfunctions, hcode⟩

theorem draft_code (h : p.draft file o = .ok d) :
    ∃ functions, d.env.functionTable = .ok functions ∧ Answers (d.env.declarationsCode functions) d.code := by
  obtain ⟨_, _, _, functions, _, _, hfunctions, hcode⟩ := draft_eq_env h
  exact ⟨functions, hfunctions, _, _, hcode⟩

end Program

end GoSchema
