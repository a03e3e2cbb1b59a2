import GoSchema.Proofs.Namespace

/-!
# Namespaces over whole histories

What holds of a namespace after any requests. Along the chain no name is held by two scopes, and none is
reserved. In each scope the names made up for the different bases are all different, and the scope holds each of
them (`Namespace.Tidy`). Every request keeps this, so a name that is made up is new to all scopes of the chain,
whatever was asked for, given up and gone through before.

## What is proved

* `Namespace.Tidy.step`: every request keeps a namespace tidy, whether it is granted or refused. There is a case
  for each kind of request: reserving, making up, giving up, going on to the next name, entering and leaving a
  scope.
* `Namespace.step_reserve`: a name that is granted is held afterwards, and a refusal changes nothing.
* `Namespace.run_empty_tidy`: after any requests, from a namespace that holds nothing.

What the candidates for a new name are does not matter here, only that the one that is taken was free. That it is
the least one is proved where new names are.
-/

namespace GoSchema.Name

/-! ### Queues -/

/-- The names made up in a scope, those for one base after those for another. -/
def Scope.queued (s : Scope) : List String := s.generated.flatMap Prod.snd

/-- The queues of a scope have no name twice, share no name, and list only names that the scope holds. -/
structure Scope.Tidy (s : Scope) : Prop where
  /-- There is one queue for each base. -/
  bases : (s.generated.map Prod.fst).Nodup
  nodup : ∀ g ∈ s.generated, g.2.Nodup
  disjoint : s.generated.Pairwise fun g h => g.2.Disjoint h.2
  held : ∀ g ∈ s.generated, ∀ name ∈ g.2, name ∈ s.taken

/-- The queues taken together: no name is queued twice. -/
theorem Scope.tidy_iff {s : Scope} :
    s.Tidy ↔ (s.generated.map Prod.fst).Nodup ∧ s.queued.Nodup ∧ ∀ name ∈ s.queued, name ∈ s.taken := by
  simp only [queued, List.nodup_flatMap, List.mem_flatMap, forall_exists_index, and_imp]
  constructor
  · rintro ⟨hbases, hnodup, hdisjoint, hheld⟩
    exact ⟨hbases, ⟨hnodup, hdisjoint⟩, fun name g hg hname => hheld g hg name hname⟩
  · rintro ⟨hbases, ⟨hnodup, hdisjoint⟩, hheld⟩
    exact ⟨hbases, hnodup, hdisjoint, fun g hg name hname => hheld name g hg hname⟩

theorem Scope.tidy_empty : Scope.empty.Tidy := by
  simp [Scope.tidy_iff, Scope.empty, Scope.queued]

namespace Namespace

variable {base name : String} {queues queues' : List (String × List String)}

theorem fst_mem_enqueue {b : String} (h : b ∈ (enqueue base name queues).map Prod.fst) :
    b = base ∨ b ∈ queues.map Prod.fst := by
  induction queues with
  | nil => simpa [enqueue] using h
  | cons g queues ih =>
    rw [enqueue] at h
    split_ifs at h with hbase
    · exact .inr h
    · simp only [List.map_cons, List.mem_cons] at h ⊢
      rcases h with h | h
      · exact .inr (.inl h)
      · exact (ih h).imp id .inr

theorem nodup_fst_enqueue (h : (queues.map Prod.fst).Nodup) :
    ((enqueue base name queues).map Prod.fst).Nodup := by
  induction queues with
  | nil => simp [enqueue]
  | cons g queues ih =>
    rw [enqueue]
    split_ifs with hbase
    · exact h
    · obtain ⟨hg, hrest⟩ := List.nodup_cons.mp h
      refine List.nodup_cons.mpr ⟨fun hmem => ?_, ih hrest⟩
      exact (fst_mem_enqueue hmem).elim hbase hg

/-- A queue gets the name at its end, and nothing else changes. -/
theorem perm_enqueue : ((enqueue base name queues).flatMap Prod.snd).Perm (name :: queues.flatMap Prod.snd) := by
  induction queues with
  | nil => simp [enqueue]
  | cons g queues ih =>
    rw [enqueue]
    split_ifs with hbase
    · simp only [List.flatMap_cons, List.append_assoc]
      exact List.perm_middle
    · rw [List.flatMap_cons, List.flatMap_cons]
      exact (ih.append_left _).trans List.perm_middle

/-- A name that is gone through changes its place in its queue only. -/
theorem rotateQueue_eq_some (h : rotateQueue base queues = some (name, queues')) :
    queues'.map Prod.fst = queues.map Prod.fst ∧
      (queues'.flatMap Prod.snd).Perm (queues.flatMap Prod.snd) := by
  fun_induction rotateQueue base queues generalizing queues' with
  | case1 => cases h
  | case2 => cases h
  | case3 b rest first =>
    cases h
    refine ⟨rfl, ?_⟩
    simp only [List.flatMap_cons, List.cons_append, List.append_assoc]
    exact List.perm_middle
  | case4 b names rest _ ih =>
    obtain ⟨⟨n, qs⟩, hrest, hq⟩ := Option.map_eq_some_iff.mp h
    cases hq
    obtain ⟨hfst, hperm⟩ := ih hrest
    refine ⟨by simp [hfst], ?_⟩
    simp only [List.flatMap_cons]
    exact hperm.append_left _

/-! ### Requests -/

/-- Along the chain no two scopes hold one name, no reserved word is held, and the queues of each scope are
in order. -/
structure Tidy (ns : Namespace) : Prop where
  disjoint : ns.scopes.Pairwise fun s t => s.taken.Disjoint t.taken
  free : ∀ s ∈ ns.scopes, ∀ name ∈ s.taken, isReserved name = false
  scopes : ∀ s ∈ ns.scopes, s.Tidy

variable {ns : Namespace}

theorem tidy_empty : Tidy .empty := by
  refine ⟨by simp [scopes, empty], ?_, ?_⟩
  · simp [scopes, empty, Scope.empty]
  · simpa [scopes, empty] using Scope.tidy_empty

/-- The innermost scope may hold further names, as long as they were free. -/
theorem Tidy.withInner (h : ns.Tidy) {s : Scope} (hs : s.Tidy)
    (htaken : ∀ name ∈ s.taken, name ∈ ns.inner.taken ∨ ns.isTaken name = false) :
    Tidy { ns with inner := s } := by
  obtain ⟨hinner, houter⟩ := List.pairwise_cons.mp h.disjoint
  obtain ⟨hfree, hfrees⟩ := List.forall_mem_cons.mp h.free
  refine ⟨List.pairwise_cons.mpr ⟨?_, houter⟩, List.forall_mem_cons.mpr ⟨?_, hfrees⟩,
    List.forall_mem_cons.mpr ⟨hs, (List.forall_mem_cons.mp h.scopes).2⟩⟩
  · intro t ht name hname hname'
    rcases htaken name hname with hold | hnew
    · exact hinner t ht hold hname'
    · have hheld : name ∈ ns.held := List.mem_flatMap.mpr ⟨t, List.mem_cons_of_mem _ ht, hname'⟩
      exact (isTaken_eq_false_iff.mp hnew).2 hheld
  · intro name hname
    rcases htaken name hname with hold | hnew
    · exact hfree name hold
    · exact (isTaken_eq_false_iff.mp hnew).1

theorem Tidy.inner (h : ns.Tidy) : ns.inner.Tidy := h.scopes _ List.mem_cons_self

theorem Tidy.hold (h : ns.Tidy) (hfree : ns.isTaken name = false) : (ns.hold name).Tidy := by
  obtain ⟨hbases, hnodup, hdisjoint, hheld⟩ := h.inner
  refine h.withInner ⟨hbases, hnodup, hdisjoint, fun g hg n hn => .tail _ (hheld g hg n hn)⟩ ?_
  intro n hn
  rcases List.mem_cons.mp hn with rfl | hn
  · exact .inr hfree
  · exact .inl hn

theorem Tidy.reserve (h : ns.Tidy) {ns' : Namespace} (hreserve : ns.reserve name = .ok ns') : ns'.Tidy := by
  by_cases hinit : name = initHook
  · rw [Namespace.reserve, if_pos hinit] at hreserve
    exact Except.ok.inj hreserve ▸ h
  · obtain ⟨hfree, rfl⟩ := (reserve_eq_ok hinit).mp hreserve
    exact h.hold hfree

/-- A name that is made up was not held, so it was in no queue. -/
theorem Tidy.newName (h : ns.Tidy) (base : String) : (ns.newName base).2.Tidy := by
  have hfree := freshName_free ns base
  obtain ⟨hbases, hnodup, hheld⟩ := Scope.tidy_iff.mp h.inner
  have hnew : ns.freshName base ∉ ns.inner.taken := fun hmem =>
    (isTaken_eq_false_iff.mp hfree).2 (List.mem_flatMap.mpr ⟨ns.inner, List.mem_cons_self, hmem⟩)
  refine h.withInner (Scope.tidy_iff.mpr ⟨nodup_fst_enqueue hbases, ?_, ?_⟩) ?_
  · exact perm_enqueue.nodup_iff.mpr (List.nodup_cons.mpr ⟨fun hmem => hnew (hheld _ hmem), hnodup⟩)
  · intro n hn
    rcases List.mem_cons.mp (perm_enqueue.mem_iff.mp hn) with rfl | hn
    · exact List.mem_cons_self
    · exact List.mem_cons_of_mem _ (hheld n hn)
  · intro n hn
    rcases List.mem_cons.mp hn with rfl | hn
    · exact .inr hfree
    · exact .inl hn

theorem queued_filter (keep : String → Bool) :
    (queues.map fun g => (g.1, g.2.filter keep)).flatMap Prod.snd = (queues.flatMap Prod.snd).filter keep := by
  induction queues with
  | nil => rfl
  | cons g queues ih => simp [ih]

theorem Tidy.forget (h : ns.Tidy) (name : String) : (ns.forget name).Tidy := by
  obtain ⟨hbases, hnodup, hheld⟩ := Scope.tidy_iff.mp h.inner
  refine h.withInner (Scope.tidy_iff.mpr ⟨by simpa [Function.comp_def] using hbases, ?_, ?_⟩) ?_
  · rw [Scope.queued, queued_filter]
    exact hnodup.filter _
  · intro n hn
    rw [Scope.queued, queued_filter, List.mem_filter] at hn
    exact List.mem_filter.mpr ⟨hheld n hn.1, hn.2⟩
  · exact fun n hn => .inl (List.mem_filter.mp hn).1

theorem rotate_eq_ok {ns' : Namespace} : ns.rotate base = .ok (name, ns') ↔
    ∃ generated, rotateQueue base ns.inner.generated = some (name, generated) ∧
      ns' = { ns with inner := { ns.inner with generated } } := by
  unfold Namespace.rotate
  split
  next n queues hqueue => simp [hqueue, eq_comm]
  next hqueue => simp [hqueue]

theorem Tidy.rotate (h : ns.Tidy) {ns' : Namespace} (hrotate : ns.rotate base = .ok (name, ns')) :
    ns'.Tidy := by
  obtain ⟨queues, hqueue, rfl⟩ := rotate_eq_ok.mp hrotate
  obtain ⟨hfst, hperm⟩ := rotateQueue_eq_some hqueue
  obtain ⟨hbases, hnodup, hheld⟩ := Scope.tidy_iff.mp h.inner
  refine h.withInner (Scope.tidy_iff.mpr ⟨hfst ▸ hbases, hperm.nodup_iff.mpr hnodup, ?_⟩) fun _ => .inl
  exact fun n hn => hheld n (hperm.mem_iff.mp hn)

theorem Tidy.enter (h : ns.Tidy) : ns.enter.Tidy := by
  refine ⟨List.pairwise_cons.mpr ⟨?_, h.disjoint⟩, List.forall_mem_cons.mpr ⟨?_, h.free⟩,
    List.forall_mem_cons.mpr ⟨Scope.tidy_empty, h.scopes⟩⟩
  · exact fun _ _ => List.disjoint_nil_left _
  · exact fun _ hname => absurd hname List.not_mem_nil

theorem Tidy.leave (h : ns.Tidy) : ns.leave.Tidy := by
  obtain ⟨inner, outer⟩ := ns
  cases outer with
  | nil => exact h
  | cons scope rest =>
    exact ⟨(List.pairwise_cons.mp h.disjoint).2, (List.forall_mem_cons.mp h.free).2,
      (List.forall_mem_cons.mp h.scopes).2⟩

/-! ### Histories -/

/-- Every request keeps a namespace tidy. -/
theorem Tidy.step (h : ns.Tidy) (s : Step) : (ns.step s).2.Tidy := by
  cases s with
  | reserve name =>
    rw [Namespace.step]
    cases hreserve : ns.reserve name with
    | error _ => exact h
    | ok ns' => exact h.reserve hreserve
  | newName base => exact h.newName base
  | forget name => exact h.forget name
  | rotate base =>
    rw [Namespace.step]
    cases hrotate : ns.rotate base with
    | error _ => exact h
    | ok r => exact h.rotate hrotate
  | isTaken name => exact h
  | enter => exact h.enter
  | leave => exact h.leave

theorem Tidy.run (h : ns.Tidy) (steps : List Step) : (ns.run steps).2.Tidy := by
  induction steps generalizing ns with
  | nil => exact h
  | cons s steps ih => exact ih (h.step s)

theorem notMem_taken_of_free (h : ns.isTaken name = false) : ∀ s ∈ ns.scopes, name ∉ s.taken :=
  fun s hs hmem => (isTaken_eq_false_iff.mp h).2 (List.mem_flatMap.mpr ⟨s, hs, hmem⟩)

/-- Another name than the initializer is granted when it is free, and then held; else it is refused, and nothing
changes. -/
theorem step_reserve (hinit : name ≠ initHook) :
    ns.step (.reserve name) =
      if ns.isTaken name then (.refused (.taken name), ns) else (.done, ns.hold name) := by
  rw [Namespace.step, Namespace.reserve, if_neg hinit]
  split_ifs <;> rfl

/-- After any requests no two scopes of the chain hold one name, no reserved word is held, and the names made up
in a scope are all different and held by it. So the next name that is made up is held nowhere along the
chain, and a name that is asked for is granted exactly when it is held nowhere along the chain and not reserved. Either
name is held by the innermost scope from then on. -/
theorem run_empty_tidy (steps : List Step) :
    (empty.run steps).2.Tidy ∧
      (∀ base, ∃ name ns, (empty.run steps).2.step (.newName base) = (.name name, ns) ∧
        (∀ s ∈ (empty.run steps).2.scopes, name ∉ s.taken) ∧ isReserved name = false ∧
        name ∈ ns.inner.taken) ∧
      ∀ name ≠ initHook, ∀ ns, (empty.run steps).2.step (.reserve name) = (.done, ns) ↔
        ((∀ s ∈ (empty.run steps).2.scopes, name ∉ s.taken) ∧ isReserved name = false) ∧
          ns = (empty.run steps).2.hold name := by
  refine ⟨tidy_empty.run steps, fun base => ⟨_, _, rfl, ?_, ?_, List.mem_cons_self⟩, fun name hinit ns => ?_⟩
  · exact notMem_taken_of_free (freshName_free _ base)
  · exact (isTaken_eq_false_iff.mp (freshName_free (empty.run steps).2 base)).1
  · have hfree : (empty.run steps).2.isTaken name = false ↔
        (∀ s ∈ (empty.run steps).2.scopes, name ∉ s.taken) ∧ isReserved name = false := by
      rw [isTaken_eq_false_iff, and_comm, held, List.mem_flatMap, not_exists]
      simp only [not_and]
    rw [step_reserve hinit, ← hfree]
    cases (empty.run steps).2.isTaken name <;> simp [eq_comm]

end Namespace

end GoSchema.Name
