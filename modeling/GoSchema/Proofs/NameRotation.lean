import GoSchema.Proofs.Namespace

/-!
# Going through the names of a base

A scope goes through the names that it made up for a base in turn. Which names these are depends on all that it was
asked before: a name enters the queue of its base when it is made up, each call of `rotate` moves one to the end, and
giving up a name takes it out of every queue. The history of a scope says which names are `Live` for a base, namely
those that were made up for it and not given up since. After any requests the queue of a base lists its live names,
each once (`Recalls`), so that going once through the queue gives each of them once and leaves the scope as it was
(`rotate_fair`).

## What is proved

* `Namespace.step_rotate_cases` and `Namespace.step_rotate_frame`: what one call does, and that it changes neither
  the names that are held, nor an outer scope, nor the queue of another base.
* `Namespace.run_rotate`: as many calls as there are names in front give these names in order.
* `Namespace.Recalls.concat` carries the invariant over one request, and so over all.
* `Namespace.rotate_fair`: after any requests, a round gives each live name of a base once and leaves the scope as
  it was; if no name is live, the call is refused and nothing changes.

Two orders in which live names come are not compared: which of them is next depends on all calls before.
-/

namespace GoSchema.Name.Namespace

variable {ns : Namespace} {base name : String} {queues : List (String × List String)}

/-! ### Queues -/

/-- The queue of a base; it is empty if no name was made up for it. -/
def queueOf (base : String) : List (String × List String) → List String
  | [] => []
  | g :: rest => if g.1 = base then g.2 else queueOf base rest

/-- Puts other names into the queue of a base, if there is one. -/
def setQueue (base : String) (names : List String) : List (String × List String) → List (String × List String)
  | [] => []
  | g :: rest => if g.1 = base then (g.1, names) :: rest else g :: setQueue base names rest

/-- The queue of the base gets the name at its end, and the other queues stay as they are. -/
theorem queueOf_enqueue (other : String) :
    queueOf other (enqueue base name queues) = queueOf other queues ++ if other = base then [name] else [] := by
  induction queues with
  | nil => simp [enqueue, queueOf, eq_comm]
  | cons g rest ih =>
    by_cases hbase : g.1 = base
    · rw [enqueue, if_pos hbase, queueOf, queueOf, hbase]
      by_cases hother : base = other
      · simp [hother]
      · simp [hother, Ne.symm hother]
    · rw [enqueue, if_neg hbase, queueOf, queueOf]
      by_cases hother : g.1 = other
      · rw [if_pos hother, if_pos hother, if_neg (hother ▸ hbase), List.append_nil]
      · rw [if_neg hother, if_neg hother, ih]

theorem queueOf_filter (keep : String → Bool) :
    queueOf base (queues.map fun g => (g.1, g.2.filter keep)) = (queueOf base queues).filter keep := by
  induction queues with
  | nil => rfl
  | cons g rest ih =>
    rw [List.map_cons, queueOf, queueOf]
    split_ifs with hbase
    · rfl
    · exact ih

theorem setQueue_self : setQueue base (queueOf base queues) queues = queues := by
  induction queues with
  | nil => rfl
  | cons g rest ih =>
    rw [queueOf, setQueue]
    split_ifs with hbase
    · rfl
    · rw [ih]

theorem setQueue_setQueue (names names' : List String) :
    setQueue base names (setQueue base names' queues) = setQueue base names queues := by
  induction queues with
  | nil => rfl
  | cons g rest ih =>
    rw [setQueue, setQueue]
    split_ifs with hbase
    · rw [setQueue, if_pos hbase]
    · rw [setQueue, if_neg hbase, ih]

theorem queueOf_setQueue_self (h : queueOf base queues ≠ []) (names : List String) :
    queueOf base (setQueue base names queues) = names := by
  induction queues with
  | nil => exact absurd rfl h
  | cons g rest ih =>
    rw [queueOf] at h
    rw [setQueue]
    split_ifs at h ⊢ with hbase
    · rw [queueOf, if_pos hbase]
    · rw [queueOf, if_neg hbase, ih h]

theorem queueOf_setQueue_of_ne {other : String} (h : other ≠ base) (names : List String) :
    queueOf other (setQueue base names queues) = queueOf other queues := by
  induction queues with
  | nil => rfl
  | cons g rest ih =>
    rw [setQueue]
    split_ifs with hbase
    · have hother : g.1 ≠ other := fun heq => h (heq.symm.trans hbase)
      rw [queueOf, queueOf, if_neg hother, if_neg hother]
    · rw [queueOf, queueOf, ih]

theorem rotateQueue_of_nil (h : queueOf base queues = []) : rotateQueue base queues = none := by
  fun_induction rotateQueue base queues with
  | case1 => rfl
  | case2 => rfl
  | case3 rest first => simp [queueOf] at h
  | case4 b names rest hbase ih =>
    rw [queueOf, if_neg hbase] at h
    rw [ih h]
    rfl

theorem rotateQueue_of_cons {names : List String} (h : queueOf base queues = name :: names) :
    rotateQueue base queues = some (name, setQueue base (names ++ [name]) queues) := by
  fun_induction rotateQueue base queues with
  | case1 => cases h
  | case2 => simp [queueOf] at h
  | case3 rest first others =>
    rw [queueOf, if_pos rfl] at h
    obtain ⟨rfl, rfl⟩ := List.cons.inj h
    rw [setQueue, if_pos rfl]
  | case4 b names rest hbase ih =>
    rw [queueOf, if_neg hbase] at h
    rw [ih h, setQueue, if_neg hbase]
    rfl

/-! ### One call -/

/-- The names in the queue of a base in the innermost scope, the next one first. -/
def queue (ns : Namespace) (base : String) : List String := queueOf base ns.inner.generated

/-- The namespace with other names in the queue of a base. -/
def withQueue (ns : Namespace) (base : String) (names : List String) : Namespace :=
  { ns with inner := { ns.inner with generated := setQueue base names ns.inner.generated } }

theorem withQueue_queue (ns : Namespace) (base : String) : ns.withQueue base (ns.queue base) = ns := by
  rw [withQueue, queue, setQueue_self]

theorem withQueue_withQueue (names names' : List String) :
    (ns.withQueue base names').withQueue base names = ns.withQueue base names := by
  simp only [withQueue, setQueue_setQueue]

theorem queue_withQueue_self (h : ns.queue base ≠ []) (names : List String) :
    (ns.withQueue base names).queue base = names :=
  queueOf_setQueue_self h names

theorem step_rotate_of_nil (h : ns.queue base = []) :
    ns.step (.rotate base) = (.refused (.notGenerated base), ns) := by
  rw [step, rotate, rotateQueue_of_nil h]

theorem step_rotate_of_cons {names : List String} (h : ns.queue base = name :: names) :
    ns.step (.rotate base) = (.name name, ns.withQueue base (names ++ [name])) := by
  rw [step, rotate, rotateQueue_of_cons h]
  rfl

/-- A call refuses and changes nothing, or moves a name to the end of its queue. -/
theorem step_rotate_cases (ns : Namespace) (base : String) :
    (ns.queue base = [] ∧ ns.step (.rotate base) = (.refused (.notGenerated base), ns)) ∨
      ∃ name names, ns.queue base = name :: names ∧
        ns.step (.rotate base) = (.name name, ns.withQueue base (names ++ [name])) := by
  cases hqueue : ns.queue base with
  | nil => exact .inl ⟨rfl, step_rotate_of_nil hqueue⟩
  | cons name names => exact .inr ⟨name, names, rfl, step_rotate_of_cons hqueue⟩

/-- A call changes neither the names that are held, nor an outer scope, nor the queue of another base. -/
theorem step_rotate_frame (ns : Namespace) (base : String) :
    (ns.step (.rotate base)).2.inner.taken = ns.inner.taken ∧ (ns.step (.rotate base)).2.outer = ns.outer ∧
      ∀ other ≠ base, (ns.step (.rotate base)).2.queue other = ns.queue other := by
  rcases step_rotate_cases ns base with ⟨-, hstep⟩ | ⟨name, names, -, hstep⟩
  · rw [hstep]
    exact ⟨rfl, rfl, fun _ _ => rfl⟩
  · rw [hstep]
    exact ⟨rfl, rfl, fun other hother => queueOf_setQueue_of_ne hother _⟩

theorem perm_queue_step_rotate (ns : Namespace) (base : String) :
    ((ns.step (.rotate base)).2.queue base).Perm (ns.queue base) := by
  rcases step_rotate_cases ns base with ⟨-, hstep⟩ | ⟨name, names, hqueue, hstep⟩
  · rw [hstep]
  · rw [hstep, queue_withQueue_self (by simp [hqueue]), hqueue]
    exact List.perm_append_singleton name names

/-- As many calls as the queue has names in front give these names, and move them behind the others. By induction on
the names in front; each of them is behind the others when the next one has its turn. -/
theorem run_rotate {front back : List String} (h : ns.queue base = front ++ back) :
    ns.run (List.replicate front.length (.rotate base)) =
      (front.map .name, ns.withQueue base (back ++ front)) := by
  induction front generalizing ns back with
  | nil =>
    rw [List.nil_append] at h
    rw [List.append_nil, ← h, withQueue_queue]
    rfl
  | cons name front ih =>
    have hstep : ns.step (.rotate base) = (.name name, ns.withQueue base (front ++ back ++ [name])) :=
      step_rotate_of_cons h
    have hqueue : (ns.withQueue base (front ++ back ++ [name])).queue base = front ++ (back ++ [name]) := by
      rw [queue_withQueue_self (by simp [h]), List.append_assoc]
    rw [List.length_cons, List.replicate_succ, run, hstep]
    dsimp only
    rw [ih hqueue, withQueue_withQueue, List.append_assoc]
    rfl

/-! ### Histories -/

/-- In this history, the name was made up for the base, and it has not been given up since. -/
def Live (history : List (Step × Answer)) (base name : String) : Prop :=
  ∃ before after, history = before ++ (.newName base, .name name) :: after ∧ ∀ e ∈ after, e.1 ≠ .forget name

theorem not_live_nil : ¬ Live [] base name := by
  rintro ⟨before, after, h, -⟩
  simp at h

/-- A name becomes live when it is made up, and is no longer live when it is given up. -/
theorem live_concat {history : List (Step × Answer)} {e : Step × Answer} :
    Live (history ++ [e]) base name ↔
      e = (.newName base, .name name) ∨ Live history base name ∧ e.1 ≠ .forget name := by
  constructor
  · rintro ⟨before, after, h, hafter⟩
    rcases List.eq_nil_or_concat after with rfl | ⟨after, last, rfl⟩
    · exact .inl (List.singleton_inj.mp (List.append_inj_right' h rfl))
    · rw [List.concat_eq_append, ← List.cons_append, ← List.append_assoc] at h
      obtain ⟨rfl, hlast⟩ := List.append_inj' h rfl
      obtain rfl := List.singleton_inj.mp hlast
      exact .inr ⟨⟨before, after, rfl, fun e he => hafter e (by simp [he])⟩, hafter e (by simp)⟩
  · rintro (rfl | ⟨⟨before, after, rfl, hafter⟩, he⟩)
    · exact ⟨history, [], rfl, by simp⟩
    · refine ⟨before, after ++ [e], by simp, fun e' he' => ?_⟩
      rcases List.mem_append.mp he' with h | h
      · exact hafter e' h
      · rwa [List.mem_singleton.mp h]

/-- What the scopes of a chain have been asked and have answered, in order. -/
structure Histories where
  /-- The history of the innermost scope. -/
  inner : List (Step × Answer)
  /-- The histories of the enclosing scopes, from the inside out. -/
  outer : List (List (Step × Answer))

/-- A request is served by the innermost scope, except for those that open or close a scope. -/
def Histories.note (h : Histories) (s : Step) (a : Answer) : Histories :=
  match s with
  | .enter => ⟨[], h.inner :: h.outer⟩
  | .leave =>
    match h.outer with
    | [] => h
    | inner :: outer => ⟨inner, outer⟩
  | .reserve _ | .newName _ | .forget _ | .rotate _ | .isTaken _ => { h with inner := h.inner ++ [(s, a)] }

/-- The histories after further requests. -/
def Histories.after (h : Histories) (ns : Namespace) : List Step → Histories
  | [] => h
  | s :: steps => (h.note s (ns.step s).1).after (ns.step s).2 steps

/-- What the scope that is the innermost one after these requests has been asked, from a namespace that held
nothing. -/
def history (steps : List Step) : List (Step × Answer) := (Histories.after ⟨[], []⟩ empty steps).inner

/-- The queues of a scope list the live names of its history, each once, and the scope holds them. -/
structure Recalls (history : List (Step × Answer)) (s : Scope) : Prop where
  nodup : ∀ base, (queueOf base s.generated).Nodup
  live : ∀ base name, name ∈ queueOf base s.generated ↔ Live history base name
  held : ∀ base, ∀ name ∈ queueOf base s.generated, name ∈ s.taken

theorem recalls_empty : Recalls [] .empty where
  nodup _ := List.nodup_nil
  live _ _ := iff_of_false List.not_mem_nil not_live_nil
  held _ _ h := absurd h List.not_mem_nil

section Requests

variable {past : List (Step × Answer)} (h : Recalls past ns.inner)

include h

/-- A request that neither makes up nor gives up a name may hold further names and change the order in a queue. -/
theorem Recalls.concat {e : Step × Answer} {s : Scope} (hnew : ∀ base name, e ≠ (.newName base, .name name))
    (hforget : ∀ name, e.1 ≠ .forget name) (htaken : ns.inner.taken ⊆ s.taken)
    (hperm : ∀ base, (queueOf base s.generated).Perm (ns.queue base)) : Recalls (past ++ [e]) s where
  nodup base := (hperm base).nodup_iff.mpr (h.nodup base)
  live base name := by
    rw [(hperm base).mem_iff, live_concat, queue, h.live base name]
    exact ⟨fun hlive => .inr ⟨hlive, hforget name⟩, fun hlive => (hlive.resolve_left (hnew base name)).1⟩
  held base name hname := htaken (h.held base name ((hperm base).mem_iff.mp hname))

theorem Recalls.newName (base : String) :
    Recalls (past ++ [(.newName base, .name (ns.newName base).1)]) (ns.newName base).2.inner := by
  set new := ns.freshName base
  have hqueue (b : String) : queueOf b (ns.newName base).2.inner.generated =
      ns.queue b ++ if b = base then [new] else [] := queueOf_enqueue b
  have hfresh (b : String) : new ∉ ns.queue b := by
    intro hmem
    have hheld : new ∈ ns.held := List.mem_flatMap.mpr ⟨ns.inner, List.mem_cons_self, h.held b new hmem⟩
    exact (isTaken_eq_false_iff.mp (freshName_free ns base)).2 hheld
  have hadded {b n : String} : (n ∈ if b = base then [new] else []) ↔ b = base ∧ n = new := by
    split_ifs with hb <;> simp [hb]
  refine ⟨fun b => ?_, fun b n => ?_, fun b n hn => ?_⟩
  · rw [hqueue]
    refine List.nodup_append.mpr ⟨h.nodup b, by split_ifs <;> simp, fun n hn m hm hnm => ?_⟩
    rw [hnm, (hadded.mp hm).2] at hn
    exact hfresh b hn
  · have hlive := h.live b n
    rw [hqueue, List.mem_append, hadded, live_concat, ← hlive]
    simp [queue, new, Namespace.newName, or_comm, eq_comm]
  · rw [hqueue, List.mem_append, hadded] at hn
    rcases hn with hn | ⟨-, rfl⟩
    · exact .tail _ (h.held b n hn)
    · exact List.mem_cons_self

theorem Recalls.forget (name : String) (a : Answer) : Recalls (past ++ [(.forget name, a)]) (ns.forget name).inner := by
  have hqueue (b : String) : queueOf b (ns.forget name).inner.generated = (ns.queue b).filter (· != name) :=
    queueOf_filter _
  refine ⟨fun b => ?_, fun b n => ?_, fun b n hn => ?_⟩
  · rw [hqueue]
    exact (h.nodup b).filter _
  · have hlive := h.live b n
    rw [hqueue, List.mem_filter, queue, hlive, live_concat]
    simp only [Prod.mk.injEq, reduceCtorEq, false_and, false_or, bne_iff_ne, ne_eq, Step.forget.injEq, @eq_comm _ n]
  · rw [hqueue, List.mem_filter] at hn
    exact List.mem_filter.mpr ⟨h.held b n hn.1, hn.2⟩

theorem Recalls.rotate (base : String) :
    Recalls (past ++ [(.rotate base, (ns.step (.rotate base)).1)]) (ns.step (.rotate base)).2.inner := by
  obtain ⟨htaken, -, hother⟩ := step_rotate_frame ns base
  refine h.concat (by simp) (by simp) (htaken ▸ List.Subset.refl _) fun b => ?_
  by_cases hb : b = base
  · subst hb
    exact perm_queue_step_rotate ns b
  · exact .of_eq (hother b hb)

end Requests

theorem step_reserve_cases (ns : Namespace) (name : String) :
    (ns.step (.reserve name)).2 = ns ∨ (ns.step (.reserve name)).2 = ns.hold name := by
  rw [step]
  unfold reserve
  split_ifs
  · exact .inl rfl
  · exact .inl rfl
  · exact .inr rfl

/-- The histories fit the scopes of a chain, one for each. -/
structure Fits (h : Histories) (ns : Namespace) : Prop where
  inner : Recalls h.inner ns.inner
  outer : List.Forall₂ Recalls h.outer ns.outer

theorem Fits.step {h : Histories} (hfits : Fits h ns) (s : Step) : Fits (h.note s (ns.step s).1) (ns.step s).2 := by
  obtain ⟨hinner, houter⟩ := hfits
  cases s with
  | reserve name =>
    rcases step_reserve_cases ns name with hstep | hstep
    · rw [hstep]
      exact ⟨hinner.concat (by simp) (by simp) (List.Subset.refl _) fun _ => .refl _, houter⟩
    · rw [hstep]
      exact ⟨hinner.concat (by simp) (by simp) (List.subset_cons_self _ _) fun _ => .refl _, houter⟩
  | newName base => exact ⟨hinner.newName base, houter⟩
  | forget name => exact ⟨hinner.forget name .done, houter⟩
  | rotate base =>
    obtain ⟨-, hsame, -⟩ := step_rotate_frame ns base
    exact ⟨hinner.rotate base, hsame.symm ▸ houter⟩
  | isTaken name => exact ⟨hinner.concat (by simp) (by simp) (List.Subset.refl _) fun _ => .refl _, houter⟩
  | enter => exact ⟨recalls_empty, .cons hinner houter⟩
  | leave =>
    obtain ⟨past, pasts⟩ := h
    obtain ⟨scope, scopes⟩ := ns
    cases houter with
    | nil => exact ⟨hinner, .nil⟩
    | cons hscope hscopes => exact ⟨hscope, hscopes⟩

theorem Fits.run {h : Histories} (hfits : Fits h ns) (steps : List Step) :
    Fits (h.after ns steps) (ns.run steps).2 := by
  induction steps generalizing h ns with
  | nil => exact hfits
  | cons s steps ih => exact ih (hfits.step s)

/-! ### Rounds -/

/-- **A base goes fairly through its names.** After any requests, going to the next name of a base is refused, and
changes nothing, exactly if the innermost scope has given up every name that it made up for this base. As many calls as
there are other names give each of them once, and leave the namespace as it was. A call changes neither what is taken,
nor the queue of another base, nor an outer scope. -/
theorem rotate_fair (steps : List Step) (base : String) :
    let ns := (empty.run steps).2
    let live := Live (history steps) base
    (ns.step (.rotate base) = (.refused (.notGenerated base), ns) ↔ ∀ name, ¬ live name) ∧
      (∃ names : List String, names.Nodup ∧ (∀ name, name ∈ names ↔ live name) ∧
        ns.run (List.replicate names.length (.rotate base)) = (names.map .name, ns)) ∧
      (∀ name, (ns.step (.rotate base)).2.isTaken name = ns.isTaken name) ∧
      (∀ other ≠ base, (ns.step (.rotate base)).2.queue other = ns.queue other) ∧
      (ns.step (.rotate base)).2.outer = ns.outer := by
  intro ns live
  have hrecalls : Recalls (history steps) ns.inner :=
    (Fits.run ⟨recalls_empty, .nil⟩ steps : Fits (Histories.after ⟨[], []⟩ empty steps) ns).inner
  have hlive (name : String) : name ∈ ns.queue base ↔ live name := hrecalls.live base name
  have hround : ns.run (List.replicate (ns.queue base).length (.rotate base)) = ((ns.queue base).map .name, ns) := by
    have hrun := run_rotate (List.append_nil (ns.queue base)).symm
    rwa [List.nil_append, withQueue_queue] at hrun
  refine ⟨?_, ⟨ns.queue base, hrecalls.nodup base, hlive, hround⟩, ?_⟩
  · simp only [← hlive, ← List.eq_nil_iff_forall_not_mem]
    rcases step_rotate_cases ns base with ⟨hqueue, hstep⟩ | ⟨name, names, hqueue, hstep⟩
    · exact iff_of_true hstep hqueue
    · simp [hstep, hqueue]
  · obtain ⟨htaken, houter, hother⟩ := step_rotate_frame ns base
    exact ⟨fun name => by simp [isTaken, scopes, htaken, houter], hother, houter⟩

end GoSchema.Name.Namespace
