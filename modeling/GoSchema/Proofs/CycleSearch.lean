import GoSchema.Proofs.Soundness
import Mathlib.Logic.Function.Iterate

/-!
# The search for cycles, moment by moment

`Cycle.search` as it goes on. At each moment every node has a mark, and the visits that are going on lie on a stack, the
innermost on top, each with the successors that it has still to visit. A step begins a visit, passes over a node that is
done, finds a cycle, or ends a visit. Nothing else is remembered: that a node is on the path is seen from its mark alone.

Two results tie the steps to the search. The marks are right at each moment: the active nodes are those on the path, and no
endless walk starts at a node that is done (`Coherent.phase`). And the steps come to an end, with the answer of the search
(`search_leads`): each call of `visit` is a number of steps, which begin and end with the same stack, and it is made at a
moment that has the path and the nodes done of the call (`Calls.moment`). So the search for cycles of constants is a
depth-first search (`Program.constant_search`).

That the answer is right is not proved here once more: `Cycle.search_isOk_iff` says it of the search itself. What
this module adds is what happens on the way, and that the two are one search.
-/

namespace GoSchema

open Relation

namespace Cycle

/-- How far the visit of a node has come. -/
inductive Mark where
  | pending
  | active
  | done
  deriving DecidableEq

/-- A visit that is going on. -/
structure Visit where
  node : Nat
  /-- The successors that are still to be visited. -/
  left : List Nat
  deriving DecidableEq

/-- A moment of the search. -/
structure Moment where
  marks : Nat → Mark
  /-- The visits that are going on, the innermost first. -/
  visits : List Visit
  /-- The nodes from which the search has still to start. -/
  starts : List Nat

/-- What comes next in the search. -/
inductive Phase where
  /-- The search goes on. -/
  | on (m : Moment)
  /-- A node was found that lies on a cycle. -/
  | cycle (i : Nat)
  | ended

/-- The nodes whose visits are going on, the innermost first. -/
def Moment.path (m : Moment) : List Nat := m.visits.map Visit.node

/-- A node is to be visited: it is passed over if it is done, closes a cycle if it is active, and else its visit begins. -/
def Moment.enter (next : Nat → List Nat) (m : Moment) (i : Nat) : Phase :=
  match m.marks i with
  | .done => .on m
  | .active => .cycle i
  | .pending =>
    .on { m with marks := Function.update m.marks i .active, visits := ⟨i, next i⟩ :: m.visits }

/-- One step: the innermost visit goes on with its next successor, or ends; without a visit, the search starts anew. -/
def Moment.step (next : Nat → List Nat) : Moment → Phase
  | ⟨_, [], []⟩ => .ended
  | ⟨marks, [], i :: starts⟩ => Moment.enter next ⟨marks, [], starts⟩ i
  | ⟨marks, ⟨i, []⟩ :: visits, starts⟩ => .on ⟨Function.update marks i .done, visits, starts⟩
  | ⟨marks, ⟨i, j :: left⟩ :: visits, starts⟩ => Moment.enter next ⟨marks, ⟨i, left⟩ :: visits, starts⟩ j

/-- The node that is visited next, unless the innermost visit ends first. -/
def Moment.upcoming (m : Moment) : Option Nat := (m.visits.head?.elim m.starts Visit.left).head?

/-- What comes after a phase; at its end the search stays as it is. -/
def Phase.advance (next : Nat → List Nat) : Phase → Phase
  | .on m => m.step next
  | .cycle i => .cycle i
  | .ended => .ended

/-- The beginning of a search through the nodes below `n`. -/
def Moment.first (n : Nat) : Moment := ⟨fun _ => .pending, [], List.range n⟩

/-- The search through the nodes below `n`, after `k` steps. -/
def phase (next : Nat → List Nat) (n k : Nat) : Phase := (Phase.advance next)^[k] (.on (.first n))

variable {next : Nat → List Nat} {n : Nat}

theorem phase_succ (k : Nat) : phase next n (k + 1) = (phase next n k).advance next :=
  Function.iterate_succ_apply' _ _ _

theorem Moment.step_of_upcoming (m : Moment) (next : Nat → List Nat) {i : Nat} (h : m.upcoming = some i) :
    ∃ visits starts, m.step next = Moment.enter next ⟨m.marks, visits, starts⟩ i ∧ visits.map Visit.node = m.path := by
  obtain ⟨marks, _ | ⟨⟨j, left⟩, visits⟩, starts⟩ := m
  · obtain ⟨starts, rfl⟩ := List.head?_eq_some_iff.mp h
    exact ⟨[], starts, rfl, rfl⟩
  · obtain ⟨left, rfl⟩ := List.head?_eq_some_iff.mp h
    exact ⟨⟨j, left⟩ :: visits, starts, rfl, rfl⟩

/-! ### The marks are right -/

/-- Each successor of a node whose visit is going on is still to be visited, or done, or being visited in the visit just
above, where `above` is the node of the visit above all these. -/
def Waits (next : Nat → List Nat) (marks : Nat → Mark) : (above : Option Nat) → List Visit → Prop
  | _, [] => True
  | above, v :: vs =>
    (∀ j ∈ next v.node, j ∈ v.left ∨ marks j = .done ∨ above = some j) ∧ Waits next marks (some v.node) vs

theorem Waits.mono {marks marks' : Nat → Mark} (hdone : ∀ j, marks j = .done → marks' j = .done) {above : Option Nat}
    {vs : List Visit} (h : Waits next marks above vs) : Waits next marks' above vs := by
  induction vs generalizing above with
  | nil => trivial
  | cons v vs ih => exact ⟨fun j hj => (h.1 j hj).imp id (.imp (hdone j) id), ih h.2⟩

/-- A node that is done need not be above. -/
theorem Waits.settle {marks : Nat → Mark} {i : Nat} {vs : List Visit} (h : Waits next marks (some i) vs)
    (hdone : marks i = .done) : Waits next marks none vs := by
  cases vs with
  | nil => trivial
  | cons v vs =>
    refine ⟨fun j hj => ?_, h.2⟩
    rcases h.1 j hj with hleft | hmark | habove
    · exact .inl hleft
    · exact .inr (.inl hmark)
    · exact .inr (.inl (Option.some.inj habove ▸ hdone))

/-- The marks fit the visits that are going on, while `above` is about to be visited. -/
structure Coherent (next : Nat → List Nat) (above : Option Nat) (m : Moment) : Prop where
  active : ∀ i, m.marks i = .active ↔ i ∈ m.path
  nodup : m.path.Nodup
  grounded : ∀ i, m.marks i = .done → Grounded next i
  waits : Waits next m.marks above m.visits

namespace Coherent

theorem first (next : Nat → List Nat) (n : Nat) : Coherent next none (.first n) :=
  ⟨fun _ => ⟨nofun, nofun⟩, List.nodup_nil, nofun, trivial⟩

theorem enter {m m' : Moment} {i : Nat} (h : Coherent next (some i) m) (hm : m.enter next i = .on m') :
    Coherent next none m' := by
  unfold Moment.enter at hm
  split at hm
  next hdone =>
    cases hm
    exact ⟨h.active, h.nodup, h.grounded, h.waits.settle hdone⟩
  next => cases hm
  next hpending =>
    cases hm
    have hnew : i ∉ m.path := fun hmem => by
      rw [(h.active i).mpr hmem] at hpending
      cases hpending
    refine ⟨fun j => ?_, List.nodup_cons.mpr ⟨hnew, h.nodup⟩, fun j hj => ?_, ?_, ?_⟩
    · by_cases hij : j = i
      · simp [hij, Moment.path]
      · simpa [hij, Moment.path] using h.active j
    · by_cases hij : j = i
      · simp [hij] at hj
      · exact h.grounded j (by simpa [hij] using hj)
    · exact fun j hj => .inl hj
    · refine h.waits.mono fun j hj => ?_
      have hij : j ≠ i := fun hij => by
        rw [hij, hpending] at hj
        cases hj
      simpa [hij] using hj

/-- A visit that ends has visited all successors of its node, so that no endless walk starts there. -/
theorem leave {marks : Nat → Mark} {i : Nat} {visits : List Visit} {starts : List Nat}
    (h : Coherent next none ⟨marks, ⟨i, []⟩ :: visits, starts⟩) :
    Coherent next none ⟨Function.update marks i .done, visits, starts⟩ := by
  obtain ⟨hi, hnodup⟩ := List.nodup_cons.mp h.nodup
  have hactive : marks i = .active := (h.active i).mpr List.mem_cons_self
  have hdone : ∀ j, marks j = .done → Function.update marks i .done j = .done := by
    intro j hj
    by_cases hij : j = i <;> simp [hij, hj]
  refine ⟨fun j => ?_, hnodup, fun j hj => ?_, ?_⟩
  · by_cases hij : j = i
    · subst hij
      simpa [Moment.path] using hi
    · simpa [hij, Moment.path] using h.active j
  · by_cases hij : j = i
    · subst hij
      refine Acc.intro _ fun k hk => h.grounded k ?_
      rcases h.waits.1 k hk with hleft | hmark | habove
      · cases hleft
      · exact hmark
      · cases habove
    · exact h.grounded j (by simpa [hij] using hj)
  · exact (h.waits.2.mono hdone).settle (by simp)

theorem step {m m' : Moment} (h : Coherent next none m) (hm : m.step next = .on m') : Coherent next none m' := by
  unfold Moment.step at hm
  split at hm
  next => cases hm
  next marks i starts => exact enter (m := ⟨marks, [], starts⟩) ⟨h.active, h.nodup, h.grounded, trivial⟩ hm
  next marks i visits starts =>
    cases hm
    exact h.leave
  next marks i j left visits starts =>
    refine enter (m := ⟨marks, ⟨i, left⟩ :: visits, starts⟩) ⟨h.active, h.nodup, h.grounded, fun k hk => ?_, h.waits.2⟩ hm
    rcases h.waits.1 k hk with hleft | hmark | habove
    · rcases List.mem_cons.mp hleft with rfl | hleft
      · exact .inr (.inr rfl)
      · exact .inl hleft
    · exact .inr (.inl hmark)
    · cases habove

/-- At each moment of the search the marks are right. -/
theorem phase {k : Nat} {m : Moment} (h : Cycle.phase next n k = .on m) : Coherent next none m := by
  induction k generalizing m with
  | zero =>
    cases h
    exact first next n
  | succ k ih =>
    rw [phase_succ] at h
    cases hk : Cycle.phase next n k with
    | on m₁ =>
      rw [hk] at h
      exact (ih hk).step h
    | cycle _ | ended =>
      rw [hk] at h
      cases h

end Coherent

/-- No walk from a node without endless walks comes to a cycle. -/
theorem Grounded.not_transGen_of_reach {a b : Nat} (h : Grounded next a) (hab : ReflTransGen (Edge next) a b) :
    ¬ TransGen (Edge next) b b := by
  have hb : Grounded next b := by
    induction hab with
    | refl => exact h
    | tail _ hedge ih => exact Acc.inv ih hedge
  exact hb.not_transGen

/-! ### The steps come to an end -/

/-- Some steps lead from one phase to another. -/
def Leads (next : Nat → List Nat) (a b : Phase) : Prop := ∃ k, (Phase.advance next)^[k] a = b

theorem Leads.refl (a : Phase) : Leads next a a := ⟨0, rfl⟩

theorem Leads.trans {a b c : Phase} (hab : Leads next a b) (hbc : Leads next b c) : Leads next a c := by
  obtain ⟨k, rfl⟩ := hab
  obtain ⟨l, rfl⟩ := hbc
  exact ⟨l + k, Function.iterate_add_apply _ l k a⟩

/-- The first step of a moment. -/
theorem Leads.head {m : Moment} {b : Phase} (h : Leads next (m.step next) b) : Leads next (.on m) b :=
  Leads.trans ⟨1, rfl⟩ h

/-- The marks when these nodes are on the path and these are done. -/
def paint (path done : List Nat) (i : Nat) : Mark :=
  if i ∈ done then .done else if i ∈ path then .active else .pending

theorem paint_eq_done {path done : List Nat} {i : Nat} : paint path done i = .done ↔ i ∈ done := by
  unfold paint
  split_ifs <;> simp_all

theorem paint_nil : paint [] [] = fun _ => .pending := by
  funext i
  simp [paint]

theorem paint_enter {path done : List Nat} {i : Nat} (hdone : i ∉ done) :
    Function.update (paint path done) i .active = paint (i :: path) done := by
  funext j
  by_cases hij : j = i
  · simp [paint, hij, hdone]
  · simp [paint, hij]

theorem paint_leave (path done : List Nat) (i : Nat) :
    Function.update (paint (i :: path) done) i .done = paint path (i :: done) := by
  funext j
  by_cases hij : j = i <;> simp [paint, hij]

/-- The phase that an answer of the search stands for: it goes on with the nodes that are done, or there is a cycle. -/
def Phase.ofAnswer (on : List Nat → Moment) : Except Nat (List Nat) → Phase
  | .ok done => .on (on done)
  | .error i => .cycle i

/-- Visits in a row, with others to come. The moments `feed js marks` have still the nodes `js` to visit. -/
theorem foldlM_leads (feed : List Nat → (Nat → Mark) → Moment)
    (hfeed : ∀ j js marks, (feed (j :: js) marks).step next = (feed js marks).enter next j)
    {f : List Nat → Nat → Except Nat (List Nat)} {path : List Nat} (js rest done : List Nat)
    (hf : ∀ j ∈ js, ∀ js' done, Leads next ((feed js' (paint path done)).enter next j)
      (.ofAnswer (fun done => feed js' (paint path done)) (f done j))) :
    Leads next (.on (feed (js ++ rest) (paint path done)))
      (.ofAnswer (fun done => feed rest (paint path done)) (js.foldlM f done)) := by
  induction js generalizing done with
  | nil => exact .refl _
  | cons j js ih =>
    obtain ⟨hj, hjs⟩ := List.forall_mem_cons.mp hf
    refine .head (hfeed j (js ++ rest) _ ▸ (hj (js ++ rest) done).trans ?_)
    rw [List.foldlM_cons]
    cases f done j with
    | error i => exact .refl _
    | ok done' => exact ih done' hjs

section

variable {path done : List Nat} {i : Nat}

theorem visit_of_done (hdone : i ∈ done) (depth : Nat) : visit next depth path done i = .ok done := by
  unfold visit
  rw [if_pos hdone]

theorem visit_of_path (hdone : i ∉ done) (hpath : i ∈ path) (depth : Nat) :
    visit next depth path done i = .error i := by
  unfold visit
  rw [if_neg hdone, if_pos hpath]

theorem visit_succ (hdone : i ∉ done) (hpath : i ∉ path) (depth : Nat) :
    visit next (depth + 1) path done i =
      (next i).foldlM (visit next depth (i :: path)) done >>= fun done => .ok (i :: done) := by
  rw [visit, if_neg hdone, if_neg hpath]
  cases (next i).foldlM (visit next depth (i :: path)) done <;> rfl

variable (visits : List Visit) (starts : List Nat)

theorem enter_of_done (hdone : i ∈ done) :
    Moment.enter next ⟨paint path done, visits, starts⟩ i = .on ⟨paint path done, visits, starts⟩ := by
  simp [Moment.enter, paint, hdone]

theorem enter_of_path (hdone : i ∉ done) (hpath : i ∈ path) :
    Moment.enter next ⟨paint path done, visits, starts⟩ i = .cycle i := by
  simp [Moment.enter, paint, hdone, hpath]

theorem enter_of_new (hdone : i ∉ done) (hpath : i ∉ path) :
    Moment.enter next ⟨paint path done, visits, starts⟩ i =
      .on ⟨paint (i :: path) done, ⟨i, next i⟩ :: visits, starts⟩ := by
  rw [← paint_enter hdone]
  simp [Moment.enter, paint, hdone, hpath]

end

/-- A call of `visit` is a number of steps, after which the stack is what it was. By induction on the levels left. -/
theorem visit_leads (hnext : ∀ a, ∀ b ∈ next a, b < n) :
    ∀ (depth : Nat) (path done : List Nat) (i : Nat), OnPath next n depth path i →
      ∀ (visits : List Visit) (starts : List Nat),
        Leads next (Moment.enter next ⟨paint path done, visits, starts⟩ i)
          (.ofAnswer (fun done => ⟨paint path done, visits, starts⟩) (visit next depth path done i)) := by
  intro depth path done i h visits starts
  by_cases hdone : i ∈ done
  · rw [visit_of_done hdone, enter_of_done visits starts hdone]
    exact .refl _
  by_cases hpath : i ∈ path
  · rw [visit_of_path hdone hpath, enter_of_path visits starts hdone hpath]
    exact .refl _
  cases depth with
  | zero => exact absurd (h.depth_pos hpath) (Nat.lt_irrefl 0)
  | succ depth =>
    have hfold := foldlM_leads (fun js marks => ⟨marks, ⟨i, js⟩ :: visits, starts⟩) (fun _ _ _ => rfl)
      (next i) [] done fun j hj js' done' =>
        visit_leads hnext depth (i :: path) done' j (h.push hpath hj (hnext i j hj)) (⟨i, js'⟩ :: visits) starts
    rw [List.append_nil] at hfold
    rw [visit_succ hdone hpath, enter_of_new visits starts hdone hpath]
    refine hfold.trans ?_
    cases (next i).foldlM (visit next depth (i :: path)) done with
    | error j => exact .refl _
    | ok done' =>
      -- All successors are done, so one more step ends the visit.
      refine .head ?_
      change Leads next (.on ⟨Function.update (paint (i :: path) done') i .done, visits, starts⟩) _
      rw [paint_leave]
      exact .refl _

/-- The search starts from these nodes, with others to come. -/
theorem starts_lead (hnext : ∀ a, ∀ b ∈ next a, b < n) {js : List Nat} (hjs : ∀ j ∈ js, j < n) (rest : List Nat) :
    Leads next (.on ⟨paint [] [], [], js ++ rest⟩)
      (.ofAnswer (fun done => ⟨paint [] done, [], rest⟩) (js.foldlM (visit next n []) [])) :=
  foldlM_leads (fun js marks => ⟨marks, [], js⟩) (fun _ _ _ => rfl) js rest [] fun j hj starts done =>
    visit_leads hnext n [] done j (.start (hjs j hj)) [] starts

/-- The steps come to the end at which the search arrives. -/
theorem search_leads (hnext : ∀ a, ∀ b ∈ next a, b < n) :
    ∃ k, (∃ done, search next n = .ok done ∧ phase next n k = .ended) ∨
      ∃ i, search next n = .error i ∧ phase next n k = .cycle i := by
  have hfold := starts_lead hnext (fun j => List.mem_range.mp) []
  rw [List.append_nil, paint_nil] at hfold
  change Leads next (.on (.first n)) (.ofAnswer _ (search next n)) at hfold
  cases hsearch : search next n with
  | error i =>
    rw [hsearch] at hfold
    obtain ⟨k, hk⟩ := hfold
    exact ⟨k, .inr ⟨i, rfl, hk⟩⟩
  | ok done =>
    rw [hsearch] at hfold
    obtain ⟨k, hk⟩ := hfold.trans (.head (.refl _))
    exact ⟨k, .inl ⟨done, rfl, hk⟩⟩

/-! ### Calls and moments -/

/-- The search calls `visit` with these arguments. -/
inductive Calls (next : Nat → List Nat) (n : Nat) : (depth : Nat) → (path done : List Nat) → (i : Nat) → Prop where
  /-- The search starts from a node, after all those before it. -/
  | start {before after done : List Nat} {i : Nat} :
      List.range n = before ++ i :: after → before.foldlM (visit next n []) [] = .ok done → Calls next n n [] done i
  /-- A visit goes on with a successor, after all those before it. -/
  | inner {depth : Nat} {path done : List Nat} {i : Nat} {before after done' : List Nat} {j : Nat} :
      Calls next n (depth + 1) path done i → i ∉ done → i ∉ path → next i = before ++ j :: after →
      before.foldlM (visit next depth (i :: path)) done = .ok done' → Calls next n depth (i :: path) done' j

theorem Calls.onPath (hnext : ∀ a, ∀ b ∈ next a, b < n) {depth : Nat} {path done : List Nat} {i : Nat}
    (h : Calls next n depth path done i) : OnPath next n depth path i := by
  induction h with
  | start hrange _ => exact .start (List.mem_range.mp (by simp [hrange]))
  | @inner _ _ _ i _ _ _ j _ _ hpath hsplit _ ih =>
    have hedge : j ∈ next i := by simp [hsplit]
    exact ih.push hpath hedge (hnext i j hedge)

/-- Each call is made at some moment: the node is next, the stack is the path, and the marks are those of the path and of
the nodes that are done. -/
theorem Calls.moment (hnext : ∀ a, ∀ b ∈ next a, b < n) {depth : Nat} {path done : List Nat} {i : Nat}
    (h : Calls next n depth path done i) :
    ∃ m, Leads next (.on (.first n)) (.on m) ∧ m.upcoming = some i ∧ m.path = path ∧ m.marks = paint path done := by
  induction h with
  | @start before after done i hrange hbefore =>
    have hlt : ∀ j ∈ before, j < n := fun j hj => List.mem_range.mp (by simp [hrange, hj])
    have hfold := starts_lead hnext hlt (i :: after)
    rw [← hrange, paint_nil, hbefore] at hfold
    exact ⟨_, hfold, rfl, rfl, rfl⟩
  | @inner depth path done i before after done' j hcall hdone hpath hsplit hbefore ih =>
    obtain ⟨m, hm, hupcoming, rfl, hmarks⟩ := ih
    obtain ⟨visits, starts, hstep, hvisits⟩ := m.step_of_upcoming next hupcoming
    have hbegins : Leads next (.on m) (.on ⟨paint (i :: m.path) done, ⟨i, next i⟩ :: visits, starts⟩) := by
      refine .head ?_
      rw [hstep, hmarks, enter_of_new visits starts hdone hpath]
      exact .refl _
    have hvisit : ∀ k ∈ before, OnPath next n depth (i :: m.path) k := by
      intro k hk
      have hedge : k ∈ next i := by simp [hsplit, hk]
      exact (hcall.onPath hnext).push hpath hedge (hnext i k hedge)
    have hfold := foldlM_leads (fun js marks => ⟨marks, ⟨i, js⟩ :: visits, starts⟩) (fun _ _ _ => rfl)
      before (j :: after) done fun k hk js' done' =>
        visit_leads hnext depth (i :: m.path) done' k (hvisit k hk) (⟨i, js'⟩ :: visits) starts
    rw [← hsplit, hbefore] at hfold
    exact ⟨_, hm.trans (hbegins.trans hfold), rfl, congrArg (i :: ·) hvisits, rfl⟩

end Cycle

namespace Program

variable {p : Program}

/-- The search for cycles of constants, after `k` steps. -/
def constantPhase (p : Program) (k : Nat) : Cycle.Phase := Cycle.phase p.constantEdges p.constants.length k

/-- **Cycles of constants are found by a depth-first search.** Let all constants be there that constants mention. The
search comes to an end, with the answer of the check; a constant that it names reaches itself. At each moment the active
constants are those on the path of visits that are going on, and a constant that is done reaches no cycle. Each call that
the check makes is one of these moments, with its path and with the constants that are done. -/
theorem constant_search (h : ∀ a b, p.Mentions a b → b < p.constants.length) :
    (∃ k, (p.constantPhase k = .ended ∧ p.checkConstantCycles = .ok ()) ∨
      ∃ i c, p.constantPhase k = .cycle i ∧ p.constants[i]? = some c ∧
        p.checkConstantCycles = .error (.constantCycle c.name (p.pathOf c.file)) ∧ TransGen p.Mentions i i) ∧
    (∀ k m, p.constantPhase k = .on m →
      (∀ i, m.marks i = .active ↔ i ∈ m.path) ∧
      ∀ i, m.marks i = .done → ∀ j, ReflTransGen p.Mentions i j → ¬ TransGen p.Mentions j j) ∧
    ∀ depth path done i, Cycle.Calls p.constantEdges p.constants.length depth path done i →
      ∃ k m, p.constantPhase k = .on m ∧ m.upcoming = some i ∧ m.path = path ∧
        ∀ j, m.marks j = .done ↔ j ∈ done := by
  have hnext : ∀ a, ∀ b ∈ p.constantEdges a, b < p.constants.length := fun a b hb => h a b (mem_constantEdges.mp hb)
  refine ⟨?_, fun k m hm => ?_, fun depth path done i hcall => ?_⟩
  · obtain ⟨k, ⟨done, hsearch, hk⟩ | ⟨i, hsearch, hk⟩⟩ := Cycle.search_leads hnext
    · refine ⟨k, .inl ⟨hk, ?_⟩⟩
      rw [checkConstantCycles, hsearch]
    · have hcycle := Cycle.transGen_of_search_error hnext hsearch
      rw [edge_constantEdges] at hcycle
      obtain ⟨_, ⟨c, _, hget, _⟩, _⟩ := TransGen.head'_iff.mp hcycle
      refine ⟨k, .inr ⟨i, c, hk, hget, ?_, hcycle⟩⟩
      rw [checkConstantCycles, hsearch]
      dsimp only
      rw [hget]
  · have hcoherent := Cycle.Coherent.phase hm
    refine ⟨hcoherent.active, fun i hi j hij => ?_⟩
    rw [← edge_constantEdges] at hij ⊢
    exact (hcoherent.grounded i hi).not_transGen_of_reach hij
  · obtain ⟨m, ⟨k, hk⟩, hupcoming, hpath, hmarks⟩ := hcall.moment hnext
    exact ⟨k, m, hk, hupcoming, hpath, fun j => by rw [hmarks, Cycle.paint_eq_done]⟩

/-- A constant that leads to two others, which mention each other. -/
def braid : Program :=
  { Program.empty with
    files := [⟨"a.thrift", "ex/a", "a"⟩]
    constants :=
      [⟨"A", ⟨0⟩, .list (.base .i32), .list [.int 1, .constant ⟨1⟩], .empty⟩,
       ⟨"B", ⟨0⟩, .map (.base .string) (.base .i32), .map [(.string "k", .constant ⟨2⟩)], .empty⟩,
       ⟨"C", ⟨0⟩, .base .i32, .constant ⟨1⟩, .empty⟩] }

theorem constant_search_braid :
    (∀ a b, braid.Mentions a b → b < braid.constants.length) ∧
      (∃ m, braid.constantPhase 3 = .on m ∧ m.path = [2, 1, 0] ∧ m.marks 1 = .active) ∧
      (∃ k, braid.constantPhase k = .cycle 1) ∧ TransGen braid.Mentions 1 1 ∧
      Cycle.Calls braid.constantEdges 3 2 [0] [] 1 ∧
      ∃ k m, braid.constantPhase k = .on m ∧ m.upcoming = some 1 ∧ m.path = [0] := by
  have hrange : ∀ a b, braid.Mentions a b → b < braid.constants.length := by
    intro a b hab
    have hedge := mem_constantEdges.mpr hab
    obtain ⟨c, r, hget, -⟩ := hab
    have hlt : a < 3 := (List.getElem?_eq_some_iff.mp hget).1
    have hall : ∀ a < 3, ∀ b ∈ braid.constantEdges a, b < 3 := by decide +kernel
    exact hall a hlt b hedge
  obtain ⟨⟨k, hend⟩, hmoments, hcalls⟩ := constant_search hrange
  have hcheck : braid.checkConstantCycles = .error (.constantCycle "B" "a.thrift") := by decide +kernel
  obtain ⟨-, hok⟩ | ⟨i, c, hk, hget, herror, hcycle⟩ := hend
  · rw [hcheck] at hok
    cases hok
  have hname : c.name = "B" := (GraphError.constantCycle.inj (Except.error.inj (herror.symm.trans hcheck))).1
  obtain rfl : i = 1 := by
    have hnames : (braid.constants.map Constant.name)[i]? = some "B" := by simp [hget, hname]
    have hlt : i < 3 := (List.getElem?_eq_some_iff.mp hnames).1
    have hall : ∀ i < 3, (braid.constants.map Constant.name)[i]? = some "B" → i = 1 := by decide +kernel
    exact hall i hlt hnames
  obtain ⟨hactive, -⟩ := hmoments 3 _ rfl
  have hstart : List.range 3 = [] ++ 0 :: [1, 2] := by decide
  have hedges : braid.constantEdges 0 = [] ++ 1 :: [] := by decide +kernel
  have hcall : Cycle.Calls braid.constantEdges 3 2 [0] [] 1 :=
    .inner (.start hstart rfl) List.not_mem_nil List.not_mem_nil hedges rfl
  obtain ⟨l, m, hm, hupcoming, hpath, -⟩ := hcalls 2 [0] [] 1 hcall
  exact ⟨hrange, ⟨_, rfl, rfl, (hactive 1).mpr (by decide)⟩, ⟨k, hk⟩, hcycle, hcall, l, m, hm, hupcoming, hpath⟩

end Program

end GoSchema
