import GoSchema.Schema.Check
import Mathlib.Data.List.Perm.Subperm
import Mathlib.Logic.Relation

/-!
# What the search for cycles finds

`Cycle.search` succeeds exactly when the graph has no cycle, and a failure names a node that reaches
itself. Two invariants carry the proof. The nodes that are done are accessible: no endless walk starts
at one of them. Every node on the path reaches the node that is visited, so a node met on the path
again reaches itself.

The levels of `visit` never run out. The nodes on the path are different and lie below the bound, so a
path that has used up all levels holds every node, the one to be visited included.

## What is proved

* `Cycle.outcome_visit`: what one visit promises, by induction on the levels that are left. The nodes that it adds
  are done rightly, or the node that it names reaches itself.
* `Cycle.transGen_of_search_error` and `Cycle.not_transGen_of_search_ok`: both answers of the search are right.
* `Cycle.search_isOk_iff`: the search succeeds exactly when no node reaches itself.

The graph is any function that gives the successors of a number below the bound. Which graph the typedefs and the
constants of a program make is said where the checks of a program are treated.
-/

namespace GoSchema.Cycle

open Relation

variable {next : Nat → List Nat} {n : Nat}

/-- There is an edge from `a` to `b`. -/
def Edge (next : Nat → List Nat) (a b : Nat) : Prop := b ∈ next a

/-- No endless walk starts at `a`. -/
def Grounded (next : Nat → List Nat) (a : Nat) : Prop := Acc (fun b a => Edge next a b) a

theorem Grounded.not_transGen {a : Nat} (h : Grounded next a) : ¬ TransGen (Edge next) a a := by
  have hacc : Acc (TransGen fun b a => Edge next a b) a := Acc.transGen h
  intro hc
  have hself := transGen_swap.mpr hc
  clear h hc
  induction hacc with
  | intro a _ ih => exact ih a hself hself

/-- Different numbers below `n` number at most `n`. -/
theorem length_le_of_nodup_of_lt {path : List Nat} (hnd : path.Nodup) (hlt : ∀ j ∈ path, j < n) :
    path.length ≤ n := by
  have hsub : path ⊆ List.range n := fun j hj => List.mem_range.mpr (hlt j hj)
  simpa using (hnd.subperm hsub).length_le

/-- What holds when the node `i` is visited with `depth` levels left: the nodes on the path are
different, lie below the bound and reach `i`, and there is a level for every node that is not on the
path. -/
structure OnPath (next : Nat → List Nat) (n depth : Nat) (path : List Nat) (i : Nat) : Prop where
  nodup : path.Nodup
  lt : ∀ j ∈ path, j < n
  reaches : ∀ j ∈ path, TransGen (Edge next) j i
  room : n ≤ path.length + depth
  bound : i < n

theorem OnPath.start {i : Nat} (hi : i < n) : OnPath next n n [] i :=
  ⟨List.nodup_nil, by simp, by simp, by simp, hi⟩

/-- A node that is not on the path leaves a level to visit it. -/
theorem OnPath.depth_pos {depth : Nat} {path : List Nat} {i : Nat} (h : OnPath next n depth path i)
    (hi : i ∉ path) : 0 < depth := by
  have hlen : (i :: path).length ≤ n := by
    refine length_le_of_nodup_of_lt (List.nodup_cons.mpr ⟨hi, h.nodup⟩) fun j hj => ?_
    rcases List.mem_cons.mp hj with rfl | hj
    · exact h.bound
    · exact h.lt j hj
  have := h.room
  simp only [List.length_cons] at hlen
  omega

/-- Going on from `i` to one of its successors. -/
theorem OnPath.push {depth : Nat} {path : List Nat} {i k : Nat}
    (h : OnPath next n (depth + 1) path i) (hi : i ∉ path) (hk : Edge next i k) (hkn : k < n) :
    OnPath next n depth (i :: path) k := by
  refine ⟨List.nodup_cons.mpr ⟨hi, h.nodup⟩, ?_, ?_, ?_, hkn⟩
  · intro j hj
    rcases List.mem_cons.mp hj with rfl | hj
    · exact h.bound
    · exact h.lt j hj
  · intro j hj
    rcases List.mem_cons.mp hj with rfl | hj
    · exact .single hk
    · exact (h.reaches j hj).tail hk
  · have := h.room
    simp only [List.length_cons]
    omega

/-- What a visit of the nodes `is` gives: more nodes that are done, all of them grounded and the nodes
`is` among them, or a node that reaches itself. -/
def Outcome (next : Nat → List Nat) (done is : List Nat) : Except Nat (List Nat) → Prop
  | .ok done' => done ⊆ done' ∧ (∀ i ∈ is, i ∈ done') ∧ ∀ j ∈ done', Grounded next j
  | .error j => TransGen (Edge next) j j

/-- Visits in a row, each of which keeps its promise, keep it together. -/
theorem outcome_foldlM {f : List Nat → Nat → Except Nat (List Nat)} :
    ∀ (is done : List Nat), (∀ j ∈ done, Grounded next j) →
      (∀ i ∈ is, ∀ done, (∀ j ∈ done, Grounded next j) → Outcome next done [i] (f done i)) →
      Outcome next done is (is.foldlM f done)
  | [], done, hdone, _ => ⟨fun _ h => h, by simp, hdone⟩
  | i :: is, done, hdone, hf => by
    have hi := hf i (List.mem_cons_self ..) done hdone
    rw [List.foldlM_cons]
    cases hv : f done i with
    | error j => rw [hv] at hi; exact hi
    | ok done' =>
      rw [hv] at hi
      obtain ⟨hsub, hmem, hgr⟩ := hi
      have hrest := outcome_foldlM is done' hgr fun k hk => hf k (List.mem_cons_of_mem _ hk)
      show Outcome next done (i :: is) (is.foldlM f done')
      cases hr : is.foldlM f done' with
      | error j => rw [hr] at hrest; exact hrest
      | ok done'' =>
        rw [hr] at hrest
        obtain ⟨hsub', hmem', hgr'⟩ := hrest
        refine ⟨List.Subset.trans hsub hsub', fun k hk => ?_, hgr'⟩
        rcases List.mem_cons.mp hk with rfl | hk
        · exact hsub' (hmem _ (List.mem_singleton_self _))
        · exact hmem' k hk

/-- A visit keeps its promise: by induction on the levels left. -/
theorem outcome_visit (hnext : ∀ a, ∀ b ∈ next a, b < n) :
    ∀ (depth : Nat) (path done : List Nat) (i : Nat), OnPath next n depth path i →
      (∀ j ∈ done, Grounded next j) → Outcome next done [i] (visit next depth path done i) := by
  intro depth
  induction depth with
  | zero =>
    intro path done i hp hdone
    unfold visit
    split_ifs with hd hm
    · exact ⟨fun _ h => h, by simpa using hd, hdone⟩
    · exact hp.reaches i hm
    · exact absurd (hp.depth_pos hm) (Nat.lt_irrefl 0)
  | succ depth ih =>
    intro path done i hp hdone
    unfold visit
    split_ifs with hd hm
    · exact ⟨fun _ h => h, by simpa using hd, hdone⟩
    · exact hp.reaches i hm
    · have hfold := outcome_foldlM (f := visit next depth (i :: path)) (next i) done hdone
        fun k hk done' hdone' => ih (i :: path) done' k (hp.push hm hk (hnext i k hk)) hdone'
      dsimp only
      cases hv : (next i).foldlM (visit next depth (i :: path)) done with
      | error j => rw [hv] at hfold; exact hfold
      | ok done' =>
        rw [hv] at hfold
        obtain ⟨hsub, hmem, hgr⟩ := hfold
        refine ⟨fun j hj => List.mem_cons_of_mem _ (hsub hj), by simp, fun j hj => ?_⟩
        rcases List.mem_cons.mp hj with rfl | hj
        · exact Acc.intro _ fun k hk => hgr k (hmem k hk)
        · exact hgr j hj

theorem outcome_search (hnext : ∀ a, ∀ b ∈ next a, b < n) :
    Outcome next [] (List.range n) (search next n) :=
  outcome_foldlM (List.range n) [] (by simp) fun i hi done hdone =>
    outcome_visit hnext n [] done i (.start (List.mem_range.mp hi)) hdone

/-- A node that the search names reaches itself. -/
theorem transGen_of_search_error (hnext : ∀ a, ∀ b ∈ next a, b < n) {i : Nat}
    (h : search next n = .error i) : TransGen (Edge next) i i := by
  have := outcome_search hnext
  rwa [h] at this

/-- When the search succeeds, no node reaches itself. -/
theorem not_transGen_of_search_ok (hnext : ∀ a, ∀ b ∈ next a, b < n) {done : List Nat}
    (h : search next n = .ok done) (a : Nat) : ¬ TransGen (Edge next) a a := by
  have hout := outcome_search hnext
  rw [h] at hout
  obtain ⟨-, hmem, hgr⟩ := hout
  intro hc
  -- A node on a cycle is the end of an edge, so it lies below the bound.
  obtain ⟨b, -, hba⟩ := TransGen.tail'_iff.mp hc
  exact (hgr a (hmem a (List.mem_range.mpr (hnext b a hba)))).not_transGen hc

/-- The search succeeds exactly when the graph has no cycle. -/
theorem search_isOk_iff (hnext : ∀ a, ∀ b ∈ next a, b < n) :
    (∃ done, search next n = .ok done) ↔ ∀ a, ¬ TransGen (Edge next) a a := by
  constructor
  · rintro ⟨done, h⟩
    exact not_transGen_of_search_ok hnext h
  · intro hacyclic
    cases h : search next n with
    | ok done => exact ⟨done, rfl⟩
    | error i => exact absurd (transGen_of_search_error hnext h) (hacyclic i)

end GoSchema.Cycle
