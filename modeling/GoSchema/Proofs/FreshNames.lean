import GoSchema.Proofs.Namespace
import Mathlib.Order.Bounds.Defs

/-!
# The least free name

A name that is made up for a base is the base itself, if it is free, and else the base followed by the smallest number
from 2 on that makes it free. The search for this number has an end, since it meets a name that is not taken before it
runs out of candidates, and all candidates that it passes by are taken. Afterwards the new name is taken, and what else is
taken, in this scope and in the outer ones, is what was taken before (`Namespace.newName_least`).

## What is proved

* `Namespace.firstFree_eq`: the search stops at a candidate that is free, and all before it are taken.
* `Namespace.newName_least`: the number is the least of `freeNumbers`, with the frame: everything else is held as
  before.

The counter is unbounded. Candidates are looked for in the scope and in all outer ones, and so are the names that
Go reserves; which names these are is a table.
-/

namespace GoSchema.Name.Namespace

variable {ns : Namespace}

/-- The search stops at some candidate, and all those before it are taken. -/
theorem firstFree_eq (taken : String → Bool) (base : String) (tries k : Nat) :
    ∃ j, k ≤ j ∧ firstFree taken base tries k = base ++ toString j ∧
      ∀ i, k ≤ i → i < j → taken (base ++ toString i) = true := by
  induction tries generalizing k with
  | zero => exact ⟨k, Nat.le_refl k, rfl, fun i hle hlt => absurd hlt (Nat.not_lt.mpr hle)⟩
  | succ tries ih =>
    rw [firstFree]
    split_ifs with htaken
    · obtain ⟨j, hj, heq, hpassed⟩ := ih (k + 1)
      refine ⟨j, Nat.le_of_succ_le hj, heq, fun i hle hlt => ?_⟩
      rcases Nat.eq_or_lt_of_le hle with rfl | hless
      · exact htaken
      · exact hpassed i hless hlt
    · exact ⟨k, Nat.le_refl k, rfl, fun i hle hlt => absurd hlt (Nat.not_lt.mpr hle)⟩

/-- The numbers from 2 on that make a base free. -/
def freeNumbers (ns : Namespace) (base : String) : Set Nat :=
  {k | 2 ≤ k ∧ isReserved (base ++ toString k) = false ∧ ∀ s ∈ ns.scopes, base ++ toString k ∉ s.taken}

theorem isTaken_eq_false_iff_scopes {name : String} :
    ns.isTaken name = false ↔ isReserved name = false ∧ ∀ s ∈ ns.scopes, name ∉ s.taken := by
  rw [isTaken_eq_false_iff, held, List.mem_flatMap]
  simp only [not_exists, not_and]

theorem freshName_of_taken {base : String} (h : ns.isTaken base = true) :
    ∃ k, IsLeast (ns.freeNumbers base) k ∧ ns.freshName base = base ++ toString k := by
  have hfree := freshName_free ns base
  rw [freshName, if_pos h] at hfree ⊢
  obtain ⟨k, hk, heq, hpassed⟩ :=
    firstFree_eq ns.isTaken base (reservedNames.length + ns.held.length) 2
  rw [heq] at hfree ⊢
  refine ⟨k, ⟨⟨hk, isTaken_eq_false_iff_scopes.mp hfree⟩, fun j hj => ?_⟩, rfl⟩
  by_contra hlt
  have htaken := hpassed j hj.1 (Nat.not_le.mp hlt)
  rw [isTaken_eq_false_iff_scopes.mpr hj.2] at htaken
  cases htaken

theorem isTaken_newName (ns : Namespace) (base name : String) :
    (ns.newName base).2.isTaken name = true ↔ name = (ns.newName base).1 ∨ ns.isTaken name = true := by
  rw [isTaken_iff, isTaken_iff, held_newName, List.mem_cons]
  tauto

/-- **A new name is the least free one.** It is the base, if this is free, and else the base with the smallest number
from 2 on for which no scope of the chain holds the name and it is not reserved. It was not taken, and it is the one name
that becomes taken. -/
theorem newName_least (ns : Namespace) (base : String) :
    ∃ name ns', ns.step (.newName base) = (.name name, ns') ∧
      (ns.isTaken base = false → name = base) ∧
      (ns.isTaken base = true → ∃ k, IsLeast (ns.freeNumbers base) k ∧ name = base ++ toString k) ∧
      ns.isTaken name = false ∧
      (∀ other, ns'.isTaken other = true ↔ other = name ∨ ns.isTaken other = true) ∧
      ns'.outer = ns.outer := by
  refine ⟨_, _, rfl, fun hfree => ?_, freshName_of_taken, freshName_free ns base, isTaken_newName ns base, rfl⟩
  rw [freshName, hfree, if_neg Bool.false_ne_true]

end GoSchema.Name.Namespace
