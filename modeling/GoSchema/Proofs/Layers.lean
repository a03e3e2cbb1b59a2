import GoSchema.Generate.Literal
import Mathlib.Data.List.Nodup
import Mathlib.Data.List.Perm.Subperm

/-!
# Typedef layers

What lies below the typedefs of a type. `Program.Unfolds` follows targets without counting steps;
`descend`, `rootType?` and `peel?` count them. Both agree, because no typedef occurs twice on the way
down: a walk that ends takes at most as many steps as there are typedefs.

## What is proved

* `Program.Unfolds.unique`, `Program.Unfolds.suffix` and `Program.Unfolds.nodup`: the walk is determined, may be
  joined at any layer, and passes no typedef twice.
* `Program.Unfolds.length_le`: it has no more layers than the program has typedefs.
* `Program.Unfolds.rootType?_eq` and `Program.unfolds_of_descend`: the functions that count steps agree with it.

Nothing is assumed about the program. Where a walk does not end, there is simply no unfolding; that there always is
one in a sound program is proved with the look-ups.
-/

namespace GoSchema

namespace Program

/-- Below the typedefs `layers`, the outermost first, `ty` is `root`, which is no typedef. -/
inductive Unfolds (p : Program) : Ty → List (Ref .typedef) → Ty → Prop where
  /-- A type that is no typedef has no layers. -/
  | stop {ty : Ty} (h : ty.isTypedef = false) : p.Unfolds ty [] ty
  /-- A typedef is a layer on top of those of its target. -/
  | layer {r : Ref .typedef} {t : Typedef} {layers : List (Ref .typedef)} {root : Ty}
      (ht : p.typedef? r = some t) (h : p.Unfolds t.target layers root) :
      p.Unfolds (.typedef r) (r :: layers) root

namespace Unfolds

variable {p : Program} {ty root : Ty} {layers : List (Ref .typedef)}

theorem root_not_typedef (h : p.Unfolds ty layers root) : root.isTypedef = false := by
  induction h with
  | stop h => exact h
  | layer _ _ ih => exact ih

/-- A type unfolds in one way only. -/
theorem unique (h : p.Unfolds ty layers root) {layers' : List (Ref .typedef)} {root' : Ty}
    (h' : p.Unfolds ty layers' root') : layers = layers' ∧ root = root' := by
  induction h generalizing layers' with
  | stop h =>
    cases h' with
    | stop _ => exact ⟨rfl, rfl⟩
    | layer _ _ => simp [Ty.isTypedef] at h
  | layer ht _ ih =>
    cases h' with
    | stop h => simp [Ty.isTypedef] at h
    | layer ht' h' =>
      rw [ht, Option.some.injEq] at ht'
      subst ht'
      obtain ⟨rfl, rfl⟩ := ih h'
      exact ⟨rfl, rfl⟩

/-- The walk may be joined at any of its layers. -/
theorem suffix (h : p.Unfolds ty layers root) {above below : List (Ref .typedef)} {r : Ref .typedef}
    (hl : layers = above ++ r :: below) : p.Unfolds (.typedef r) (r :: below) root := by
  induction h generalizing above with
  | stop _ => simp at hl
  | layer ht h ih =>
    cases above with
    | nil =>
      simp only [List.nil_append, List.cons.injEq] at hl
      obtain ⟨rfl, rfl⟩ := hl
      exact .layer ht h
    | cons a above =>
      simp only [List.cons_append, List.cons.injEq] at hl
      exact ih hl.2

/-- No typedef occurs twice on the way down: the walk below it would be longer than itself. -/
theorem nodup (h : p.Unfolds ty layers root) : layers.Nodup := by
  induction h with
  | stop _ => exact List.nodup_nil
  | @layer r _ layers _ ht h ih =>
    refine List.nodup_cons.mpr ⟨fun hmem => ?_, ih⟩
    obtain ⟨above, below, hl⟩ := List.append_of_mem hmem
    have hsame := ((Unfolds.layer ht h).unique (h.suffix hl)).1
    have hlen := congrArg List.length (hl ▸ hsame)
    simp only [List.length_cons, List.length_append] at hlen
    omega

theorem lt_of_mem (h : p.Unfolds ty layers root) {r : Ref .typedef} (hr : r ∈ layers) :
    r.toNat < p.typedefs.length := by
  induction h with
  | stop _ => simp at hr
  | layer ht _ ih =>
    rcases List.mem_cons.mp hr with rfl | hr
    · exact (List.getElem?_eq_some_iff.mp ht).1
    · exact ih hr

end Unfolds

end Program

theorem Ref.toNat_injective {arena : Arena} : Function.Injective (@Ref.toNat arena) := by
  intro a b h
  obtain ⟨a⟩ := a
  obtain ⟨b⟩ := b
  exact congrArg Ref.mk (UInt32.toNat_inj.mp h)

namespace Program

variable {p : Program} {ty root : Ty} {layers : List (Ref .typedef)}

/-- A type has no more layers than the program has typedefs. -/
theorem Unfolds.length_le (h : p.Unfolds ty layers root) : layers.length ≤ p.typedefs.length := by
  have hnd : (layers.map Ref.toNat).Nodup := h.nodup.map Ref.toNat_injective
  have hsub : layers.map Ref.toNat ⊆ List.range p.typedefs.length := by
    intro i hi
    obtain ⟨r, hr, rfl⟩ := List.mem_map.mp hi
    exact List.mem_range.mpr (h.lt_of_mem hr)
  simpa using (hnd.subperm hsub).length_le

/-! ### Walks that count their steps -/

theorem descend_of_not_typedef (h : ty.isTypedef = false) (n : Nat) : p.descend n ty = some ty := by
  cases n <;> cases ty <;> first | rfl | simp [Ty.isTypedef] at h

theorem descend_of_unfolds (h : p.Unfolds ty layers root) {n : Nat} (hn : layers.length ≤ n) :
    p.descend n ty = some root := by
  induction h generalizing n with
  | stop h => exact descend_of_not_typedef h n
  | layer ht _ ih =>
    cases n with
    | zero => simp at hn
    | succ n =>
      rw [descend, ht, Option.bind_some]
      exact ih (by simpa using hn)

/-- A walk that ends at a type that is no typedef went through all layers. -/
theorem unfolds_of_descend {n : Nat} (h : p.descend n ty = some root) (hroot : root.isTypedef = false) :
    ∃ layers, p.Unfolds ty layers root := by
  induction n generalizing ty with
  | zero =>
    rw [descend, Option.some.injEq] at h
    subst h
    exact ⟨[], .stop hroot⟩
  | succ n ih =>
    by_cases hty : ty.isTypedef = false
    · rw [descend_of_not_typedef hty, Option.some.injEq] at h
      subst h
      exact ⟨[], .stop hroot⟩
    · cases ty with
      | typedef r =>
        rw [descend, Option.bind_eq_some_iff] at h
        obtain ⟨t, ht, h⟩ := h
        obtain ⟨layers, hl⟩ := ih h
        exact ⟨r :: layers, .layer ht hl⟩
      | _ => exact absurd rfl hty

theorem Unfolds.rootType?_eq (h : p.Unfolds ty layers root) : p.rootType? ty = some root :=
  descend_of_unfolds h (Nat.le_succ_of_le h.length_le)

theorem peel?_of_not_typedef (h : ty.isTypedef = false) (n : Nat) : p.peel? n ty = some ([], ty) := by
  cases n <;> cases ty <;> first | rfl | simp [Ty.isTypedef] at h

theorem peel?_of_unfolds (h : p.Unfolds ty layers root) {n : Nat} (hn : layers.length ≤ n) :
    p.peel? n ty = some (layers, root) := by
  induction h generalizing n with
  | stop h => exact peel?_of_not_typedef h n
  | layer ht _ ih =>
    cases n with
    | zero => simp at hn
    | succ n =>
      simp only [peel?, ht, ih (Nat.le_of_succ_le_succ hn), Option.bind_eq_bind, Option.bind_some]
      rfl

theorem Unfolds.layers?_eq (h : p.Unfolds ty layers root) : p.layers? ty = some (layers, root) :=
  peel?_of_unfolds h (Nat.le_succ_of_le h.length_le)

end Program

end GoSchema
