import GoSchema.Proofs.Soundness
import Mathlib.Data.Fintype.Pigeonhole

/-!
# Root types

`Program.Targets` is one step from a typedef to its target. The root of a type is what following targets comes to at last,
a type that is no typedef. `rootType?` follows them for a number of steps that depends on the number of typedefs only.
This number is large enough for every chain that ends: a type that is no typedef is found whenever there is one to be found,
and it is that one. A typedef is given only where the targets go in a circle (`Program.rootType_exact`).

## What is proved

* `Program.Unfolds.of_targets` and `Program.Unfolds.no_circle`: following targets takes layers off, and a type with
  a root does not lead into a circle.
* `Program.exists_circle`: a walk that goes on for ever comes through one typedef twice, since there are only so
  many.
* `Program.rootType?_isTypedef_iff`: the bound on the steps is large enough.
* `Program.rootType_exact`: where the targets of typedefs are there, the walk gives a type that is no typedef
  exactly if there is a root. In a program that passes the check it always does, and a typedef has the root of its
  target.

A typedef that is not there ends the walk without a type. Such programs do not pass the check and are left out.
-/

namespace GoSchema

open Relation

namespace Program

variable {p : Program} {ty root : Ty}

/-- The type is a typedef, and this is its target. -/
def Targets (p : Program) (ty target : Ty) : Prop :=
  ∃ r t, ty = .typedef r ∧ p.typedef? r = some t ∧ target = t.target

/-- If the type is a typedef, then it is there. -/
def TypedefInRange (p : Program) (ty : Ty) : Prop := ∀ r, ty = .typedef r → r.toNat < p.typedefs.length

theorem isTypedef_eq_true : ty.isTypedef = true ↔ ∃ r, ty = .typedef r := by
  cases ty <;> simp [Ty.isTypedef]

/-! ### Following targets -/

/-- Each target on the way takes a layer off. -/
theorem Unfolds.of_targets {layers : List (Ref .typedef)} (h : p.Unfolds ty layers root) {target : Ty}
    (ht : p.Targets ty target) : ∃ below, p.Unfolds target below root ∧ layers.length = below.length + 1 := by
  obtain ⟨r, t, rfl, hget, rfl⟩ := ht
  cases h with
  | stop h => cases h
  | @layer _ _ below _ hget' h =>
    obtain rfl := Option.some.inj (hget.symm.trans hget')
    exact ⟨below, h, rfl⟩

theorem Unfolds.of_transGen {layers : List (Ref .typedef)} (h : p.Unfolds ty layers root) {lower : Ty}
    (hlower : TransGen p.Targets ty lower) :
    ∃ below, p.Unfolds lower below root ∧ below.length < layers.length := by
  induction hlower with
  | single ht =>
    obtain ⟨below, hbelow, hlength⟩ := h.of_targets ht
    exact ⟨below, hbelow, by omega⟩
  | tail _ ht ih =>
    obtain ⟨layers', hlayers', hlt⟩ := ih
    obtain ⟨below, hbelow, hlength⟩ := hlayers'.of_targets ht
    exact ⟨below, hbelow, by omega⟩

/-- A type with a root does not lead into a circle: going round would take off layers, and arrive with all of them. -/
theorem Unfolds.no_circle {layers : List (Ref .typedef)} (h : p.Unfolds ty layers root) {turn : Ty}
    (hturn : ReflTransGen p.Targets ty turn) : ¬ TransGen p.Targets turn turn := by
  have hunfolds : ∃ below, p.Unfolds turn below root := by
    rcases reflTransGen_iff_eq_or_transGen.mp hturn with rfl | hlower
    · exact ⟨layers, h⟩
    · obtain ⟨below, hbelow, -⟩ := h.of_transGen hlower
      exact ⟨below, hbelow⟩
  obtain ⟨below, hbelow⟩ := hunfolds
  intro hcircle
  obtain ⟨less, hless, hlt⟩ := hbelow.of_transGen hcircle
  rw [(hbelow.unique hless).1] at hlt
  exact Nat.lt_irrefl _ hlt

/-- The root of a type is what following targets comes to. -/
theorem exists_unfolds_iff :
    (∃ layers, p.Unfolds ty layers root) ↔ ReflTransGen p.Targets ty root ∧ root.isTypedef = false := by
  constructor
  · rintro ⟨layers, h⟩
    refine ⟨?_, h.root_not_typedef⟩
    induction h with
    | stop _ => exact .refl
    | @layer r t _ _ ht _ ih => exact .head ⟨r, t, rfl, ht, rfl⟩ ih
  · rintro ⟨h, hroot⟩
    induction h using ReflTransGen.head_induction_on with
    | refl => exact ⟨[], .stop hroot⟩
    | head ht _ ih =>
      obtain ⟨r, t, rfl, hget, rfl⟩ := ht
      obtain ⟨layers, hlayers⟩ := ih
      exact ⟨r :: layers, .layer hget hlayers⟩

/-! ### Walks that count their steps -/

theorem reflTransGen_of_descend {n : Nat} {lower : Ty} (h : p.descend n ty = some lower) :
    ReflTransGen p.Targets ty lower := by
  induction n generalizing ty with
  | zero => exact Option.some.inj h ▸ .refl
  | succ n ih =>
    cases ty with
    | typedef r =>
      obtain ⟨t, ht, h⟩ := Option.bind_eq_some_iff.mp h
      exact .head ⟨r, t, rfl, ht, rfl⟩ (ih h)
    | base _ | list _ | set _ _ | map _ _ | enum _ | struct _ => exact Option.some.inj h ▸ .refl

/-- One more step goes from a typedef to its target. -/
theorem targets_of_descend {n : Nat} {r : Ref .typedef} (h : p.descend n ty = some (.typedef r)) {target : Ty}
    (htarget : p.descend (n + 1) ty = some target) : p.Targets (.typedef r) target := by
  induction n generalizing ty with
  | zero =>
    obtain rfl := Option.some.inj h
    obtain ⟨t, ht, htarget⟩ := Option.bind_eq_some_iff.mp htarget
    exact ⟨r, t, rfl, ht, (Option.some.inj htarget).symm⟩
  | succ n ih =>
    cases ty with
    | typedef s =>
      obtain ⟨t, ht, h⟩ := Option.bind_eq_some_iff.mp h
      rw [descend, ht, Option.bind_some] at htarget
      exact ih h htarget
    | base _ | list _ | set _ _ | map _ _ | enum _ | struct _ => cases h

/-- A walk through typedefs that are there arrives somewhere, and if this is a typedef, it is there too. -/
theorem descend_inRange (htargets : ∀ t ∈ p.typedefs, p.TypedefInRange t.target) (hty : p.TypedefInRange ty) (n : Nat) :
    ∃ lower, p.descend n ty = some lower ∧ p.TypedefInRange lower := by
  induction n generalizing ty with
  | zero => exact ⟨ty, rfl, hty⟩
  | succ n ih =>
    cases ty with
    | typedef r =>
      have hlt := hty r rfl
      have hget : p.typedef? r = some p.typedefs[r.toNat] := List.getElem?_eq_getElem hlt
      rw [descend, hget, Option.bind_some]
      exact ih (htargets _ (List.getElem_mem hlt))
    | base _ | list _ | set _ _ | map _ _ | enum _ | struct _ => exact ⟨_, rfl, hty⟩

/-- A walk that goes on for ever comes through one typedef twice, as there are only so many of them. -/
theorem exists_circle (hty : ∀ n, ∃ r : Ref .typedef, p.descend n ty = some (.typedef r) ∧ r.toNat < p.typedefs.length) :
    ∃ turn, ReflTransGen p.Targets ty turn ∧ TransGen p.Targets turn turn := by
  choose r hr hlt using hty
  obtain ⟨i, j, hne, heq⟩ := Finite.exists_ne_map_eq_of_infinite fun n => (⟨(r n).toNat, hlt n⟩ : Fin p.typedefs.length)
  have hsame : r i = r j := Ref.toNat_injective (Fin.mk.inj heq)
  have hforward : ∀ {m n : Nat}, m < n → TransGen p.Targets (.typedef (r m)) (.typedef (r n)) := by
    intro m n hmn
    induction n, hmn using Nat.le_induction with
    | base => exact .single (targets_of_descend (hr m) (hr (m + 1)))
    | succ n _ ih => exact ih.tail (targets_of_descend (hr n) (hr (n + 1)))
  refine ⟨.typedef (r i), reflTransGen_of_descend (hr i), ?_⟩
  rcases Nat.lt_or_gt_of_ne hne with hij | hji
  · have hcircle := hforward hij
    rwa [← hsame] at hcircle
  · have hcircle := hforward hji
    rwa [← hsame] at hcircle

/-! ### The root -/

/-- The walk to the root is long enough: what it gives is no typedef exactly when there is a root. -/
theorem rootType?_isTypedef_iff {last : Ty} (h : p.rootType? ty = some last) :
    last.isTypedef = false ↔ ∃ layers root, p.Unfolds ty layers root := by
  constructor
  · intro hlast
    obtain ⟨layers, hlayers⟩ := unfolds_of_descend h hlast
    exact ⟨layers, last, hlayers⟩
  · rintro ⟨layers, root, hlayers⟩
    obtain rfl := Option.some.inj (h.symm.trans hlayers.rootType?_eq)
    exact hlayers.root_not_typedef

/-- A type without root goes in a circle. -/
theorem exists_circle_of_no_root (htargets : ∀ t ∈ p.typedefs, p.TypedefInRange t.target) (hty : p.TypedefInRange ty)
    (h : ¬ ∃ layers root, p.Unfolds ty layers root) :
    ∃ turn, ReflTransGen p.Targets ty turn ∧ TransGen p.Targets turn turn := by
  refine exists_circle fun n => ?_
  obtain ⟨lower, hlower, hrange⟩ := descend_inRange htargets hty n
  cases htypedef : lower.isTypedef with
  | false =>
    obtain ⟨layers, hlayers⟩ := unfolds_of_descend hlower htypedef
    exact absurd ⟨layers, lower, hlayers⟩ h
  | true =>
    obtain ⟨r, rfl⟩ := isTypedef_eq_true.mp htypedef
    exact ⟨r, hlower, hrange r rfl⟩

/-- In a sound program every type that is there has a root. -/
theorem Sound.exists_root (hp : p.Sound) (hty : p.TypedefInRange ty) : ∃ layers root, p.Unfolds ty layers root := by
  cases ty with
  | typedef r =>
    have hlt := hty r rfl
    have hget : p.typedef? r = some p.typedefs[r.toNat] := List.getElem?_eq_getElem hlt
    obtain ⟨layers, root, hlayers⟩ := hp.grounded _ (List.getElem_mem hlt)
    exact ⟨r :: layers, root, .layer hget hlayers⟩
  | base _ | list _ | set _ _ | map _ _ | enum _ | struct _ => exact ⟨[], _, .stop rfl⟩

/-- A typedef has the root of its target. -/
theorem Sound.rootType?_typedef (hp : p.Sound) {r : Ref .typedef} {t : Typedef} (ht : p.typedef? r = some t) :
    p.rootType? (.typedef r) = p.rootType? t.target := by
  obtain ⟨layers, root, hlayers⟩ := hp.grounded t (List.mem_of_getElem? ht)
  rw [hlayers.rootType?_eq, (Unfolds.layer ht hlayers).rootType?_eq]

/-- **The walk to the root is exact.** Where the targets of typedefs are there, it gives a type that is no typedef exactly
when following targets comes to one, which is then the one given, however many typedefs lie above it. It gives a typedef
exactly when following targets goes in a circle. In a program that passes the check it never gives a typedef, takes nothing
more off its own answer, and gives a typedef and its target the same root. -/
theorem rootType_exact (p : Program) :
    ((∀ t ∈ p.typedefs, p.TypedefInRange t.target) → ∀ ty, p.TypedefInRange ty →
      ∃ last, p.rootType? ty = some last ∧
        (last.isTypedef = false ↔ ∃ root, ReflTransGen p.Targets ty root ∧ root.isTypedef = false) ∧
        (∀ root, ReflTransGen p.Targets ty root → root.isTypedef = false → last = root) ∧
        (last.isTypedef = true ↔ ∃ turn, ReflTransGen p.Targets ty turn ∧ TransGen p.Targets turn turn)) ∧
    (p.check = .ok () →
      (∀ ty, p.TypedefInRange ty →
        ∃ root, p.rootType? ty = some root ∧ root.isTypedef = false ∧ p.rootType? root = some root) ∧
      ∀ r t, p.typedef? r = some t → p.rootType? (.typedef r) = p.rootType? t.target) := by
  refine ⟨fun htargets ty hty => ?_, fun hp => ⟨fun ty hty => ?_, fun r t ht => (sound_of_check hp).rootType?_typedef ht⟩⟩
  · obtain ⟨last, hlast, -⟩ := descend_inRange htargets hty (p.typedefs.length + 1)
    have hiff := rootType?_isTypedef_iff hlast
    refine ⟨last, hlast, ?_, fun root hroot hnot => ?_, fun htypedef => ?_, ?_⟩
    · rw [hiff, exists_comm]
      exact exists_congr fun root => exists_unfolds_iff
    · obtain ⟨layers, hlayers⟩ := exists_unfolds_iff.mpr ⟨hroot, hnot⟩
      exact Option.some.inj (hlast.symm.trans hlayers.rootType?_eq)
    · refine exists_circle_of_no_root htargets hty fun hroot => ?_
      rw [hiff.mpr hroot] at htypedef
      cases htypedef
    · rintro ⟨turn, hturn, hcircle⟩
      by_contra hnot
      obtain ⟨layers, root, hlayers⟩ := hiff.mp (Bool.of_not_eq_true hnot)
      exact hlayers.no_circle hturn hcircle
  · obtain ⟨layers, root, hlayers⟩ := (sound_of_check hp).exists_root hty
    have hnot := hlayers.root_not_typedef
    exact ⟨root, hlayers.rootType?_eq, hnot, descend_of_not_typedef hnot _⟩

/-- A program with typedefs that have these targets. -/
def ofTargets (targets : List Ty) : Program :=
  { Program.empty with
    files := [⟨"a.thrift", "ex/a", "a"⟩]
    typedefs := targets.map fun target => ⟨"T", ⟨0⟩, target, .empty⟩ }

/-- Three typedefs that lie on top of each other. -/
def ladder : Program := ofTargets [.typedef ⟨2⟩, .base .i64, .typedef ⟨1⟩]

/-- A typedef of a typedef that is its own target. -/
def wheel : Program := ofTargets [.typedef ⟨1⟩, .typedef ⟨1⟩]

theorem targets_ofTargets {targets : List Ty} {r : Ref .typedef} {target : Ty} (h : targets[r.toNat]? = some target) :
    (ofTargets targets).Targets (.typedef r) target :=
  ⟨r, ⟨"T", ⟨0⟩, target, .empty⟩, rfl, by simp [ofTargets, typedef?, h], rfl⟩

theorem rootType_exact_ladder :
    (∀ t ∈ ladder.typedefs, ladder.TypedefInRange t.target) ∧ ladder.TypedefInRange (.typedef ⟨0⟩) ∧
      ladder.check = .ok () ∧ ladder.rootType? (.typedef ⟨0⟩) = some (.base .i64) ∧
      ladder.rootType? (.typedef ⟨0⟩) = ladder.rootType? (.typedef ⟨2⟩) ∧
      (∀ t ∈ wheel.typedefs, wheel.TypedefInRange t.target) ∧ wheel.TypedefInRange (.typedef ⟨0⟩) ∧
      ∃ last, wheel.rootType? (.typedef ⟨0⟩) = some last ∧ last.isTypedef = true := by
  have hladder : ∀ t ∈ ladder.typedefs, ladder.TypedefInRange t.target := by
    simp [ladder, ofTargets, TypedefInRange, Ref.toNat]
  have hwheel : ∀ t ∈ wheel.typedefs, wheel.TypedefInRange t.target := by
    simp [wheel, ofTargets, TypedefInRange, Ref.toNat]
  have hfirst : ladder.TypedefInRange (.typedef ⟨0⟩) ∧ wheel.TypedefInRange (.typedef ⟨0⟩) := by
    simp [ladder, wheel, ofTargets, TypedefInRange, Ref.toNat]
  have hcheck : ladder.check = .ok () := by decide +kernel
  obtain ⟨hexact, hsound⟩ := rootType_exact ladder
  obtain ⟨last, hlast, -, hroot, -⟩ := hexact hladder (.typedef ⟨0⟩) hfirst.1
  have hreaches : ReflTransGen ladder.Targets (.typedef ⟨0⟩) (.base .i64) :=
    .head (targets_ofTargets rfl) (.head (targets_ofTargets rfl) (.head (targets_ofTargets rfl) .refl))
  obtain rfl := hroot _ hreaches rfl
  obtain ⟨turned, hturned, -, -, hcircle⟩ := (rootType_exact wheel).1 hwheel (.typedef ⟨0⟩) hfirst.2
  have hturn : ReflTransGen wheel.Targets (.typedef ⟨0⟩) (.typedef ⟨1⟩) := .single (targets_ofTargets rfl)
  exact ⟨hladder, hfirst.1, hcheck, hlast, (hsound hcheck).2 ⟨0⟩ _ rfl, hwheel, hfirst.2, turned, hturned,
    hcircle.mpr ⟨_, hturn, .single (targets_ofTargets rfl)⟩⟩

end Program

end GoSchema
