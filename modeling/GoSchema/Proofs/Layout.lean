import GoSchema.Proofs.Answers
import GoSchema.Proofs.PackageNames
import Mathlib.Data.List.Forall2

/-!
# Fields and their members

The members of a record are its fields, laid out one by one and in order, each under the identifier of its
field. Required members get a flag afterwards, which changes nothing else about them.

## What is proved

* `map_assignFlags`: flags change nothing that does not show them, so what holds of members before flags are given
  out holds afterwards.
* `Env.LaysOut.exists_eq`: a member follows from its field, up to its tag, the way it is held and its Go type.
* `Env.members_of_layout`: the members of a record belong to its fields, in order.

When a layout succeeds, and which names it claims, is a module of its own.
-/

namespace GoSchema

theorem exists_mem_left_of_forall₂ {α β : Type} {R : α → β → Prop} {as : List α} {bs : List β}
    (h : List.Forall₂ R as bs) {b : β} (hb : b ∈ bs) : ∃ a ∈ as, R a b := by
  induction h with
  | nil => cases hb
  | @cons a _ _ _ hab _ ih =>
    rcases List.mem_cons.mp hb with rfl | hb
    · exact ⟨a, List.mem_cons_self, hab⟩
    · obtain ⟨a', ha', hab'⟩ := ih hb
      exact ⟨a', List.mem_cons_of_mem _ ha', hab'⟩

/-- What does not show the flag of a member is the same before and after flags are given out. -/
theorem map_assignFlags {γ : Type} {view : Member → γ} (hview : ∀ m flag, view { m with flag } = view m)
    (names : Name.Namespace) (ms : List Member) : (assignFlags names ms).map view = ms.map view := by
  induction ms generalizing names with
  | nil => rfl
  | cons m ms ih =>
    rw [assignFlags]
    split_ifs <;> simp [ih, hview]

namespace Env

variable {env : Env} {r : Record} {ms : List Member}

/-- The member is this field of the record, laid out under its identifier. -/
def LaysOut (env : Env) (r : Record) (field : Field) (m : Member) : Prop :=
  env.memberOf r field (goName field.name field.annotations) = .ok m

/-- A member follows from its field, but for its tag, the way it is held and its Go type. -/
theorem LaysOut.exists_eq {field : Field} {m : Member} (h : env.LaysOut r field m) :
    ∃ tag holding valueType, m =
      { id := field.id, name := field.name, ident := goName field.name field.annotations
        label := label field.name field.annotations, type := field.type, holding := holding
        required := field.required && !r.isUnion, default := if r.isUnion then none else field.default
        entity := fieldEntity field.name r.name, goType := holding.fieldType valueType, tag := tag
        noLog := noLog field.annotations, flag := none } := by
  obtain ⟨tag, -, h⟩ := Except.bind_eq_ok.mp h
  obtain ⟨holding, -, h⟩ := Except.bind_eq_ok.mp h
  obtain ⟨valueType, -, h⟩ := Except.bind_eq_ok.mp h
  exact ⟨tag, holding, valueType, (Except.ok.inj h).symm⟩

theorem LaysOut.eqs {field : Field} {m : Member} (h : env.LaysOut r field m) :
    m.id = field.id ∧ m.name = field.name ∧ m.ident = goName field.name field.annotations ∧ m.type = field.type ∧
      m.required = (field.required && !r.isUnion) := by
  obtain ⟨_, _, _, rfl⟩ := h.exists_eq
  exact ⟨rfl, rfl, rfl, rfl, rfl⟩

theorem LaysOut.default_eq {field : Field} {m : Member} (h : env.LaysOut r field m) :
    m.default = if r.isUnion then none else field.default := by
  obtain ⟨_, _, _, rfl⟩ := h.exists_eq
  rfl

theorem LaysOut.flag_eq {field : Field} {m : Member} (h : env.LaysOut r field m) : m.flag = none := by
  obtain ⟨_, _, _, rfl⟩ := h.exists_eq
  rfl

theorem laysOut_membersFrom {fields : List Field} {claims : Claims} {x : List Member × Claims}
    (h : env.membersFrom r claims fields = .ok x) : List.Forall₂ (env.LaysOut r) fields x.1 := by
  induction fields generalizing claims x with
  | nil =>
    cases h
    exact .nil
  | cons field fields ih =>
    rw [membersFrom] at h
    obtain ⟨_, -, h⟩ := Except.bind_eq_ok.mp h
    obtain ⟨ident, hident, h⟩ := Except.bind_eq_ok.mp h
    obtain ⟨claims₁, -, h⟩ := Except.bind_eq_ok.mp h
    obtain ⟨m, hm, h⟩ := Except.bind_eq_ok.mp h
    obtain ⟨y, hy, h⟩ := Except.bind_eq_ok.mp h
    cases h
    obtain ⟨-, rfl⟩ := identifier_eq_ok.mp hident
    exact .cons hm (ih hy)

theorem laysOut_members (h : env.members r = .ok ms) : List.Forall₂ (env.LaysOut r) r.fields ms := by
  obtain ⟨x, hx, h⟩ := Except.bind_eq_ok.mp h
  obtain ⟨_, -, h⟩ := Except.bind_eq_ok.mp h
  obtain ⟨_, -, h⟩ := Except.bind_eq_ok.mp h
  cases h
  exact laysOut_membersFrom hx

/-- What members have of their fields, they have in order. -/
theorem map_of_laysOut {γ : Type} {view : Member → γ} {origin : Field → γ}
    (hview : ∀ field m, env.LaysOut r field m → view m = origin field) {fields : List Field}
    (h : List.Forall₂ (env.LaysOut r) fields ms) : ms.map view = fields.map origin := by
  induction h with
  | nil => rfl
  | cons hm _ ih => rw [List.map_cons, List.map_cons, hview _ _ hm, ih]

/-- A layout gives flags to the members. -/
theorem members_of_layout (h : Answers (env.layout r) ms) :
    ∃ laid names, env.members r = .ok laid ∧ ms = assignFlags names laid := by
  obtain ⟨laid, hlaid, h⟩ := h.of_bind
  obtain ⟨_, -, h⟩ := h.of_bind
  obtain ⟨run, -, h⟩ := h.of_bind
  exact ⟨laid, _, hlaid.of_lift, h.of_pure.symm⟩

end Env

end GoSchema
