import GoSchema.Proofs.Soundness

/-!
# Faults within one declaration

A program in which every reference points to an entry, and in which typedefs and constants refer to earlier
ones only, has no dangling reference and no cycle. All that the check can find in it is a fault within one
declaration: a field number that is used twice, or an item that an enum does not have.

## What is proved

* `Program.AllRefs` says of a property that all references in a program have it, and follows the parts of
  declarations.
* `FailsLocally.bind`: checks in a row fail locally if each does, counting on those before it.
* `Program.Ordered.grounded` and `Program.Ordered.acyclic`: typedefs and constants that refer backwards form no
  cycles.
* `Program.check_of_allRefs`: the check of a program whose references are in range and refer backwards fails
  locally, if at all.

The property of the references is a parameter. Builders use it for "was given out", and the check for "points to an
entry".
-/

namespace GoSchema

open Relation

/-! ### References of a declaration -/

section

variable (P : {a : Arena} → Ref a → Prop)

/-- The reference that a type is by itself has the property. -/
def Ty.OwnRef : Ty → Prop
  | .enum r => P r
  | .struct r => P r
  | .typedef r => P r
  | .base _ | .list _ | .set _ _ | .map _ _ => True

/-- All references in a type have the property. -/
def Ty.AllRefs (ty : Ty) : Prop := ∀ part, ty.HasPart part → part.OwnRef P

/-- The reference that a value is by itself has the property. -/
def Value.OwnRef : Value → Prop
  | .enumItem r _ => P r
  | .constant r => P r
  | .bool _ | .int _ | .double _ | .string _ | .list _ | .map _ => True

/-- All references in a value have the property. -/
def Value.AllRefs (v : Value) : Prop := ∀ part, v.HasPart part → part.OwnRef P

/-- All references in a field have the property. -/
def Field.AllRefs (f : Field) : Prop := f.type.AllRefs P ∧ ∀ v ∈ f.default, v.AllRefs P

/-- All references in a function have the property. -/
structure Function.AllRefs (f : Function) : Prop where
  arguments : ∀ a ∈ f.arguments, a.AllRefs P
  returns : ∀ reply ∈ f.reply, ∀ ty ∈ reply.returns, ty.AllRefs P
  exceptions : ∀ reply ∈ f.reply, ∀ e ∈ reply.exceptions, e.AllRefs P

/-- All references in a program have the property. -/
structure Program.AllRefs (p : Program) : Prop where
  constants : ∀ c ∈ p.constants, P c.file ∧ c.type.AllRefs P ∧ c.value.AllRefs P
  enums : ∀ e ∈ p.enums, P e.file
  structs : ∀ s ∈ p.structs, P s.file ∧ ∀ f ∈ s.fields, f.AllRefs P
  typedefs : ∀ t ∈ p.typedefs, P t.file ∧ t.target.AllRefs P
  services : ∀ s ∈ p.services, P s.file ∧ (∀ r ∈ s.parent, P r) ∧ ∀ f ∈ s.functions, f.AllRefs P

end

section

variable {P Q : {a : Arena} → Ref a → Prop} (h : ∀ {a : Arena} (r : Ref a), P r → Q r)

include h

theorem Ty.AllRefs.mono {ty : Ty} (hty : ty.AllRefs P) : ty.AllRefs Q := by
  intro part hpart
  have hown := hty part hpart
  cases part with
  | enum r | struct r | typedef r => exact h r hown
  | base _ | list _ | set _ _ | map _ _ => trivial

theorem Value.AllRefs.mono {v : Value} (hv : v.AllRefs P) : v.AllRefs Q := by
  intro part hpart
  have hown := hv part hpart
  cases part with
  | enumItem r _ | constant r => exact h r hown
  | bool _ | int _ | double _ | string _ | list _ | map _ => trivial

theorem Field.AllRefs.mono {f : Field} (hf : f.AllRefs P) : f.AllRefs Q :=
  ⟨hf.1.mono h, fun v hv => (hf.2 v hv).mono h⟩

theorem Function.AllRefs.mono {f : Function} (hf : f.AllRefs P) : f.AllRefs Q where
  arguments a ha := (hf.arguments a ha).mono h
  returns reply hr ty hty := (hf.returns reply hr ty hty).mono h
  exceptions reply hr e he := (hf.exceptions reply hr e he).mono h

theorem Program.AllRefs.mono {p : Program} (hp : p.AllRefs P) : p.AllRefs Q where
  constants c hc := (hp.constants c hc).imp (h _) (.imp (.mono h) (.mono h))
  enums e he := h _ (hp.enums e he)
  structs s hs := (hp.structs s hs).imp (h _) fun hf f hmem => (hf f hmem).mono h
  typedefs t ht := (hp.typedefs t ht).imp (h _) (.mono h)
  services s hs := (hp.services s hs).imp (h _)
    (.imp (fun hr r hmem => h r (hr r hmem)) fun hf f hmem => (hf f hmem).mono h)

end

/-- The reference points to an entry of the program. -/
def Program.InRange (p : Program) {a : Arena} (r : Ref a) : Prop := r.toNat < p.size a

/-- Typedefs and constants refer to earlier ones only. -/
structure Program.Ordered (p : Program) : Prop where
  typedefs : ∀ (i : Nat) (t : Typedef), p.typedefs[i]? = some t →
    ∀ r : Ref .typedef, t.target.HasPart (.typedef r) → r.toNat < i
  constants : ∀ (i : Nat) (c : Constant), p.constants[i]? = some c →
    ∀ r : Ref .constant, c.value.HasPart (.constant r) → r.toNat < i

/-! ### What the check can find -/

/-- The fault lies within one declaration, not in how declarations refer to each other. -/
def GraphError.IsLocal : GraphError → Prop
  | .duplicateId _ _ | .missingItem _ _ _ _ => True
  | .dangling _ _ _ _ | .typedefCycle _ _ | .constantCycle _ _ => False

/-- If it fails, then because of a fault within one declaration. -/
def FailsLocally {α : Type} (x : Except GraphError α) : Prop := ∀ e, x = .error e → e.IsLocal

namespace FailsLocally

variable {α β : Type}

theorem of_ok {x : Except GraphError α} {a : α} (h : x = .ok a) : FailsLocally x :=
  fun e he => by simp [h] at he

theorem error {e : GraphError} (h : e.IsLocal) : FailsLocally (.error e : Except GraphError α) :=
  fun _ he => Except.error.inj he ▸ h

/-- The second step may count on the first. -/
theorem bind {x : Except GraphError α} {f : α → Except GraphError β} (h : FailsLocally x)
    (hf : ∀ a, x = .ok a → FailsLocally (f a)) : FailsLocally (x >>= f) := by
  intro e he
  rcases Except.bind_eq_error.mp he with he | ⟨a, ha, he⟩
  · exact h e he
  · exact hf a ha e he

theorem forM {f : α → Except GraphError Unit} {as : List α} (h : ∀ a ∈ as, FailsLocally (f a)) :
    FailsLocally (forM as f) := by
  induction as with
  | nil => exact of_ok rfl
  | cons a as ih =>
    rw [List.forM_cons]
    exact bind (h a List.mem_cons_self) fun _ _ => ih fun b hb => h b (List.mem_cons_of_mem _ hb)

end FailsLocally

namespace Program

variable {p : Program} {context : String}

theorem checkRef_of_inRange {a : Arena} {r : Ref a} (h : p.InRange r) : FailsLocally (p.checkRef context r) :=
  .of_ok (checkRef_eq_ok.mpr h)

theorem typeInRange_of_allRefs {ty : Ty} (h : ty.AllRefs p.InRange) : p.TypeInRange ty := by
  intro part hpart
  have hown := h part hpart
  cases part with
  | enum r | struct r | typedef r => exact hown
  | base _ | list _ | set _ _ | map _ _ => trivial

theorem checkType_of_allRefs {ty : Ty} (h : ty.AllRefs p.InRange) : FailsLocally (p.checkType context ty) :=
  .of_ok (checkType_eq_ok.mpr (typeInRange_of_allRefs h))

theorem checkItem_of_inRange {r : Ref .enum} (h : p.InRange r) (item : UInt64) :
    FailsLocally (p.checkItem context r item) := by
  unfold checkItem
  split
  · exact checkRef_of_inRange h
  · split_ifs
    · exact .of_ok rfl
    · exact .error trivial

mutual

theorem checkValue_of_allRefs : ∀ v : Value, v.AllRefs p.InRange → FailsLocally (p.checkValue context v)
  | .bool _, _ | .int _, _ | .double _, _ | .string _, _ => by
    rw [checkValue]
    exact .of_ok rfl
  | .list items, h => by
    rw [checkValue]
    exact checkItems_of_allRefs items fun v hv part hpart => h part (.item hv hpart)
  | .map entries, h => by
    rw [checkValue]
    exact checkEntries_of_allRefs entries fun e he =>
      ⟨fun part hpart => h part (.key he hpart), fun part hpart => h part (.value he hpart)⟩
  | .enumItem r item, h => by
    rw [checkValue]
    exact checkItem_of_inRange (h _ (.self _)) item
  | .constant r, h => by
    rw [checkValue]
    exact checkRef_of_inRange (h _ (.self _))

theorem checkItems_of_allRefs :
    ∀ vs : List Value, (∀ v ∈ vs, v.AllRefs p.InRange) → FailsLocally (p.checkItems context vs)
  | [], _ => .of_ok rfl
  | v :: vs, h => by
    obtain ⟨hv, hvs⟩ := List.forall_mem_cons.mp h
    rw [checkItems]
    exact .bind (checkValue_of_allRefs v hv) fun _ _ => checkItems_of_allRefs vs hvs

theorem checkEntries_of_allRefs :
    ∀ es : List (Value × Value), (∀ e ∈ es, e.1.AllRefs p.InRange ∧ e.2.AllRefs p.InRange) →
      FailsLocally (p.checkEntries context es)
  | [], _ => .of_ok rfl
  | (k, v) :: es, h => by
    obtain ⟨⟨hk, hv⟩, hes⟩ := List.forall_mem_cons.mp h
    rw [checkEntries]
    exact .bind (checkValue_of_allRefs k hk) fun _ _ =>
      .bind (checkValue_of_allRefs v hv) fun _ _ => checkEntries_of_allRefs es hes

end

theorem checkFields_of_allRefs {fields : List Field} (h : ∀ f ∈ fields, f.AllRefs p.InRange) (seen : List Int16) :
    FailsLocally (p.checkFields context seen fields) := by
  induction fields generalizing seen with
  | nil => exact .of_ok rfl
  | cons f fs ih =>
    obtain ⟨⟨htype, hdefault⟩, hfs⟩ := List.forall_mem_cons.mp h
    rw [checkFields]
    split_ifs
    · exact .error trivial
    · refine .bind (checkType_of_allRefs htype) fun _ _ => ?_
      cases hf : f.default with
      | none => exact ih hfs _
      | some v => exact .bind (checkValue_of_allRefs v (hdefault v hf)) fun _ _ => ih hfs _

theorem checkFunction_of_allRefs {f : Function} (h : f.AllRefs p.InRange) (service : String) :
    FailsLocally (p.checkFunction service f) := by
  rw [checkFunction]
  refine .bind (checkFields_of_allRefs h.arguments []) fun _ _ => ?_
  cases hreply : f.reply with
  | none => exact .of_ok rfl
  | some reply =>
    dsimp only
    cases hreturns : reply.returns with
    | none => exact checkFields_of_allRefs (h.exceptions reply hreply) []
    | some ty =>
      exact .bind (checkType_of_allRefs (h.returns reply hreply ty hreturns)) fun _ _ =>
        checkFields_of_allRefs (h.exceptions reply hreply) []

/-- Typedefs that refer to earlier ones only lead to types that are no typedefs. -/
theorem Ordered.grounded (h : p.Ordered) {i : Nat} {t : Typedef} (ht : p.typedefs[i]? = some t) :
    ∃ layers root, p.Unfolds t.target layers root := by
  induction i using Nat.strongRecOn generalizing t with
  | ind i ih =>
    cases htarget : t.target with
    | typedef r =>
      have hlt : r.toNat < i := h.typedefs i t ht r (htarget ▸ .self _)
      have hthere : r.toNat < p.typedefs.length := Nat.lt_trans hlt (List.getElem?_eq_some_iff.mp ht).1
      have hget : p.typedef? r = some p.typedefs[r.toNat] := List.getElem?_eq_getElem hthere
      obtain ⟨layers, root, hunfolds⟩ := ih r.toNat hlt hget
      exact ⟨r :: layers, root, .layer hget hunfolds⟩
    | base _ | list _ | set _ _ | map _ _ | enum _ | struct _ => exact ⟨[], _, .stop rfl⟩

/-- Constants that mention earlier ones only form no cycle. -/
theorem Ordered.acyclic (h : p.Ordered) (a : Nat) : ¬ TransGen p.Mentions a a := by
  have hdown : ∀ a b, TransGen p.Mentions a b → b < a := by
    intro a b hab
    induction hab with
    | single hab =>
      obtain ⟨c, r, hget, hpart, rfl⟩ := hab
      exact h.constants _ c hget r hpart
    | tail _ hbc ih =>
      obtain ⟨c, r, hget, hpart, rfl⟩ := hbc
      exact Nat.lt_trans (h.constants _ c hget r hpart) ih
  exact fun hcycle => Nat.lt_irrefl a (hdown a a hcycle)

theorem check_of_allRefs (h : p.AllRefs p.InRange) (hordered : p.Ordered) : FailsLocally p.check := by
  have htarget : ∀ t ∈ p.typedefs, p.TypeInRange t.target := fun t ht => typeInRange_of_allRefs (h.typedefs t ht).2
  rw [check]
  refine .bind (.forM fun c hc => ?_) fun _ hconstants => ?_
  · have hrefs := h.constants c hc
    exact .bind (checkRef_of_inRange hrefs.1) fun _ _ => .bind (checkType_of_allRefs hrefs.2.1) fun _ _ =>
      checkValue_of_allRefs c.value hrefs.2.2
  refine .bind (.forM fun e he => checkRef_of_inRange (h.enums e he)) fun _ _ => ?_
  refine .bind (.forM fun s hs => ?_) fun _ _ => ?_
  · exact .bind (checkRef_of_inRange (h.structs s hs).1) fun _ _ => checkFields_of_allRefs (h.structs s hs).2 []
  refine .bind (.forM fun t ht => ?_) fun _ _ => ?_
  · exact .bind (checkRef_of_inRange (h.typedefs t ht).1) fun _ _ => checkType_of_allRefs (h.typedefs t ht).2
  refine .bind (.forM fun t ht => ?_) fun _ _ => ?_
  · obtain ⟨i, hi⟩ := List.mem_iff_getElem?.mp ht
    exact .of_ok ((checkChain_eq_ok htarget ht).mpr (hordered.grounded hi))
  refine .bind (.forM fun s hs => ?_) fun _ _ => ?_
  · obtain ⟨hfile, hparent, hfunctions⟩ := h.services s hs
    refine .bind (checkRef_of_inRange hfile) fun _ _ => ?_
    have hall := FailsLocally.forM fun f hf => checkFunction_of_allRefs (hfunctions f hf) s.name
    cases hp : s.parent with
    | none => exact hall
    | some parent => exact .bind (checkRef_of_inRange (hparent parent hp)) fun _ _ => hall
  have hvalues : ∀ c ∈ p.constants, p.ValueInRange c.value := by
    intro c hc
    exact (checkConstant_eq_ok.mp (Except.forM_eq_ok.mp hconstants c hc)).2.2
  exact .of_ok ((checkConstantCycles_eq_ok hvalues).mpr hordered.acyclic)

end Program

end GoSchema
