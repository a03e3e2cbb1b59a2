import GoSchema.Proofs.Cycle
import GoSchema.Proofs.Except
import GoSchema.Proofs.Layers

/-!
# Sound programs

`Program.Sound` says what a program must satisfy, in terms of what occurs in its types and values at any
depth, of following typedef targets, and of constants that mention constants. `Program.check` is
proved to accept exactly the sound programs.

## What is proved

* `Program.typeInRange_list` and its like, `Program.valueInRange_leaf` and its like: what is in range can be taken
  apart along types and values.
* `checkFields_eq_ok`, `Program.checkValue_eq_ok` and `Program.checkFunction_eq_ok`: what each part of the check
  accepts.
* `Program.mem_constantEdges`: the graph that is searched for cycles has the mentions of constants as its edges.
* `Program.check_eq_ok_iff_sound`: the check accepts exactly the sound programs.

Which fault is reported, where there are several, is not said here: it is the first in the order of the check.
Whether a sound program can be generated is another question; its values may not fit their types.
-/

namespace GoSchema

open Relation

/-- `ty.HasPart part`: `part` occurs in `ty`, at any depth. -/
inductive Ty.HasPart : Ty → Ty → Prop where
  | self (ty : Ty) : ty.HasPart ty
  | element {e part : Ty} : e.HasPart part → (Ty.list e).HasPart part
  | member {e part : Ty} {a : Annotations} : e.HasPart part → (Ty.set e a).HasPart part
  | key {k v part : Ty} : k.HasPart part → (Ty.map k v).HasPart part
  | value {k v part : Ty} : v.HasPart part → (Ty.map k v).HasPart part

/-- `v.HasPart part`: `part` occurs in `v`, at any depth. -/
inductive Value.HasPart : Value → Value → Prop where
  | self (v : Value) : v.HasPart v
  | item {v part : Value} {items : List Value} : v ∈ items → v.HasPart part →
      (Value.list items).HasPart part
  | key {k v part : Value} {entries : List (Value × Value)} : (k, v) ∈ entries → k.HasPart part →
      (Value.map entries).HasPart part
  | value {k v part : Value} {entries : List (Value × Value)} : (k, v) ∈ entries → v.HasPart part →
      (Value.map entries).HasPart part

namespace Program

/-- The declaration that a type refers to by itself is there. -/
def RefInRange (p : Program) : Ty → Prop
  | .enum r => r.toNat < p.enums.length
  | .struct r => r.toNat < p.structs.length
  | .typedef r => r.toNat < p.typedefs.length
  | .base _ | .list _ | .set _ _ | .map _ _ => True

/-- All declarations that a type refers to are there. -/
def TypeInRange (p : Program) (ty : Ty) : Prop := ∀ part, ty.HasPart part → p.RefInRange part

/-- The enum item or constant that a value refers to by itself is there. -/
def TargetInRange (p : Program) : Value → Prop
  | .enumItem r i => ∃ e, p.enum? r = some e ∧ i.toNat < e.items.length
  | .constant r => r.toNat < p.constants.length
  | .bool _ | .int _ | .double _ | .string _ | .list _ | .map _ => True

/-- All enum items and constants that a value refers to are there. -/
def ValueInRange (p : Program) (v : Value) : Prop := ∀ part, v.HasPart part → p.TargetInRange part

/-- The fields have different ids, and what they refer to is there. -/
structure FieldsSound (p : Program) (fields : List Field) : Prop where
  ids : (fields.map Field.id).Nodup
  types : ∀ f ∈ fields, p.TypeInRange f.type
  defaults : ∀ f ∈ fields, ∀ v, f.default = some v → p.ValueInRange v

/-- The arguments and the exceptions of a function are sound, and what its return type refers to is
there. -/
structure FunctionSound (p : Program) (f : Function) : Prop where
  arguments : p.FieldsSound f.arguments
  returns : ∀ reply, f.reply = some reply → ∀ ty, reply.returns = some ty → p.TypeInRange ty
  exceptions : ∀ reply, f.reply = some reply → p.FieldsSound reply.exceptions

/-- The file of a declaration is there. -/
def FileInRange (p : Program) (r : Ref .file) : Prop := r.toNat < p.files.length

/-- The value of the constant at position `a` mentions the constant at position `b`. -/
def Mentions (p : Program) (a b : Nat) : Prop :=
  ∃ c r, p.constants[a]? = some c ∧ c.value.HasPart (.constant r) ∧ r.toNat = b

/-- What a program must satisfy. -/
structure Sound (p : Program) : Prop where
  constants : ∀ c ∈ p.constants, p.FileInRange c.file ∧ p.TypeInRange c.type ∧ p.ValueInRange c.value
  enums : ∀ e ∈ p.enums, p.FileInRange e.file
  structs : ∀ s ∈ p.structs, p.FileInRange s.file ∧ p.FieldsSound s.fields
  typedefs : ∀ t ∈ p.typedefs, p.FileInRange t.file ∧ p.TypeInRange t.target
  services : ∀ s ∈ p.services, p.FileInRange s.file ∧
    (∀ parent, s.parent = some parent → parent.toNat < p.services.length) ∧
    ∀ f ∈ s.functions, p.FunctionSound f
  /-- Following targets from a typedef reaches a type that is no typedef. -/
  grounded : ∀ t ∈ p.typedefs, ∃ layers root, p.Unfolds t.target layers root
  /-- No constant is defined through itself. -/
  acyclic : ∀ a, ¬ TransGen p.Mentions a a

/-! ### References -/

variable {p : Program} {context : String}

theorem checkRef_eq_ok {arena : Arena} {r : Ref arena} :
    p.checkRef context r = .ok () ↔ r.toNat < p.size arena := by
  unfold checkRef
  split_ifs with h <;> simp [h]

/-! ### Types -/

theorem typeInRange_list {e : Ty} : p.TypeInRange (.list e) ↔ p.TypeInRange e := by
  constructor
  · exact fun h part hp => h part (.element hp)
  · intro h part hp
    cases hp with
    | self => trivial
    | element hp => exact h part hp

theorem typeInRange_set {e : Ty} {a : Annotations} : p.TypeInRange (.set e a) ↔ p.TypeInRange e := by
  constructor
  · exact fun h part hp => h part (.member hp)
  · intro h part hp
    cases hp with
    | self => trivial
    | member hp => exact h part hp

theorem typeInRange_map {k v : Ty} :
    p.TypeInRange (.map k v) ↔ p.TypeInRange k ∧ p.TypeInRange v := by
  constructor
  · exact fun h => ⟨fun part hp => h part (.key hp), fun part hp => h part (.value hp)⟩
  · rintro ⟨hk, hv⟩ part hp
    cases hp with
    | self => trivial
    | key hp => exact hk part hp
    | value hp => exact hv part hp

/-- Of a type without element types only its own reference counts. -/
theorem typeInRange_leaf {ty : Ty} (h : ∀ part, ty.HasPart part → part = ty) :
    p.TypeInRange ty ↔ p.RefInRange ty := by
  constructor
  · exact fun hr => hr ty (.self ty)
  · intro hr part hp
    rw [h part hp]
    exact hr

@[simp] theorem typeInRange_base (b : Base) : p.TypeInRange (.base b) :=
  (typeInRange_leaf fun _ hp => by cases hp; rfl).mpr trivial

theorem typeInRange_enum {r : Ref .enum} : p.TypeInRange (.enum r) ↔ r.toNat < p.enums.length :=
  typeInRange_leaf fun _ hp => by cases hp; rfl

theorem typeInRange_struct {r : Ref .struct} :
    p.TypeInRange (.struct r) ↔ r.toNat < p.structs.length :=
  typeInRange_leaf fun _ hp => by cases hp; rfl

theorem typeInRange_typedef {r : Ref .typedef} :
    p.TypeInRange (.typedef r) ↔ r.toNat < p.typedefs.length :=
  typeInRange_leaf fun _ hp => by cases hp; rfl

theorem checkType_eq_ok {ty : Ty} : p.checkType context ty = .ok () ↔ p.TypeInRange ty := by
  induction ty with
  | base b => simp [checkType]
  | list e ih => rw [checkType, ih, typeInRange_list]
  | set e a ih => rw [checkType, ih, typeInRange_set]
  | map k v ihk ihv => rw [checkType, Except.then_eq_ok, ihk, ihv, typeInRange_map]
  | enum r => rw [checkType, checkRef_eq_ok, typeInRange_enum]; rfl
  | struct r => rw [checkType, checkRef_eq_ok, typeInRange_struct]; rfl
  | typedef r => rw [checkType, checkRef_eq_ok, typeInRange_typedef]; rfl

/-! ### Values -/

theorem valueInRange_list {items : List Value} :
    p.ValueInRange (.list items) ↔ ∀ v ∈ items, p.ValueInRange v := by
  constructor
  · exact fun h v hv part hp => h part (.item hv hp)
  · intro h part hp
    cases hp with
    | self => trivial
    | item hv hp => exact h _ hv part hp

theorem valueInRange_map {entries : List (Value × Value)} :
    p.ValueInRange (.map entries) ↔ ∀ e ∈ entries, p.ValueInRange e.1 ∧ p.ValueInRange e.2 := by
  constructor
  · exact fun h e he => ⟨fun part hp => h part (.key he hp), fun part hp => h part (.value he hp)⟩
  · intro h part hp
    cases hp with
    | self => trivial
    | key he hp => exact (h _ he).1 part hp
    | value he hp => exact (h _ he).2 part hp

/-- Of a value without members only its own reference counts. -/
theorem valueInRange_leaf {v : Value} (h : ∀ part, v.HasPart part → part = v) :
    p.ValueInRange v ↔ p.TargetInRange v := by
  constructor
  · exact fun hr => hr v (.self v)
  · intro hr part hp
    rw [h part hp]
    exact hr

theorem valueInRange_enumItem {r : Ref .enum} {i : UInt64} :
    p.ValueInRange (.enumItem r i) ↔ ∃ e, p.enum? r = some e ∧ i.toNat < e.items.length :=
  valueInRange_leaf fun _ hp => by cases hp; rfl

theorem valueInRange_constant {r : Ref .constant} :
    p.ValueInRange (.constant r) ↔ r.toNat < p.constants.length :=
  valueInRange_leaf fun _ hp => by cases hp; rfl

theorem checkItem_eq_ok {r : Ref .enum} {i : UInt64} :
    p.checkItem context r i = .ok () ↔ ∃ e, p.enum? r = some e ∧ i.toNat < e.items.length := by
  unfold checkItem
  cases he : p.enum? r with
  | none =>
    have hlen : ¬ r.toNat < p.size .enum := by
      simpa [enum?, size, List.getElem?_eq_none_iff] using he
    simp [checkRef_eq_ok, hlen]
  | some e => by_cases hi : i.toNat < e.items.length <;> simp [hi]

mutual

theorem checkValue_eq_ok : ∀ v : Value, p.checkValue context v = .ok () ↔ p.ValueInRange v
  | .bool _ | .int _ | .double _ | .string _ => by
    rw [checkValue, valueInRange_leaf fun _ hp => by cases hp; rfl]
    exact iff_of_true rfl trivial
  | .list items => by rw [checkValue, checkItems_eq_ok items, valueInRange_list]
  | .map entries => by rw [checkValue, checkEntries_eq_ok entries, valueInRange_map]
  | .enumItem r i => by rw [checkValue, checkItem_eq_ok, valueInRange_enumItem]
  | .constant r => by rw [checkValue, checkRef_eq_ok, valueInRange_constant]; rfl

theorem checkItems_eq_ok : ∀ vs : List Value,
    p.checkItems context vs = .ok () ↔ ∀ v ∈ vs, p.ValueInRange v
  | [] => by simp [checkItems]
  | v :: vs => by
    rw [checkItems, Except.then_eq_ok, checkValue_eq_ok v, checkItems_eq_ok vs, List.forall_mem_cons]

theorem checkEntries_eq_ok : ∀ es : List (Value × Value),
    p.checkEntries context es = .ok () ↔ ∀ e ∈ es, p.ValueInRange e.1 ∧ p.ValueInRange e.2
  | [] => by simp [checkEntries]
  | (k, v) :: es => by
    rw [checkEntries, Except.then_eq_ok, Except.then_eq_ok, checkValue_eq_ok k, checkValue_eq_ok v,
      checkEntries_eq_ok es, List.forall_mem_cons, and_assoc]

end

/-! ### Fields and functions -/

theorem fieldsSound_nil : p.FieldsSound [] := ⟨List.nodup_nil, by simp, by simp⟩

theorem fieldsSound_cons {f : Field} {fs : List Field} :
    p.FieldsSound (f :: fs) ↔ (∀ g ∈ fs, g.id ≠ f.id) ∧ p.TypeInRange f.type ∧
      (∀ v, f.default = some v → p.ValueInRange v) ∧ p.FieldsSound fs := by
  constructor
  · rintro ⟨hids, htypes, hdefaults⟩
    rw [List.map_cons, List.nodup_cons, List.mem_map] at hids
    refine ⟨fun g hg he => hids.1 ⟨g, hg, he⟩, htypes f (List.mem_cons_self ..),
      hdefaults f (List.mem_cons_self ..), hids.2, ?_, ?_⟩
    · exact fun g hg => htypes g (List.mem_cons_of_mem _ hg)
    · exact fun g hg => hdefaults g (List.mem_cons_of_mem _ hg)
  · rintro ⟨hne, htype, hdefault, hids, htypes, hdefaults⟩
    refine ⟨?_, List.forall_mem_cons.mpr ⟨htype, htypes⟩, List.forall_mem_cons.mpr ⟨hdefault, hdefaults⟩⟩
    rw [List.map_cons, List.nodup_cons, List.mem_map]
    exact ⟨fun ⟨g, hg, he⟩ => hne g hg he, hids⟩

/-- By induction on the fields; `seen` holds the ids of those before. -/
theorem checkFields_eq_ok {seen : List Int16} {fields : List Field} :
    p.checkFields context seen fields = .ok () ↔
      p.FieldsSound fields ∧ ∀ f ∈ fields, f.id ∉ seen := by
  induction fields generalizing seen with
  | nil => simp [checkFields, fieldsSound_nil]
  | cons f fs ih =>
    rw [checkFields, fieldsSound_cons, List.forall_mem_cons]
    have hany : seen.any (· == f.id) = true ↔ f.id ∈ seen := by simp
    by_cases hseen : f.id ∈ seen
    · rw [if_pos (hany.mpr hseen)]
      exact iff_of_false (by simp [throw, throwThe, MonadExceptOf.throw, bind, Except.bind])
        fun h => h.2.1 hseen
    · rw [if_neg (mt hany.mp hseen)]
      have hrest : p.checkFields context (f.id :: seen) fs = .ok () ↔
          p.FieldsSound fs ∧ (∀ g ∈ fs, g.id ≠ f.id) ∧ ∀ g ∈ fs, g.id ∉ seen := by
        rw [ih]
        simp only [List.mem_cons, not_or, forall_and]
      cases hd : f.default with
      | none =>
        simp only [Except.then_eq_ok, checkType_eq_ok, hrest]
        simp only [reduceCtorEq, false_implies, implies_true, hseen, not_false_eq_true, true_and]
        tauto
      | some v =>
        simp only [Except.then_eq_ok, checkType_eq_ok, checkValue_eq_ok, hrest]
        simp only [Option.some.injEq, forall_eq', hseen, not_false_eq_true, true_and]
        tauto

theorem checkFunction_eq_ok {service : String} {f : Function} :
    p.checkFunction service f = .ok () ↔ p.FunctionSound f := by
  have hsplit : p.FunctionSound f ↔ p.FieldsSound f.arguments ∧ ∀ reply, f.reply = some reply →
      (∀ ty, reply.returns = some ty → p.TypeInRange ty) ∧ p.FieldsSound reply.exceptions :=
    ⟨fun h => ⟨h.1, fun reply hr => ⟨h.2 reply hr, h.3 reply hr⟩⟩,
      fun h => ⟨h.1, fun reply hr => (h.2 reply hr).1, fun reply hr => (h.2 reply hr).2⟩⟩
  rw [checkFunction, hsplit, Except.then_eq_ok, checkFields_eq_ok]
  cases hreply : f.reply with
  | none => simp [pure, Except.pure]
  | some reply =>
    cases hreturns : reply.returns with
    | none => simp [checkFields_eq_ok, hreturns]
    | some ty => simp [checkFields_eq_ok, checkType_eq_ok, Except.then_eq_ok, hreturns]

/-! ### Declarations -/

theorem checkConstant_eq_ok {c : Constant} : p.checkConstant c = .ok () ↔
    p.FileInRange c.file ∧ p.TypeInRange c.type ∧ p.ValueInRange c.value := by
  rw [checkConstant, Except.then_eq_ok, Except.then_eq_ok, checkRef_eq_ok, checkType_eq_ok,
    checkValue_eq_ok]
  rfl

theorem checkEnum_eq_ok {e : Enum} : p.checkEnum e = .ok () ↔ p.FileInRange e.file := by
  rw [checkEnum, checkRef_eq_ok]
  rfl

theorem checkStruct_eq_ok {s : Struct} :
    p.checkStruct s = .ok () ↔ p.FileInRange s.file ∧ p.FieldsSound s.fields := by
  rw [checkStruct, Except.then_eq_ok, checkRef_eq_ok, checkFields_eq_ok]
  simp [FileInRange, size]

theorem checkTypedef_eq_ok {t : Typedef} :
    p.checkTypedef t = .ok () ↔ p.FileInRange t.file ∧ p.TypeInRange t.target := by
  rw [checkTypedef, Except.then_eq_ok, checkRef_eq_ok, checkType_eq_ok]
  rfl

theorem checkService_eq_ok {s : Service} : p.checkService s = .ok () ↔
    p.FileInRange s.file ∧ (∀ parent, s.parent = some parent → parent.toNat < p.services.length) ∧
      ∀ f ∈ s.functions, p.FunctionSound f := by
  rw [checkService, Except.then_eq_ok, checkRef_eq_ok]
  cases hparent : s.parent with
  | none => simp [Except.forM_eq_ok, checkFunction_eq_ok, FileInRange, size]
  | some parent =>
    simp [Except.forM_eq_ok, Except.then_eq_ok, checkRef_eq_ok, checkFunction_eq_ok, FileInRange, size]

/-! ### Chains of typedefs -/

/-- A walk through typedefs that are all there arrives somewhere. -/
theorem descend_isSome (ht : ∀ t ∈ p.typedefs, p.TypeInRange t.target) {ty : Ty}
    (hty : p.TypeInRange ty) (n : Nat) : ∃ root, p.descend n ty = some root := by
  induction n generalizing ty with
  | zero => exact ⟨ty, rfl⟩
  | succ n ih =>
    cases ty with
    | typedef r =>
      have hlt := typeInRange_typedef.mp hty
      have hget : p.typedef? r = some p.typedefs[r.toNat] := List.getElem?_eq_getElem hlt
      rw [descend, hget, Option.bind_some]
      exact ih (ht _ (List.getElem_mem hlt))
    | _ => exact ⟨_, rfl⟩

theorem checkChain_eq_ok (ht : ∀ t ∈ p.typedefs, p.TypeInRange t.target) {t : Typedef}
    (hmem : t ∈ p.typedefs) :
    p.checkChain t = .ok () ↔ ∃ layers root, p.Unfolds t.target layers root := by
  obtain ⟨root, hroot⟩ := descend_isSome ht (ht t hmem) p.typedefs.length
  rw [checkChain, hroot]
  constructor
  · intro h
    have hne : root.isTypedef = false := by
      cases root with
      | typedef r => simp at h
      | _ => rfl
    obtain ⟨layers, hl⟩ := unfolds_of_descend hroot hne
    exact ⟨layers, root, hl⟩
  · rintro ⟨layers, root', hl⟩
    rw [descend_of_unfolds hl hl.length_le, Option.some.injEq] at hroot
    subst hroot
    have hne := hl.root_not_typedef
    cases root' with
    | typedef r => simp [Ty.isTypedef] at hne
    | _ => rfl

/-! ### Cycles of constants -/

mutual

theorem mem_references {r : Ref .constant} :
    ∀ v : Value, r ∈ v.references ↔ v.HasPart (.constant r)
  | .bool _ | .int _ | .double _ | .string _ | .enumItem _ _ => by
    rw [Value.references]
    exact iff_of_false (by simp) fun h => by cases h
  | .constant r' => by
    rw [Value.references, List.mem_singleton]
    constructor
    · rintro rfl
      exact .self _
    · intro h
      cases h
      rfl
  | .list items => by
    rw [Value.references, mem_itemReferences items]
    constructor
    · exact fun ⟨_, hv, hp⟩ => .item hv hp
    · intro h
      cases h with
      | item hv hp => exact ⟨_, hv, hp⟩
  | .map entries => by
    rw [Value.references, mem_entryReferences entries]
    constructor
    · rintro ⟨⟨k, v⟩, he, hp | hp⟩
      · exact .key he hp
      · exact .value he hp
    · intro h
      cases h with
      | key he hp => exact ⟨_, he, .inl hp⟩
      | value he hp => exact ⟨_, he, .inr hp⟩

theorem mem_itemReferences {r : Ref .constant} :
    ∀ vs : List Value, r ∈ Value.itemReferences vs ↔ ∃ v ∈ vs, v.HasPart (.constant r)
  | [] => by simp [Value.itemReferences]
  | v :: vs => by
    simp [Value.itemReferences, mem_references v, mem_itemReferences vs]

theorem mem_entryReferences {r : Ref .constant} :
    ∀ es : List (Value × Value), r ∈ Value.entryReferences es ↔
      ∃ e ∈ es, e.1.HasPart (.constant r) ∨ e.2.HasPart (.constant r)
  | [] => by simp [Value.entryReferences]
  | (k, v) :: es => by
    simp [Value.entryReferences, mem_references k, mem_references v, mem_entryReferences es, or_assoc]

end

/-- The edges that the search for cycles follows are the mentions of constants. -/
theorem mem_constantEdges {a b : Nat} : b ∈ p.constantEdges a ↔ p.Mentions a b := by
  unfold constantEdges Mentions
  cases hc : p.constants[a]? with
  | none => simp
  | some c => simp [mem_references]

theorem edge_constantEdges : Cycle.Edge p.constantEdges = p.Mentions := by
  funext a b
  exact propext mem_constantEdges

theorem checkConstantCycles_eq_ok (hc : ∀ c ∈ p.constants, p.ValueInRange c.value) :
    p.checkConstantCycles = .ok () ↔ ∀ a, ¬ TransGen p.Mentions a a := by
  have hnext : ∀ a, ∀ b ∈ p.constantEdges a, b < p.constants.length := by
    intro a b hb
    obtain ⟨c, r, hget, hpart, rfl⟩ := mem_constantEdges.mp hb
    exact hc c (List.mem_of_getElem? hget) _ hpart
  rw [← edge_constantEdges, ← Cycle.search_isOk_iff hnext, checkConstantCycles]
  cases hs : Cycle.search p.constantEdges p.constants.length with
  | ok done => simp
  | error i =>
    -- The node found lies on a cycle, so it mentions a constant and is one itself.
    have hcycle := Cycle.transGen_of_search_error hnext hs
    rw [edge_constantEdges] at hcycle
    obtain ⟨_, ⟨c, _, hget, _⟩, _⟩ := TransGen.head'_iff.mp hcycle
    simp [hget]

/-! ### Programs -/

theorem sound_of_check (h : p.check = .ok ()) : p.Sound := by
  simp only [check, List.forM_eq_forM, Except.then_eq_ok, Except.forM_eq_ok, checkConstant_eq_ok,
    checkEnum_eq_ok, checkStruct_eq_ok, checkTypedef_eq_ok, checkService_eq_ok] at h
  obtain ⟨hc, he, hs, ht, hchain, hsvc, hcycle⟩ := h
  have htarget : ∀ t ∈ p.typedefs, p.TypeInRange t.target := fun t h => (ht t h).2
  exact ⟨hc, he, hs, ht, hsvc, fun t h => (checkChain_eq_ok htarget h).mp (hchain t h),
    (checkConstantCycles_eq_ok fun c h => (hc c h).2.2).mp hcycle⟩

theorem check_of_sound (h : p.Sound) : p.check = .ok () := by
  simp only [check, List.forM_eq_forM, Except.then_eq_ok, Except.forM_eq_ok, checkConstant_eq_ok,
    checkEnum_eq_ok, checkStruct_eq_ok, checkTypedef_eq_ok, checkService_eq_ok]
  have htarget : ∀ t ∈ p.typedefs, p.TypeInRange t.target := fun t ht => (h.typedefs t ht).2
  exact ⟨h.constants, h.enums, h.structs, h.typedefs,
    fun t ht => (checkChain_eq_ok htarget ht).mpr (h.grounded t ht), h.services,
    (checkConstantCycles_eq_ok fun c hc => (h.constants c hc).2.2).mpr h.acyclic⟩

/-- The check accepts exactly the sound programs. -/
theorem check_eq_ok_iff_sound (p : Program) : p.check = .ok () ↔ p.Sound :=
  ⟨sound_of_check, check_of_sound⟩

end Program

end GoSchema
