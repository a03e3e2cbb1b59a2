import GoSchema.Proofs.Lookup

/-!
# Values of a type

Which values of a schema are values of a type. `Program.Fits` says it without walking through the typedefs of a
program: a typedef takes what its target takes, a list the lists of what its element takes, a struct the maps
from names of its fields to what these fields take. References to constants are taken at every type, or at none.

`Program.Inside` says which pairs of a type and a value a pair leads to. A typedef leaves the value as it is, and a
field may have the type of its struct again, so neither types nor values shrink in every step. In a sound program
every walk ends all the same: the value shrinks, or it stays and a typedef layer goes (`Program.Sound.inside_acc`).

## What is proved

* `Program.Unfolds.fits_iff`: a type takes what the type below its typedefs takes, so `Fits` does not depend on how
  the layers are walked.
* `Program.fits_int_iff`: an integer type takes the integers between its bounds, and no others.
* `Program.Fits.accepts` and `Program.Fits.conforms`: taking references as they are and taking none differ only by
  the references.
* `Program.Sound.inside_acc`: every walk from a pair of a type and a value that are there ends.

No emitter occurs in this module. That the literals of the generator are made exactly for the values that fit is
proved where literals are followed.
-/

namespace GoSchema

/-- The least and the greatest integer of an integer type. -/
def Base.bounds? : Base → Option (Int × Int)
  | .i8 => some (-128, 127)
  | .i16 => some (-32768, 32767)
  | .i32 => some (-2147483648, 2147483647)
  | .i64 => some (-9223372036854775808, 9223372036854775807)
  | .bool | .double | .string | .binary => none

/-- A reference to a constant by itself. -/
def Value.isReference : Value → Bool
  | .constant _ => true
  | .bool _ | .int _ | .double _ | .string _ | .list _ | .map _ | .enumItem _ _ => false

theorem Value.isReference_iff {v : Value} : v.isReference = true ↔ ∃ r, v = .constant r := by
  cases v <;> simp [Value.isReference]

namespace Program

/-- The value is one of the type. References to constants are taken as they are, if they are taken at all. -/
inductive Fits (p : Program) (references : Bool) : Ty → Value → Prop where
  | bool (b : Bool) : p.Fits references (.base .bool) (.bool b)
  /-- Zero and one stand for truth values. -/
  | bit {n : Int64} : n = 0 ∨ n = 1 → p.Fits references (.base .bool) (.int n)
  | int {b : Base} {least greatest : Int} {n : Int64} : b.bounds? = some (least, greatest) →
      least ≤ n.toInt → n.toInt ≤ greatest → p.Fits references (.base b) (.int n)
  | double (d : Double) : p.Fits references (.base .double) (.double d)
  /-- Every integer is taken for a double. -/
  | whole (n : Int64) : p.Fits references (.base .double) (.int n)
  | string (s : String) : p.Fits references (.base .string) (.string s)
  | binary (s : String) : p.Fits references (.base .binary) (.string s)
  | item (r : Ref .enum) (i : UInt64) : p.Fits references (.enum r) (.enumItem r i)
  /-- An enum takes the integers of 32 bits, also those that no item has. -/
  | number (r : Ref .enum) {n : Int64} : -2147483648 ≤ n.toInt → n.toInt ≤ 2147483647 →
      p.Fits references (.enum r) (.int n)
  | layer {r : Ref .typedef} {t : Typedef} {v : Value} : p.typedef? r = some t →
      p.Fits references t.target v → p.Fits references (.typedef r) v
  | list {e : Ty} {items : List Value} : (∀ v ∈ items, p.Fits references e v) →
      p.Fits references (.list e) (.list items)
  | set {e : Ty} {a : Annotations} {items : List Value} : (∀ v ∈ items, p.Fits references e v) →
      p.Fits references (.set e a) (.list items)
  | map {k v : Ty} {entries : List (Value × Value)} : (∀ e ∈ entries, p.Fits references k e.1) →
      (∀ e ∈ entries, p.Fits references v e.2) → p.Fits references (.map k v) (.map entries)
  /-- Every key names a field, the first of its name, and what stands behind the key is a value of that field. -/
  | struct {r : Ref .struct} {s : Struct} {entries : List (Value × Value)} : p.struct? r = some s →
      (∀ e ∈ entries, ∃ name f, e.1 = .string name ∧ findField? s.fields name = some f) →
      (∀ e ∈ entries, ∀ name f, e.1 = .string name → findField? s.fields name = some f →
        p.Fits references f.type e.2) →
      p.Fits references (.struct r) (.map entries)
  | reference {ty : Ty} (r : Ref .constant) : references = true → p.Fits references ty (.constant r)

/-- The value, written out without references, is one of the type. -/
abbrev Conforms (p : Program) (ty : Ty) (v : Value) : Prop := p.Fits false ty v

/-- The value is one of the type, as far as it is written out. -/
abbrev Accepts (p : Program) (ty : Ty) (v : Value) : Prop := p.Fits true ty v

/-- To write a value of a type, another one of another type has to be written: the same value at the target of a
typedef, or a part of the value at the type of that part. -/
inductive Inside (p : Program) : Ty × Value → Ty × Value → Prop where
  | layer {r : Ref .typedef} {t : Typedef} {v : Value} : p.typedef? r = some t → v.isReference = false →
      p.Inside (t.target, v) (.typedef r, v)
  | item {e : Ty} {v : Value} {items : List Value} : v ∈ items → p.Inside (e, v) (.list e, .list items)
  | member {e : Ty} {a : Annotations} {v : Value} {items : List Value} : v ∈ items →
      p.Inside (e, v) (.set e a, .list items)
  | key {k v : Ty} {e : Value × Value} {entries : List (Value × Value)} : e ∈ entries →
      p.Inside (k, e.1) (.map k v, .map entries)
  | value {k v : Ty} {e : Value × Value} {entries : List (Value × Value)} : e ∈ entries →
      p.Inside (v, e.2) (.map k v, .map entries)
  | field {r : Ref .struct} {s : Struct} {name : String} {f : Field} {v : Value} {entries : List (Value × Value)} :
      p.struct? r = some s → (.string name, v) ∈ entries → findField? s.fields name = some f →
      p.Inside (f.type, v) (.struct r, .map entries)

variable {p : Program} {references : Bool} {ty ty' root : Ty} {v v' : Value} {layers : List (Ref .typedef)}

/-! ### Walks through types and values -/

/-- Below the typedefs, what is inside is smaller. -/
theorem Inside.sizeOf_lt (h : p.Inside (ty', v') (ty, v)) (hty : ty.isTypedef = false) : sizeOf v' < sizeOf v := by
  cases h with
  | layer _ _ => simp [Ty.isTypedef] at hty
  | item hmem | member hmem =>
    have := List.sizeOf_lt_of_mem hmem
    simp only [Value.list.sizeOf_spec]
    omega
  | @key _ _ e _ hmem | @value _ _ e _ hmem =>
    have := List.sizeOf_lt_of_mem hmem
    obtain ⟨k, w⟩ := e
    simp only [Value.map.sizeOf_spec, Prod.mk.sizeOf_spec] at this ⊢
    omega
  | field _ hmem _ =>
    have := List.sizeOf_lt_of_mem hmem
    simp only [Value.map.sizeOf_spec, Prod.mk.sizeOf_spec] at this ⊢
    omega

/-- What is inside a pair that is there is there. -/
theorem Inside.inRange (hp : p.Sound) (h : p.Inside (ty', v') (ty, v)) (hty : p.TypeInRange ty)
    (hv : p.ValueInRange v) : p.TypeInRange ty' ∧ p.ValueInRange v' := by
  cases h with
  | layer ht _ => exact ⟨(hp.typedefs _ (List.mem_of_getElem? ht)).2, hv⟩
  | item hmem => exact ⟨typeInRange_list.mp hty, valueInRange_list.mp hv _ hmem⟩
  | member hmem => exact ⟨typeInRange_set.mp hty, valueInRange_list.mp hv _ hmem⟩
  | key hmem => exact ⟨(typeInRange_map.mp hty).1, (valueInRange_map.mp hv _ hmem).1⟩
  | value hmem => exact ⟨(typeInRange_map.mp hty).2, (valueInRange_map.mp hv _ hmem).2⟩
  | field hs hmem hf =>
    have hfield := List.mem_of_find?_eq_some hf
    exact ⟨(hp.structs _ (List.mem_of_getElem? hs)).2.types _ hfield, (valueInRange_map.mp hv _ hmem).2⟩

/-- Every walk from a pair that is there ends: by induction on the value, and for one value on the typedef layers
of the type. -/
theorem Sound.inside_acc (hp : p.Sound) (hty : p.TypeInRange ty) (hv : p.ValueInRange v) : Acc p.Inside (ty, v) := by
  induction hsize : sizeOf v using Nat.strongRecOn generalizing ty v with
  | _ n ih =>
    obtain ⟨layers, root, hl⟩ := hp.unfolds hty
    induction hl with
    | stop hroot =>
      refine ⟨_, fun x h => ?_⟩
      obtain ⟨ty', v'⟩ := x
      have hlt := h.sizeOf_lt hroot
      obtain ⟨hty', hv'⟩ := h.inRange hp hty hv
      exact ih _ (hsize ▸ hlt) hty' hv' rfl
    | @layer r t _ _ ht _ ihl =>
      refine ⟨_, fun x h => ?_⟩
      cases h with
      | layer ht' _ =>
        obtain rfl := Option.some.inj (ht.symm.trans ht')
        exact ihl (hp.typedefs _ (List.mem_of_getElem? ht)).2

/-! ### What fits -/

/-- An integer type takes the integers between its bounds. -/
theorem fits_int_iff {b : Base} {least greatest : Int} {n : Int64} (hb : b.bounds? = some (least, greatest)) :
    p.Fits references (.base b) (.int n) ↔ least ≤ n.toInt ∧ n.toInt ≤ greatest := by
  constructor
  · intro h
    cases h with
    | bit _ | whole _ => cases hb
    | int hb' hl hg =>
      cases hb.symm.trans hb'
      exact ⟨hl, hg⟩
  · rintro ⟨hl, hg⟩
    exact .int hb hl hg

theorem fits_number_iff {r : Ref .enum} {n : Int64} :
    p.Fits references (.enum r) (.int n) ↔ -2147483648 ≤ n.toInt ∧ n.toInt ≤ 2147483647 := by
  constructor
  · rintro ⟨⟩
    exact ⟨‹_›, ‹_›⟩
  · rintro ⟨hl, hg⟩
    exact .number r hl hg

theorem fits_list_iff {e : Ty} {items : List Value} :
    p.Fits references (.list e) (.list items) ↔ ∀ v ∈ items, p.Fits references e v := by
  constructor
  · rintro ⟨⟩
    assumption
  · exact .list

theorem fits_set_iff {e : Ty} {a : Annotations} {items : List Value} :
    p.Fits references (.set e a) (.list items) ↔ ∀ v ∈ items, p.Fits references e v := by
  constructor
  · rintro ⟨⟩
    assumption
  · exact .set

theorem fits_map_iff {k v : Ty} {entries : List (Value × Value)} :
    p.Fits references (.map k v) (.map entries) ↔
      ∀ e ∈ entries, p.Fits references k e.1 ∧ p.Fits references v e.2 := by
  constructor
  · intro h e he
    cases h with
    | map hk hv => exact ⟨hk e he, hv e he⟩
  · exact fun h => .map (fun e he => (h e he).1) fun e he => (h e he).2

/-- A key names one field, so what holds of all fields that it names holds of this one. -/
theorem forall_named_iff {fields : List Field} {name : String} {f : Field} {P : Field → Prop}
    (hf : findField? fields name = some f) :
    (∀ name' f', Value.string name = .string name' → findField? fields name' = some f' → P f') ↔ P f := by
  constructor
  · exact fun h => h name f rfl hf
  · rintro h _ f' ⟨⟩ hf'
    cases hf.symm.trans hf'
    exact h

theorem fits_struct_iff {r : Ref .struct} {s : Struct} {entries : List (Value × Value)}
    (hs : p.struct? r = some s) :
    p.Fits references (.struct r) (.map entries) ↔
      ∀ e ∈ entries, (∃ name f, e.1 = .string name ∧ findField? s.fields name = some f) ∧
        ∀ name f, e.1 = .string name → findField? s.fields name = some f →
          p.Fits references f.type e.2 := by
  constructor
  · intro h e he
    cases h with
    | struct hs' hkeys hvalues =>
      cases hs.symm.trans hs'
      exact ⟨hkeys e he, hvalues e he⟩
  · exact fun h => .struct hs (fun e he => (h e he).1) fun e he => (h e he).2

theorem fits_layer_iff {r : Ref .typedef} {t : Typedef} (ht : p.typedef? r = some t) (hv : v.isReference = false) :
    p.Fits references (.typedef r) v ↔ p.Fits references t.target v := by
  constructor
  · intro h
    cases h with
    | layer ht' h =>
      obtain rfl := Option.some.inj (ht.symm.trans ht')
      exact h
    | reference _ _ => cases hv
  · exact .layer ht

/-- A type takes what the type below its typedefs takes. -/
theorem Unfolds.fits_iff (hl : p.Unfolds ty layers root) (hv : v.isReference = false) :
    p.Fits references ty v ↔ p.Fits references root v := by
  induction hl with
  | stop _ => rfl
  | layer ht _ ih => exact (fits_layer_iff ht hv).trans ih

/-- What conforms is accepted. -/
theorem Fits.accepts (h : p.Fits references ty v) : p.Accepts ty v := by
  induction h with
  | bool b => exact .bool b
  | bit h => exact .bit h
  | int hb hl hg => exact .int hb hl hg
  | double d => exact .double d
  | whole n => exact .whole n
  | string s => exact .string s
  | binary s => exact .binary s
  | item r i => exact .item r i
  | number r hl hg => exact .number r hl hg
  | layer ht _ ih => exact .layer ht ih
  | list _ ih => exact .list ih
  | set _ ih => exact .set ih
  | map _ _ ihk ihv => exact .map ihk ihv
  | struct hs hkeys _ ih => exact .struct hs hkeys ih
  | reference r _ => exact .reference r rfl

/-- Without references, what is accepted conforms. -/
theorem Fits.conforms (h : p.Fits references ty v) (hfree : ∀ r, ¬ v.HasPart (.constant r)) : p.Conforms ty v := by
  induction h with
  | bool b => exact .bool b
  | bit h => exact .bit h
  | int hb hl hg => exact .int hb hl hg
  | double d => exact .double d
  | whole n => exact .whole n
  | string s => exact .string s
  | binary s => exact .binary s
  | item r i => exact .item r i
  | number r hl hg => exact .number r hl hg
  | layer ht _ ih => exact .layer ht (ih hfree)
  | list _ ih => exact .list fun v hv => ih v hv fun r hr => hfree r (.item hv hr)
  | set _ ih => exact .set fun v hv => ih v hv fun r hr => hfree r (.item hv hr)
  | map _ _ ihk ihv =>
    refine .map (fun e he => ihk e he fun r hr => ?_) fun e he => ihv e he fun r hr => ?_
    · exact hfree r (.key he hr)
    · exact hfree r (.value he hr)
  | struct hs hkeys _ ih =>
    exact .struct hs hkeys fun e he name f hname hf => ih e he name f hname hf fun r hr => hfree r (.value he hr)
  | reference r _ => exact absurd (.self _) (hfree r)

end Program

end GoSchema
