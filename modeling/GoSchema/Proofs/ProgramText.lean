import GoSchema.Proofs.JsonRecord
import GoSchema.Proofs.Soundness
import GoSchema.Schema.Loading

/-!
# Programs as JSON texts

A program that is written as JSON is read back as it was. Whatever writing leaves out, reading puts back: an
absent value where an optional entry is missing, and no annotations where there is no entry for them. Two
things stand in the way in general. A double is written as a number, and reading numbers rounds more than once
and may miss the last bit; and reading gives up when sequences and maps are nested too deep.

## What is proved

* `writable_program`: every program without doubles has a document that a JSON text can hold.
* `finds_value`, `finds_struct`, `finds_service` and their like: for each kind of declaration, the reader finds in
  the written document what was written, by induction on types and values.
* `Program.ofText_write`: the program is read back from its text, and loaded from it if it passes the check.

A double that is finite is written with the digits of its shortest decimal, and one that is not as null, so that a
program with doubles need not come back. Such programs can be written; what is read back from them is not said.
-/

namespace GoSchema

/-! ### Programs without doubles -/

/-- No part of the value is a double. -/
def Value.DoubleFree (v : Value) : Prop := ∀ d, ¬ v.HasPart (.double d)

theorem Value.doubleFree_list {items : List Value} : (Value.list items).DoubleFree ↔ ∀ v ∈ items, v.DoubleFree := by
  constructor
  · exact fun h v hv d hpart => h d (.item hv hpart)
  · rintro h d (_ | ⟨hv, hpart⟩)
    exact h _ hv d hpart

theorem Value.doubleFree_map {entries : List (Value × Value)} :
    (Value.map entries).DoubleFree ↔ ∀ e ∈ entries, e.1.DoubleFree ∧ e.2.DoubleFree := by
  constructor
  · exact fun h e he => ⟨fun d hpart => h d (.key he hpart), fun d hpart => h d (.value he hpart)⟩
  · rintro h d (_ | _ | ⟨he, hpart⟩ | ⟨he, hpart⟩)
    · exact (h _ he).1 d hpart
    · exact (h _ he).2 d hpart

/-- The default of the field holds no double. -/
def Field.DoubleFree (f : Field) : Prop := ∀ v ∈ f.default, v.DoubleFree

/-- The defaults of the arguments and the exceptions of the function hold no double. -/
def Function.DoubleFree (f : Function) : Prop :=
  (∀ a ∈ f.arguments, a.DoubleFree) ∧ ∀ reply ∈ f.reply, ∀ e ∈ reply.exceptions, e.DoubleFree

/-- The values of the constants and the defaults of all fields hold no double. -/
structure Program.DoubleFree (p : Program) : Prop where
  constants : ∀ c ∈ p.constants, c.value.DoubleFree
  structs : ∀ s ∈ p.structs, ∀ f ∈ s.fields, f.DoubleFree
  services : ∀ s ∈ p.services, ∀ f ∈ s.functions, f.DoubleFree

namespace Json

/-! ### Every program without doubles can be written -/

@[simp] theorem writable_type (ty : Ty) : Writable ty.node := by
  induction ty with
  | base b => exact .quoted _
  | list e ih => simpa [Ty.node] using ih
  | set e a ih => simpa [Ty.node] using ih
  | map k v ihk ihv => simp [Ty.node, ihk, ihv]
  | enum r | struct r | typedef r => simp [Ty.node]

mutual

theorem writable_value : ∀ v : Value, v.DoubleFree → Writable v.node
  | .bool b, _ => by simp [Value.node]
  | .int n, _ => by simp [Value.node]
  | .double d, h => absurd (.self _) (h d)
  | .string s, _ => by simp [Value.node]
  | .list items, h => by simpa [Value.node] using writable_items items (Value.doubleFree_list.mp h)
  | .map entries, h => by simpa [Value.node] using writable_entries entries (Value.doubleFree_map.mp h)
  | .enumItem r item, _ => by simp [Value.node]
  | .constant r, _ => by simp [Value.node]

theorem writable_items : ∀ vs : List Value, (∀ v ∈ vs, v.DoubleFree) → ∀ n ∈ Value.itemNodes vs, Writable n
  | [], _ => by simp [Value.itemNodes]
  | v :: vs, h => by
    obtain ⟨hv, hvs⟩ := List.forall_mem_cons.mp h
    simpa [Value.itemNodes, writable_value v hv] using writable_items vs hvs

theorem writable_entries : ∀ es : List (Value × Value), (∀ e ∈ es, e.1.DoubleFree ∧ e.2.DoubleFree) →
    ∀ n ∈ Value.entryNodes es, Writable n
  | [], _ => by simp [Value.entryNodes]
  | (k, v) :: es, h => by
    obtain ⟨⟨hk, hv⟩, hes⟩ := List.forall_mem_cons.mp h
    simpa [Value.entryNodes, writable_value k hk, writable_value v hv] using writable_entries es hes

end

theorem writable_field {f : Field} (h : f.DoubleFree) : Writable f.node := by
  simpa [Field.node] using fun v hv => writable_value v (h v hv)

theorem writable_fields {fields : List Field} (h : ∀ f ∈ fields, f.DoubleFree) : Writable (fieldsNode fields) := by
  simpa [fieldsNode] using fun f hf => writable_field (h f hf)

@[simp] theorem writable_file (f : File) : Writable f.node := by
  simp [File.node]

theorem writable_constant {c : Constant} (h : c.value.DoubleFree) : Writable c.node := by
  simp [Constant.node, writable_value c.value h]

@[simp] theorem writable_item (i : EnumItem) : Writable i.node := by
  simp [EnumItem.node]

@[simp] theorem writable_enum (e : Enum) : Writable e.node := by
  simp [Enum.node]

theorem writable_struct {s : Struct} (h : ∀ f ∈ s.fields, f.DoubleFree) : Writable s.node := by
  simp [Struct.node, writable_fields h]

@[simp] theorem writable_typedef (t : Typedef) : Writable t.node := by
  simp [Typedef.node]

theorem writable_reply {r : Reply} (h : ∀ e ∈ r.exceptions, e.DoubleFree) : Writable r.node := by
  simp [Reply.node, writable_fields h]

theorem writable_function {f : Function} (h : f.DoubleFree) : Writable f.node := by
  simpa [Function.node, writable_fields h.1] using fun r hr => writable_reply (h.2 r hr)

theorem writable_service {s : Service} (h : ∀ f ∈ s.functions, f.DoubleFree) : Writable s.node := by
  simpa [Service.node] using fun f hf => writable_function (h f hf)

theorem writable_program {p : Program} (h : p.DoubleFree) : Writable p.node := by
  simpa [Program.node] using ⟨fun c hc => writable_constant (h.constants c hc),
    fun s hs => writable_struct (h.structs s hs), fun s hs => writable_service (h.services s hs)⟩

/-! ### Types -/

theorem type_list (levels : Nat) (content : Node) :
    dialect.type (levels + 1) (.single "list" content) = (do return .list (← dialect.type levels content)) := by
  rw [Dialect.type]
  rfl

theorem type_set (levels : Nat) (content : Node) :
    dialect.type (levels + 2) (.single "set" content) = (do
      let (fields, _) ← dialect.record ["element", "annotations"] 1 content
      let element ← fields.lookup "element"
      return .set (← dialect.type levels element) (← dialect.annotated levels fields)) := by
  rw [Dialect.type]
  rfl

theorem type_map (levels : Nat) (content : Node) :
    dialect.type (levels + 2) (.single "map" content) = (do
      let (fields, _) ← dialect.record ["key", "value"] 1 content
      let key ← fields.lookup "key"
      let value ← fields.lookup "value"
      return .map (← dialect.type levels key) (← dialect.type levels value)) := by
  rw [Dialect.type]
  rfl

theorem finds_type (ty : Ty) : Finds dialect.type ty.node ty := by
  induction ty with
  | base b =>
    intro levels _
    cases levels with
    | zero => cases b <;> rfl
    | succ rest => cases b <;> rw [Dialect.type] <;> rfl
  | list e ih =>
    intro levels hdepth
    obtain ⟨rest, rfl, helement⟩ := Node.levels_of_single hdepth
    rw [Ty.node, type_list, ih rest helement]
    rfl
  | set e a ih =>
    intro levels hdepth
    obtain ⟨_, rfl, hcontent⟩ := Node.levels_of_single hdepth
    obtain ⟨rest, rfl, hfields⟩ := levels_of_record hcontent
    have hw : Writable (.map (entry "element" e.node :: a.asEntry)) := by simp
    rw [Ty.node, type_set]
    have hkeys : KeyedBy (entry "element" e.node :: a.asEntry) ["element", "annotations"] :=
      KeyedBy.append ["element"] ["annotations"] (.refl [entry "element" e.node]) (keyedBy_asEntry a)
    refine bind_eq_some_of (record_map hw hkeys (by decide) 0) ?_
    refine bind_eq_some_of rfl (bind_eq_some_of (ih rest (hfields _ List.mem_cons_self)) ?_)
    refine bind_eq_some_of (annotated_eq hfields rfl) ?_
    rfl
  | map k v ihk ihv =>
    intro levels hdepth
    obtain ⟨_, rfl, hcontent⟩ := Node.levels_of_single hdepth
    obtain ⟨rest, rfl, hfields⟩ := levels_of_record hcontent
    obtain ⟨hkey, hvalue⟩ := List.forall_mem_cons.mp hfields
    rw [Ty.node, type_map]
    refine bind_eq_some_of rfl (bind_eq_some_of rfl (bind_eq_some_of rfl ?_))
    refine bind_eq_some_of (ihk rest hkey) ?_
    refine bind_eq_some_of (ihv rest (hvalue _ List.mem_cons_self)) ?_
    rfl
  | enum r | struct r | typedef r =>
    intro levels hdepth
    obtain ⟨rest, rfl, hcontent⟩ := Node.levels_of_single hdepth
    rw [Ty.node, Dialect.type]
    refine bind_eq_some_of rfl (bind_eq_some_of rfl (bind_eq_some_of (finds_ref r rest hcontent) ?_))
    rfl

/-! ### Values -/

theorem value_succ (levels : Nat) :
    dialect.value (levels + 1) = dialect.valueBy (dialect.value (levels - 1)) (dialect.value (levels - 2)) levels := by
  funext node
  rcases levels with _ | _ | _ <;> rfl

mutual

theorem finds_value : ∀ v : Value, v.DoubleFree → Finds dialect.value v.node v
  | .bool b, _ => by
    intro levels hdepth
    obtain ⟨rest, rfl, hcontent⟩ := Node.levels_of_single hdepth
    rw [value_succ]
    refine bind_eq_some_of rfl (bind_eq_some_of (finds_bool b rest hcontent) ?_)
    rfl
  | .int n, _ => by
    intro levels hdepth
    obtain ⟨rest, rfl, hcontent⟩ := Node.levels_of_single hdepth
    rw [value_succ]
    have hread := integer_ofInt n.minValue_le_toInt n.toInt_le
    refine bind_eq_some_of rfl (bind_eq_some_of hread (bind_eq_some_of (int64?_toInt n) ?_))
    rfl
  | .double d, h => absurd (.self _) (h d)
  | .string s, _ => by
    intro levels hdepth
    obtain ⟨rest, rfl, hcontent⟩ := Node.levels_of_single hdepth
    rw [value_succ]
    rfl
  | .list items, h => by
    intro levels hdepth
    obtain ⟨_, rfl, hcontent⟩ := Node.levels_of_single hdepth
    obtain ⟨rest, rfl, hitems⟩ := Node.levels_of_seq hcontent
    rw [value_succ]
    refine bind_eq_some_of rfl (bind_eq_some_of rfl ?_)
    refine bind_eq_some_of (finds_items items (Value.doubleFree_list.mp h) rest hitems) ?_
    rfl
  | .map entries, h => by
    intro levels hdepth
    obtain ⟨_, rfl, hcontent⟩ := Node.levels_of_single hdepth
    obtain ⟨rest, rfl, hitems⟩ := Node.levels_of_seq hcontent
    rw [value_succ]
    refine bind_eq_some_of rfl (bind_eq_some_of rfl ?_)
    refine bind_eq_some_of (finds_entries entries (Value.doubleFree_map.mp h) rest hitems) ?_
    rfl
  | .enumItem r item, _ => by
    intro levels hdepth
    obtain ⟨_, rfl, hcontent⟩ := Node.levels_of_single hdepth
    obtain ⟨rest, rfl, hfields⟩ := levels_of_record hcontent
    rw [value_succ]
    refine bind_eq_some_of rfl (bind_eq_some_of rfl ?_)
    refine bind_eq_some_of (needed_eq hfields rfl (finds_ref r)) ?_
    refine bind_eq_some_of (needed_eq hfields rfl (finds_uint64 item)) ?_
    rfl
  | .constant r, _ => by
    intro levels hdepth
    obtain ⟨rest, rfl, hcontent⟩ := Node.levels_of_single hdepth
    rw [value_succ]
    refine bind_eq_some_of rfl (bind_eq_some_of (finds_ref r rest hcontent) ?_)
    rfl

theorem finds_items : ∀ vs : List Value, (∀ v ∈ vs, v.DoubleFree) → ∀ levels,
    (∀ n ∈ Value.itemNodes vs, n.depth ≤ levels) → (Value.itemNodes vs).mapM (dialect.value levels) = some vs
  | [], _ => fun _ _ => rfl
  | v :: vs, h => by
    intro levels hdepth
    obtain ⟨hv, hvs⟩ := List.forall_mem_cons.mp h
    obtain ⟨hfirst, hrest⟩ := List.forall_mem_cons.mp hdepth
    rw [Value.itemNodes, List.mapM_cons, finds_value v hv levels hfirst, finds_items vs hvs levels hrest]
    rfl

theorem finds_entries : ∀ es : List (Value × Value), (∀ e ∈ es, e.1.DoubleFree ∧ e.2.DoubleFree) → ∀ levels,
    (∀ n ∈ Value.entryNodes es, n.depth ≤ levels) →
      (Value.entryNodes es).mapM (dialect.pair (dialect.value (levels - 1)) levels) = some es
  | [], _ => fun _ _ => rfl
  | (k, v) :: es, h => by
    intro levels hdepth
    obtain ⟨hkv, hes⟩ := List.forall_mem_cons.mp h
    obtain ⟨hfirst, hrest⟩ := List.forall_mem_cons.mp hdepth
    obtain ⟨rest, rfl, hfields⟩ := levels_of_record hfirst
    obtain ⟨hkey, hvalue⟩ := List.forall_mem_cons.mp hfields
    rw [Value.entryNodes, List.mapM_cons, finds_entries es hes _ hrest]
    have hk := finds_value k hkv.1 rest hkey
    have hv := finds_value v hkv.2 rest (hvalue _ List.mem_cons_self)
    have hpair : dialect.pair (dialect.value rest) (rest + 1)
        (.map [entry "key" k.node, entry "value" v.node]) = some (k, v) := by
      refine bind_eq_some_of rfl (bind_eq_some_of rfl (bind_eq_some_of rfl ?_))
      refine bind_eq_some_of hk (bind_eq_some_of hv ?_)
      rfl
    rw [Nat.add_sub_cancel, hpair]
    rfl

end

/-! ### Declarations -/

theorem finds_file (f : File) : Finds dialect.file f.node f := by
  intro levels hdepth
  obtain ⟨rest, rfl, -⟩ := levels_of_record hdepth
  rfl

theorem finds_constant {c : Constant} (h : c.value.DoubleFree) : Finds dialect.constant c.node c := by
  intro levels hdepth
  obtain ⟨rest, rfl, hfields⟩ := levels_of_record hdepth
  refine bind_eq_some_of (record_map (writable_constant h) (.append ["name", "file", "type", "value"] ["annotations"] (.refl _)
    (keyedBy_asEntry _)) (by decide) rest) ?_
  refine bind_eq_some_of (needed_eq hfields rfl (finds_text c.name)) ?_
  refine bind_eq_some_of (needed_eq hfields rfl (finds_ref c.file)) ?_
  refine bind_eq_some_of (needed_eq hfields rfl (finds_type c.type)) ?_
  refine bind_eq_some_of (needed_eq hfields rfl (finds_value c.value h)) ?_
  exact bind_eq_some_of (annotated_eq hfields rfl) rfl

theorem finds_item (i : EnumItem) : Finds dialect.item i.node i := by
  intro levels hdepth
  obtain ⟨rest, rfl, hfields⟩ := levels_of_record hdepth
  refine bind_eq_some_of (record_map (writable_item i) (.append ["name", "value"] ["annotations"] (.refl _)
    (keyedBy_asEntry _)) (by decide) rest) ?_
  refine bind_eq_some_of (needed_eq hfields rfl (finds_text i.name)) ?_
  refine bind_eq_some_of (needed_eq hfields rfl (finds_int32 i.value)) ?_
  exact bind_eq_some_of (annotated_eq hfields rfl) rfl

theorem finds_enum (e : Enum) : Finds dialect.enum e.node e := by
  intro levels hdepth
  obtain ⟨rest, rfl, hfields⟩ := levels_of_record hdepth
  refine bind_eq_some_of (record_map (writable_enum e) (.append ["name", "file", "items"] ["annotations"] (.refl _)
    (keyedBy_asEntry _)) (by decide) rest) ?_
  refine bind_eq_some_of (needed_eq hfields rfl (finds_text e.name)) ?_
  refine bind_eq_some_of (needed_eq hfields rfl (finds_ref e.file)) ?_
  refine bind_eq_some_of (needed_eq hfields rfl (finds_list fun i _ => finds_item i)) ?_
  exact bind_eq_some_of (annotated_eq hfields rfl) rfl

theorem finds_typedef (t : Typedef) : Finds dialect.typedef t.node t := by
  intro levels hdepth
  obtain ⟨rest, rfl, hfields⟩ := levels_of_record hdepth
  refine bind_eq_some_of (record_map (writable_typedef t) (.append ["name", "file", "target"] ["annotations"] (.refl _)
    (keyedBy_asEntry _)) (by decide) rest) ?_
  refine bind_eq_some_of (needed_eq hfields rfl (finds_text t.name)) ?_
  refine bind_eq_some_of (needed_eq hfields rfl (finds_ref t.file)) ?_
  refine bind_eq_some_of (needed_eq hfields rfl (finds_type t.target)) ?_
  exact bind_eq_some_of (annotated_eq hfields rfl) rfl

theorem finds_required (required : Bool) :
    Finds dialect.required (.quoted (requirednessName required)) required := by
  intro _ _
  cases required <;> rfl

theorem finds_structKind (kind : StructKind) : Finds dialect.structKind (.quoted kind.noun) kind := by
  intro _ _
  cases kind <;> rfl

theorem presence_type (ty : Ty) : dialect.presence? ty.node = some true := by
  cases ty <;> rfl

theorem presence_value (v : Value) : dialect.presence? v.node = some true := by
  cases v <;> rfl

/-- A number is not null. -/
theorem presence_ref {a : Arena} (r : Ref a) : dialect.presence? r.node = some true := by
  have hne : toString (r.toNat : Int) ≠ "null" := by
    intro heq
    have hread := number?_toString r.toNat
    have hnull : number? "null" = none := by decide
    rw [heq, hnull] at hread
    cases hread
  exact congrArg some (decide_eq_true hne)

theorem finds_field {f : Field} (h : f.DoubleFree) : Finds dialect.field f.node f := by
  intro levels hdepth
  obtain ⟨rest, rfl, hfields⟩ := levels_of_record hdepth
  refine bind_eq_some_of (record_map (writable_field h) (.append ["id", "name", "type", "requiredness", "default"]
    ["annotations"] (.append ["id", "name", "type", "requiredness"] ["default"] (.refl _) (keyedBy_optionalEntry _ _ _))
    (keyedBy_asEntry _)) (by decide) rest) ?_
  refine bind_eq_some_of (needed_eq hfields rfl (finds_int16 f.id)) ?_
  refine bind_eq_some_of (needed_eq hfields rfl (finds_text f.name)) ?_
  refine bind_eq_some_of (needed_eq hfields rfl (finds_type f.type)) ?_
  refine bind_eq_some_of (defaulted_eq hfields rfl (finds_required f.required)) ?_
  have hdefault : dialect.possible _ "default" (dialect.value rest) = some f.default :=
    possible_eq hfields (by simp [lookup_asEntry_of_ne]) (fun v _ => presence_value v)
      (fun v hv => finds_value v (h v hv))
  refine bind_eq_some_of hdefault ?_
  exact bind_eq_some_of (annotated_eq hfields (by simp)) rfl

theorem finds_fields {fields : List Field} (h : ∀ f ∈ fields, f.DoubleFree) :
    Finds (dialect.list dialect.field) (fieldsNode fields) fields :=
  finds_list fun f hf => finds_field (h f hf)

theorem finds_struct {s : Struct} (h : ∀ f ∈ s.fields, f.DoubleFree) : Finds dialect.struct s.node s := by
  intro levels hdepth
  obtain ⟨rest, rfl, hfields⟩ := levels_of_record hdepth
  refine bind_eq_some_of (record_map (writable_struct h) (.append ["name", "file", "kind", "fields", "allow-empty"]
    ["annotations"] (.refl _) (keyedBy_asEntry _)) (by decide) rest) ?_
  refine bind_eq_some_of (needed_eq hfields rfl (finds_text s.name)) ?_
  refine bind_eq_some_of (needed_eq hfields rfl (finds_ref s.file)) ?_
  refine bind_eq_some_of (needed_eq hfields rfl (finds_structKind s.kind)) ?_
  refine bind_eq_some_of (defaulted_eq hfields rfl (finds_fields h)) ?_
  refine bind_eq_some_of (defaulted_eq hfields rfl (finds_bool s.allowEmpty)) ?_
  exact bind_eq_some_of (annotated_eq hfields rfl) rfl

theorem finds_reply {r : Reply} (h : ∀ f ∈ r.exceptions, f.DoubleFree) : Finds dialect.reply r.node r := by
  intro levels hdepth
  obtain ⟨rest, rfl, hfields⟩ := levels_of_record hdepth
  refine bind_eq_some_of (record_map (writable_reply h) (.append ["return-type"] ["exceptions"]
    (keyedBy_optionalEntry _ _ _) (.refl _)) (by decide) rest) ?_
  have hreturns : dialect.possible _ "return-type" (dialect.type rest) = some r.returns :=
    possible_eq hfields (by simp) (fun ty _ => presence_type ty) (fun ty _ => finds_type ty)
  refine bind_eq_some_of hreturns ?_
  exact bind_eq_some_of (defaulted_eq hfields (by simp) (finds_fields h)) rfl

theorem finds_function {f : Function} (h : f.DoubleFree) : Finds dialect.function f.node f := by
  intro levels hdepth
  obtain ⟨rest, rfl, hfields⟩ := levels_of_record hdepth
  refine bind_eq_some_of (record_map (writable_function h) (.append ["name", "arguments", "result", "oneway"]
    ["annotations"] (.append ["name", "arguments", "result"] ["oneway"] (.append ["name", "arguments"] ["result"]
    (.refl _) (keyedBy_optionalEntry _ _ _)) (.refl _)) (keyedBy_asEntry _)) (by decide) rest) ?_
  refine bind_eq_some_of (needed_eq hfields rfl (finds_text f.name)) ?_
  refine bind_eq_some_of (defaulted_eq hfields rfl (finds_fields h.1)) ?_
  have hreply : dialect.possible _ "result" (dialect.reply rest) = some f.reply :=
    possible_eq hfields (by simp [lookup_asEntry_of_ne]) (fun _ _ => rfl) (fun r hr => finds_reply (h.2 r hr))
  refine bind_eq_some_of hreply ?_
  refine bind_eq_some_of (defaulted_eq hfields (by simp) (finds_bool f.oneway)) ?_
  exact bind_eq_some_of (annotated_eq hfields (by simp)) rfl

theorem finds_service {s : Service} (h : ∀ f ∈ s.functions, f.DoubleFree) : Finds dialect.service s.node s := by
  intro levels hdepth
  obtain ⟨rest, rfl, hfields⟩ := levels_of_record hdepth
  refine bind_eq_some_of (record_map (writable_service h) (.append ["name", "file", "parent", "functions"]
    ["annotations"] (.append ["name", "file", "parent"] ["functions"] (.append ["name", "file"] ["parent"] (.refl _)
    (keyedBy_optionalEntry _ _ _)) (.refl _)) (keyedBy_asEntry _)) (by decide) rest) ?_
  refine bind_eq_some_of (needed_eq hfields rfl (finds_text s.name)) ?_
  refine bind_eq_some_of (needed_eq hfields rfl (finds_ref s.file)) ?_
  have hparent : dialect.possible _ "parent" dialect.ref = some s.parent :=
    possible_eq hfields (by simp [lookup_asEntry_of_ne]) (fun r _ => presence_ref r) (fun r _ => finds_ref r)
  refine bind_eq_some_of hparent ?_
  have hfunctions : Finds (dialect.list dialect.function) (.seq (s.functions.map Function.node)) s.functions :=
    finds_list fun f hf => finds_function (h f hf)
  refine bind_eq_some_of (defaulted_eq hfields (by simp) hfunctions) ?_
  exact bind_eq_some_of (annotated_eq hfields (by simp)) rfl

theorem program_eq {p : Program} (h : p.DoubleFree) (hdepth : p.node.depth ≤ 127) :
    dialect.program p.node = some p := by
  obtain ⟨rest, hrest, hfields⟩ := levels_of_record hdepth
  obtain rfl : rest = 126 := (Nat.succ.inj hrest).symm
  refine bind_eq_some_of (record_map (writable_program h)
    (show KeyedBy _ ["files", "constants", "enums", "structs", "typedefs", "services"] from .refl _) (by decide) 126) ?_
  refine bind_eq_some_of (defaulted_eq hfields rfl (finds_list fun f _ => finds_file f)) ?_
  refine bind_eq_some_of (defaulted_eq hfields rfl (finds_list fun c hc => finds_constant (h.constants c hc))) ?_
  refine bind_eq_some_of (defaulted_eq hfields rfl (finds_list fun e _ => finds_enum e)) ?_
  refine bind_eq_some_of (defaulted_eq hfields rfl (finds_list fun s hs => finds_struct (h.structs s hs))) ?_
  refine bind_eq_some_of (defaulted_eq hfields rfl (finds_list fun t _ => finds_typedef t)) ?_
  exact bind_eq_some_of (defaulted_eq hfields rfl (finds_list fun s hs => finds_service (h.services s hs))) rfl

end Json

/-- A program without doubles whose document is not nested too deep is read back from its JSON text, and is
loaded from it when it passes the check. -/
theorem Program.ofText_write (p : Program) (hdouble : p.DoubleFree) (hdepth : p.node.depth ≤ 127) :
    Program.ofText .json (Json.write p.node) = .ok p ∧
      (p.check = .ok () → Program.load .json (Json.write p.node) = .ok p) := by
  have htext : Program.ofText .json (Json.write p.node) = .ok p := by
    rw [Program.ofText, Json.read?_write (Json.writable_program hdouble)]
    exact congrArg orMalformed (Json.program_eq hdouble hdepth)
  refine ⟨htext, fun hcheck => ?_⟩
  simp only [Program.load, htext, hcheck]

/-- A parking garage: every kind of declaration, with nested types and values, annotations, and entries that
are left out. -/
def garage : Program where
  files := [⟨"garage.idl", "example/garage", "garage"⟩]
  constants := [
    ⟨"Floors", ⟨0⟩, .list (.base .i32), .list [.int (-1), .int 0, .constant ⟨1⟩], .empty⟩,
    ⟨"Top", ⟨0⟩, .base .i32, .int 7, .ofList [("note", "a \"quoted\"\nline")]⟩,
    ⟨"Rates", ⟨0⟩, .map (.enum ⟨0⟩) (.typedef ⟨0⟩), .map [(.enumItem ⟨0⟩ 1, .string "high"), (.enumItem ⟨0⟩ 0, .list [])],
      .empty⟩]
  enums := [⟨"Size", ⟨0⟩, [⟨"Small", 1, .empty⟩, ⟨"Large", -4, .ofList [("note", "")]⟩], .empty⟩]
  structs := [
    ⟨"Car", ⟨0⟩, .struct, [⟨1, "plate", .base .string, true, none, .empty⟩,
      ⟨-2, "spaces", .set (.list (.base .i64)) (.ofList [("form", "slice")]), false, some (.list [.list [.int 3]]), .empty⟩],
      false, .empty⟩,
    ⟨"Full", ⟨0⟩, .exception, [], false, .empty⟩]
  typedefs := [⟨"Rate", ⟨0⟩, .base .string, .empty⟩]
  services := [
    ⟨"Gate", ⟨0⟩, none, [⟨"enter", [⟨1, "car", .struct ⟨0⟩, false, none, .empty⟩],
      some ⟨some (.base .bool), [⟨1, "full", .struct ⟨1⟩, false, none, .empty⟩]⟩, false, .empty⟩,
      ⟨"leave", [], none, true, .empty⟩], .empty⟩,
    ⟨"Exit", ⟨0⟩, some ⟨0⟩, [], .ofList [("note", "one way")]⟩]

theorem garage_doubleFree : garage.DoubleFree := by
  constructor <;> simp [garage, Field.DoubleFree, Function.DoubleFree, Value.doubleFree_list, Value.doubleFree_map]
  all_goals and_intros <;> rintro d ⟨⟩

theorem garage_ofText_write :
    garage.DoubleFree ∧ garage.node.depth ≤ 127 ∧ garage.check = .ok () ∧
      Program.load .json (Json.write garage.node) = .ok garage := by
  have hdepth : garage.node.depth ≤ 127 := by decide +kernel
  have hcheck : garage.check = .ok () := by rfl
  exact ⟨garage_doubleFree, hdepth, hcheck, (garage.ofText_write garage_doubleFree hdepth).2 hcheck⟩

end GoSchema
