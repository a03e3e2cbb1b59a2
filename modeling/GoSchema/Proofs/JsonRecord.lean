import GoSchema.Proofs.JsonText
import GoSchema.Schema.Reading
import GoSchema.Schema.Writing
import Mathlib.Data.List.Nodup

/-!
# Records in JSON documents

How the fields of a written record are found again. `Finds` is the statement that is proved for each kind of
document: a reader with levels enough for the document finds what was written. Entries that were left out
are read as what they stand for, an absent value or no annotations.

## What is proved

* `Json.Finds` has a rule for each kind of document: scalars, sequences, maps, records, and entries that may be
  left out.
* `Json.record_map`: a map whose keys are distinct names of fields is read as a record, in whatever order the
  reader asks for them.
* `Json.possible_eq`: what an optional entry is read as, when it was left out.

The reader counts levels, so every rule carries the depth of the document (`Node.depth`). Documents that are nested
deeper than the reader goes are not read at all, which is where the bound of the main result comes from.
-/

namespace GoSchema

/-! ### The depth of a document -/

namespace Node

mutual

/-- How deep sequences and maps are nested in a document. -/
def depth : Node → Nat
  | .plain _ | .quoted _ | .literal _ | .link _ => 0
  | .seq items => depthOfItems items + 1
  | .map entries => depthOfEntries entries + 1
  | .tagged _ node => node.depth

/-- The greatest depth of an item. -/
def depthOfItems : List Node → Nat
  | [] => 0
  | n :: ns => max n.depth (depthOfItems ns)

/-- The greatest depth of a key or a value. -/
def depthOfEntries : List (Node × Node) → Nat
  | [] => 0
  | (k, v) :: es => max (max k.depth v.depth) (depthOfEntries es)

end

theorem depthOfItems_le {items : List Node} {n : Nat} : depthOfItems items ≤ n ↔ ∀ i ∈ items, i.depth ≤ n := by
  induction items with
  | nil => simp [depthOfItems]
  | cons i items ih => rw [depthOfItems, Nat.max_le, ih, List.forall_mem_cons]

theorem depthOfEntries_le {entries : List (Node × Node)} {n : Nat} :
    depthOfEntries entries ≤ n ↔ ∀ e ∈ entries, e.1.depth ≤ n ∧ e.2.depth ≤ n := by
  induction entries with
  | nil => simp [depthOfEntries]
  | cons e entries ih => rw [depthOfEntries, Nat.max_le, Nat.max_le, ih, List.forall_mem_cons]

theorem levels_of_seq {items : List Node} {levels : Nat} (h : (Node.seq items).depth ≤ levels) :
    ∃ rest, levels = rest + 1 ∧ ∀ i ∈ items, i.depth ≤ rest := by
  rw [depth] at h
  obtain ⟨rest, rfl⟩ := Nat.exists_eq_add_of_lt h
  exact ⟨_, rfl, depthOfItems_le.mp (by omega)⟩

theorem levels_of_map {entries : List (Node × Node)} {levels : Nat} (h : (Node.map entries).depth ≤ levels) :
    ∃ rest, levels = rest + 1 ∧ ∀ e ∈ entries, e.2.depth ≤ rest := by
  rw [depth] at h
  obtain ⟨rest, rfl⟩ := Nat.exists_eq_add_of_lt h
  exact ⟨_, rfl, fun e he => (depthOfEntries_le.mp (by omega) e he).2⟩

theorem levels_of_single {key : String} {value : Node} {levels : Nat} (h : (Node.single key value).depth ≤ levels) :
    ∃ rest, levels = rest + 1 ∧ value.depth ≤ rest := by
  obtain ⟨rest, rfl, hvalue⟩ := levels_of_map h
  exact ⟨rest, rfl, hvalue _ List.mem_cons_self⟩

end Node

namespace Json

/-! ### What can be written -/

/-- Entries that a JSON text can hold. -/
def WritableEntries (entries : List (Node × Node)) : Prop :=
  ∀ e ∈ entries, (∃ key, e.1 = .quoted key) ∧ Writable e.2

@[simp] theorem writable_quoted (text : String) : Writable (.quoted text) := .quoted text

@[simp] theorem writable_seq {items : List Node} : Writable (.seq items) ↔ ∀ n ∈ items, Writable n := by
  constructor
  · rintro (_ | _ | h | _)
    exact h
  · exact .seq

@[simp] theorem writable_map {entries : List (Node × Node)} : Writable (.map entries) ↔ WritableEntries entries := by
  constructor
  · rintro (_ | _ | _ | ⟨hkeys, hvalues⟩) e he
    exact ⟨hkeys e he, hvalues e he⟩
  · exact fun h => .map (fun e he => (h e he).1) (fun e he => (h e he).2)

@[simp] theorem writableEntries_nil : WritableEntries [] := fun _ he => absurd he List.not_mem_nil

@[simp] theorem writableEntries_cons {key : String} {value : Node} {entries : List (Node × Node)} :
    WritableEntries (entry key value :: entries) ↔ Writable value ∧ WritableEntries entries := by
  rw [WritableEntries, List.forall_mem_cons]
  exact and_congr_left' (and_iff_right ⟨key, rfl⟩)

@[simp] theorem writableEntries_append {es es' : List (Node × Node)} :
    WritableEntries (es ++ es') ↔ WritableEntries es ∧ WritableEntries es' :=
  List.forall_mem_append

@[simp] theorem writable_single {key : String} {value : Node} : Writable (.single key value) ↔ Writable value := by
  simp [Node.single]

theorem isScalarChar_of_isDigit {c : Char} (h : c.isDigit = true) : isScalarChar c = true := by
  simp [isScalarChar, Char.isAlphanum, h]

@[simp] theorem writable_ofInt (n : Int) : Writable (.ofInt n) := by
  have hscalar : isScalar (toString n) = true := by
    rw [isScalar, number?_toString, Option.isSome_some, Bool.or_true]
  refine .plain hscalar fun c hc => ?_
  rw [toList_toString_int] at hc
  rcases List.mem_append.mp hc with hc | hc
  · split_ifs at hc with hneg
    · rw [List.mem_singleton.mp hc]
      rfl
    · exact absurd hc List.not_mem_nil
  · exact isScalarChar_of_isDigit ((isNumeral_toDigits _).digits c hc)

theorem writable_plain {text : String} (hscalar : isScalar text = true)
    (hchars : text.toList.all isScalarChar = true) : Writable (.plain text) :=
  .plain hscalar (List.all_eq_true.mp hchars)

@[simp] theorem writable_ofBool (b : Bool) : Writable (.ofBool b) := by
  cases b <;> exact writable_plain (by decide) (by decide)

@[simp] theorem writable_ref {a : Arena} (r : Ref a) : Writable r.node := writable_ofInt _

@[simp] theorem writable_annotations (a : Annotations) : Writable a.node := by
  rw [Annotations.node, writable_map]
  intro e he
  obtain ⟨pair, -, rfl⟩ := List.mem_map.mp he
  exact ⟨⟨_, rfl⟩, .quoted _⟩

@[simp] theorem writableEntries_asEntry (a : Annotations) : WritableEntries a.asEntry := by
  unfold Annotations.asEntry
  split_ifs <;> simp

@[simp] theorem writableEntries_optionalEntry {α : Type} {key : String} {v : Option α} {node : α → Node} :
    WritableEntries (optionalEntry key (v.map node)) ↔ ∀ a ∈ v, Writable (node a) := by
  cases v <;> simp [optionalEntry]

/-! ### Finding what was written -/

/-- Given levels for all of `node`, the reader finds `a` in it. -/
def Finds {α : Type} (read : Nat → Node → Option α) (node : Node) (a : α) : Prop :=
  ∀ levels, node.depth ≤ levels → read levels node = some a

theorem bind_eq_some_of {α β : Type} {x : Option α} {f : α → Option β} {a : α} {b : β} (hx : x = some a)
    (hf : f a = some b) : (x >>= f) = some b := by
  rw [hx]
  exact hf

theorem mapM_eq_some {α β : Type} {f : α → Option β} {g : β → α} {bs : List β} (h : ∀ b ∈ bs, f (g b) = some b) :
    (bs.map g).mapM f = some bs := by
  induction bs with
  | nil => rfl
  | cons b bs ih =>
    rw [List.forall_mem_cons] at h
    rw [List.map_cons, List.mapM_cons, h.1, ih h.2]
    rfl

theorem finds_list {α : Type} {read : Nat → Node → Option α} {node : α → Node} {as : List α}
    (h : ∀ a ∈ as, Finds read (node a) a) : Finds (dialect.list read) (.seq (as.map node)) as := by
  intro levels hdepth
  obtain ⟨rest, rfl, hitems⟩ := Node.levels_of_seq hdepth
  exact mapM_eq_some fun a ha => h a ha rest (hitems _ (List.mem_map_of_mem ha))

/-! ### Scalars -/

theorem finds_text (s : String) : Finds (fun _ => dialect.text) (.quoted s) s := fun _ _ => rfl

theorem finds_bool (b : Bool) : Finds (fun _ => dialect.bool) (.ofBool b) b := by
  intro _ _
  cases b <;> rfl

theorem integer_ofInt {n : Int} (hlow : Int64.minValue.toInt ≤ n) (hhigh : n ≤ Int64.maxValue.toInt) :
    dialect.integer (.ofInt n) = some n := by
  have hword : Int64.maxValue.toInt ≤ Decimal.greatestWord := by decide
  exact integer?_toString hlow (Int.le_trans hhigh hword)

theorem natural_ofInt {n : Nat} (h : n ≤ Decimal.greatestWord) : dialect.natural (.ofInt n) = some n := by
  change natural? (toString (n : Int)) = some n
  exact natural?_toString h

theorem int64?_toInt (n : Int64) : int64? n.toInt = some n := by
  rw [int64?, if_pos ⟨n.minValue_le_toInt, n.toInt_le⟩, Int64.ofInt_toInt]

theorem finds_int32 (n : Int32) : Finds (fun _ node => do int32? (← dialect.integer node)) (.ofInt n.toInt) n := by
  have hrange := And.intro n.minValue_le_toInt n.toInt_le
  refine fun _ _ => bind_eq_some_of (integer_ofInt (Int.le_trans ?_ hrange.1) (Int.le_trans hrange.2 ?_)) ?_
  · decide
  · decide
  · exact (if_pos hrange).trans (by rw [Int32.ofInt_toInt])

theorem finds_int16 (n : Int16) : Finds (fun _ node => do int16? (← dialect.integer node)) (.ofInt n.toInt) n := by
  have hrange := And.intro n.minValue_le_toInt n.toInt_le
  refine fun _ _ => bind_eq_some_of (integer_ofInt (Int.le_trans ?_ hrange.1) (Int.le_trans hrange.2 ?_)) ?_
  · decide
  · decide
  · exact (if_pos hrange).trans (by rw [Int16.ofInt_toInt])

theorem finds_uint64 (n : UInt64) : Finds (fun _ node => do uint64? (← dialect.natural node)) (.ofInt n.toNat) n := by
  have hread : dialect.natural (.ofInt n.toNat) = some n.toNat := natural_ofInt (Nat.le_of_lt_succ n.toNat_lt)
  refine fun _ _ => bind_eq_some_of hread ?_
  exact (if_pos n.toNat_lt).trans (by rw [UInt64.ofNat_toNat])

theorem finds_ref {a : Arena} (r : Ref a) : Finds (fun _ => dialect.ref) r.node r := by
  have hindex : uint32? r.toNat = some r.index := by
    rw [uint32?, Ref.toNat, if_pos r.index.toNat_lt, UInt32.ofNat_toNat]
  have hhigh : r.toNat ≤ Decimal.greatestWord := le_trans (Nat.le_of_lt r.index.toNat_lt) (by decide)
  have hread : dialect.natural r.node = some r.toNat := natural_ofInt hhigh
  exact fun _ _ => bind_eq_some_of hread (bind_eq_some_of hindex rfl)

/-! ### Records -/

/-- The entries whose keys are texts, by their keys. -/
def keyed (entries : List (Node × Node)) : List (String × Node) :=
  entries.filterMap fun e => (dialect.text? e.1).map fun key => (key, e.2)

theorem mem_of_lookup {fields : List (String × Node)} {key : String} {node : Node}
    (h : fields.lookup key = some node) : (key, node) ∈ fields := by
  obtain ⟨before, after, rfl, -⟩ := List.lookup_eq_some_iff.mp h
  exact List.mem_append_right _ List.mem_cons_self

theorem exists_of_mem_keyed {entries : List (Node × Node)} {f : String × Node} (h : f ∈ keyed entries) :
    ∃ e ∈ entries, e.2 = f.2 := by
  obtain ⟨e, he, hf⟩ := List.mem_filterMap.mp h
  obtain ⟨key, -, rfl⟩ := Option.map_eq_some_iff.mp hf
  exact ⟨e, he, rfl⟩

/-- The keys of the entries are among the names, and in their order. -/
def KeyedBy (entries : List (Node × Node)) (names : List String) : Prop :=
  ((keyed entries).map Prod.fst).Sublist names

theorem KeyedBy.refl (entries : List (Node × Node)) : KeyedBy entries ((keyed entries).map Prod.fst) :=
  List.Sublist.refl _

theorem KeyedBy.append (names names' : List String) {es es' : List (Node × Node)} (h : KeyedBy es names)
    (h' : KeyedBy es' names') : KeyedBy (es ++ es') (names ++ names') := by
  rw [KeyedBy, keyed, List.filterMap_append, List.map_append]
  exact List.Sublist.append h h'

theorem fieldsOfEntries_eq {names : List String} {entries : List (Node × Node)} (hw : WritableEntries entries)
    (hnames : ∀ f ∈ keyed entries, f.1 ∈ names) {found : List (String × Node)}
    (hdistinct : ((found ++ keyed entries).map Prod.fst).Nodup) :
    dialect.fieldsOfEntries names found entries = some (found ++ keyed entries) := by
  induction entries generalizing found with
  | nil => simp [Dialect.fieldsOfEntries, keyed]
  | cons e entries ih =>
    obtain ⟨⟨⟨key, hkey⟩, -⟩, hrest⟩ := List.forall_mem_cons.mp hw
    obtain ⟨k, value⟩ := e
    cases hkey
    have hcons : keyed ((.quoted key, value) :: entries) = (key, value) :: keyed entries := rfl
    rw [hcons] at hnames hdistinct ⊢
    rw [List.forall_mem_cons] at hnames
    have hfresh : ¬ (found.lookup key).isSome = true := by
      intro hsome
      obtain ⟨n, hn⟩ := Option.isSome_iff_exists.mp hsome
      rw [List.map_append] at hdistinct
      exact List.disjoint_of_nodup_append hdistinct (List.mem_map_of_mem (mem_of_lookup hn)) List.mem_cons_self
    rw [List.append_cons] at hdistinct ⊢
    simp only [Dialect.fieldsOfEntries]
    refine bind_eq_some_of (finds_text key 0 le_rfl) ?_
    rw [if_pos hnames.1, if_neg hfresh]
    exact ih hrest hnames.2 hdistinct

/-- A map whose keys are distinct names of fields is a record. -/
theorem record_map {names : List String} {entries : List (Node × Node)} (hw : Writable (.map entries))
    (hkeys : KeyedBy entries names) (hnames : names.Nodup) (rest : Nat) :
    dialect.record names (rest + 1) (.map entries) = some (keyed entries, rest) := by
  have hfields : dialect.fieldsOfEntries names [] entries = some (keyed entries) :=
    fieldsOfEntries_eq (writable_map.mp hw) (fun f hf => List.Sublist.subset hkeys (List.mem_map_of_mem hf))
      (hnames.sublist hkeys)
  change (dialect.fieldsOfEntries names [] entries >>= fun fields => some (fields, rest)) = _
  rw [hfields]
  rfl

theorem levels_of_record {entries : List (Node × Node)} {levels : Nat} (h : (Node.map entries).depth ≤ levels) :
    ∃ rest, levels = rest + 1 ∧ ∀ f ∈ keyed entries, f.2.depth ≤ rest := by
  obtain ⟨rest, rfl, hvalues⟩ := Node.levels_of_map h
  refine ⟨rest, rfl, fun f hf => ?_⟩
  obtain ⟨e, he, hvalue⟩ := exists_of_mem_keyed hf
  exact hvalue ▸ hvalues e he

section

variable {α : Type} {fields : List (String × Node)} {levels : Nat} (hfields : ∀ f ∈ fields, f.2.depth ≤ levels)
  {key : String} {read : Nat → Node → Option α}

include hfields

theorem needed_eq {node : Node} {a : α} (hlookup : fields.lookup key = some node) (h : Finds read node a) :
    Dialect.needed fields key (read levels) = some a := by
  rw [Dialect.needed, hlookup]
  exact h levels (hfields _ (mem_of_lookup hlookup))

theorem defaulted_eq {default : α} {node : Node} {a : α} (hlookup : fields.lookup key = some node)
    (h : Finds read node a) : Dialect.defaulted fields key default (read levels) = some a := by
  rw [Dialect.defaulted, hlookup]
  exact h levels (hfields _ (mem_of_lookup hlookup))

/-- An optional entry is read as absent when it was left out. -/
theorem possible_eq {v : Option α} {node : α → Node} (hlookup : fields.lookup key = v.map node)
    (hpresent : ∀ a ∈ v, dialect.presence? (node a) = some true) (h : ∀ a ∈ v, Finds read (node a) a) :
    dialect.possible fields key (read levels) = some v := by
  cases v with
  | none =>
    rw [Dialect.possible, Dialect.defaulted, hlookup]
    rfl
  | some a =>
    have hoptional : Finds (fun levels => dialect.optional (read levels)) (node a) (some a) := by
      intro levels hdepth
      refine bind_eq_some_of rfl ?_
      simp only [hpresent a rfl]
      exact bind_eq_some_of (h a rfl levels hdepth) rfl
    exact defaulted_eq hfields hlookup hoptional

end

/-! ### Annotations -/

theorem foldl_insert_entries {pairs : List (String × String)} {a : Annotations}
    (h : ((a.entries ++ pairs).map Prod.fst).Nodup) :
    (pairs.foldl (fun a p => a.insert p.1 p.2) a).entries = a.entries ++ pairs := by
  induction pairs generalizing a with
  | nil => simp
  | cons pair pairs ih =>
    have hfresh : pair.1 ∉ a.keys := by
      intro hmem
      rw [List.map_append] at h
      exact List.disjoint_of_nodup_append h hmem List.mem_cons_self
    have hinsert : (a.insert pair.1 pair.2).entries = a.entries ++ [pair] := by
      rw [Annotations.insert, dif_neg hfresh]
    rw [List.foldl_cons, ih (by rwa [hinsert, ← List.append_cons]), hinsert, ← List.append_cons]

theorem entries_injective {a b : Annotations} (h : a.entries = b.entries) : a = b := by
  cases a
  cases b
  cases h
  rfl

theorem ofList_entries (a : Annotations) : Annotations.ofList a.entries = a := by
  have h : (Annotations.ofList a.entries).entries = Annotations.empty.entries ++ a.entries :=
    foldl_insert_entries a.distinct
  exact entries_injective h

theorem finds_annotations (a : Annotations) : Finds dialect.annotations a.node a := by
  intro levels hdepth
  obtain ⟨rest, rfl, -⟩ := Node.levels_of_map hdepth
  have hpairs : (a.entries.map fun e => entry e.1 (.quoted e.2)).mapM
      (fun e => do return (← dialect.text e.1, ← dialect.text e.2)) = some a.entries :=
    mapM_eq_some fun _ _ => rfl
  refine bind_eq_some_of rfl (bind_eq_some_of hpairs ?_)
  exact congrArg some (ofList_entries a)

theorem keyedBy_asEntry (a : Annotations) : KeyedBy a.asEntry ["annotations"] := by
  unfold Annotations.asEntry
  split_ifs
  · exact List.nil_sublist _
  · exact List.Sublist.refl _

theorem annotated_eq {fields : List (String × Node)} {levels : Nat} (hfields : ∀ f ∈ fields, f.2.depth ≤ levels)
    {a : Annotations} (hlookup : fields.lookup "annotations" = (keyed a.asEntry).lookup "annotations") :
    dialect.annotated levels fields = some a := by
  unfold Annotations.asEntry at hlookup
  split_ifs at hlookup with hempty
  · have hnone : a = .empty := entries_injective (List.isEmpty_iff.mp hempty)
    rw [Dialect.annotated, Dialect.defaulted, hlookup, hnone]
    rfl
  · exact defaulted_eq hfields hlookup (finds_annotations a)

/-! ### Entries that may be left out -/

@[simp] theorem lookup_keyed_nil (key : String) : (keyed []).lookup key = none := rfl

@[simp] theorem lookup_keyed_cons (key k : String) (value : Node) (entries : List (Node × Node)) :
    (keyed (entry k value :: entries)).lookup key = if key = k then some value else (keyed entries).lookup key := by
  change ((k, value) :: keyed entries).lookup key = _
  rw [List.lookup_cons]
  by_cases h : key = k
  · simp [h]
  · rw [beq_false_of_ne h, if_neg h]

@[simp] theorem lookup_keyed_append (key : String) (es es' : List (Node × Node)) :
    (keyed (es ++ es')).lookup key = ((keyed es).lookup key).or ((keyed es').lookup key) := by
  rw [keyed, List.filterMap_append, List.lookup_append]
  rfl

@[simp] theorem lookup_optionalEntry {α : Type} (key k : String) (v : Option α) (node : α → Node) :
    (keyed (optionalEntry k (v.map node))).lookup key = if key = k then v.map node else none := by
  cases v <;> simp [optionalEntry]

theorem lookup_asEntry_of_ne {key : String} (h : key ≠ "annotations") (a : Annotations) :
    (keyed a.asEntry).lookup key = none := by
  unfold Annotations.asEntry
  split_ifs <;> simp [h]

theorem keyedBy_optionalEntry {α : Type} (key : String) (v : Option α) (node : α → Node) :
    KeyedBy (optionalEntry key (v.map node)) [key] := by
  cases v with
  | none => exact List.nil_sublist _
  | some a => exact List.Sublist.refl _

end Json

end GoSchema
