import GoSchema.Proofs.LocalFaults
import GoSchema.Schema.Builder

/-!
# Builders over whole histories

What holds of a builder after any calls that use only references it has given out. Every reference in its
program points to an entry, and typedefs and constants refer to earlier ones only, because a reference is
there to be used only after its entity was added. And a reference keeps its meaning: entities are added at the
end, and a change leaves their names, files and kinds as they are.

## What is proved

* `Builder.serve` makes every request one step. A request that fails changes nothing (`Builder.serve_cases`), and
  one that succeeds adds an entity at the end of its list or changes one in place (`call?_origins`).
* `History` has the calls of a builder with their answers, in which every reference was given out before.
  `History.denotes`: a reference denotes the entity for which it was given out from then on.
* `History.allRefs`: every reference in the program points to an entry.
* `Builder.build_of_history`: building gives the program that was put together, unless a field number is used twice
  or an enum does not have the item that a value names. The two remaining faults of a program do not come up:
  nothing dangles, and typedefs and constants have no cycles.

References have as many bits as in the program, and the counter that gives them out wraps around with them. Calls
with references from another builder are not treated: such a reference may point to nothing or to something else.
-/

namespace GoSchema

/-! ### What references denote -/

/-- What an entity is created as, and stays whatever is called. -/
inductive Origin where
  | file (f : File)
  | constant (c : Constant)
  /-- The annotations of the items may change. -/
  | enum (name : String) (file : Ref .file) (items : List (String × Int32))
  /-- The fields and the annotations may change, and whether a union may be empty. -/
  | struct (name : String) (file : Ref .file) (kind : StructKind)
  | typedef (t : Typedef)
  | service (s : Service)

/-- The list of the program that the entity belongs to. -/
def Origin.arena : Origin → Arena
  | .file _ => .file
  | .constant _ => .constant
  | .enum _ _ _ => .enum
  | .struct _ _ _ => .struct
  | .typedef _ => .typedef
  | .service _ => .service

/-- What an enum was created as. -/
def Enum.origin (e : Enum) : Origin := .enum e.name e.file (e.items.map fun i => (i.name, i.value))

/-- What a struct was created as. -/
def Struct.origin (s : Struct) : Origin := .struct s.name s.file s.kind

/-- What the entities of a list of the program were created as. -/
def Program.origins (p : Program) : Arena → List Origin
  | .file => p.files.map .file
  | .constant => p.constants.map .constant
  | .enum => p.enums.map Enum.origin
  | .struct => p.structs.map Struct.origin
  | .typedef => p.typedefs.map .typedef
  | .service => p.services.map .service

theorem Program.length_origins (p : Program) (a : Arena) : (p.origins a).length = p.size a := by
  cases a <;> simp [origins, size]

theorem Program.InRange.of_grown {p p' : Program} {a : Arena} {r : Ref a} (h : p.InRange r)
    (hgrown : p.origins a <+: p'.origins a) : p'.InRange r := by
  have hlen := hgrown.length_le
  rw [p.length_origins, p'.length_origins] at hlen
  exact Nat.lt_of_lt_of_le h hlen

namespace Builder

/-- The entity that a call creates. -/
def Call.origin? : Call → Option Origin
  | .addFile path importPath package => some (.file ⟨path, importPath, package⟩)
  | .declareStruct file name kind | .addStruct file name kind _ => some (.struct name file kind)
  | .addEnum file name items => some (.enum name file items)
  | .addTypedef file name target => some (.typedef ⟨name, file, target, .empty⟩)
  | .addConstant file name type value => some (.constant ⟨name, file, type, value, .empty⟩)
  | .addService file name parent functions => some (.service ⟨name, file, parent, functions, .empty⟩)
  | .setFields _ _ | .allowEmpty _ | .annotateStruct _ _ _ | .annotateItem _ _ _ _ => none

theorem modifyAt?_eq_some {α : Type} {xs ys : List α} {i : Nat} {f : α → Option α} :
    modifyAt? xs i f = some ys ↔ ∃ x y, xs[i]? = some x ∧ f x = some y ∧ xs.set i y = ys := by
  simp [modifyAt?, Option.bind_eq_some_iff]

theorem modifyStruct?_eq_some {b b' : Builder} {r : Ref .struct} {f : Struct → Struct} {answer : Answer} :
    b.modifyStruct? r f = some (answer, b') ↔
      ∃ structs, modifyAt? b.program.structs r.toNat (fun s => some (f s)) = some structs ∧ .changed = answer ∧
        ⟨{ b.program with structs }⟩ = b' := by
  simp [modifyStruct?, Option.bind_eq_some_iff]

theorem modifyItem?_eq_some {b b' : Builder} {r : Ref .enum} {item : Nat} {f : EnumItem → EnumItem}
    {answer : Answer} :
    b.modifyItem? r item f = some (answer, b') ↔
      ∃ enums, modifyAt? b.program.enums r.toNat
        (fun e => do return { e with items := ← modifyAt? e.items item fun i => some (f i) }) = some enums ∧
        .changed = answer ∧ ⟨{ b.program with enums }⟩ = b' := by
  simp [modifyItem?, Option.bind_eq_some_iff]

/-- A change that does not touch what `view` shows leaves the view of the list as it was. -/
theorem map_of_modifyAt? {α β : Type} {xs ys : List α} {i : Nat} {f : α → Option α} {view : α → β}
    (h : modifyAt? xs i f = some ys) (hview : ∀ x y, f x = some y → view y = view x) :
    ys.map view = xs.map view := by
  obtain ⟨x, y, hx, hy, rfl⟩ := modifyAt?_eq_some.mp h
  obtain ⟨hlt, rfl⟩ := List.getElem?_eq_some_iff.mp hx
  have hself := List.set_getElem_self (show i < (xs.map view).length by simpa using hlt)
  rw [List.getElem_map] at hself
  rw [List.map_set, hview _ _ hy, hself]

/-- What a call does to the entities: it adds one at the end of its list and gives its position, or it leaves
them all as they are. -/
theorem call?_origins {b b' : Builder} {c : Call} {answer : Answer} (h : b.call? c = some (answer, b')) :
    (answer = .changed ∧ ∀ a, b'.program.origins a = b.program.origins a) ∨
    ∃ e, c.origin? = some e ∧ answer = .added e.arena (.ofPosition (b.program.size e.arena)) ∧
      ∀ a, b'.program.origins a = b.program.origins a ++ if a = e.arena then [e] else [] := by
  have hstruct : ∀ r f, b.modifyStruct? r f = some (answer, b') → (∀ s, (f s).origin = s.origin) →
      answer = .changed ∧ ∀ a, b'.program.origins a = b.program.origins a := by
    intro r f hmodify hf
    obtain ⟨structs, hstructs, rfl, rfl⟩ := modifyStruct?_eq_some.mp hmodify
    refine ⟨rfl, fun a => ?_⟩
    cases a with
    | struct => exact map_of_modifyAt? hstructs fun s _ hs => Option.some.inj hs ▸ hf s
    | _ => rfl
  cases c with
  | addFile _ _ _ | declareStruct _ _ _ | addStruct _ _ _ _ | addTypedef _ _ _ | addConstant _ _ _ _
  | addService _ _ _ _ =>
    cases h
    exact .inr ⟨_, rfl, rfl, fun a => by cases a <;> simp [Program.origins, Origin.arena, Struct.origin]⟩
  | addEnum file name items =>
    cases h
    exact .inr ⟨_, rfl, rfl, fun a => by
      cases a <;> simp [Program.origins, Origin.arena, Enum.origin, Function.comp_def]⟩
  | setFields r fields => exact .inl (hstruct r _ h fun _ => rfl)
  | allowEmpty r => exact .inl (hstruct r _ h fun _ => rfl)
  | annotateStruct r key value => exact .inl (hstruct r _ h fun _ => rfl)
  | annotateItem r item key value =>
    obtain ⟨enums, henums, rfl, rfl⟩ := modifyItem?_eq_some.mp h
    refine .inl ⟨rfl, fun a => ?_⟩
    cases a with
    | enum =>
      refine map_of_modifyAt? henums fun e e' he => ?_
      obtain ⟨items, hitems, he⟩ := Option.bind_eq_some_iff.mp he
      cases he
      have hsame : items.map (fun i : EnumItem => (i.name, i.value)) = e.items.map fun i => (i.name, i.value) := by
        refine map_of_modifyAt? hitems fun i _ hi => ?_
        cases hi
        rfl
      exact congrArg (Origin.enum e.name e.file) hsame
    | _ => rfl

/-! ### References of a call -/

/-- All references in a call have the property. -/
def Call.AllRefs (P : {a : Arena} → Ref a → Prop) : Call → Prop
  | .addFile _ _ _ => True
  | .declareStruct file _ _ => P file
  | .addStruct file _ _ fields => P file ∧ ∀ f ∈ fields, f.AllRefs P
  | .setFields r fields => P r ∧ ∀ f ∈ fields, f.AllRefs P
  | .allowEmpty r => P r
  | .annotateStruct r _ _ => P r
  | .addEnum file _ _ => P file
  | .annotateItem r _ _ _ => P r
  | .addTypedef file _ target => P file ∧ target.AllRefs P
  | .addConstant file _ type value => P file ∧ type.AllRefs P ∧ value.AllRefs P
  | .addService file _ parent functions => P file ∧ (∀ r ∈ parent, P r) ∧ ∀ f ∈ functions, f.AllRefs P

theorem Call.AllRefs.mono {P Q : {a : Arena} → Ref a → Prop} (h : ∀ {a : Arena} (r : Ref a), P r → Q r) {c : Call}
    (hc : c.AllRefs P) : c.AllRefs Q := by
  cases c with
  | addFile _ _ _ => trivial
  | declareStruct file _ _ | addEnum file _ _ => exact h file hc
  | allowEmpty r | annotateStruct r _ _ | annotateItem r _ _ _ => exact h r hc
  | addStruct file _ _ fields => exact hc.imp (h file) fun hf f hmem => (hf f hmem).mono h
  | setFields r fields => exact hc.imp (h r) fun hf f hmem => (hf f hmem).mono h
  | addTypedef file _ target => exact hc.imp (h file) (.mono h)
  | addConstant file _ type value => exact hc.imp (h file) (.imp (.mono h) (.mono h))
  | addService file _ parent functions =>
    exact hc.imp (h file) (.imp (fun hr r hmem => h r (hr r hmem)) fun hf f hmem => (hf f hmem).mono h)

/-! ### Histories -/

/-- Serves a request. The answer is absent where the request fails, and then nothing changes. -/
def serve (b : Builder) (c : Call) : Option Answer × Builder :=
  match b.call? c with
  | some (answer, b') => (some answer, b')
  | none => (none, b)

/-- One of the calls was answered with the reference. -/
def Issued (calls : List (Call × Option Answer)) {a : Arena} (r : Ref a) : Prop :=
  ∃ c, (c, some (.added a r)) ∈ calls

/-- `History calls b`: the calls, each with its answer, lead from the empty builder to `b`, and every
reference in a call was the answer to an earlier one. -/
inductive History : List (Call × Option Answer) → Builder → Prop where
  | start : History [] .empty
  | next {calls : List (Call × Option Answer)} {b : Builder} (h : History calls b) (c : Call)
      (hrefs : c.AllRefs (Issued calls)) : History (calls ++ [(c, (b.serve c).1)]) (b.serve c).2

theorem toNat_ofPosition_le {a : Arena} (n : Nat) : (Ref.ofPosition n : Ref a).toNat ≤ n := by
  rw [Ref.ofPosition, Ref.toNat, UInt32.toNat_ofNat']
  exact Nat.mod_le _ _

theorem toNat_ofPosition {a : Arena} {n : Nat} (h : n < UInt32.size) : (Ref.ofPosition n : Ref a).toNat = n := by
  rw [Ref.ofPosition, Ref.toNat, UInt32.toNat_ofNat']
  exact Nat.mod_eq_of_lt h

/-- The entities of a program stay at their positions. -/
theorem call?_grows {b b' : Builder} {c : Call} {answer : Answer} (h : b.call? c = some (answer, b')) (a : Arena) :
    b.program.origins a <+: b'.program.origins a := by
  rcases call?_origins h with ⟨-, hsame⟩ | ⟨e, -, -, hmore⟩
  · exact hsame a ▸ List.prefix_refl _
  · rw [hmore]
    exact List.prefix_append _ _

/-- Adding at the end and changing in place keep to the property that the references have. -/
theorem call?_allRefs {P : {a : Arena} → Ref a → Prop} {b b' : Builder} {c : Call} {answer : Answer}
    (h : b.call? c = some (answer, b')) (hb : b.program.AllRefs P) (hc : c.AllRefs P) : b'.program.AllRefs P := by
  have hadd : ∀ {α : Type} {xs : List α} {x : α} {Q : α → Prop}, (∀ y ∈ xs, Q y) → Q x → ∀ y ∈ xs ++ [x], Q y :=
    fun hxs hx => List.forall_mem_append.mpr ⟨hxs, List.forall_mem_singleton.mpr hx⟩
  have hstruct : ∀ r f, b.modifyStruct? r f = some (answer, b') →
      (∀ s : Struct, P s.file ∧ (∀ f ∈ s.fields, f.AllRefs P) → P (f s).file ∧ ∀ g ∈ (f s).fields, g.AllRefs P) →
      b'.program.AllRefs P := by
    intro r f hmodify hf
    obtain ⟨structs, hstructs, rfl, rfl⟩ := modifyStruct?_eq_some.mp hmodify
    obtain ⟨x, y, hx, hy, rfl⟩ := modifyAt?_eq_some.mp hstructs
    cases hy
    refine { hb with structs := fun s hs => ?_ }
    rcases List.mem_or_eq_of_mem_set hs with hs | rfl
    · exact hb.structs s hs
    · exact hf x (hb.structs x (List.mem_of_getElem? hx))
  cases c with
  | addFile path importPath package =>
    cases h
    exact { hb with }
  | declareStruct file name kind =>
    cases h
    exact { hb with structs := hadd hb.structs ⟨hc, nofun⟩ }
  | addStruct file name kind fields =>
    cases h
    exact { hb with structs := hadd hb.structs hc }
  | setFields r fields => exact hstruct r _ h fun s hs => ⟨hs.1, hc.2⟩
  | allowEmpty r => exact hstruct r _ h fun s hs => hs
  | annotateStruct r key value => exact hstruct r _ h fun s hs => hs
  | addEnum file name items =>
    cases h
    exact { hb with enums := hadd hb.enums hc }
  | annotateItem r item key value =>
    obtain ⟨enums, henums, rfl, rfl⟩ := modifyItem?_eq_some.mp h
    obtain ⟨x, y, hx, hy, rfl⟩ := modifyAt?_eq_some.mp henums
    obtain ⟨items, -, hy⟩ := Option.bind_eq_some_iff.mp hy
    cases hy
    refine { hb with enums := fun e he => ?_ }
    rcases List.mem_or_eq_of_mem_set he with he | rfl
    · exact hb.enums e he
    · exact hb.enums x (List.mem_of_getElem? hx)
  | addTypedef file name target =>
    cases h
    exact { hb with typedefs := hadd hb.typedefs hc }
  | addConstant file name type value =>
    cases h
    exact { hb with constants := hadd hb.constants hc }
  | addService file name parent functions =>
    cases h
    exact { hb with services := hadd hb.services hc }

theorem getElem?_concat {α : Type} {xs : List α} {x y : α} {i : Nat} (h : (xs ++ [x])[i]? = some y) :
    xs[i]? = some y ∨ i = xs.length ∧ y = x := by
  rcases Nat.lt_trichotomy i xs.length with hlt | rfl | hgt
  · rw [List.getElem?_append_left hlt] at h
    exact .inl h
  · rw [List.getElem?_concat_length] at h
    exact .inr ⟨rfl, (Option.some.inj h).symm⟩
  · rw [List.getElem?_eq_none (by rw [List.length_append]; exact hgt)] at h
    cases h

/-- A new typedef or constant can only refer to those that are there already. -/
theorem call?_ordered {b b' : Builder} {c : Call} {answer : Answer} (h : b.call? c = some (answer, b'))
    (hb : b.program.Ordered) (hc : c.AllRefs b.program.InRange) : b'.program.Ordered := by
  have hkept : b'.program.typedefs = b.program.typedefs → b'.program.constants = b.program.constants →
      b'.program.Ordered := fun ht hc => ⟨ht ▸ hb.typedefs, hc ▸ hb.constants⟩
  cases c with
  | addTypedef file name target =>
    cases h
    refine { hb with typedefs := fun i t ht r hr => ?_ }
    rcases getElem?_concat ht with ht | ⟨rfl, rfl⟩
    · exact hb.typedefs i t ht r hr
    · exact hc.2 _ hr
  | addConstant file name type value =>
    cases h
    refine { hb with constants := fun i c hget r hr => ?_ }
    rcases getElem?_concat hget with hget | ⟨rfl, rfl⟩
    · exact hb.constants i c hget r hr
    · exact hc.2.2 _ hr
  | addFile _ _ _ | declareStruct _ _ _ | addStruct _ _ _ _ | addEnum _ _ _ | addService _ _ _ _ =>
    cases h
    exact hkept rfl rfl
  | setFields r _ | allowEmpty r | annotateStruct r _ _ =>
    obtain ⟨structs, -, -, rfl⟩ := modifyStruct?_eq_some.mp h
    exact hkept rfl rfl
  | annotateItem r _ _ _ =>
    obtain ⟨enums, -, -, rfl⟩ := modifyItem?_eq_some.mp h
    exact hkept rfl rfl

/-- A request is served, or it fails and nothing changes. -/
theorem serve_cases (b : Builder) (c : Call) :
    (∃ answer b', b.call? c = some (answer, b') ∧ b.serve c = (some answer, b')) ∨ b.serve c = (none, b) := by
  unfold serve
  cases hcall : b.call? c with
  | none => exact .inr rfl
  | some result => exact .inl ⟨result.1, result.2, rfl, rfl⟩

/-- The call created an entity, and the reference is its position in the program. -/
def Denotes (p : Program) (c : Call) {a : Arena} (r : Ref a) : Prop :=
  ∃ position e, r = .ofPosition position ∧ c.origin? = some e ∧ (p.origins a)[position]? = some e

theorem Denotes.inRange {p : Program} {c : Call} {a : Arena} {r : Ref a} (h : Denotes p c r) : p.InRange r := by
  obtain ⟨position, e, rfl, -, hget⟩ := h
  have hlt := (List.getElem?_eq_some_iff.mp hget).1
  rw [p.length_origins] at hlt
  exact Nat.lt_of_le_of_lt (toNat_ofPosition_le position) hlt

theorem Denotes.of_grown {p p' : Program} {c : Call} {a : Arena} {r : Ref a} (h : Denotes p c r)
    (hgrown : p.origins a <+: p'.origins a) : Denotes p' c r := by
  obtain ⟨position, e, hr, he, hget⟩ := h
  refine ⟨position, e, hr, he, ?_⟩
  obtain ⟨more, hmore⟩ := hgrown
  rw [← hmore, List.getElem?_append_left (List.getElem?_eq_some_iff.mp hget).1, hget]

/-- A new reference denotes the entity that the call has added. -/
theorem call?_denotes {b b' : Builder} {c : Call} {a : Arena} {r : Ref a}
    (h : b.call? c = some (.added a r, b')) : Denotes b'.program c r := by
  rcases call?_origins h with ⟨hchanged, -⟩ | ⟨e, he, hadded, hmore⟩
  · cases hchanged
  · cases hadded
    refine ⟨_, e, rfl, he, ?_⟩
    rw [hmore, if_pos rfl, ← Program.length_origins, List.getElem?_concat_length]

namespace History

variable {calls : List (Call × Option Answer)} {b : Builder}

/-- A reference that was given out denotes its entity from then on. -/
theorem denotes (h : History calls b) {c : Call} {a : Arena} {r : Ref a}
    (hmem : (c, some (.added a r)) ∈ calls) : Denotes b.program c r := by
  induction h with
  | start => cases hmem
  | @next calls b h last hrefs ih =>
    rcases b.serve_cases last with ⟨answer, b', hcall, hserve⟩ | hserve
    · rw [hserve] at hmem ⊢
      rcases List.mem_append.mp hmem with hmem | hmem
      · exact (ih hmem).of_grown (call?_grows hcall a)
      · cases List.mem_singleton.mp hmem
        exact call?_denotes hcall
    · rw [hserve] at hmem ⊢
      rcases List.mem_append.mp hmem with hmem | hmem
      · exact ih hmem
      · cases List.mem_singleton.mp hmem

theorem inRange_of_issued (h : History calls b) {a : Arena} (r : Ref a) (hr : Issued calls r) :
    b.program.InRange r := by
  obtain ⟨c, hmem⟩ := hr
  exact (h.denotes hmem).inRange

/-- Every reference in the program points to an entry. -/
theorem allRefs (h : History calls b) : b.program.AllRefs b.program.InRange := by
  induction h with
  | start => exact ⟨nofun, nofun, nofun, nofun, nofun⟩
  | @next calls b h last hrefs ih =>
    rcases b.serve_cases last with ⟨answer, b', hcall, hserve⟩ | hserve
    · rw [hserve]
      have hgrow : ∀ {a : Arena} (r : Ref a), b.program.InRange r → b'.program.InRange r :=
        fun {a} r hr => hr.of_grown (call?_grows hcall a)
      exact call?_allRefs hcall (ih.mono hgrow) (hrefs.mono fun r hr => hgrow r (h.inRange_of_issued r hr))
    · rw [hserve]
      exact ih

theorem ordered (h : History calls b) : b.program.Ordered := by
  induction h with
  | start => exact ⟨nofun, nofun⟩
  | @next calls b h last hrefs ih =>
    rcases b.serve_cases last with ⟨answer, b', hcall, hserve⟩ | hserve
    · rw [hserve]
      exact call?_ordered hcall ih (hrefs.mono h.inRange_of_issued)
    · rw [hserve]
      exact ih

end History

/-! ### Building -/

/-- After calls that use only references the builder has given out, building gives the program, unless a field
number is used twice or an enum does not have an item; no reference dangles, and there is no cycle. Every
reference given out is the position of the entity that its call created. References are numbers of 32 bits, so
they tell the positions of a list apart as long as it is no longer than there are such numbers. -/
theorem build_of_history {calls : List (Call × Option Answer)} {b : Builder} (h : History calls b) :
    (b.build = .ok b.program ∨ (∃ context id, b.build = .error (.duplicateId context id)) ∨
      ∃ context enumName item size, b.build = .error (.missingItem context enumName item size)) ∧
    ∀ c a (r : Ref a), (c, some (.added a r)) ∈ calls →
      ∃ position e, r = .ofPosition position ∧ c.origin? = some e ∧ (b.program.origins a)[position]? = some e ∧
        (b.program.size a ≤ UInt32.size → r.toNat = position) := by
  constructor
  · have hlocal := Program.check_of_allRefs h.allRefs h.ordered
    rw [build]
    cases hcheck : b.program.check with
    | ok _ => exact .inl rfl
    | error e =>
      have he := hlocal e hcheck
      cases e with
      | duplicateId context id => exact .inr (.inl ⟨context, id, rfl⟩)
      | missingItem context enumName item size => exact .inr (.inr ⟨context, enumName, item, size, rfl⟩)
      | dangling _ _ _ _ | typedefCycle _ _ | constantCycle _ _ => exact he.elim
  · intro c a r hmem
    obtain ⟨position, e, rfl, he, hget⟩ := h.denotes hmem
    refine ⟨position, e, rfl, he, hget, fun hsize => toNat_ofPosition ?_⟩
    have hlt := (List.getElem?_eq_some_iff.mp hget).1
    rw [Program.length_origins] at hlt
    exact Nat.lt_of_lt_of_le hlt hsize

/-- The calls with their answers, and the builder after them. -/
def serveAll (calls : List Call) : List (Call × Option Answer) × Builder :=
  calls.foldl (fun done c => (done.1 ++ [(c, (done.2.serve c).1)], (done.2.serve c).2)) ([], .empty)

/-- A struct that refers to itself, a typedef of a typedef, and a constant that mentions another. -/
def planting : List Call := [
  .addFile "tree.idl" "example/tree" "tree",
  .declareStruct ⟨0⟩ "Tree" .struct,
  .setFields ⟨0⟩ [⟨1, "next", .struct ⟨0⟩, false, none, .empty⟩],
  .addTypedef ⟨0⟩ "Plant" (.struct ⟨0⟩),
  .addTypedef ⟨0⟩ "Wood" (.typedef ⟨0⟩),
  .addConstant ⟨0⟩ "Height" (.base .i32) (.int 3),
  .addConstant ⟨0⟩ "Limit" (.base .i32) (.constant ⟨0⟩)]

theorem planting_history : History (serveAll planting).1 (serveAll planting).2 := by
  have h₁ := History.start.next (.addFile "tree.idl" "example/tree" "tree") trivial
  have h₂ := h₁.next (.declareStruct ⟨0⟩ "Tree" .struct) ⟨_, .head _⟩
  have h₃ := h₂.next (.setFields ⟨0⟩ [⟨1, "next", .struct ⟨0⟩, false, none, .empty⟩])
    ⟨⟨_, .tail _ (.head _)⟩, by
      intro f hf
      cases List.mem_singleton.mp hf
      exact ⟨by rintro _ ⟨⟩; exact ⟨_, .tail _ (.head _)⟩, nofun⟩⟩
  have h₄ := h₃.next (.addTypedef ⟨0⟩ "Plant" (.struct ⟨0⟩)) ⟨⟨_, .head _⟩, by
    rintro _ ⟨⟩
    exact ⟨_, .tail _ (.head _)⟩⟩
  have h₅ := h₄.next (.addTypedef ⟨0⟩ "Wood" (.typedef ⟨0⟩)) ⟨⟨_, .head _⟩, by
    rintro _ ⟨⟩
    exact ⟨_, .tail _ (.tail _ (.tail _ (.head _)))⟩⟩
  have h₆ := h₅.next (.addConstant ⟨0⟩ "Height" (.base .i32) (.int 3)) ⟨⟨_, .head _⟩, by
    constructor <;> rintro _ ⟨⟩ <;> trivial⟩
  exact h₆.next (.addConstant ⟨0⟩ "Limit" (.base .i32) (.constant ⟨0⟩)) ⟨⟨_, .head _⟩, by
    constructor <;> rintro _ ⟨⟩
    · trivial
    · exact ⟨_, .tail _ (.tail _ (.tail _ (.tail _ (.tail _ (.head _)))))⟩⟩

theorem build_of_history_planting :
    History (serveAll planting).1 (serveAll planting).2 ∧
      (serveAll planting).2.build = .ok (serveAll planting).2.program ∧
      (Call.declareStruct ⟨0⟩ "Tree" .struct, some (.added .struct ⟨0⟩)) ∈ (serveAll planting).1 ∧
      ∃ position e, (⟨0⟩ : Ref .struct) = .ofPosition position ∧
        (Call.declareStruct ⟨0⟩ "Tree" .struct).origin? = some e ∧
        ((serveAll planting).2.program.origins .struct)[position]? = some e ∧
        ((serveAll planting).2.program.size .struct ≤ UInt32.size → (⟨0⟩ : Ref .struct).toNat = position) :=
  have hmem : (Call.declareStruct ⟨0⟩ "Tree" .struct, some (.added .struct ⟨0⟩)) ∈ (serveAll planting).1 :=
    .tail _ (.head _)
  ⟨planting_history, rfl, hmem, (build_of_history planting_history).2 _ _ _ hmem⟩

end Builder

end GoSchema
