import GoSchema.Proofs.Answers
import GoSchema.Proofs.Conformance
import GoSchema.Proofs.PackageNames
import GoSchema.Proofs.ValueEmission
import GoSchema.Proofs.WholeRun

/-!
# Emitters that check values

An emitter that writes values also checks them. `Env.Settles` says which condition it checks: if it gives an answer, the
condition holds; if the condition holds, it finds no fault with a value; and where nothing but a value can be at fault
(`Env.Ready`) it gives an answer or finds such a fault. There is one rule for each way in which emitters are put together, and
the steps that check nothing settle a condition that always holds.

Two things besides values can be at fault. An identifier given by hand may be refused (`Env.Finds`), and the symbol of
a helper that gives a pointer to a scalar may be taken.

## What is proved

* `Env.Settles.bind`, `Env.Settles.after` and `Env.Settles.before`: conditions are settled one after the other, and
  steps that check nothing may stand around them.
* `Env.goType_finds`, `Env.isStructRooted_finds` and their like: what is looked up is found, if the identifiers
  that were given by hand are valid.
* `Env.Ready.request`: a helper that gives a pointer is there after it was asked for, and the other ones are as
  free as they were.

The conditions themselves are not mentioned here. The literals are settled in the next module, and of all helpers
only those that give pointers to scalars come up on the way.
-/

namespace GoSchema

open Name Program

/-- The identifiers given by hand to declarations, enum items and fields are valid. -/
structure Program.NamesValid (p : Program) : Prop where
  constants : ∀ c ∈ p.constants, OverrideValid c.annotations
  enums : ∀ e ∈ p.enums, OverrideValid e.annotations ∧ ∀ item ∈ e.items, OverrideValid item.annotations
  typedefs : ∀ t ∈ p.typedefs, OverrideValid t.annotations
  structs : ∀ s ∈ p.structs, OverrideValid s.annotations ∧ ∀ f ∈ s.fields, OverrideValid f.annotations

/-- The symbol of the helper that gives a pointer to a value of a base type. -/
def Base.pointerSymbol (b : Base) : String := "_" ++ b.symbol ++ "_" ++ Role.ptr.suffix

namespace Env

/-- What is looked up is found if the identifiers given by hand are valid, and no value is at fault if not. -/
structure Finds (env : Env) {α : Type} (x : Except GenError α) : Prop where
  found : env.program.NamesValid → ∃ a, x = .ok a
  blameless : ∀ site fault, x ≠ .error (.badValue site fault)

/-- From this point of a run on, nothing but a value can be at fault in a literal. -/
structure Ready (env : Env) (r : Run) : Prop where
  names : env.program.NamesValid
  pointers : ∀ b : Base, r.Known b.pointerSymbol ∨ r.names.isTaken b.pointerSymbol = false

/-- The emitter gives answers only under the condition, and finds no fault with a value under it. At a point where
nothing else can be at fault it gives an answer, or it finds a value at the site at fault. -/
structure Settles (env : Env) (site : Site) {α : Type} (m : Emit α) (condition : Prop) : Prop where
  sound : ∀ {r a r'}, m r = .ok (a, r') → condition
  blameless : condition → ∀ r s fault, m r ≠ .error (.badValue s fault)
  decided : ∀ r, env.Ready r →
    (∃ a r', m r = .ok (a, r') ∧ env.Ready r') ∨ ∃ fault, m r = .error (.badValue site fault)

variable {env : Env} {site : Site} {ty : Ty}

/-! ### Look-ups -/

namespace Finds

variable {α β : Type}

theorem ok (a : α) : env.Finds (.ok a) := ⟨fun _ => ⟨a, rfl⟩, nofun⟩

theorem present {o : Option α} (h : ∃ a, o = some a) : env.Finds (GoSchema.present o) := by
  obtain ⟨a, rfl⟩ := h
  exact ok a

theorem bind {x : Except GenError α} {f : α → Except GenError β} (h : env.Finds x)
    (hf : ∀ a, x = .ok a → env.Finds (f a)) : env.Finds (x >>= f) := by
  cases x with
  | ok a => exact hf a rfl
  | error e =>
    refine ⟨fun hnames => ?_, fun s fault he => ?_⟩
    · obtain ⟨a, ha⟩ := h.found hnames
      cases ha
    · cases he
      exact h.blameless s fault rfl

/-- What is there is looked up first. -/
theorem lookup {o : Option α} {a : α} {f : α → Except GenError β} (ho : o = some a) (h : env.Finds (f a)) :
    env.Finds (GoSchema.present o >>= f) := by
  subst ho
  exact h

theorem identifier {name : String} {a : Annotations} {s : Site}
    (h : env.program.NamesValid → OverrideValid a) : env.Finds (GoSchema.identifier name a s) := by
  refine ⟨fun hnames => ⟨_, identifier_eq_ok.mpr ⟨h hnames, rfl⟩⟩, fun s' fault heq => ?_⟩
  unfold GoSchema.identifier at heq
  split at heq
  · cases heq
  · split_ifs at heq
    cases heq

end Finds

theorem pathOf_finds {r : Ref .file} (h : env.program.FileInRange r) : env.Finds (env.pathOf r) := by
  obtain ⟨f, hf⟩ := file?_isSome h
  exact .present ⟨f.path, by rw [hf, Option.map_some]⟩

theorem reference_finds {r : Ref .file} {name : String} {a : Annotations} (h : env.program.FileInRange r)
    (ha : env.program.NamesValid → OverrideValid a) : env.Finds (env.reference r name a) :=
  (pathOf_finds h).bind fun _ _ => (Finds.identifier ha).bind fun _ _ => .ok _

theorem enumRef_finds (hp : env.program.Sound) {r : Ref .enum} (h : env.program.TypeInRange (.enum r)) :
    env.Finds (env.enumRef r) := by
  obtain ⟨e, hmem, he⟩ := enum?_isSome h
  exact Finds.lookup he <| reference_finds (hp.enums e hmem) fun hnames => (hnames.enums e hmem).1

theorem structRef_finds (hp : env.program.Sound) {r : Ref .struct}
    (h : env.program.TypeInRange (.struct r)) : env.Finds (env.structRef r) := by
  obtain ⟨s, hmem, hs⟩ := struct?_isSome h
  exact Finds.lookup hs <| reference_finds (hp.structs s hmem).1 fun hnames => (hnames.structs s hmem).1

theorem typedefRef_finds (hp : env.program.Sound) {r : Ref .typedef}
    (h : env.program.TypeInRange (.typedef r)) : env.Finds (env.typedefRef r) := by
  obtain ⟨t, hmem, ht⟩ := typedef?_isSome h
  exact Finds.lookup ht <| reference_finds (hp.typedefs t hmem).1 fun hnames => hnames.typedefs t hmem

theorem constantRef_finds (hp : env.program.Sound) {r : Ref .constant}
    (h : env.program.ValueInRange (.constant r)) : env.Finds (env.constantRef r) := by
  obtain ⟨c, hmem, hc⟩ := constant?_isSome h
  exact Finds.lookup hc <| reference_finds (hp.constants c hmem).1 fun hnames => hnames.constants c hmem

theorem itemIdent_finds {enumIdent : String} {item : EnumItem} {s : Site}
    (h : env.program.NamesValid → OverrideValid item.annotations) :
    env.Finds (itemIdent enumIdent item s) := by
  unfold itemIdent
  split_ifs
  · exact .identifier h
  · exact .ok _

theorem enumItemRef_finds (hp : env.program.Sound) {r : Ref .enum} {i : UInt64}
    (h : env.program.ValueInRange (.enumItem r i)) : env.Finds (env.enumItemRef r i.toNat) := by
  obtain ⟨e, he, hi⟩ := valueInRange_enumItem.mp h
  have hmem := List.mem_of_getElem? he
  refine Finds.lookup he ?_
  rw [List.getElem?_eq_getElem hi]
  refine (pathOf_finds (hp.enums e hmem)).bind fun _ _ => ?_
  refine (Finds.identifier fun hnames => (hnames.enums e hmem).1).bind fun _ _ => ?_
  refine (itemIdent_finds fun hnames => ?_).bind fun _ _ => .ok _
  exact (hnames.enums e hmem).2 _ (List.getElem_mem hi)

theorem isStructRooted_finds (hp : env.program.Sound) (h : env.program.TypeInRange ty) :
    env.Finds (env.isStructRooted ty) := by
  obtain ⟨root, hroot, -⟩ := hp.rootType?_isSome h
  refine (Finds.present ⟨root, hroot⟩).bind fun root' _ => ?_
  cases root' <;> exact .ok _

theorem goType_finds (hp : env.program.Sound) (h : env.program.TypeInRange ty) : env.Finds (env.goType ty) := by
  induction ty with
  | base b => exact .ok _
  | list e ih => exact (ih (typeInRange_list.mp h)).bind fun _ _ => .ok _
  | set e a ih =>
    have he := typeInRange_set.mp h
    refine (ih he).bind fun _ _ => ?_
    exact (Finds.present (hp.isKeyedSet?_isSome he a)).bind fun _ _ => .ok _
  | map k v ihk ihv =>
    obtain ⟨hk, hv⟩ := typeInRange_map.mp h
    refine (ihk hk).bind fun _ _ => (ihv hv).bind fun _ _ => ?_
    exact (Finds.present (hp.isHashable?_isSome hk)).bind fun _ _ => .ok _
  | enum r => exact (enumRef_finds hp h).bind fun _ _ => .ok _
  | struct r => exact (structRef_finds hp h).bind fun _ _ => .ok _
  | typedef r =>
    refine (typedefRef_finds hp h).bind fun _ _ => ?_
    exact (isStructRooted_finds hp h).bind fun _ _ => .ok _

/-! ### Rules -/

namespace Settles

variable {α β : Type} {P Q : Prop} {m : Emit α} {f : α → Emit β}

theorem congr (h : env.Settles site m P) (hpq : P ↔ Q) : env.Settles site m Q :=
  ⟨fun ha => hpq.mp (h.sound ha), fun hq => h.blameless (hpq.mpr hq), h.decided⟩

theorem pure (a : α) : env.Settles site (Pure.pure a) True :=
  ⟨fun _ => trivial, nofun, fun r hr => .inl ⟨a, r, rfl, hr⟩⟩

theorem refuse (h : ¬ P) (fault : ValueError) :
    env.Settles site (throw (.badValue site fault) : Emit α) P :=
  ⟨nofun, fun hp => absurd hp h, fun _ _ => .inr ⟨fault, rfl⟩⟩

/-- Two conditions are settled one after the other. -/
theorem bind (h : env.Settles site m P) (hf : ∀ a, Answers m a → env.Settles site (f a) Q) :
    env.Settles site (m >>= f) (P ∧ Q) := by
  refine ⟨fun {r b r'} hb => ?_, fun hpq r s fault he => ?_, fun r hr => ?_⟩
  · obtain ⟨a, r₁, hm, hb⟩ := Emit.bind_eq_ok.mp hb
    exact ⟨h.sound hm, (hf a ⟨r, r₁, hm⟩).sound hb⟩
  · rcases Except.bind_eq_error.mp he with he | ⟨⟨a, r₁⟩, hm, he⟩
    · exact h.blameless hpq.1 r s fault he
    · exact (hf a ⟨r, r₁, hm⟩).blameless hpq.2 r₁ s fault he
  · rcases h.decided r hr with ⟨a, r₁, hm, hr₁⟩ | ⟨fault, hm⟩
    · rcases (hf a ⟨r, r₁, hm⟩).decided r₁ hr₁ with ⟨b, r₂, hb, hr₂⟩ | ⟨fault, hb⟩
      · exact .inl ⟨b, r₂, Emit.bind_eq_ok.mpr ⟨a, r₁, hm, hb⟩, hr₂⟩
      · exact .inr ⟨fault, Except.bind_eq_error.mpr (.inr ⟨(a, r₁), hm, hb⟩)⟩
    · exact .inr ⟨fault, Except.bind_eq_error.mpr (.inl hm)⟩

/-- A step that is no check comes first. -/
theorem after (h : env.Settles site m True) (hf : ∀ a, Answers m a → env.Settles site (f a) Q) :
    env.Settles site (m >>= f) Q := (h.bind hf).congr (by simp)

/-- A step that is no check comes last. -/
theorem before (h : env.Settles site m P) (hf : ∀ a, Answers m a → env.Settles site (f a) True) :
    env.Settles site (m >>= f) P := (h.bind hf).congr (by simp)

theorem lift {x : Except GenError α} (h : env.Finds x) : env.Settles site (liftM x) True := by
  cases x with
  | ok a => exact .pure a
  | error e =>
    refine ⟨nofun, fun _ _ s fault he => ?_, fun r hr => ?_⟩
    · cases he
      exact h.blameless s fault rfl
    · obtain ⟨a, ha⟩ := h.found hr.names
      cases ha

end Settles

/-! ### Steps that are no checks -/

theorem Ready.usePath {r : Run} (h : env.Ready r) (path : String) : env.Ready (r.usePath path) :=
  ⟨h.names, fun b => by simpa [Run.Known] using h.pointers b⟩

theorem usePaths_settles (paths : List String) : env.Settles site (usePaths paths) True := by
  refine ⟨fun _ => trivial, nofun, fun r hr => .inl ⟨(), _, rfl, ?_⟩⟩
  induction paths generalizing r with
  | nil => exact hr
  | cons path paths ih => exact ih _ (hr.usePath path)

theorem refer_settles (ref : Go.Reference) : env.Settles site (refer ref) True :=
  (usePaths_settles _).after fun _ _ => .pure _

theorem typeText_settles (hp : env.program.Sound) (h : env.program.TypeInRange ty) :
    env.Settles site (env.typeText ty) True := by
  refine Settles.after ?_ fun _ _ => .pure _
  exact (Settles.lift (goType_finds hp h)).after fun _ _ => (usePaths_settles _).after fun _ _ => .pure _

theorem convert_settles (hp : env.program.Sound) {layers : List (Ref .typedef)}
    (h : ∀ r ∈ layers, env.program.TypeInRange (.typedef r)) (expr : String) :
    env.Settles site (env.convert layers expr) True := by
  induction layers with
  | nil => exact .pure _
  | cons r layers ih =>
    rw [convert]
    obtain ⟨hr, hrest⟩ := List.forall_mem_cons.mp h
    exact (ih hrest).after fun _ _ => (typeText_settles hp hr).after fun _ _ => .pure _

theorem doubleLiteral_settles (d : Double) : env.Settles site (env.doubleLiteral d) True := by
  have hmath : env.Settles site (env.package "math") True := (usePaths_settles _).after fun _ _ => .pure _
  unfold doubleLiteral
  split_ifs
  · exact hmath.after fun _ _ => .pure _
  · exact .pure _
  all_goals exact hmath.after fun _ _ => .pure _

/-! ### Pointers to scalars -/

theorem pointerSymbol_ne_initHook (b : Base) : b.pointerSymbol ≠ initHook := by cases b <;> decide

/-- The helper of a base type asks for nothing and uses no package. -/
theorem exists_ptrCode (b : Base) (name : String) : ∃ code, ∀ r, env.ptrCode (.base b) name r = .ok (code, r) := by
  cases b <;> exact ⟨_, fun _ => rfl⟩

/-- A helper that gives a pointer is there afterwards, and the others are as free as they were. -/
theorem Ready.request {r r' : Run} (b : Base) (h : env.Ready r)
    (hknown : ∀ symbol, r'.Known symbol ↔ r.Known symbol ∨ b.pointerSymbol = symbol)
    (hnames : ∀ symbol, r.names.isTaken symbol = false → symbol ≠ b.pointerSymbol →
      r'.names.isTaken symbol = false) : env.Ready r' := by
  refine ⟨h.names, fun b' => ?_⟩
  by_cases hb : b'.pointerSymbol = b.pointerSymbol
  · exact .inl ((hknown _).mpr (.inr hb.symm))
  · exact (h.pointers b').imp (fun hk => (hknown _).mpr (.inl hk)) fun hfree => hnames _ hfree hb

theorem ptrHelper_settles (b : Base) : env.Settles site (env.ptrHelper (.base b)) True := by
  obtain ⟨code, hcode⟩ := @exists_ptrCode env b b.pointerSymbol
  let q : Request := ⟨.ptr, .base b, b.pointerSymbol⟩
  have heq (r : Run) : env.ptrHelper (.base b) r =
      fulfil q (env.ptrCode (.base b) b.pointerSymbol) r >>= fun y => .ok (b.pointerSymbol, y.2) := rfl
  refine ⟨fun _ => trivial, fun _ r s fault he => ?_, fun r hr => .inl ?_⟩
  · rw [heq] at he
    by_cases hknown : r.Known q.symbol
    · rw [fulfil_of_known _ hknown] at he
      cases he
    cases hnames : r.names.reserve q.symbol with
    | error _ =>
      rw [fulfil_of_taken _ hknown hnames] at he
      cases he
    | ok names =>
      rw [fulfil_of_free _ hknown hnames, hcode] at he
      cases he
  · rw [heq]
    by_cases hknown : r.Known q.symbol
    · rw [fulfil_of_known _ hknown]
      refine ⟨_, _, rfl, hr.request b (fun symbol => ?_) fun symbol hfree _ => hfree⟩
      exact @Run.known_noted r r.symbols q symbol
    · have hfree := (hr.pointers b).resolve_left hknown
      have hnames := (Namespace.reserve_eq_ok (pointerSymbol_ne_initHook b)).mpr ⟨hfree, rfl⟩
      rw [fulfil_of_free _ hknown hnames, hcode]
      refine ⟨_, _, rfl, hr.request b (fun symbol => ?_) fun symbol hfree hne => ?_⟩
      · exact @Run.known_noted r r.symbols q symbol
      · exact Namespace.isTaken_hold.mpr ⟨hne, hfree⟩

theorem pointerTo_settles (hp : env.program.Sound) (h : env.program.TypeInRange ty) {required : Bool}
    (hpointer : env.program.holding? ty required = some .pointer) (expr : String) :
    env.Settles site (env.pointerTo ty expr) True := by
  cases ty with
  | enum r => exact .pure _
  | typedef r =>
    refine (Settles.lift (isStructRooted_finds hp h)).after fun byReference hanswer => ?_
    cases byReference with
    | false => exact .pure _
    | true =>
      obtain ⟨r, hroot⟩ := (isStructRooted_yields hp h).1 true hanswer.of_lift rfl
      exact absurd (not_isNilable_of_pointer hpointer hroot) (by simp [Ty.isNilable])
  | base b =>
    cases b with
    | binary => exact absurd (not_isNilable_of_pointer hpointer (rootType?_self rfl)) (by simp [Ty.isNilable])
    | _ => exact (ptrHelper_settles _).after fun _ _ => .pure _
  | list _ | set _ _ | map _ _ | struct _ =>
    exact absurd (not_isNilable_of_pointer hpointer (rootType?_self rfl)) (by simp [Ty.isNilable])

theorem held_settles (hp : env.program.Sound) (h : env.program.TypeInRange ty) (required : Bool)
    (expr : String) : env.Settles site (env.held ty required expr) True := by
  obtain ⟨root, hroot, -⟩ := hp.rootType?_isSome h
  have hholding : ∃ holding, env.program.holding? ty required = some holding :=
    ⟨_, by rw [holding?, hroot, Option.map_some]⟩
  refine (Settles.lift (.present hholding)).after fun holding hanswer => ?_
  cases holding with
  | pointer => exact pointerTo_settles hp h (present_eq_ok.mp hanswer.of_lift) expr
  | value | nilable => exact .pure _

end Env

end GoSchema
