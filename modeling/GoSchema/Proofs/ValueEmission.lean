import GoSchema.Proofs.TypeEmission

/-!
# Code for values

Literals, in a sound program. Whatever the value and the type, `Env.literal` gives an expression or refuses the
value; it never meets a reference without target, an enum item that is not there, or a pointer to a value of
a type that is not held by pointer.

## What is proved

* `Env.held_emits` and `Env.pointerTo_emits`: only scalars are held by pointer, so the branch for other types is
  not taken.
* `Env.literal_emits`, `Env.itemLiterals_emits`, `Env.entryLiterals_emits` and `Env.fieldLiterals_emits`: literals
  and the lists of them, by induction on the value.
* `Env.constantCode_emits`: the code of a constant.

That the reference to a value is one that was checked is what `Program.Sound` is used for. When a literal refuses
its value is not said here.
-/

namespace GoSchema

open Go Program

namespace Env

variable {env : Env} {ty : Ty}

/-! ### Values held by pointer -/

theorem holding_yields (hp : env.program.Sound) (h : env.program.TypeInRange ty) (required : Bool) :
    Yields (env.holding ty required) fun holding =>
      env.program.holding? ty required = some holding := by
  obtain ⟨root, hroot, _⟩ := hp.rootType?_isSome h
  have hholding : ∃ holding, env.program.holding? ty required = some holding :=
    ⟨_, by rw [holding?, hroot, Option.map_some]⟩
  obtain ⟨holding, hh⟩ := hholding
  exact .present hh hh

/-- Only scalars are held by pointer. -/
theorem not_isNilable_of_pointer {required : Bool} {root : Ty}
    (h : env.program.holding? ty required = some .pointer) (hroot : env.program.rootType? ty = some root) :
    root.isNilable = false := by
  rw [holding?, hroot, Option.map_some, Option.some.injEq] at h
  by_contra hnil
  rw [Bool.not_eq_false] at hnil
  simp [hnil] at h

theorem ptrHelper_emits (hp : env.program.Sound) (h : env.program.TypeInRange ty) :
    env.Emits (env.ptrHelper ty) fun _ => True :=
  Emits.request hp rfl (mayRequest rfl h) fun _ => (typeText_emits hp h).bind fun _ _ => .pure trivial

/-- A type that is no typedef is its own root. -/
theorem rootType?_self {p : Program} (h : ty.isTypedef = false) : p.rootType? ty = some ty :=
  descend_of_not_typedef h _

theorem pointerTo_emits (hp : env.program.Sound) (h : env.program.TypeInRange ty) {required : Bool}
    (hpointer : env.program.holding? ty required = some .pointer) (expr : String) :
    env.Emits (env.pointerTo ty expr) fun _ => True := by
  cases ty with
  | enum r => exact .pure trivial
  | typedef r =>
    refine (Emits.lift (isStructRooted_yields hp h)).bind fun byReference hbyReference => ?_
    cases byReference with
    | false => exact .pure trivial
    | true =>
      obtain ⟨r, hroot⟩ := hbyReference rfl
      exact absurd (not_isNilable_of_pointer hpointer hroot) (by simp [Ty.isNilable])
  | base b =>
    cases b with
    | binary =>
      exact absurd (not_isNilable_of_pointer hpointer (rootType?_self rfl)) (by simp [Ty.isNilable])
    | _ => exact (ptrHelper_emits hp h).bind fun _ _ => .pure trivial
  | list _ | set _ _ | map _ _ | struct _ =>
    exact absurd (not_isNilable_of_pointer hpointer (rootType?_self rfl)) (by simp [Ty.isNilable])

theorem held_emits (hp : env.program.Sound) (h : env.program.TypeInRange ty) (required : Bool)
    (literal : String) : env.Emits (env.held ty required literal) fun _ => True := by
  refine (Emits.lift (holding_yields hp h required)).bind fun holding hholding => ?_
  cases holding with
  | pointer => exact pointerTo_emits hp h hholding literal
  | value | nilable => exact .pure trivial

/-! ### Scalars -/

theorem layers_yields (hp : env.program.Sound) (h : env.program.TypeInRange ty) :
    Yields (env.layers ty) fun x =>
      (∀ r ∈ x.1, env.program.TypeInRange (.typedef r)) ∧ env.program.TypeInRange x.2 := by
  obtain ⟨layers, root, hl⟩ := hp.unfolds h
  exact .present hl.layers?_eq ⟨fun _ hr => Sound.layer_inRange hl hr, hp.root_inRange hl h⟩

theorem convert_emits (hp : env.program.Sound) {layers : List (Ref .typedef)}
    (h : ∀ r ∈ layers, env.program.TypeInRange (.typedef r)) (expr : String) :
    env.Emits (env.convert layers expr) fun _ => True := by
  induction layers with
  | nil => exact .pure trivial
  | cons r layers ih =>
    rw [convert]
    obtain ⟨hr, hrest⟩ := List.forall_mem_cons.mp h
    exact (ih hrest).bind fun _ _ => (typeText_emits hp hr).bind fun _ _ => .pure trivial

theorem doubleLiteral_emits (d : Double) : env.Emits (env.doubleLiteral d) fun _ => True := by
  refine Emits.ite (fun _ => ?_) fun _ => Emits.ite (fun _ => .pure trivial) fun _ => ?_
  · exact (standard_emits (by decide)).bind fun _ _ => .pure trivial
  · exact (standard_emits (by decide)).bind fun _ _ => .pure trivial

theorem intLiteral_yields (site : Site) (range : IntRange) (n : Int64) :
    Yields (intLiteral site range n) fun _ => True := by
  unfold intLiteral
  split_ifs
  · exact .ok trivial
  · exact .error trivial

theorem intAt_emits (hp : env.program.Sound) (site : Site) {root : Ty}
    (h : env.program.TypeInRange root) (n : Int64) :
    env.Emits (env.intAt site root n) fun _ => True := by
  unfold intAt
  split
  · split_ifs
    · exact .pure trivial
    · exact .pure trivial
    · exact .throw trivial
  · exact .pure trivial
  · split
    · exact .lift (intLiteral_yields _ _ _)
    · exact .throw trivial
  · exact (Emits.lift (enumRef_yields hp h)).bind fun _ href => (refer_emits href).bind fun _ _ =>
      (Emits.lift (intLiteral_yields _ _ _)).bind fun _ _ => .pure trivial
  · exact .throw trivial

theorem stringAt_yields (site : Site) (root : Ty) (s : String) :
    Yields (stringAt site root s) fun _ => True := by
  unfold stringAt
  split
  · exact .ok trivial
  · exact .ok trivial
  · exact .error trivial

theorem itemIdent_yields (enumIdent : String) (item : EnumItem) (site : Site) :
    Yields (itemIdent enumIdent item site) fun _ => True := by
  unfold itemIdent
  split_ifs
  · exact identifier_yields _ _ _
  · exact .ok trivial

theorem enumItemRef_yields (hp : env.program.Sound) {r : Ref .enum} {i : UInt64}
    (h : env.program.ValueInRange (.enumItem r i)) :
    Yields (env.enumItemRef r i.toNat) fun ref => env.MayUseAll ref.paths := by
  obtain ⟨e, he, hi⟩ := valueInRange_enumItem.mp h
  refine (Yields.present he rfl).bind fun _ h => h ▸ ?_
  rw [List.getElem?_eq_getElem hi]
  exact (pathOf_yields (hp.enums e (List.mem_of_getElem? he))).bind fun _ _ =>
    (identifier_yields _ _ _).bind fun _ _ => (itemIdent_yields _ _ _).bind fun _ _ =>
      .pure (mayUseAll_paths _ _)

/-! ### Struct literals -/

theorem fieldSlot_yields (hp : env.program.Sound) (site : Site) {s : Struct}
    (h : s ∈ env.program.structs) (key : Value) :
    Yields (env.fieldSlot site s key) fun slot => env.program.TypeInRange slot.type := by
  unfold fieldSlot
  obtain ⟨hfile, hfields⟩ := hp.structs s h
  split
  · split
    · exact .error trivial
    · rename_i field hfield
      have hmem : field ∈ s.fields := List.mem_of_find?_eq_some hfield
      exact (pathOf_yields hfile).bind fun _ _ => (identifier_yields _ _ _).bind fun _ _ =>
        .pure (hfields.types field hmem)
  · exact .error trivial

mutual

theorem literal_emits (hp : env.program.Sound) (site : Site) {ty : Ty} (h : env.program.TypeInRange ty) :
    ∀ v : Value, env.program.ValueInRange v → env.Emits (env.literal site ty v) fun _ => True
  | .constant r, hv => by
    rw [literal]
    exact (Emits.lift (constantRef_yields hp hv)).bind fun _ href => refer_emits href
  | .bool b, _ => by
    rw [literal]
    refine (Emits.lift (layers_yields hp h)).bind fun ⟨layers, root⟩ hl => ?_
    dsimp only
    split
    · exact convert_emits hp hl.1 _
    · exact .throw trivial
  | .int n, _ => by
    rw [literal]
    refine (Emits.lift (layers_yields hp h)).bind fun ⟨layers, root⟩ hl => ?_
    exact (intAt_emits hp site hl.2 n).bind fun _ _ => convert_emits hp hl.1 _
  | .double d, _ => by
    rw [literal]
    refine (Emits.lift (layers_yields hp h)).bind fun ⟨layers, root⟩ hl => ?_
    dsimp only
    split
    · exact (doubleLiteral_emits d).bind fun _ _ => convert_emits hp hl.1 _
    · exact .throw trivial
  | .string s, _ => by
    rw [literal]
    refine (Emits.lift (layers_yields hp h)).bind fun ⟨layers, root⟩ hl => ?_
    exact (Emits.lift (stringAt_yields site root s)).bind fun _ _ => convert_emits hp hl.1 _
  | .enumItem e i, hv => by
    rw [literal]
    refine (Emits.lift (layers_yields hp h)).bind fun ⟨layers, root⟩ hl => ?_
    dsimp only
    split
    · split_ifs with her
      · subst her
        exact (Emits.lift (enumItemRef_yields hp hv)).bind fun _ href => (refer_emits href).bind
          fun _ _ => convert_emits hp hl.1 _
      · exact .throw trivial
    · exact .throw trivial
  | .list items, hv => by
    rw [literal]
    have hitems := valueInRange_list.mp hv
    refine (Emits.lift (layers_yields hp h)).bind fun ⟨layers, root⟩ hl => ?_
    dsimp only at hl ⊢
    split
    · refine (typeText_emits hp hl.2).bind fun _ _ => ?_
      exact (itemLiterals_emits hp site (typeInRange_list.mp hl.2) items hitems).bind
        fun _ _ => convert_emits hp hl.1 _
    · have he := typeInRange_set.mp hl.2
      refine (typeText_emits hp hl.2).bind fun _ _ => ?_
      refine (itemLiterals_emits hp site he items hitems).bind fun _ _ => ?_
      exact (Emits.lift (isKeyedSet_yields hp he _)).bind fun _ _ => convert_emits hp hl.1 _
    · exact .throw trivial
  | .map entries, hv => by
    rw [literal]
    have hentries := valueInRange_map.mp hv
    refine (Emits.lift (layers_yields hp h)).bind fun ⟨layers, root⟩ hl => ?_
    dsimp only at hl ⊢
    split
    · obtain ⟨hkey, hvalue⟩ := typeInRange_map.mp hl.2
      refine (typeText_emits hp hl.2).bind fun _ _ => ?_
      refine (Emits.lift (isKeyedMap_yields hp hkey)).bind fun _ _ => ?_
      exact (entryLiterals_emits hp site hkey hvalue _ entries hentries).bind
        fun _ _ => convert_emits hp hl.1 _
    · obtain ⟨s, hmem, hs⟩ := struct?_isSome hl.2
      refine (Emits.lift (Yields.present hs rfl)).bind fun s' hs' => ?_
      refine (Emits.lift (structRef_yields hp hl.2)).bind fun _ href => ?_
      refine (refer_emits href).bind fun _ _ => ?_
      exact (fieldLiterals_emits hp site (hs' ▸ hmem) entries hentries).bind
        fun _ _ => convert_emits hp hl.1 _
    · exact .throw trivial

theorem itemLiterals_emits (hp : env.program.Sound) (site : Site) {element : Ty}
    (h : env.program.TypeInRange element) : ∀ vs : List Value,
      (∀ v ∈ vs, env.program.ValueInRange v) →
      env.Emits (env.itemLiterals site element vs) fun _ => True
  | [], _ => by rw [itemLiterals]; exact .pure trivial
  | v :: vs, hvs => by
    rw [itemLiterals]
    obtain ⟨hv, hrest⟩ := List.forall_mem_cons.mp hvs
    exact (literal_emits hp site h v hv).bind fun _ _ =>
      (itemLiterals_emits hp site h vs hrest).bind fun _ _ => .pure trivial

theorem entryLiterals_emits (hp : env.program.Sound) (site : Site) {key value : Ty}
    (hk : env.program.TypeInRange key) (hv : env.program.TypeInRange value) (keyed : Bool) :
    ∀ es : List (Value × Value),
      (∀ e ∈ es, env.program.ValueInRange e.1 ∧ env.program.ValueInRange e.2) →
      env.Emits (env.entryLiterals site key value keyed es) fun _ => True
  | [], _ => by rw [entryLiterals]; exact .pure trivial
  | (k, v) :: es, hes => by
    rw [entryLiterals]
    obtain ⟨he, hrest⟩ := List.forall_mem_cons.mp hes
    exact (literal_emits hp site hk k he.1).bind fun _ _ =>
      (literal_emits hp site hv v he.2).bind fun _ _ =>
        (entryLiterals_emits hp site hk hv keyed es hrest).bind fun _ _ => .pure trivial

theorem fieldLiterals_emits (hp : env.program.Sound) (site : Site) {s : Struct}
    (h : s ∈ env.program.structs) : ∀ es : List (Value × Value),
      (∀ e ∈ es, env.program.ValueInRange e.1 ∧ env.program.ValueInRange e.2) →
      env.Emits (env.fieldLiterals site s es) fun _ => True
  | [], _ => by rw [fieldLiterals]; exact .pure trivial
  | (k, v) :: es, hes => by
    rw [fieldLiterals]
    obtain ⟨he, hrest⟩ := List.forall_mem_cons.mp hes
    refine (Emits.lift (fieldSlot_yields hp site h k)).bind fun slot hslot => ?_
    exact (literal_emits hp site hslot v he.2).bind fun _ _ =>
      (held_emits hp hslot _ _).bind fun _ _ =>
        (fieldLiterals_emits hp site h es hrest).bind fun _ _ => .pure trivial

end

theorem fieldValue_emits (hp : env.program.Sound) (site : Site) (h : env.program.TypeInRange ty)
    (required : Bool) {v : Value} (hv : env.program.ValueInRange v) :
    env.Emits (env.fieldValue site ty required v) fun _ => True :=
  (literal_emits hp site h v hv).bind fun _ _ => held_emits hp h _ _

/-! ### Constants -/

theorem checkSets_yields (site : Site) (ty : Ty) : Yields (checkSets site ty) fun _ => True := by
  induction ty with
  | base _ | enum _ | struct _ | typedef _ => exact .ok trivial
  | list e ih => exact ih
  | map k v ihk ihv => exact ihk.bind fun _ _ => ihv
  | set e a ih =>
    rw [checkSets]
    split
    · split_ifs
      · exact ih
      · exact .error trivial
    · exact ih

theorem constantCode_emits (hp : env.program.Sound) {c : Constant} (h : c ∈ env.program.constants) :
    env.Emits (env.constantCode c) fun _ => True := by
  obtain ⟨_, hty, hv⟩ := hp.constants c h
  refine (Emits.lift (identifier_yields _ _ _)).bind fun _ _ => ?_
  refine (Emits.lift (checkSets_yields _ _)).bind fun _ _ => ?_
  refine (typeText_emits hp hty).bind fun _ _ => (literal_emits hp _ hty _ hv).bind fun _ _ => ?_
  exact (Emits.lift (.found (hp.isConstant?_isSome _ hty hv))).bind fun _ _ => .pure trivial

end Env

end GoSchema
