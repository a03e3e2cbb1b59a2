import GoSchema.Proofs.Failure
import GoSchema.Proofs.RunHistory
import GoSchema.Proofs.Settling

/-!
# What literals accept

`Env.literal` accepts the values that fit their type and no others (`Env.literal_settles`). The proof follows the walk
of `Program.Inside`: a literal of a typedef is one of its target, converted, and that of any other type is settled by
those of the parts of the value.

Where all identifiers given by hand are valid, a value that does not fit is the only thing that can stop a literal,
unless a package is named like a helper that gives a pointer to a scalar (`Env.Trace.ready`). No declaration is named
so: of those that begin with an underscore only the items behind an enum without letters and numbers could be, and they
are spelled without an underscore behind a letter (`Env.pointerSymbol_not_isBareItem`).

## What is proved

* `Env.literal_settles_of_parts`: one step of the walk, a case for each form of value and type.
* `Env.literal_settles`: all steps, by the induction that `Program.Sound.inside_acc` provides.
* `Env.Trace.ready` and `Env.Settles.outcome`: at each point of a run, a literal is given or a value is at fault.
* `Env.literal_ok_iff_conforms`: in a sound program with valid identifiers, a literal is given at any point of a
  run exactly if the value fits its type, and otherwise the error names a value.

References to constants are taken as they are, since a literal does not look behind them; what follows from this is
said with the constants. Which text is given is not said here.
-/

namespace GoSchema

open Name Program

namespace Env

variable {env : Env} {site : Site} {ty : Ty}

/-! ### Scalars -/

theorem bounds?_of_intRange? {b : Base} {range : IntRange} (h : b.intRange? = some range) :
    b.bounds? = some (range.least, range.greatest) := by
  cases b <;> cases h <;> rfl

theorem intLiteral_settles (range : IntRange) (n : Int64) :
    env.Settles site (liftM (intLiteral site range n)) (range.least ≤ n.toInt ∧ n.toInt ≤ range.greatest) := by
  unfold intLiteral
  split_ifs with h
  · exact (Settles.pure _).congr (iff_of_true trivial h)
  · exact .refuse h _

theorem intAt_settles (hp : env.program.Sound) {root : Ty} (hroot : root.isTypedef = false)
    (h : env.program.TypeInRange root) (n : Int64) :
    env.Settles site (env.intAt site root n) (env.program.Accepts root (.int n)) := by
  have hwidth {b : Base} {range : IntRange} (hb : b.intRange? = some range) :
      env.Settles site (liftM (intLiteral site range n)) (env.program.Accepts (.base b) (.int n)) :=
    (intLiteral_settles range n).congr (fits_int_iff (bounds?_of_intRange? hb)).symm
  cases root with
  | base b =>
    cases b with
    | bool =>
      unfold intAt
      by_cases h0 : n = 0
      · rw [if_pos h0]
        exact (Settles.pure _).congr (iff_of_true trivial (.bit (.inl h0)))
      by_cases h1 : n = 1
      · rw [if_neg h0, if_pos h1]
        exact (Settles.pure _).congr (iff_of_true trivial (.bit (.inr h1)))
      rw [if_neg h0, if_neg h1]
      refine .refuse (fun h => ?_) _
      cases h with
      | bit h => exact h.elim h0 h1
      | int hb _ _ => cases hb
    | double => exact (Settles.pure _).congr (iff_of_true trivial (.whole n))
    | i8 | i16 | i32 | i64 => exact hwidth rfl
    | string | binary =>
      refine .refuse (fun h => ?_) _
      cases h with
      | int hb _ _ => cases hb
  | enum r =>
    refine (Settles.lift (enumRef_finds hp h)).after fun ref _ => (refer_settles ref).after fun _ _ => ?_
    refine Settles.before ?_ fun _ _ => .pure _
    exact (intLiteral_settles enumRange n).congr fits_number_iff.symm
  | list _ | set _ _ | map _ _ | struct _ => exact .refuse nofun _
  | typedef r => cases hroot

theorem stringAt_settles {root : Ty} (hroot : root.isTypedef = false) (s : String) :
    env.Settles site (liftM (stringAt site root s)) (env.program.Accepts root (.string s)) := by
  cases root with
  | base b =>
    cases b with
    | string => exact (Settles.pure _).congr (iff_of_true trivial (.string s))
    | binary => exact (Settles.pure _).congr (iff_of_true trivial (.binary s))
    | bool | i8 | i16 | i32 | i64 | double => exact .refuse nofun _
  | enum _ | list _ | set _ _ | map _ _ | struct _ => exact .refuse nofun _
  | typedef r => cases hroot

/-! ### Parts -/

theorem itemLiterals_settles {e : Ty} {items : List Value}
    (h : ∀ v ∈ items, env.Settles site (env.literal site e v) (env.program.Accepts e v)) :
    env.Settles site (env.itemLiterals site e items) (∀ v ∈ items, env.program.Accepts e v) := by
  induction items with
  | nil =>
    rw [itemLiterals]
    exact (Settles.pure _).congr (by simp)
  | cons v items ih =>
    rw [itemLiterals]
    obtain ⟨hv, hrest⟩ := List.forall_mem_cons.mp h
    refine (hv.bind fun _ _ => ?_).congr List.forall_mem_cons.symm
    exact (ih hrest).before fun _ _ => .pure _

theorem entryLiterals_settles {k v : Ty} {entries : List (Value × Value)} (keyed : Bool)
    (hk : ∀ e ∈ entries, env.Settles site (env.literal site k e.1) (env.program.Accepts k e.1))
    (hv : ∀ e ∈ entries, env.Settles site (env.literal site v e.2) (env.program.Accepts v e.2)) :
    env.Settles site (env.entryLiterals site k v keyed entries)
      (∀ e ∈ entries, env.program.Accepts k e.1 ∧ env.program.Accepts v e.2) := by
  induction entries with
  | nil =>
    rw [entryLiterals]
    exact (Settles.pure _).congr (by simp)
  | cons e entries ih =>
    obtain ⟨key, value⟩ := e
    rw [entryLiterals]
    obtain ⟨hkey, hkeys⟩ := List.forall_mem_cons.mp hk
    obtain ⟨hvalue, hvalues⟩ := List.forall_mem_cons.mp hv
    have hcons : (∀ e ∈ (key, value) :: entries, env.program.Accepts k e.1 ∧ env.program.Accepts v e.2) ↔
        env.program.Accepts k key ∧ env.program.Accepts v value ∧
          ∀ e ∈ entries, env.program.Accepts k e.1 ∧ env.program.Accepts v e.2 := by
      rw [List.forall_mem_cons, and_assoc]
    refine (hkey.bind fun _ _ => hvalue.bind fun _ _ => ?_).congr hcons.symm
    exact (ih hkeys hvalues).before fun _ _ => .pure _

theorem fieldSlot_settles (hp : env.program.Sound) {s : Struct} (hs : s ∈ env.program.structs) (key : Value) :
    env.Settles site (liftM (env.fieldSlot site s key))
      (∃ name f, key = .string name ∧ findField? s.fields name = some f) := by
  cases key with
  | string name =>
    unfold fieldSlot
    dsimp only
    cases hf : findField? s.fields name with
    | none =>
      refine .refuse ?_ _
      rintro ⟨_, f, ⟨⟩, hf'⟩
      cases hf.symm.trans hf'
    | some f =>
      have hmem := List.mem_of_find?_eq_some hf
      refine (Settles.lift ?_).congr (iff_of_true trivial ⟨name, f, rfl, hf⟩)
      refine (pathOf_finds (hp.structs s hs).1).bind fun _ _ => ?_
      exact (Finds.identifier fun hnames => (hnames.structs s hs).2 f hmem).bind fun _ _ => .ok _
  | bool _ | int _ | double _ | list _ | map _ | enumItem _ _ | constant _ =>
    refine .refuse ?_ _
    rintro ⟨_, _, ⟨⟩, _⟩

/-- The field of a key is the first one that the key names. -/
theorem field_of_fieldSlot {s : Struct} {key : Value} {slot : FieldSlot} (h : env.fieldSlot site s key = .ok slot) :
    ∃ name f, key = .string name ∧ findField? s.fields name = some f ∧ slot.type = f.type ∧
      goName f.name f.annotations = slot.ident := by
  unfold fieldSlot at h
  split at h
  · split at h
    · cases h
    · rename_i name _ f hf
      obtain ⟨path, _, h⟩ := Except.bind_eq_ok.mp h
      obtain ⟨ident, hident, h⟩ := Except.bind_eq_ok.mp h
      cases h
      exact ⟨name, f, rfl, hf, rfl, (identifier_eq_ok.mp hident).2⟩
  · cases h

theorem fieldLiterals_settles (hp : env.program.Sound) {s : Struct} (hs : s ∈ env.program.structs)
    {entries : List (Value × Value)}
    (h : ∀ name v f, (.string name, v) ∈ entries → findField? s.fields name = some f →
      env.Settles site (env.literal site f.type v) (env.program.Accepts f.type v)) :
    env.Settles site (env.fieldLiterals site s entries)
      (∀ e ∈ entries, (∃ name f, e.1 = .string name ∧ findField? s.fields name = some f) ∧
        ∀ name f, e.1 = .string name → findField? s.fields name = some f → env.program.Accepts f.type e.2) := by
  induction entries with
  | nil =>
    rw [fieldLiterals]
    exact (Settles.pure _).congr (by simp)
  | cons e entries ih =>
    obtain ⟨key, value⟩ := e
    rw [fieldLiterals, List.forall_mem_cons, and_assoc]
    refine (fieldSlot_settles hp hs key).bind fun slot hslot => ?_
    obtain ⟨name, f, rfl, hf, htype, -⟩ := field_of_fieldSlot hslot.of_lift
    have hfield := (hp.structs s hs).2.types f (List.mem_of_find?_eq_some hf)
    have hvalue := h name value f List.mem_cons_self hf
    rw [forall_named_iff hf, htype]
    refine hvalue.bind fun _ _ => (held_settles hp hfield _ _).after fun _ _ => ?_
    exact (ih fun name v f hmem => h name v f (List.mem_cons_of_mem _ hmem)).before fun _ _ => .pure _

/-! ### Literals -/

section Layers

variable {layers : List (Ref .typedef)} {root : Ty}

theorem lift_ok_bind {α β : Type} (a : α) (f : α → Emit β) :
    (liftM (Except.ok a : Except GenError α) >>= f : Emit β) = f a := rfl

theorem layers_eq (hl : env.program.Unfolds ty layers root) : env.layers ty = .ok (layers, root) := by
  rw [Env.layers, hl.layers?_eq]
  rfl

theorem convert_append (outer inner : List (Ref .typedef)) (expr : String) :
    env.convert (outer ++ inner) expr = env.convert inner expr >>= env.convert outer := by
  induction outer with
  | nil => simp [convert]
  | cons r outer ih => simp [convert, ih]

/-- A literal of a type is one of the type below its typedefs, converted. -/
theorem literal_eq (hl : env.program.Unfolds ty layers root) {v : Value} (hv : v.isReference = false) :
    env.literal site ty v = env.literal site root v >>= env.convert layers := by
  have hroot : env.layers root = .ok ([], root) := layers_eq (.stop hl.root_not_typedef)
  cases v
  case constant r => cases hv
  all_goals rw [literal, literal, layers_eq hl, hroot, lift_ok_bind, lift_ok_bind]
  case int | string => simp [convert]
  all_goals dsimp only
  case bool | double =>
    split
    · simp [convert]
    · rfl
  case enumItem =>
    split
    · split_ifs
      · simp [convert]
      · rfl
    · rfl
  case list | map =>
    split
    · simp [convert]
    · simp [convert]
    · rfl

end Layers

section Roots

variable {root : Ty}

theorem literal_item_settles (hp : env.program.Sound) (hroot : root.isTypedef = false) {e : Ref .enum} {i : UInt64}
    (hv : env.program.ValueInRange (.enumItem e i)) :
    env.Settles site (env.literal site root (.enumItem e i)) (env.program.Accepts root (.enumItem e i)) := by
  rw [literal, layers_eq (.stop hroot), lift_ok_bind]
  cases root with
  | enum r =>
    dsimp only
    by_cases her : e = r
    · subst her
      rw [if_pos rfl]
      refine Settles.congr ?_ (iff_of_true trivial (.item e i))
      refine (Settles.lift (enumItemRef_finds hp hv)).after fun ref _ => ?_
      exact (refer_settles ref).after fun _ _ => .pure _
    · rw [if_neg her]
      refine .refuse (fun h => ?_) _
      cases h
      exact her rfl
  | typedef _ => cases hroot
  | _ => exact .refuse nofun _

theorem literal_list_settles (hp : env.program.Sound) (hroot : root.isTypedef = false)
    (hty : env.program.TypeInRange root) {items : List Value}
    (hparts : ∀ {ty' v'}, env.program.Inside (ty', v') (root, .list items) →
      env.Settles site (env.literal site ty' v') (env.program.Accepts ty' v')) :
    env.Settles site (env.literal site root (.list items)) (env.program.Accepts root (.list items)) := by
  rw [literal, layers_eq (.stop hroot), lift_ok_bind]
  cases root with
  | list e =>
    refine (typeText_settles hp hty).after fun _ _ => ?_
    refine Settles.before ?_ fun _ _ => .pure _
    exact (itemLiterals_settles fun v hv => hparts (.item hv)).congr fits_list_iff.symm
  | set e a =>
    refine (typeText_settles hp hty).after fun _ _ => ?_
    refine Settles.before ?_ fun _ _ => ?_
    · exact (itemLiterals_settles fun v hv => hparts (.member hv)).congr fits_set_iff.symm
    · refine (Settles.lift (.present ?_)).after fun _ _ => .pure _
      exact hp.isKeyedSet?_isSome (typeInRange_set.mp hty) a
  | typedef _ => cases hroot
  | _ => exact .refuse nofun _

theorem literal_map_settles (hp : env.program.Sound) (hroot : root.isTypedef = false)
    (hty : env.program.TypeInRange root) {entries : List (Value × Value)}
    (hparts : ∀ {ty' v'}, env.program.Inside (ty', v') (root, .map entries) →
      env.Settles site (env.literal site ty' v') (env.program.Accepts ty' v')) :
    env.Settles site (env.literal site root (.map entries)) (env.program.Accepts root (.map entries)) := by
  rw [literal, layers_eq (.stop hroot), lift_ok_bind]
  cases root with
  | map k v =>
    refine (typeText_settles hp hty).after fun _ _ => ?_
    refine (Settles.lift (.present (hp.isHashable?_isSome (typeInRange_map.mp hty).1))).after fun keyed _ => ?_
    refine Settles.before ?_ fun _ _ => .pure _
    refine (entryLiterals_settles keyed (fun e he => ?_) fun e he => ?_).congr fits_map_iff.symm
    · exact hparts (.key he)
    · exact hparts (.value he)
  | struct r =>
    obtain ⟨s, hmem, hs⟩ := struct?_isSome hty
    refine (Settles.lift (.present ⟨s, hs⟩)).after fun s' hs' => ?_
    cases hs.symm.trans (present_eq_ok.mp hs'.of_lift)
    refine (Settles.lift (structRef_finds hp hty)).after fun ref _ => (refer_settles ref).after fun _ _ => ?_
    refine Settles.before ?_ fun _ _ => .pure _
    refine (fieldLiterals_settles hp hmem fun name v f hentry hf => ?_).congr (fits_struct_iff hs).symm
    exact hparts (.field hs hentry hf)
  | typedef _ => cases hroot
  | _ => exact .refuse nofun _

/-- A literal of a type that is no typedef accepts what the type takes, if those of its parts do. -/
theorem literal_settles_of_parts (hp : env.program.Sound) (hroot : root.isTypedef = false)
    (hty : env.program.TypeInRange root) {v : Value} (hv : env.program.ValueInRange v)
    (hwritten : v.isReference = false)
    (hparts : ∀ {ty' v'}, env.program.Inside (ty', v') (root, v) →
      env.Settles site (env.literal site ty' v') (env.program.Accepts ty' v')) :
    env.Settles site (env.literal site root v) (env.program.Accepts root v) := by
  have hlayers : env.layers root = .ok ([], root) := layers_eq (.stop hroot)
  cases v with
  | constant r => cases hwritten
  | int n =>
    rw [literal, hlayers, lift_ok_bind]
    exact (intAt_settles hp hroot hty n).before fun _ _ => .pure _
  | string s =>
    rw [literal, hlayers, lift_ok_bind]
    exact (stringAt_settles hroot s).before fun _ _ => .pure _
  | bool b =>
    rw [literal, hlayers, lift_ok_bind]
    cases root with
    | base base =>
      cases base with
      | bool => exact (Settles.pure _).congr (iff_of_true trivial (.bool b))
      | _ => exact .refuse nofun _
    | typedef _ => cases hroot
    | _ => exact .refuse nofun _
  | double d =>
    rw [literal, hlayers, lift_ok_bind]
    cases root with
    | base base =>
      cases base with
      | double =>
        refine Settles.congr ?_ (iff_of_true trivial (.double d))
        exact (doubleLiteral_settles d).after fun _ _ => .pure _
      | _ => exact .refuse nofun _
    | typedef _ => cases hroot
    | _ => exact .refuse nofun _
  | enumItem e i => exact literal_item_settles hp hroot hv
  | list items => exact literal_list_settles hp hroot hty hparts
  | map entries => exact literal_map_settles hp hroot hty hparts

end Roots

/-- Literals accept the values that fit their type, as far as these are written out. -/
theorem literal_settles (hp : env.program.Sound) {ty : Ty} (hty : env.program.TypeInRange ty) {v : Value}
    (hv : env.program.ValueInRange v) :
    env.Settles site (env.literal site ty v) (env.program.Accepts ty v) := by
  have hacc := hp.inside_acc hty hv
  generalize hpair : (ty, v) = pair at hacc
  induction hacc generalizing ty v with
  | intro pair _ ih =>
    subst hpair
    have hparts {ty' : Ty} {v' : Value} (h : env.program.Inside (ty', v') (ty, v)) :
        env.Settles site (env.literal site ty' v') (env.program.Accepts ty' v') := by
      obtain ⟨hty', hv'⟩ := h.inRange hp hty hv
      exact ih _ h hty' hv' rfl
    cases hwritten : v.isReference with
    | true =>
      cases v with
      | constant r =>
        rw [literal]
        refine Settles.congr ?_ (iff_of_true trivial (.reference r rfl))
        exact (Settles.lift (constantRef_finds hp hv)).after fun ref _ => refer_settles ref
      | _ => cases hwritten
    | false =>
      obtain ⟨layers, root, hl⟩ := hp.unfolds hty
      cases hl with
      | stop hroot => exact literal_settles_of_parts hp hroot hty hv hwritten hparts
      | @layer r t layers _ ht hl =>
        -- The literal of the target is there, and one layer is left to convert.
        have hstep : env.literal site (.typedef r) v = env.literal site t.target v >>= env.convert [r] := by
          rw [literal_eq (.layer ht hl) hwritten, literal_eq hl hwritten, bind_assoc]
          exact congrArg _ (funext (convert_append [r] layers))
        rw [hstep]
        refine Settles.before ?_ fun expr _ => convert_settles hp (by simpa using hty) expr
        exact (hparts (.layer ht hwritten)).congr (fits_layer_iff ht hwritten).symm

/-! ### Points of a run -/

theorem Step.holdsOnly {r r' : Run} {event : Event} (h : env.Step r event r') {names : List String}
    (hr : HoldsOnly r names) : HoldsOnly r' names := by
  cases h with
  | use _ => simpa [HoldsOnly, Run.Known] using hr
  | again _ _ => exact fun name h => (hr name h).imp id fun hk => Run.known_noted.mpr (.inl hk)
  | begin hasks _ hnames => exact hr.begun hasks hnames
  | finish _ => exact hr

theorem Trace.holdsOnly {r r' : Run} {events : List Event} (h : env.Trace r events r') {names : List String}
    (hr : HoldsOnly r names) : HoldsOnly r' names := by
  induction h with
  | nil => exact hr
  | cons step _ ih => exact ih (step.holdsOnly hr)

theorem isHelperSymbol_pointerSymbol (p : Program) (b : Base) : p.IsHelperSymbol b.pointerSymbol :=
  ⟨.ptr, .base b, [], b.symbol, [], typeInRange_base b, rfl, rfl⟩

/-- The spelling of an item behind a bare enum has no underscore, or no letter; the symbol has both, where the name of
the enum no longer reaches. -/
theorem pointerSymbol_not_isBareItem (p : Program) (file : Ref .file) (b : Base) :
    ¬ p.IsBareItem file b.pointerSymbol := by
  rintro ⟨e, -, -, hbare, item, -, -, hident⟩
  obtain ⟨c, cs, hform, hc, hunderscore, hletter⟩ : ∃ c cs, b.pointerSymbol.toList = '_' :: c :: cs ∧
      Text.isAlphanumeric c = true ∧ '_' ∈ cs ∧ 'p' ∈ cs := by
    cases b <;> exact ⟨_, _, rfl, by decide +kernel, by decide, by decide⟩
  have hbehind : '_' ∈ (exported item.name).toList ∧ 'p' ∈ (exported item.name).toList := by
    rw [hident, String.toList_append] at hform
    generalize (exported item.name).toList = spelling at hform ⊢
    -- The name of the enum ends before the first letter.
    match hname : e.name.toList, hform with
    | [], hform =>
      rw [List.nil_append] at hform
      simp [hform, hletter]
    | [_], hform =>
      obtain ⟨-, rfl⟩ := List.cons.inj hform
      simp [hunderscore, hletter]
    | _ :: d :: _, hform =>
      obtain ⟨-, hform⟩ := List.cons.inj hform
      obtain ⟨rfl, -⟩ := List.cons.inj hform
      have := hbare d (by simp [hname])
      simp [hc] at this
  by_cases hword : ∃ d ∈ item.name.toList, Text.isAlphanumeric d = true
  · obtain ⟨d, hd, halnum⟩ := hword
    exact (underscore_notMem_exported hd halnum).1 hbehind.1
  · push Not at hword
    have hplain : ∀ d ∈ item.name.toList, Text.isAlphanumeric d = false := fun d hd =>
      Bool.of_not_eq_true (hword d hd)
    rw [exported_eq_self hplain] at hbehind
    have hp : Text.isAlphanumeric 'p' = true := by decide +kernel
    simp [hplain 'p' hbehind.2] at hp

/-- At every point of a run nothing but a value can be at fault in a literal, if the identifiers given by hand are
valid and no package of another file is named like a helper. -/
theorem Trace.ready {names : Namespace} {events : List Event} {r : Run} (hstarts : env.Starts names)
    (hnames : env.program.NamesValid)
    (haliases : ∀ name ∈ env.program.fileAliases env.file env.self, ¬ env.program.IsHelperSymbol name)
    (h : env.Trace (Run.start names) events r) : env.Ready r := by
  refine ⟨hnames, fun b => ?_⟩
  have hsymbol := isHelperSymbol_pointerSymbol env.program b
  have hholds : HoldsOnly r names.held := h.holdsOnly fun _ hname => .inl hname
  by_cases hknown : r.Known b.pointerSymbol
  · exact .inl hknown
  refine .inr (Namespace.isTaken_eq_false_iff.mpr ⟨?_, fun hheld => ?_⟩)
  · exact Bool.of_not_eq_true hsymbol.not_isReserved
  · have hmem := (hholds _ hheld).resolve_right hknown
    simp only [hstarts.held, List.mem_append, List.mem_reverse] at hmem
    rcases hmem with hdeclared | halias | hambient
    · exact pointerSymbol_not_isBareItem _ _ b (hsymbol.isBareItem_of_mem hstarts.valid hdeclared)
    · exact haliases _ halias hsymbol
    · exact hsymbol.notMem_ambientNames hambient

/-- At a point where nothing else can be at fault, a literal is given exactly for what is accepted, and a value is at
fault otherwise. -/
theorem Settles.outcome {α : Type} {m : Emit α} {P : Prop} (h : env.Settles site m P) {r : Run}
    (hr : env.Ready r) :
    ((∃ a r', m r = .ok (a, r')) ↔ P) ∧ (¬ P → ∃ fault, m r = .error (.badValue site fault)) := by
  refine ⟨⟨fun ⟨a, r', ha⟩ => h.sound ha, fun hP => ?_⟩, fun hP => ?_⟩
  · rcases h.decided r hr with ⟨a, r', ha, -⟩ | ⟨fault, hfault⟩
    · exact ⟨a, r', ha⟩
    · exact absurd hfault (h.blameless hP r site fault)
  · rcases h.decided r hr with ⟨a, r', ha, -⟩ | hfault
    · exact absurd (h.sound ha) hP
    · exact hfault

/-- Literals check values exactly. In a sound program whose identifiers given by hand are valid, at every point of a
run for a file in which no other package is named like a helper, a value without references gets a literal if and only
if it conforms to the type, and is refused as a value otherwise. Writing it leads only to finitely many pairs of
a type and a value, one inside the other. -/
theorem literal_ok_iff_conforms (p : Program) (hp : p.check = .ok ()) (hnames : p.NamesValid)
    {file : Ref .file} {self : File}
    (haliases : ∀ name ∈ p.fileAliases file self, ¬ p.IsHelperSymbol name)
    (o : Options) {env : Env} {claims claims' : Claims} (henv : Env.ofFile p file self o = .ok (env, claims))
    (hdeclare : env.declare claims = .ok claims') {events : List Event} {r : Run}
    (htrace : env.Trace (Run.start claims'.names) events r) (site : Site) {ty : Ty} (hty : p.TypeInRange ty)
    {v : Value} (hv : p.ValueInRange v) (hfree : ∀ ref, ¬ v.HasPart (.constant ref)) :
    ((∃ text r', env.literal site ty v r = .ok (text, r')) ↔ p.Conforms ty v) ∧
      (¬ p.Conforms ty v → ∃ fault, env.literal site ty v r = .error (.badValue site fault)) ∧
      Acc p.Inside (ty, v) := by
  obtain ⟨env', claims'', henv', hfor, hclean, hheld⟩ := Env.ofFile_eq p file self o
  cases henv.symm.trans henv'
  obtain ⟨rfl, rfl, rfl, -⟩ := hfor
  have hsound := sound_of_check hp
  have hready := htrace.ready (starts_of_declare hclean hheld hdeclare) hnames haliases
  have hsettles : env.Settles site (env.literal site ty v) (env.program.Conforms ty v) :=
    (literal_settles hsound hty hv).congr ⟨fun h => h.conforms hfree, fun h => h.accepts⟩
  obtain ⟨hok, hrefused⟩ := hsettles.outcome hready
  exact ⟨hok, hrefused, hsound.inside_acc hty hv⟩

/-- A program of two files. A node may have a weight, which is an integer of eight bits below two typedefs of the
other file, and another node behind it. -/
def chainProgram : Program :=
  { Program.empty with
    files := [⟨"a.thrift", "ex/a", "a"⟩, ⟨"b.thrift", "ex/b", "b"⟩]
    typedefs := [⟨"Small", ⟨1⟩, .base .i8, .empty⟩, ⟨"Weight", ⟨1⟩, .typedef ⟨0⟩, .empty⟩]
    structs := [⟨"Node", ⟨0⟩, .struct, [⟨1, "weight", .typedef ⟨1⟩, false, none, .empty⟩,
      ⟨2, "size", .base .i32, false, none, .empty⟩, ⟨3, "next", .struct ⟨0⟩, false, none, .empty⟩], false, .empty⟩] }

/-- A node of this size with a node of this weight behind it. -/
def chainValue (size weight : Int64) : Value :=
  .map [(.string "size", .int size), (.string "next", .map [(.string "weight", .int weight)])]

theorem conforms_chainValue {size weight : Int64} :
    chainProgram.Conforms (.struct ⟨0⟩) (chainValue size weight) ↔
      (-2147483648 ≤ size.toInt ∧ size.toInt ≤ 2147483647) ∧ -128 ≤ weight.toInt ∧ weight.toInt ≤ 127 := by
  have hnode : chainProgram.struct? ⟨0⟩ = some _ := rfl
  have hsize : chainProgram.Conforms (.base .i32) (.int size) ↔
      -2147483648 ≤ size.toInt ∧ size.toInt ≤ 2147483647 := fits_int_iff rfl
  have hweight : chainProgram.Conforms (.typedef ⟨1⟩) (.int weight) ↔
      -128 ≤ weight.toInt ∧ weight.toInt ≤ 127 := by
    rw [Conforms, fits_layer_iff rfl rfl, fits_layer_iff rfl rfl]
    exact fits_int_iff rfl
  have hnext : chainProgram.Conforms (.struct ⟨0⟩) (.map [(.string "weight", .int weight)]) ↔
      chainProgram.Conforms (.typedef ⟨1⟩) (.int weight) := by
    rw [Conforms, fits_struct_iff hnode, List.forall_mem_singleton, forall_named_iff rfl]
    exact and_iff_right ⟨_, _, rfl, rfl⟩
  rw [← hsize, ← hweight, ← hnext, Conforms, chainValue, fits_struct_iff hnode, List.forall_mem_cons,
    List.forall_mem_singleton, forall_named_iff rfl, forall_named_iff rfl]
  exact and_congr (and_iff_right ⟨_, _, rfl, rfl⟩) (and_iff_right ⟨_, _, rfl, rfl⟩)

theorem literal_ok_iff_conforms_chain :
    chainProgram.check = .ok () ∧ ∃ env claims claims', ∀ site : Site,
      Env.ofFile chainProgram ⟨0⟩ ⟨"a.thrift", "ex/a", "a"⟩ {} = .ok (env, claims) ∧
      env.declare claims = .ok claims' ∧
      (∃ text r, env.literal site (.struct ⟨0⟩) (chainValue 300 127) (Run.start claims'.names) = .ok (text, r)) ∧
      ∃ fault, env.literal site (.struct ⟨0⟩) (chainValue 300 128) (Run.start claims'.names) =
        .error (.badValue site fault) := by
  have hcheck : chainProgram.check = .ok () := rfl
  have hnames : chainProgram.NamesValid := ⟨by decide, by decide, by decide, by decide⟩
  have haliases : ∀ name ∈ chainProgram.fileAliases ⟨0⟩ ⟨"a.thrift", "ex/a", "a"⟩,
      ¬ chainProgram.IsHelperSymbol name := by
    have hheads : ∀ name ∈ chainProgram.fileAliases ⟨0⟩ ⟨"a.thrift", "ex/a", "a"⟩,
        name.toList.head? ≠ some '_' := by decide +kernel
    exact fun name hname h => hheads name hname h.head?_eq
  obtain ⟨_, h⟩ : ∃ x, (Env.ofFile chainProgram ⟨0⟩ ⟨"a.thrift", "ex/a", "a"⟩ {} >>= fun x =>
      x.1.declare x.2) = .ok x := Except.exists_ok_of_isOk (by rw [ofFile_eq_initial]; decide +kernel)
  obtain ⟨⟨env, claims⟩, henv, hdeclare⟩ := Except.bind_eq_ok.mp h
  have hrange (weight : Int64) : chainProgram.ValueInRange (chainValue 300 weight) :=
    (@checkValue_eq_ok chainProgram "" _).mp rfl
  have hfree (weight : Int64) (ref : Ref .constant) : ¬ (chainValue 300 weight).HasPart (.constant ref) :=
    fun h => absurd ((mem_references _).mpr h) List.not_mem_nil
  have hnode : chainProgram.TypeInRange (.struct ⟨0⟩) := typeInRange_struct.mpr (by decide)
  refine ⟨hcheck, env, claims, _, fun site => ⟨henv, hdeclare, ?_, ?_⟩⟩
  · exact (literal_ok_iff_conforms chainProgram hcheck hnames haliases {} henv hdeclare (.nil _) site hnode
      (hrange 127) (hfree 127)).1.mpr (conforms_chainValue.mpr (by decide))
  · exact (literal_ok_iff_conforms chainProgram hcheck hnames haliases {} henv hdeclare (.nil _) site hnode
      (hrange 128) (hfree 128)).2.1 (mt conforms_chainValue.mp (by decide))

end Env

end GoSchema
