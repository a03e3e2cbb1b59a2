import GoSchema.Name.Namespace
import Mathlib.Data.List.Nodup
import Mathlib.Data.List.Perm.Subperm

/-!
# Names held by a namespace

What a namespace holds after it has granted a name. A name is granted only when it is free, so that no name is
held twice and no reserved word is held (`Namespace.Clean`). A name made up by `newName` is always free: there
are more candidates than taken names.

## What is proved

* `Namespace.reserve_eq_ok` and `Namespace.reserve_eq_error`: a name is granted exactly if it is free, and a
  refusal says that it is taken. The name of the initializer is granted and not held.
* `Namespace.freshName_free`: a name that is made up is free, since different numbers have different texts
  (`Namespace.toString_injective`).
* `Namespace.held_foldl_hold` and `Namespace.Grantable`: many names at once.

Giving up names and going through them are requests of their own. They are treated with the histories of a
namespace.
-/

namespace GoSchema.Name.Namespace

variable {ns ns' : Namespace} {name : String}

theorem isTaken_iff : ns.isTaken name = true ↔ isReserved name = true ∨ name ∈ ns.held := by
  simp [isTaken, held]

theorem isTaken_eq_false_iff : ns.isTaken name = false ↔ isReserved name = false ∧ name ∉ ns.held := by
  rw [Bool.eq_false_iff, ne_eq, isTaken_iff, not_or, Bool.not_eq_true]

theorem held_hold : (ns.hold name).held = name :: ns.held := rfl

/-- No name is held twice, and no reserved word is held. -/
structure Clean (ns : Namespace) : Prop where
  nodup : ns.held.Nodup
  free : ∀ name ∈ ns.held, isReserved name = false

theorem clean_empty : Clean .empty := ⟨List.nodup_nil, by simp [held, scopes, empty, Scope.empty]⟩

theorem Clean.hold (h : ns.Clean) (hname : ns.isTaken name = false) : (ns.hold name).Clean := by
  obtain ⟨hreserved, hheld⟩ := isTaken_eq_false_iff.mp hname
  exact ⟨List.nodup_cons.mpr ⟨hheld, h.nodup⟩, List.forall_mem_cons.mpr ⟨hreserved, h.free⟩⟩

/-! ### Reserved names -/

/-- A name is refused only because it is taken. -/
theorem reserve_eq_error {error : NameError} :
    ns.reserve name = .error error ↔ error = .taken name ∧ name ≠ initHook ∧ ns.isTaken name = true := by
  unfold reserve
  split_ifs with hinit htaken
  · simp [hinit]
  · simp [hinit, htaken, eq_comm]
  · simp [htaken]

theorem reserve_eq_ok (hinit : name ≠ initHook) :
    ns.reserve name = .ok ns' ↔ ns.isTaken name = false ∧ ns' = ns.hold name := by
  unfold reserve
  rw [if_neg hinit]
  split_ifs with htaken <;> simp [htaken, eq_comm]

/-! ### New names -/

theorem firstFree_free {taken : String → Bool} {base : String} {tries k : Nat}
    (h : ∃ j ≤ tries, taken (base ++ toString (k + j)) = false) :
    taken (firstFree taken base tries k) = false := by
  induction tries generalizing k with
  | zero =>
    obtain ⟨j, hj, hfree⟩ := h
    rwa [Nat.le_zero.mp hj, Nat.add_zero] at hfree
  | succ tries ih =>
    rw [firstFree]
    split_ifs with htaken
    · obtain ⟨j, hj, hfree⟩ := h
      cases j with
      | zero =>
        rw [Nat.add_zero, htaken] at hfree
        cases hfree
      | succ j => exact ih ⟨j, Nat.le_of_succ_le_succ hj, by rwa [Nat.add_right_comm, Nat.add_assoc]⟩
    · exact Bool.of_not_eq_true htaken

/-- Different numbers have different texts. -/
theorem toString_injective : Function.Injective fun k : Nat => toString k := by
  intro j k h
  simp only [Nat.toString_eq_ofList_toDigits, String.ofList_inj] at h
  rw [← @Nat.ofDigitChars_ten_toDigits j, h, Nat.ofDigitChars_ten_toDigits]

theorem append_toString_injective (base : String) :
    Function.Injective fun k : Nat => base ++ toString k :=
  fun _ _ h => toString_injective ((String.append_right_inj base).mp h)

/-- There are more candidates for a new name than taken names, so one of them is free. -/
theorem freshName_free (ns : Namespace) (base : String) : ns.isTaken (ns.freshName base) = false := by
  unfold freshName
  split_ifs with htaken
  · refine firstFree_free ?_
    by_contra hall
    push Not at hall
    set n := reservedNames.length + ns.held.length
    have hnodup : ((List.range (n + 1)).map fun j => base ++ toString (2 + j)).Nodup :=
      List.nodup_range.map ((append_toString_injective base).comp fun _ _ => Nat.add_left_cancel)
    have hsub : ((List.range (n + 1)).map fun j => base ++ toString (2 + j)) ⊆
        reservedNames ++ ns.held := by
      intro name hname
      obtain ⟨j, hj, rfl⟩ := List.mem_map.mp hname
      have hle : j ≤ n := Nat.le_of_lt_succ (List.mem_range.mp hj)
      rcases isTaken_iff.mp (Bool.of_not_eq_false (hall j hle)) with h | h
      · exact List.mem_append_left _ (List.contains_iff_mem.mp h)
      · exact List.mem_append_right _ h
    have hlen := (hnodup.subperm hsub).length_le
    simp only [List.length_map, List.length_range, List.length_append] at hlen
    omega
  · exact Bool.of_not_eq_true htaken

theorem held_newName (ns : Namespace) (base : String) :
    (ns.newName base).2.held = (ns.newName base).1 :: ns.held := rfl

theorem Clean.newName (h : ns.Clean) (base : String) : (ns.newName base).2.Clean := by
  have hclean := h.hold (freshName_free ns base)
  exact ⟨hclean.nodup, hclean.free⟩

/-! ### Many names -/

/-- The names are free, and all different. -/
def Grantable (ns : Namespace) (names : List String) : Prop :=
  names.Nodup ∧ ∀ name ∈ names, ns.isTaken name = false

theorem isTaken_hold {a b : String} :
    (ns.hold a).isTaken b = false ↔ b ≠ a ∧ ns.isTaken b = false := by
  rw [isTaken_eq_false_iff, isTaken_eq_false_iff, held_hold, List.mem_cons, not_or]
  tauto

theorem grantable_cons {names : List String} :
    ns.Grantable (name :: names) ↔ ns.isTaken name = false ∧ (ns.hold name).Grantable names := by
  simp only [Grantable, List.nodup_cons, List.forall_mem_cons, isTaken_hold]
  constructor
  · rintro ⟨⟨hname, hnodup⟩, hfree, hrest⟩
    exact ⟨hfree, hnodup, fun n hn => ⟨fun h => hname (h ▸ hn), hrest n hn⟩⟩
  · rintro ⟨hfree, hnodup, hrest⟩
    exact ⟨⟨fun h => (hrest name h).1 rfl, hnodup⟩, hfree, fun n hn => (hrest n hn).2⟩

/-- The names that are held after others were added, the latest first. -/
theorem held_foldl_hold (ns : Namespace) (names : List String) :
    (names.foldl Namespace.hold ns).held = names.reverse ++ ns.held := by
  induction names generalizing ns with
  | nil => rfl
  | cons name names ih => simp [ih, held_hold]

theorem Clean.foldl_hold (h : ns.Clean) {names : List String} (hnames : ns.Grantable names) :
    (names.foldl Namespace.hold ns).Clean := by
  induction names generalizing ns with
  | nil => exact h
  | cons name names ih =>
    obtain ⟨hfree, hrest⟩ := grantable_cons.mp hnames
    exact ih (h.hold hfree) hrest

end GoSchema.Name.Namespace
