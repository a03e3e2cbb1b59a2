import GoSchema.Proofs.HelperTypes

/-!
# Symbols over whole histories

One table of symbols serves all types of a run, in whatever order they come. Over any sequence of types, nested
ones and ones without a symbol included, a declaration keeps the symbol it was given first, and two declarations
have one symbol only if they have one file and one name.

## What is proved

* `Symbols.mangle_extends` and `Symbols.mangle_of_keyOf?`: what one type does to the table, also where it has no
  symbol in the end, and what a declaration gets.
* `Symbols.getElem?_mangleAll`: a type in a sequence gets its answer from the table that the ones before it have
  left.
* `Symbols.mangleAll_faithful`: the answers that types were given one by one fit the table in the end, and no two
  declarations of different file or name share a symbol.

That two types that are not declarations may share a symbol is not excluded here. It is excluded where the names of
declarations leave the reader of a symbol no choice.
-/

namespace GoSchema

open Name Text

namespace Symbols

variable {s : Symbols} {file file' : Ref .file} {name name' symbol : String}

/-! ### One type -/

variable {p : Program}

/-- A table goes on from another, and numbers declarations as it did. -/
def Extends (s s' : Symbols) : Prop := s <+: s' ∧ (s.Regular → s'.Regular)

theorem Extends.refl (s : Symbols) : s.Extends s := ⟨List.prefix_rfl, id⟩

theorem Extends.trans {s₁ s₂ s₃ : Symbols} (h : s₁.Extends s₂) (h' : s₂.Extends s₃) : s₁.Extends s₃ :=
  ⟨h.1.trans h'.1, h'.2 ∘ h.2⟩

theorem Extends.find? {s s' : Symbols} (h : s.Extends s') (hfind : s.find? file name = some symbol) :
    s'.find? file name = some symbol := by
  obtain ⟨added, rfl⟩ := h.1
  exact find?_append_of_some hfind added

theorem named_extends (s : Symbols) (file : Ref .file) (name : String) : s.Extends (s.named file name).2 :=
  (named_spec rfl).2

/-- The table is extended also where a type has no symbol in the end. -/
theorem mangle_extends (p : Program) (ty : Ty) (s : Symbols) : s.Extends (mangle p ty s).2 := by
  induction ty generalizing s with
  | base b => exact .refl s
  | list e ih => exact ih s
  | set e annotations ih =>
    rw [mangle]
    split
    · exact .refl s
    · exact ih s
  | map k v ihk ihv =>
    have hk := ihk s
    rw [mangle]
    rcases hkey : mangle p k s with ⟨_ | key, s₁⟩ <;> rw [hkey] at hk
    · exact hk
    · exact hk.trans (ihv s₁)
  | enum r | struct r | typedef r =>
    rw [mangle]
    split
    · exact .refl s
    · exact named_extends ..

/-- A type that is a declaration gets the symbol of its file and name. -/
theorem mangle_of_keyOf? {ty : Ty} {key : Ref .file × String} (h : p.keyOf? ty = some key) (s : Symbols) :
    mangle p ty s = (some (s.named key.1 key.2).1, (s.named key.1 key.2).2) := by
  cases ty with
  | enum r | struct r | typedef r =>
    obtain ⟨d, hd, rfl⟩ := Option.map_eq_some_iff.mp h
    rw [mangle, hd]
  | base | list | set | map => cases h

/-! ### Sequences of types -/

/-- The symbols of types that are asked for one after the other, and the table in the end. -/
def mangleAll (p : Program) : List Ty → Symbols → List (Option String) × Symbols
  | [], s => ([], s)
  | ty :: tys, s =>
    ((mangle p ty s).1 :: (mangleAll p tys (mangle p ty s).2).1, (mangleAll p tys (mangle p ty s).2).2)

theorem mangleAll_extends (p : Program) (tys : List Ty) (s : Symbols) : s.Extends (mangleAll p tys s).2 := by
  induction tys generalizing s with
  | nil => exact .refl s
  | cons ty tys ih => exact (mangle_extends p ty s).trans (ih _)

theorem mangleAll_append (p : Program) (before after : List Ty) (s : Symbols) :
    mangleAll p (before ++ after) s =
      ((mangleAll p before s).1 ++ (mangleAll p after (mangleAll p before s).2).1,
        (mangleAll p after (mangleAll p before s).2).2) := by
  induction before generalizing s with
  | nil => rfl
  | cons ty before ih => simp [mangleAll, ih]

/-- A type in a sequence gets its answer from the table that the ones before it have left. -/
theorem getElem?_mangleAll {tys : List Ty} {i : Nat} {ty : Ty} (h : tys[i]? = some ty) (s : Symbols) :
    (mangleAll p tys s).1[i]? = some (mangle p ty (mangleAll p (tys.take i) s).2).1 ∧
      (mangle p ty (mangleAll p (tys.take i) s).2).2.Extends (mangleAll p tys s).2 := by
  induction tys generalizing i s with
  | nil => cases h
  | cons first tys ih =>
    cases i with
    | zero =>
      cases h
      exact ⟨rfl, mangleAll_extends p tys _⟩
    | succ i => exact ih h _

/-- The answers that types were given one by one fit the table in the end. -/
structure Faithful (p : Program) (tys : List Ty) (answers : List (Option String)) (s : Symbols) : Prop where
  /-- Wherever a declaration stands in a type, it is written with the symbol it has in the end. -/
  spelled : ∀ (i : Nat) ty m, tys[i]? = some ty → answers[i]? = some (some m) →
    ∃ a, p.HasShape ty a ∧ a.All s.Seen ∧ a.text s = m
  /-- A type that is a declaration itself is given the symbol of that. -/
  answered : ∀ (i : Nat) ty key, tys[i]? = some ty → p.keyOf? ty = some key →
    ∃ m, answers[i]? = some (some m) ∧ s.find? key.1 key.2 = some m
  /-- Such types get one symbol exactly if they have one file and one name. -/
  injective : ∀ (i j : Nat) ty ty' key key', tys[i]? = some ty → tys[j]? = some ty' →
    p.keyOf? ty = some key → p.keyOf? ty' = some key' → (answers[i]? = answers[j]? ↔ key = key')

/-- Over a whole history of types, declarations have symbols of their own; and at any time in it, a declaration
that has a symbol, if only as a part of a type, has the same in the end. -/
theorem mangleAll_faithful (p : Program) (tys : List Ty) :
    Faithful p tys (mangleAll p tys []).1 (mangleAll p tys []).2 ∧
      ∀ n file name symbol, (mangleAll p (tys.take n) []).2.find? file name = some symbol →
        (mangleAll p tys []).2.find? file name = some symbol := by
  have hanswered : ∀ (i : Nat) ty key, tys[i]? = some ty → p.keyOf? ty = some key →
      ∃ m, (mangleAll p tys []).1[i]? = some (some m) ∧
        (mangleAll p tys []).2.find? key.1 key.2 = some m := by
    intro i ty key hty hkey
    obtain ⟨hanswer, hextends⟩ := getElem?_mangleAll (p := p) hty []
    rw [mangle_of_keyOf? hkey] at hanswer hextends
    exact ⟨_, hanswer, hextends.find? (named_spec rfl).1⟩
  have hregular : (mangleAll p tys []).2.Regular := (mangleAll_extends p tys []).2 regular_nil
  refine ⟨⟨?_, hanswered, ?_⟩, ?_⟩
  · intro i ty m hty hm
    obtain ⟨hanswer, hextends⟩ := getElem?_mangleAll (p := p) hty []
    have hmangle : (mangle p ty (mangleAll p (tys.take i) []).2).1 = some m :=
      Option.some.inj (hanswer.symm.trans hm)
    obtain ⟨-, -, a, hshape, hseen, htext⟩ := mangle_adds (Prod.ext hmangle rfl)
    exact ⟨a, hshape, hseen.imp fun _ _ h => h.mono hextends.1, (text_stable hseen hextends.1).trans htext⟩
  · intro i j ty ty' key key' hty hty' hkey hkey'
    obtain ⟨m, hm, hfind⟩ := hanswered i ty key hty hkey
    obtain ⟨m', hm', hfind'⟩ := hanswered j ty' key' hty' hkey'
    rw [hm, hm', Option.some_inj, Option.some_inj]
    constructor
    · rintro rfl
      obtain ⟨hfile, hname⟩ := hregular.find?_inj hfind hfind'
      exact Prod.ext hfile hname
    · rintro rfl
      exact Option.some.inj (hfind.symm.trans hfind')
  · intro n file name symbol hfind
    have hsplit := mangleAll_append p (tys.take n) (tys.drop n) []
    rw [List.take_append_drop] at hsplit
    rw [hsplit]
    exact (mangleAll_extends p _ _).find? hfind

end Symbols

end GoSchema
