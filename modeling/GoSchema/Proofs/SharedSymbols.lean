import GoSchema.Proofs.Lookup
import GoSchema.Proofs.SymbolHistory

/-!
# Types that share a symbol

A symbol has no brackets, so that it tells of a type only what can be read off a row of words. That is enough, if the
names of the declarations leave the reader no choice: none is spelled like a word with which symbols of other types
begin, none begins with a digit, and each has a letter or a number. Then, at any two times in a history of types, two
types are given one symbol exactly if they are the same but for annotations of sets that do not change the form of the
set (`Symbols.same_symbol_iff_alike`).

Declarations are told apart by file and name. An enum and a struct that share both would share a symbol too.

## What is proved

* `LegibleName.plain`: a legible name leaves the reader of its symbol no choice.
* `Program.HasShape.alike` and `Program.Alike.exists_shape`: to be alike is to have one shape.
* `Symbols.answer_of_hasShape`: the symbol of a type in a sequence is that of its shape, in the table that the
  whole sequence leaves.
* `Symbols.same_symbol_iff_alike`: both directions, at any two times of a history.

The conditions on names are sufficient. Other names may do no harm in a given program, and that none of the
conditions is idle is shown with the types behind a helper.
-/

namespace GoSchema

open Name Text

namespace Program

variable {p : Program} {ty ty' : Ty} {a : Shape} {key : Ref .file × String}

/-! ### Files and names of declarations -/

/-- Files and names of all enums, structs and typedefs. -/
def declarationKeys (p : Program) : List (Ref .file × String) :=
  p.enums.map (fun e => (e.file, e.name)) ++ p.structs.map (fun s => (s.file, s.name))
    ++ p.typedefs.map fun t => (t.file, t.name)

/-- The place among these of the declaration that a type refers to by itself. -/
def placeOf (p : Program) : Ty → Nat
  | .enum r => r.toNat
  | .struct r => p.enums.length + r.toNat
  | .typedef r => p.enums.length + p.structs.length + r.toNat
  | .base _ | .list _ | .set _ _ | .map _ _ => 0

theorem keyOf?_cases (h : p.keyOf? ty = some key) :
    (∃ r e, ty = .enum r ∧ p.enum? r = some e ∧ (e.file, e.name) = key) ∨
    (∃ r s, ty = .struct r ∧ p.struct? r = some s ∧ (s.file, s.name) = key) ∨
    ∃ r t, ty = .typedef r ∧ p.typedef? r = some t ∧ (t.file, t.name) = key := by
  cases ty with
  | base | list | set | map => cases h
  | enum r =>
    obtain ⟨e, he, hkey⟩ := Option.map_eq_some_iff.mp h
    exact .inl ⟨r, e, rfl, he, hkey⟩
  | struct r =>
    obtain ⟨s, hs, hkey⟩ := Option.map_eq_some_iff.mp h
    exact .inr (.inl ⟨r, s, rfl, hs, hkey⟩)
  | typedef r =>
    obtain ⟨t, ht, hkey⟩ := Option.map_eq_some_iff.mp h
    exact .inr (.inr ⟨r, t, rfl, ht, hkey⟩)

theorem getElem?_declarationKeys (h : p.keyOf? ty = some key) : p.declarationKeys[p.placeOf ty]? = some key := by
  rcases keyOf?_cases h with ⟨r, e, rfl, he, rfl⟩ | ⟨r, s, rfl, hs, rfl⟩ | ⟨r, t, rfl, ht, rfl⟩
  · have hlt : r.toNat < p.enums.length := (List.getElem?_eq_some_iff.mp he).1
    rw [declarationKeys, placeOf, List.append_assoc, List.getElem?_append_left (by simpa using hlt), List.getElem?_map]
    exact congrArg _ he
  · have hlt : r.toNat < p.structs.length := (List.getElem?_eq_some_iff.mp hs).1
    rw [declarationKeys, placeOf, List.append_assoc, List.getElem?_append_right (by simp),
      List.getElem?_append_left (by simpa using hlt), List.length_map, Nat.add_sub_cancel_left, List.getElem?_map]
    exact congrArg _ hs
  · rw [declarationKeys, placeOf, List.getElem?_append_right (by simp), List.length_append, List.length_map,
      List.length_map, Nat.add_sub_cancel_left, List.getElem?_map]
    exact congrArg _ ht

/-- The place tells the kind of the declaration and its position. -/
theorem placeOf_inj {key' : Ref .file × String} (h : p.keyOf? ty = some key) (h' : p.keyOf? ty' = some key')
    (hplace : p.placeOf ty = p.placeOf ty') : ty = ty' := by
  have hlt {α : Type} {as : List α} {n : Nat} {a : α} (ha : as[n]? = some a) : n < as.length :=
    (List.getElem?_eq_some_iff.mp ha).1
  rcases keyOf?_cases h with ⟨r, e, rfl, he, -⟩ | ⟨r, s, rfl, hs, -⟩ | ⟨r, t, rfl, ht, -⟩ <;>
  rcases keyOf?_cases h' with ⟨r', e', rfl, he', -⟩ | ⟨r', s', rfl, hs', -⟩ | ⟨r', t', rfl, ht', -⟩ <;>
  simp only [placeOf] at hplace
  · exact congrArg Ty.enum (Ref.toNat_injective hplace)
  · have := hlt he; omega
  · have := hlt he; omega
  · have := hlt he'; omega
  · exact congrArg Ty.struct (Ref.toNat_injective (Nat.add_left_cancel hplace))
  · have := hlt hs; omega
  · have := hlt he'; omega
  · have := hlt hs'; omega
  · exact congrArg Ty.typedef (Ref.toNat_injective (Nat.add_left_cancel hplace))

/-- If files and names are all different, they tell which declaration a type refers to. -/
theorem eq_of_keyOf?_eq (hkeys : p.declarationKeys.Nodup) (h : p.keyOf? ty = some key) (h' : p.keyOf? ty' = some key) :
    ty = ty' := by
  have hplace := getElem?_declarationKeys h
  have hlt := (List.getElem?_eq_some_iff.mp hplace).1
  refine placeOf_inj h h' ((List.getElem?_inj hlt hkeys).mp ?_)
  rw [hplace, getElem?_declarationKeys h']

theorem mem_declarationKeys (h : p.keyOf? ty = some key) : key ∈ p.declarationKeys :=
  List.mem_of_getElem? (getElem?_declarationKeys h)

/-! ### Names that leave no choice -/

/-- The spelling of the name is read as that of a declaration, wherever it stands in a symbol. -/
structure LegibleName (name : String) : Prop where
  /-- It is not the word for a base type or a container. -/
  opening : exported name ∉ Opening.all.map Opening.word
  digit : (exported name).toList.head?.any Char.isDigit = false
  letter : (exported name).toList.any isAlphanumeric = true

instance (name : String) : Decidable (LegibleName name) :=
  decidable_of_iff (exported name ∉ Opening.all.map Opening.word ∧
    (exported name).toList.head?.any Char.isDigit = false ∧ (exported name).toList.any isAlphanumeric = true)
    ⟨fun h => ⟨h.1, h.2.1, h.2.2⟩, fun h => ⟨h.1, h.2, h.3⟩⟩

/-- All enums, structs and typedefs have legible names, and no two share file and name. -/
structure Legible (p : Program) : Prop where
  names : ∀ key ∈ p.declarationKeys, LegibleName key.2
  keys : p.declarationKeys.Nodup

theorem LegibleName.underscore {name : String} (h : LegibleName name) : '_' ∉ (exported name).toList := by
  obtain ⟨c, hc, hletter⟩ := List.any_eq_true.mp h.letter
  by_cases hname : ∃ c ∈ name.toList, isAlphanumeric c = true
  · obtain ⟨d, hd, hd'⟩ := hname
    exact (underscore_notMem_exported hd hd').1
  · -- Otherwise the spelling would be the name, and have no letter either.
    have hnone : ∀ c ∈ name.toList, isAlphanumeric c = false := by simpa using hname
    rw [exported_eq_self hnone] at hc
    rw [hnone c hc] at hletter
    cases hletter

/-- A legible name leaves the reader of its symbol no choice. -/
theorem LegibleName.plain {name : String} (h : LegibleName name) {s : Symbols} (hs : s.Regular) (file : Ref .file) :
    s.Plain file name where
  opening o hfind := by
    obtain ⟨before, -, -, hsymbol⟩ := hs.exists_entry hfind
    have hwords := congrArg words hsymbol
    rw [o.words_word.1, Symbols.words_numbered h.underscore, List.cons.injEq, String.toList_inj] at hwords
    have hall : o ∈ Opening.all := List.mem_of_find?_eq_some o.ofWord?_word
    exact h.opening (hwords.1 ▸ List.mem_map_of_mem hall)
  number := by
    obtain ⟨c, hc, -⟩ := List.any_eq_true.mp h.letter
    have hhead := List.head?_eq_some_head (List.ne_nil_of_mem hc)
    have hdigit := h.digit
    rw [hhead, Option.any_some] at hdigit
    refine not_isNumber ?_
    rw [hhead, Option.any_some, hdigit]
    rfl
  underscore := h.underscore

/-! ### Types that are alike -/

/-- The types are the same, but for annotations that give a set the same form. -/
inductive Alike (p : Program) : Ty → Ty → Prop where
  | base (b : Base) : p.Alike (.base b) (.base b)
  | list {e e' : Ty} : p.Alike e e' → p.Alike (.list e) (.list e')
  | set {e e' : Ty} {annotations annotations' : Annotations} {keyed : Bool} :
      p.isKeyedSet? e annotations = some keyed → p.isKeyedSet? e' annotations' = some keyed → p.Alike e e' →
      p.Alike (.set e annotations) (.set e' annotations')
  | map {k k' v v' : Ty} : p.Alike k k' → p.Alike v v' → p.Alike (.map k v) (.map k' v')
  | enum (r : Ref .enum) : p.Alike (.enum r) (.enum r)
  | struct (r : Ref .struct) : p.Alike (.struct r) (.struct r)
  | typedef (r : Ref .typedef) : p.Alike (.typedef r) (.typedef r)

/-- Types with one shape are alike, if files and names tell declarations apart. -/
theorem HasShape.alike (hkeys : p.declarationKeys.Nodup) (h : p.HasShape ty a) (h' : p.HasShape ty' a) :
    p.Alike ty ty' := by
  induction h generalizing ty' with
  | base b =>
    cases h' with
    | base => exact .base b
  | list _ ih =>
    cases h' with
    | list he' => exact .list (ih he')
  | set hkeyed _ ih =>
    cases h' with
    | set hkeyed' he' => exact .set hkeyed hkeyed' (ih he')
  | map _ _ ihk ihv =>
    cases h' with
    | map hk' hv' => exact .map (ihk hk') (ihv hv')
  | declared hkey =>
    cases h' with
    | declared hkey' =>
      obtain rfl := eq_of_keyOf?_eq hkeys hkey hkey'
      rcases keyOf?_cases hkey with ⟨r, _, rfl, -⟩ | ⟨r, _, rfl, -⟩ | ⟨r, _, rfl, -⟩
      · exact .enum r
      · exact .struct r
      · exact .typedef r

/-- Types in range that are alike have one shape. -/
theorem Alike.exists_shape (h : p.Alike ty ty') (hty : p.TypeInRange ty) :
    ∃ a, p.HasShape ty a ∧ p.HasShape ty' a := by
  induction h with
  | base b => exact ⟨.base b, .base b, .base b⟩
  | list _ ih =>
    obtain ⟨a, ha, ha'⟩ := ih (typeInRange_list.mp hty)
    exact ⟨.list a, .list ha, .list ha'⟩
  | @set _ _ _ _ keyed hkeyed hkeyed' _ ih =>
    obtain ⟨a, ha, ha'⟩ := ih (typeInRange_set.mp hty)
    exact ⟨.set a keyed, .set hkeyed ha, .set hkeyed' ha'⟩
  | map _ _ ihk ihv =>
    obtain ⟨a, ha, ha'⟩ := ihk (typeInRange_map.mp hty).1
    obtain ⟨b, hb, hb'⟩ := ihv (typeInRange_map.mp hty).2
    exact ⟨.map a b, .map ha hb, .map ha' hb'⟩
  | enum r =>
    obtain ⟨e, -, he⟩ := enum?_isSome hty
    have hkey : p.keyOf? (.enum r) = some (e.file, e.name) := by rw [keyOf?, he, Option.map_some]
    exact ⟨_, .declared hkey, .declared hkey⟩
  | struct r =>
    obtain ⟨s, -, hs⟩ := struct?_isSome hty
    have hkey : p.keyOf? (.struct r) = some (s.file, s.name) := by rw [keyOf?, hs, Option.map_some]
    exact ⟨_, .declared hkey, .declared hkey⟩
  | typedef r =>
    obtain ⟨t, -, ht⟩ := typedef?_isSome hty
    have hkey : p.keyOf? (.typedef r) = some (t.file, t.name) := by rw [keyOf?, ht, Option.map_some]
    exact ⟨_, .declared hkey, .declared hkey⟩

/-- Where typedefs lead to types in range, the form of each set is settled, and so a type in range is like itself. -/
theorem alike_self (htargets : ∀ t ∈ p.typedefs, p.TypeInRange t.target) (hty : p.TypeInRange ty) : p.Alike ty ty := by
  induction ty with
  | base b => exact .base b
  | list e ih => exact .list (ih (typeInRange_list.mp hty))
  | set e annotations ih =>
    have he := typeInRange_set.mp hty
    obtain ⟨root, hroot⟩ := descend_isSome htargets he (p.typedefs.length + 1)
    obtain ⟨keyed, hkeyed⟩ : ∃ keyed, p.isKeyedSet? e annotations = some keyed := by
      unfold isKeyedSet?
      split_ifs
      · exact ⟨false, rfl⟩
      · exact ⟨root.isScalar, congrArg (Option.map Ty.isScalar) hroot⟩
    exact .set hkeyed hkeyed (ih he)
  | map k v ihk ihv => exact .map (ihk (typeInRange_map.mp hty).1) (ihv (typeInRange_map.mp hty).2)
  | enum r => exact .enum r
  | struct r => exact .struct r
  | typedef r => exact .typedef r

end Program

namespace Symbols

variable {p : Program} {tys : List Ty} {ty ty' : Ty} {a : Shape} {i j : Nat} {m : String}

/-- A type that has a shape is given a symbol. -/
theorem mangle_of_hasShape (h : p.HasShape ty a) (s : Symbols) : ∃ m, (mangle p ty s).1 = some m := by
  induction h generalizing s with
  | base b => exact ⟨_, rfl⟩
  | list _ ih =>
    obtain ⟨m, hm⟩ := ih s
    exact ⟨_, by rw [mangle]; exact congrArg (Option.map _) hm⟩
  | set hkeyed _ ih =>
    obtain ⟨m, hm⟩ := ih s
    rw [mangle, hkeyed]
    exact ⟨_, congrArg (Option.map _) hm⟩
  | @map k _ _ _ _ _ ihk ihv =>
    obtain ⟨m, hm⟩ := ihk s
    obtain ⟨m', hm'⟩ := ihv (mangle p k s).2
    rw [mangle, show mangle p k s = (some m, (mangle p k s).2) from Prod.ext hm rfl]
    exact ⟨_, congrArg (Option.map _) hm'⟩
  | declared hkey => exact ⟨_, by rw [mangle_of_keyOf? hkey]⟩

/-- The symbol of a type in a sequence is that of its shape, in the table that the whole sequence leaves. -/
theorem answer_of_hasShape (hi : tys[i]? = some ty) (h : p.HasShape ty a) :
    (mangleAll p tys []).1[i]? = some (some (a.text (mangleAll p tys []).2)) ∧ a.All (mangleAll p tys []).2.Seen := by
  obtain ⟨hanswer, hextends⟩ := getElem?_mangleAll (p := p) hi []
  obtain ⟨m, hm⟩ := mangle_of_hasShape h (mangleAll p (tys.take i) []).2
  obtain ⟨-, -, b, hshape, hseen, rfl⟩ := mangle_adds (Prod.ext hm rfl)
  obtain rfl := h.unique hshape
  rw [hanswer, hm, text_stable hseen hextends.1]
  exact ⟨rfl, hseen.imp fun _ _ hseen => hseen.mono hextends.1⟩

/-- A type that was given a symbol has a shape. -/
theorem hasShape_of_answer (hi : tys[i]? = some ty) (hm : (mangleAll p tys []).1[i]? = some (some m)) :
    ∃ a, p.HasShape ty a := by
  obtain ⟨hanswer, -⟩ := getElem?_mangleAll (p := p) hi []
  have hmangle := Option.some.inj (hanswer.symm.trans hm)
  obtain ⟨-, -, a, hshape, -⟩ := mangle_adds (Prod.ext hmangle rfl)
  exact ⟨a, hshape⟩

/-- At any two times in a history of types, two types in range are given one symbol exactly if they are alike. Where
typedefs lead to types in range, each type in range is given a symbol. -/
theorem same_symbol_iff_alike (hp : p.Legible) (tys : List Ty) (hi : tys[i]? = some ty) (hj : tys[j]? = some ty')
    (hty : p.TypeInRange ty) :
    ((∃ m, (mangleAll p tys []).1[i]? = some (some m) ∧ (mangleAll p tys []).1[j]? = some (some m)) ↔
      p.Alike ty ty') ∧
    ((∀ t ∈ p.typedefs, p.TypeInRange t.target) → ∃ m, (mangleAll p tys []).1[i]? = some (some m)) := by
  have hregular : (mangleAll p tys []).2.Regular := (mangleAll_extends p tys []).2 regular_nil
  have hreadable {ty : Ty} {a : Shape} (h : p.HasShape ty a) (hseen : a.All (mangleAll p tys []).2.Seen) :
      a.All (mangleAll p tys []).2.Readable :=
    hseen.and (h.all fun part file name _ hkey => (hp.names _ (Program.mem_declarationKeys hkey)).plain hregular file)
  refine ⟨⟨?_, fun h => ?_⟩, fun htargets => ?_⟩
  · rintro ⟨m, hm, hm'⟩
    obtain ⟨a, ha⟩ := hasShape_of_answer hi hm
    obtain ⟨b, hb⟩ := hasShape_of_answer hj hm'
    obtain ⟨htext, hseen⟩ := answer_of_hasShape hi ha
    obtain ⟨htext', hseen'⟩ := answer_of_hasShape hj hb
    rw [hm, Option.some_inj, Option.some_inj] at htext
    rw [hm', Option.some_inj, Option.some_inj] at htext'
    -- Nothing follows the two symbols, so they are read to the end.
    have hwords : words (a.text (mangleAll p tys []).2) ++ [] = words (b.text (mangleAll p tys []).2) ++ [] := by
      rw [← htext, ← htext']
    have hend : Unnumbered [] := fun w hw => by cases hw
    obtain ⟨rfl, -⟩ := Shape.words_append_inj hregular (hreadable ha hseen) (hreadable hb hseen') hend hend hwords
    exact ha.alike hp.keys hb
  · obtain ⟨a, ha, ha'⟩ := h.exists_shape hty
    exact ⟨_, (answer_of_hasShape hi ha).1, (answer_of_hasShape hj ha').1⟩
  · obtain ⟨a, ha, -⟩ := (Program.alike_self htargets hty).exists_shape hty
    exact ⟨_, (answer_of_hasShape hi ha).1⟩

/-- A program with two structs that have one spelling, and a typedef for an enum. -/
def atlas : Program :=
  { Program.empty with
    files := [⟨"a.thrift", "ex/a", "a"⟩, ⟨"b.thrift", "ex/b", "b"⟩]
    enums := [⟨"Color", ⟨0⟩, [], .empty⟩]
    structs := [⟨"map_point", ⟨0⟩, .struct, [], false, .empty⟩, ⟨"MapPoint", ⟨1⟩, .struct, [], false, .empty⟩]
    typedefs := [⟨"Shade", ⟨0⟩, .enum ⟨0⟩, .empty⟩] }

/-- Sets of shades by point. -/
def shadesBy (point : Ref .struct) (annotations : Annotations) : Ty :=
  .map (.struct point) (.set (.typedef ⟨0⟩) annotations)

/-- Of three types of maps, the first and the last differ in an annotation without meaning, and the second has another
key with the same spelling. -/
def atlasTypes : List Ty :=
  [shadesBy ⟨0⟩ .empty, shadesBy ⟨1⟩ .empty, shadesBy ⟨0⟩ (Annotations.empty.insert "sorted" "no")]

theorem same_symbol_iff_alike_atlas :
    atlas.Legible ∧
    (∃ m, (mangleAll atlas atlasTypes []).1[0]? = some (some m) ∧
      (mangleAll atlas atlasTypes []).1[2]? = some (some m)) ∧
    ¬ ∃ m, (mangleAll atlas atlasTypes []).1[0]? = some (some m) ∧
      (mangleAll atlas atlasTypes []).1[1]? = some (some m) := by
  have hlegible : atlas.Legible := ⟨by decide +kernel, by decide +kernel⟩
  have hty : atlas.TypeInRange (shadesBy ⟨0⟩ .empty) :=
    Program.typeInRange_map.mpr ⟨Program.typeInRange_struct.mpr (by decide),
      Program.typeInRange_set.mpr (Program.typeInRange_typedef.mpr (by decide))⟩
  refine ⟨hlegible, ?_, ?_⟩
  · obtain ⟨hsame, -⟩ := same_symbol_iff_alike hlegible atlasTypes (i := 0) (j := 2) rfl rfl hty
    have hkeyed (annotations : Annotations) (h : annotations.get? typeKey = none) :
        atlas.isKeyedSet? (.typedef ⟨0⟩) annotations = some true := by
      rw [Program.isKeyedSet?, h]
      rfl
    exact hsame.mpr (.map (.struct ⟨0⟩) (.set (hkeyed _ rfl) (hkeyed _ rfl) (.typedef ⟨0⟩)))
  · obtain ⟨hsame, -⟩ := same_symbol_iff_alike hlegible atlasTypes (i := 0) (j := 1) rfl rfl hty
    rw [hsame]
    intro halike
    cases halike with
    | map hkey _ => cases hkey

end Symbols

end GoSchema
