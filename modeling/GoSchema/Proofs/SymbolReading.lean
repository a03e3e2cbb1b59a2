import GoSchema.Generate.Symbol
import GoSchema.Proofs.Casing
import GoSchema.Proofs.Namespace
import GoSchema.Proofs.Soundness

/-!
# Reading symbols

A symbol is a row of words with underscores between them. What it tells of a type is its `Shape`: the base types,
lists, sets and maps it is built from, the form of its sets, and the file and name of each declaration. A shape
can be read back from the symbol, and from any text that continues it, as long as the declarations in it are
`Plain`: none has the symbol of a base type or of a container, none is spelled like a number, and none is spelled
with an underscore (`Shape.words_append_inj`).

Numbers need care: `Item_1` is one declaration, and the word that follows a declaration is read as its number
if it is one. Numbers cannot bring two declarations together, because a spelling never ends like a numbered one: with
letters or digits in the name it has no underscore, and without them it has no digit (`Symbols.Spelling`). So two
declarations have one symbol only if they have one file and one name (`Symbols.Regular.find?_inj`), also where they are
not plain.

## What is proved

* `Symbols.Regular.find?_inj`: two declarations with one symbol have one file and one name.
* `Shape.words_head` and `Shape.unnumbered_tail`: the words at the beginning of a symbol, and that what follows
  them does not look like a number.
* `Shape.open_split`: what the beginning of a text tells of the shape whose symbol it is, and where the rest
  begins.
* `Shape.words_append_inj`: a shape is read back from its symbol, whatever follows it.

Shapes are not types: which type has which shape, and that a run gives its types the symbols of their shapes, is
said with the types behind a helper.
-/

namespace GoSchema

open Name Text

/-! ### Words -/

/-- The words of a text, which stand between underscores. -/
def words (t : String) : List (List Char) := t.toList.splitOn '_'

theorem words_join (a b : String) : words (a ++ "_" ++ b) = words a ++ words b := by
  simp [words, String.toList_append, List.splitOn_append_cons_self]

theorem words_of_notMem {t : String} (h : '_' ∉ t.toList) : words t = [t.toList] :=
  List.splitOn_eq_singleton h

theorem words_injective : Function.Injective words := by
  intro a b h
  have hjoin := congrArg (List.intercalate ['_']) h
  rwa [words, words, List.intercalate_splitOn, List.intercalate_splitOn, String.toList_inj] at hjoin

/-- The word is a positive number. -/
def IsNumber (w : List Char) : Prop := ∃ k : Nat, k ≠ 0 ∧ w = (toString k).toList

/-- The first word, if there is one, is not a number. -/
def Unnumbered (ws : List (List Char)) : Prop := ∀ w ∈ ws.head?, ¬ IsNumber w

theorem isDigit_of_mem_toString {k : Nat} {c : Char} (h : c ∈ (toString k).toList) :
    c.isDigit = true := by
  rw [Nat.toString_eq_ofList_toDigits, String.toList_ofList] at h
  exact @Nat.isDigit_of_mem_toDigits 10 k c (by decide) (by decide) h

/-- A word that begins with something else than a digit is no number. -/
theorem not_isNumber {w : List Char} (h : (w.head?.any fun c => !c.isDigit) = true) : ¬ IsNumber w := by
  rintro ⟨k, -, hw⟩
  cases w with
  | nil => cases h
  | cons c w =>
    have hdigit : c.isDigit = true := isDigit_of_mem_toString (hw ▸ List.mem_cons_self)
    simp [hdigit] at h

theorem underscore_notMem_toString (k : Nat) : '_' ∉ (toString k).toList := by
  intro h
  have hdigit := isDigit_of_mem_toString h
  revert hdigit
  decide

/-! ### Openings -/

/-- How the symbol of a type begins that is no declaration. -/
inductive Opening where
  | base (b : Base)
  | list
  | set
  | map

namespace Opening

/-- The first word. -/
def word : Opening → String
  | base b => b.symbol
  | list => "List"
  | set => "Set"
  | map => "Map"

def all : List Opening :=
  [base .bool, base .i8, base .i16, base .i32, base .i64, base .double, base .string, base .binary, list, set,
    map]

/-- The opening with this first word. -/
def ofWord? (w : String) : Option Opening := all.find? (·.word == w)

theorem ofWord?_word (o : Opening) : ofWord? o.word = some o := by
  rcases o with b | _ | _ | _
  · cases b <;> rfl
  all_goals rfl

theorem word_injective : Function.Injective word := by
  intro o o' h
  exact Option.some.inj ((ofWord?_word o).symm.trans ((congrArg ofWord? h).trans (ofWord?_word o')))

/-- Its words are not followed by a number, and are none. -/
theorem words_word (o : Opening) : words o.word = [o.word.toList] ∧ ¬ IsNumber o.word.toList := by
  have hone : '_' ∉ o.word.toList := by
    rcases o with b | _ | _ | _
    · cases b <;> decide
    all_goals decide
  refine ⟨words_of_notMem hone, not_isNumber ?_⟩
  rcases o with b | _ | _ | _
  · cases b <;> decide
  all_goals decide

end Opening

/-! ### Symbols of declarations -/

namespace Symbols

/-- A spelling, followed by a number unless that is zero. -/
def numbered (spelling : String) (k : Nat) : String :=
  if k = 0 then spelling else spelling ++ "_" ++ toString k

/-- The word that follows a spelling with this number. -/
def numberWords (k : Nat) : List (List Char) := if k = 0 then [] else [(toString k).toList]

theorem words_numbered {spelling : String} (h : '_' ∉ spelling.toList) (k : Nat) :
    words (numbered spelling k) = spelling.toList :: numberWords k := by
  unfold numbered numberWords
  split_ifs with hk
  · exact words_of_notMem h
  · rw [words_join, words_of_notMem h, words_of_notMem (underscore_notMem_toString k)]
    rfl

/-- The texts that spell names: there is no underscore in them, or neither letter nor number. -/
def Spelling (t : String) : Prop := '_' ∉ t.toList ∨ ∀ c ∈ t.toList, isAlphanumeric c = false

theorem spelling_exported (name : String) : Spelling (exported name) := by
  by_cases h : ∃ c ∈ name.toList, isAlphanumeric c = true
  · obtain ⟨c, hc, hletter⟩ := h
    exact .inl (underscore_notMem_exported hc hletter).1
  · have hnone : ∀ c ∈ name.toList, isAlphanumeric c = false := by simpa using h
    rw [exported_eq_self hnone]
    exact .inr hnone

theorem isAlphanumeric_of_isDigit {c : Char} (h : c.isDigit = true) : isAlphanumeric c = true := by
  have hascii : c.toNat < 128 := by
    have hbounds : 48 ≤ c.toNat ∧ c.toNat ≤ 57 := by
      simpa [Char.isDigit, UInt32.le_iff_toNat_le] using h
    omega
  rw [isAlphanumeric_of_ascii hascii]
  simp [Char.isAlphanum, h]

/-- No spelling is another text with a number. -/
theorem Spelling.ne_join {t : String} (h : Spelling t) (u : String) (k : Nat) : t ≠ u ++ "_" ++ toString k := by
  rintro rfl
  rcases h with h | h
  · simp at h
  · obtain ⟨c, hc⟩ := List.exists_mem_of_ne_nil (toString k).toList (by simp)
    have hnot := h c (by rw [String.toList_append]; exact List.mem_append_right _ hc)
    rw [isAlphanumeric_of_isDigit (isDigit_of_mem_toString hc)] at hnot
    cases hnot

theorem numbered_inj {t u : String} (ht : Spelling t) (hu : Spelling u) {j k : Nat}
    (h : numbered t j = numbered u k) : t = u ∧ j = k := by
  unfold numbered at h
  split_ifs at h with hj hk hk
  · exact ⟨h, hj.trans hk.symm⟩
  · exact absurd h (ht.ne_join u k)
  · exact absurd h.symm (hu.ne_join t j)
  · have hwords := congrArg words h
    rw [words_join, words_join, words_of_notMem (underscore_notMem_toString j),
      words_of_notMem (underscore_notMem_toString k)] at hwords
    obtain ⟨hspelling, hnumber⟩ := List.append_inj' hwords rfl
    exact ⟨words_injective hspelling,
      Namespace.toString_injective (String.toList_injective (List.head_eq_of_cons_eq hnumber))⟩

/-- The number of declarations seen with a spelling. -/
def seen (s : Symbols) (spelling : String) : Nat := s.countP (·.spelling == spelling)

/-- The entry of a declaration that is new. -/
def entry (s : Symbols) (file : Ref .file) (name : String) : SymbolEntry :=
  ⟨file, name, exported name, numbered (exported name) (s.seen (exported name))⟩

/-- Each entry was made for a declaration that was new when the ones before it had been seen. -/
def Regular (s : Symbols) : Prop :=
  ∀ before e after, s = before ++ e :: after → e = entry before e.file e.name

/-- The declaration has a symbol. -/
def Seen (s : Symbols) (file : Ref .file) (name : String) : Prop := (s.find? file name).isSome = true

variable {s s' : Symbols} {file file' : Ref .file} {name name' symbol : String}

theorem regular_nil : Regular [] := by
  intro before e after h
  simp at h

theorem Regular.snoc (h : s.Regular) (file : Ref .file) (name : String) :
    Regular (s ++ [s.entry file name]) := by
  intro before e after heq
  rcases List.eq_nil_or_concat after with rfl | ⟨after, last, rfl⟩
  · obtain ⟨rfl, hlast⟩ := List.append_inj' heq rfl
    rw [← List.head_eq_of_cons_eq hlast]
    rfl
  · rw [List.concat_eq_append, ← List.cons_append, ← List.append_assoc] at heq
    exact h before e after (List.append_inj' heq rfl).1

theorem named_of_find?_some (h : s.find? file name = some symbol) : s.named file name = (symbol, s) := by
  rw [named, h]

theorem named_of_find?_none (h : s.find? file name = none) :
    s.named file name = ((s.entry file name).symbol, s ++ [s.entry file name]) := by
  rw [named, h]
  rfl

theorem find?_append_of_some (h : s.find? file name = some symbol) (added : Symbols) :
    find? (s ++ added) file name = some symbol := by
  obtain ⟨e, he, rfl⟩ := Option.map_eq_some_iff.mp h
  rw [find?, List.find?_append, he]
  rfl

theorem find?_append_entry (h : s.find? file name = none) :
    find? (s ++ [s.entry file name]) file name = some (s.entry file name).symbol := by
  rw [find?, List.find?_append, Option.map_eq_none_iff.mp h]
  simp [entry]

/-- The entry in which a symbol is found. -/
theorem Regular.exists_entry (hs : s.Regular) (h : s.find? file name = some symbol) :
    ∃ before after, s = before ++ entry before file name :: after ∧
      symbol = numbered (exported name) (seen before (exported name)) := by
  obtain ⟨e, he, rfl⟩ := Option.map_eq_some_iff.mp h
  obtain ⟨hkey, before, after, heq, -⟩ := List.find?_eq_some_iff_append.mp he
  obtain ⟨rfl, rfl⟩ : e.file = file ∧ e.name = name := by simpa using hkey
  have hentry := hs before e after heq
  exact ⟨before, after, by rw [← hentry, heq], congrArg SymbolEntry.symbol hentry⟩

theorem seen_lt (before mid : Symbols) (file : Ref .file) (name : String) :
    seen before (exported name) <
      seen (before ++ entry before file name :: mid) (exported name) := by
  simp only [seen, List.countP_append, List.countP_cons, entry, beq_self_eq_true, if_true]
  omega

/-- Entries with one spelling have different numbers. -/
theorem eq_of_seen_eq {before after before' after' : Symbols}
    (heq : before ++ entry before file name :: after = before' ++ entry before' file' name' :: after')
    (hspelling : exported name = exported name')
    (hseen : seen before (exported name) = seen before' (exported name)) : file = file' ∧ name = name' := by
  rcases List.append_eq_append_iff.mp heq with ⟨mid, rfl, hmid⟩ | ⟨mid, rfl, hmid⟩
  · cases mid with
    | nil =>
      have hentry := List.head_eq_of_cons_eq hmid
      exact ⟨congrArg SymbolEntry.file hentry, congrArg SymbolEntry.name hentry⟩
    | cons e mid =>
      rw [← List.head_eq_of_cons_eq hmid] at hseen
      exact absurd hseen (Nat.ne_of_lt (seen_lt before mid file name))
  · cases mid with
    | nil =>
      have hentry := List.head_eq_of_cons_eq hmid
      exact ⟨(congrArg SymbolEntry.file hentry).symm, (congrArg SymbolEntry.name hentry).symm⟩
    | cons e mid =>
      rw [← List.head_eq_of_cons_eq hmid, hspelling] at hseen
      exact absurd hseen (Nat.ne_of_gt (seen_lt before' mid file' name'))

/-- Declarations with one symbol have one file and one name, however the names are spelled. -/
theorem Regular.find?_inj (hs : s.Regular) (h : s.find? file name = some symbol)
    (h' : s.find? file' name' = some symbol) : file = file' ∧ name = name' := by
  obtain ⟨before, after, heq, hsymbol⟩ := hs.exists_entry h
  obtain ⟨before', after', heq', hsymbol'⟩ := hs.exists_entry h'
  obtain ⟨hspelling, hseen⟩ :=
    numbered_inj (spelling_exported name) (spelling_exported name') (hsymbol.symm.trans hsymbol')
  rw [← hspelling] at hseen
  exact eq_of_seen_eq (heq.symm.trans heq') hspelling hseen

/-- Nothing else is read where the symbol of the declaration stands. -/
structure Plain (s : Symbols) (file : Ref .file) (name : String) : Prop where
  /-- It is not the beginning of another symbol. -/
  opening : ∀ o : Opening, s.find? file name ≠ some o.word
  /-- It is not read as the number of the declaration before it. -/
  number : ¬ IsNumber (exported name).toList
  /-- It is one word, and a number perhaps. -/
  underscore : '_' ∉ (exported name).toList

end Symbols

/-- The declaration has a symbol, and that can be read. -/
def Symbols.Readable (s : Symbols) (file : Ref .file) (name : String) : Prop :=
  s.Seen file name ∧ s.Plain file name

/-! ### Shapes -/

/-- What the symbol of a type tells of it. -/
inductive Shape where
  | base (b : Base)
  | list (element : Shape)
  | set (element : Shape) (keyed : Bool)
  | map (key value : Shape)
  /-- An enum, a struct or a typedef, known by its file and its name. -/
  | declared (file : Ref .file) (name : String)

namespace Shape

open Symbols

variable {s s' : Symbols} {P Q : Ref .file → String → Prop} {a b : Shape}

/-- The symbol of a shape. -/
def text (s : Symbols) : Shape → String
  | base b => b.symbol
  | list e => "List_" ++ e.text s
  | set e keyed => "Set_" ++ e.text s ++ if keyed then "_mapType" else "_sliceType"
  | map k v => "Map_" ++ k.text s ++ "_" ++ v.text s
  | declared file name => (s.find? file name).getD ""

/-- The property holds of all declarations in the shape. -/
def All (P : Ref .file → String → Prop) : Shape → Prop
  | base _ => True
  | list e => e.All P
  | set e _ => e.All P
  | map k v => k.All P ∧ v.All P
  | declared file name => P file name

/-- How the symbol begins, unless with a declaration. -/
def opening? : Shape → Option Opening
  | base b => some (.base b)
  | list _ => some .list
  | set _ _ => some .set
  | map _ _ => some .map
  | declared _ _ => none

/-- The symbol with which that of the shape begins. -/
def head (s : Symbols) : Shape → String
  | base b => b.symbol
  | list _ => "List"
  | set _ _ => "Set"
  | map _ _ => "Map"
  | declared file name => (s.find? file name).getD ""

/-- The word for the form of a set. -/
def form (keyed : Bool) : List Char := if keyed then "mapType".toList else "sliceType".toList

theorem form_injective : ∀ {keyed keyed' : Bool}, form keyed = form keyed' → keyed = keyed' := by decide

theorem unnumbered_form (keyed : Bool) (rest : List (List Char)) : Unnumbered ([form keyed] ++ rest) := by
  rintro _ ⟨⟩
  exact not_isNumber (by cases keyed <;> decide)

/-- The words that follow. -/
def tail (s : Symbols) : Shape → List (List Char)
  | base _ => []
  | list e => words (e.text s)
  | set e keyed => words (e.text s) ++ [form keyed]
  | map k v => words (k.text s) ++ words (v.text s)
  | declared _ _ => []

theorem words_text (a : Shape) : words (a.text s) = words (a.head s) ++ a.tail s := by
  cases a with
  | base b => simp [text, head, tail]
  | declared file name => simp [text, head, tail]
  | list e =>
    have hsplit : "List_" ++ e.text s = "List" ++ "_" ++ e.text s := rfl
    rw [text, hsplit, words_join, head, tail]
  | set e keyed =>
    have hsplit : (set e keyed).text s =
        "Set" ++ "_" ++ e.text s ++ "_" ++ if keyed then "mapType" else "sliceType" := by
      cases keyed <;> simp [text, ← String.toList_inj]
    have hform : words (if keyed then "mapType" else "sliceType") = [form keyed] := by
      cases keyed <;> exact words_of_notMem (by decide)
    rw [hsplit, words_join, words_join, hform, head, tail, List.append_assoc]
  | map k v =>
    have hsplit : "Map_" ++ k.text s = "Map" ++ "_" ++ k.text s := rfl
    rw [text, hsplit, words_join, words_join, head, tail, List.append_assoc]

theorem head_eq {o : Opening} (h : a.opening? = some o) : a.head s = o.word := by
  cases a <;> cases h <;> rfl

theorem All.imp (h : a.All P) (hpq : ∀ file name, P file name → Q file name) : a.All Q := by
  induction a with
  | base b => trivial
  | list e ih => exact ih h
  | set e keyed ih => exact ih h
  | map k v ihk ihv => exact ⟨ihk h.1, ihv h.2⟩
  | declared file name => exact hpq file name h

theorem All.and (hp : a.All P) (hq : a.All Q) : a.All fun file name => P file name ∧ Q file name := by
  induction a with
  | base b => trivial
  | list e ih => exact ih hp hq
  | set e keyed ih => exact ih hp hq
  | map k v ihk ihv => exact ⟨ihk hp.1 hq.1, ihv hp.2 hq.2⟩
  | declared file name => exact ⟨hp, hq⟩

/-! ### Reading -/

/-- The symbol at the beginning is a word that is no number, and a number perhaps. -/
theorem words_head (hs : s.Regular) (ha : a.All s.Readable) :
    ∃ w k, words (a.head s) = w :: numberWords k ∧ ¬ IsNumber w := by
  cases hopening : a.opening? with
  | some o =>
    rw [head_eq hopening]
    exact ⟨_, 0, o.words_word⟩
  | none =>
    cases a with
    | declared file name =>
      obtain ⟨hseen, hplain⟩ := ha
      obtain ⟨symbol, hsymbol⟩ := Option.isSome_iff_exists.mp hseen
      obtain ⟨before, -, -, hnumbered⟩ := hs.exists_entry hsymbol
      refine ⟨_, seen before (exported name), ?_, hplain.number⟩
      rw [head, hsymbol, Option.getD_some, hnumbered, words_numbered hplain.underscore]
    | base | list | set | map => cases hopening

theorem unnumbered_text (hs : s.Regular) (ha : a.All s.Readable) (rest : List (List Char)) :
    Unnumbered (words (a.text s) ++ rest) := by
  obtain ⟨w, k, hwords, hw⟩ := words_head hs ha
  rw [words_text, hwords]
  rintro _ ⟨⟩
  exact hw

/-- What follows the symbol at the beginning does not look like its number. -/
theorem unnumbered_tail (hs : s.Regular) (ha : a.All s.Readable) {rest : List (List Char)}
    (hrest : Unnumbered rest) : Unnumbered (a.tail s ++ rest) := by
  cases a with
  | base b => exact hrest
  | declared file name => exact hrest
  | list e =>
    have he : e.All s.Readable := ha
    exact unnumbered_text hs he rest
  | set e keyed =>
    have he : e.All s.Readable := ha
    rw [tail, List.append_assoc]
    exact unnumbered_text hs he _
  | map k v =>
    rw [tail, List.append_assoc]
    exact unnumbered_text hs ha.1 _

theorem numberWords_split {j k : Nat} {xs ys : List (List Char)} (hxs : Unnumbered xs) (hys : Unnumbered ys)
    (h : numberWords j ++ xs = numberWords k ++ ys) : j = k ∧ xs = ys := by
  by_cases hj : j = 0 <;> by_cases hk : k = 0
  · exact ⟨hj.trans hk.symm, by simpa [numberWords, hj, hk] using h⟩
  · have hxs' : xs = (toString k).toList :: ys := by simpa [numberWords, hj, hk] using h
    exact absurd ⟨k, hk, rfl⟩ (hxs _ (by simp [hxs']))
  · have hys' : (toString j).toList :: xs = ys := by simpa [numberWords, hj, hk] using h
    exact absurd ⟨j, hj, rfl⟩ (hys _ (by simp [← hys']))
  · have hcons : (toString j).toList :: xs = (toString k).toList :: ys := by
      simpa [numberWords, hj, hk] using h
    obtain ⟨hnumber, hrest⟩ := List.cons.inj hcons
    exact ⟨Namespace.toString_injective (String.toList_injective hnumber), hrest⟩

/-- The symbol at the beginning of a text is determined by it. -/
theorem head_split (hs : s.Regular) (ha : a.All s.Readable) (hb : b.All s.Readable)
    {xs ys : List (List Char)} (hxs : Unnumbered xs) (hys : Unnumbered ys)
    (h : words (a.head s) ++ xs = words (b.head s) ++ ys) : a.head s = b.head s ∧ xs = ys := by
  obtain ⟨w, j, hj, -⟩ := words_head hs ha
  obtain ⟨w', k, hk, -⟩ := words_head hs hb
  rw [hj, hk, List.cons_append, List.cons_append, List.cons.injEq] at h
  obtain ⟨rfl, hrest⟩ := h
  obtain ⟨rfl, rfl⟩ := numberWords_split hxs hys hrest
  exact ⟨words_injective (hj.trans hk.symm), rfl⟩

theorem find?_eq_head {file : Ref .file} {name : String} (h : s.Readable file name) :
    s.find? file name = some ((declared file name).head s) := by
  obtain ⟨symbol, hsymbol⟩ := Option.isSome_iff_exists.mp h.1
  rw [head, hsymbol, Option.getD_some]

theorem head_ne_word (ha : a.All s.Readable) (h : a.opening? = none) (o : Opening) : a.head s ≠ o.word := by
  cases a with
  | declared file name => exact fun heq => ha.2.opening o (heq ▸ find?_eq_head ha)
  | base | list | set | map => cases h

/-- The symbol at the beginning tells what kind of shape it belongs to. -/
theorem opening?_eq (ha : a.All s.Readable) (hb : b.All s.Readable) (h : a.head s = b.head s) :
    a.opening? = b.opening? := by
  cases hoa : a.opening? with
  | none =>
    cases hob : b.opening? with
    | none => rfl
    | some o => exact absurd (h.trans (head_eq hob)) (head_ne_word ha hoa o)
  | some o =>
    cases hob : b.opening? with
    | none => exact absurd (h.symm.trans (head_eq hoa)) (head_ne_word hb hob o)
    | some o' =>
      rw [head_eq hoa, head_eq hob] at h
      rw [Opening.word_injective h]

/-- What the beginning of a text tells of a shape whose symbol it is, and where the rest begins. -/
theorem open_split (hs : s.Regular) (ha : a.All s.Readable) (hb : b.All s.Readable)
    {rest rest' : List (List Char)} (hrest : Unnumbered rest) (hrest' : Unnumbered rest')
    (h : words (a.text s) ++ rest = words (b.text s) ++ rest') :
    a.head s = b.head s ∧ a.tail s ++ rest = b.tail s ++ rest' ∧ a.opening? = b.opening? := by
  rw [words_text, words_text, List.append_assoc, List.append_assoc] at h
  obtain ⟨hhead, htail⟩ :=
    head_split hs ha hb (unnumbered_tail hs ha hrest) (unnumbered_tail hs hb hrest') h
  exact ⟨hhead, htail, opening?_eq ha hb hhead⟩

/-- A shape is read back from its symbol, whatever follows it. -/
theorem words_append_inj (hs : s.Regular) (ha : a.All s.Readable) (hb : b.All s.Readable)
    {rest rest' : List (List Char)} (hrest : Unnumbered rest) (hrest' : Unnumbered rest')
    (h : words (a.text s) ++ rest = words (b.text s) ++ rest') : a = b ∧ rest = rest' := by
  induction a generalizing b rest rest' with
  | base x =>
    obtain ⟨hhead, htail, hopening⟩ := open_split hs ha hb hrest hrest' h
    cases b with
    | base y =>
      cases hopening
      exact ⟨rfl, htail⟩
    | list | set | map | declared => cases hopening
  | list e ih =>
    obtain ⟨hhead, htail, hopening⟩ := open_split hs ha hb hrest hrest' h
    cases b with
    | list e' =>
      obtain ⟨rfl, hrest⟩ := ih (b := e') ha hb hrest hrest' htail
      exact ⟨rfl, hrest⟩
    | base | set | map | declared => cases hopening
  | set e keyed ih =>
    obtain ⟨hhead, htail, hopening⟩ := open_split hs ha hb hrest hrest' h
    cases b with
    | set e' keyed' =>
      rw [tail, tail, List.append_assoc, List.append_assoc] at htail
      obtain ⟨rfl, hform⟩ := ih (b := e') ha hb (unnumbered_form keyed rest) (unnumbered_form keyed' rest') htail
      obtain ⟨hkeyed, hrest⟩ := List.cons.inj hform
      rw [form_injective hkeyed]
      exact ⟨rfl, hrest⟩
    | base | list | map | declared => cases hopening
  | map k v ihk ihv =>
    obtain ⟨hhead, htail, hopening⟩ := open_split hs ha hb hrest hrest' h
    cases b with
    | map k' v' =>
      rw [tail, tail, List.append_assoc, List.append_assoc] at htail
      obtain ⟨rfl, hvalue⟩ := ihk ha.1 hb.1 (unnumbered_text hs ha.2 _) (unnumbered_text hs hb.2 _) htail
      obtain ⟨rfl, hrest⟩ := ihv ha.2 hb.2 hrest hrest' hvalue
      exact ⟨rfl, hrest⟩
    | base | list | set | declared => cases hopening
  | declared file name =>
    obtain ⟨hhead, htail, hopening⟩ := open_split hs ha hb hrest hrest' h
    cases b with
    | declared file' name' =>
      obtain ⟨rfl, rfl⟩ := hs.find?_inj (find?_eq_head ha) (hhead ▸ find?_eq_head hb)
      exact ⟨rfl, htail⟩
    | base | list | set | map => cases hopening

end Shape

end GoSchema
