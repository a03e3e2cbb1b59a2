import GoSchema.Proofs.Answers
import GoSchema.Proofs.Statements
import GoSchema.Proofs.WholeRun
import Mathlib.Data.Fintype.EquivFin

/-!
# Comparing containers without keys

Sets and maps that Go cannot key are sequences, and they keep what is repeated in them. Their comparators search: for
each element on the left one on the right. A set asks for an equal element; a map takes the first pair with an equal
key and asks for an equal value.

A search on one side only does not count. So a set is equal to itself, but `["a", "a"]` is equal to `["a", "b"]`
and not the other way round. A map with one key twice need not even be equal to itself, as the search ends at the first
pair. Both comparators are symmetric where no element on one side has two equal ones on the other, and a map is
then equal to itself (`Env.unkeyed_comparators`).

## What is proved

* `compareSets_eq` and `compareMaps_eq`: what the comparators answer, by running the statements that are printed.
* `Apart.exists_partner`: the one counting argument. Partners for all of one side are partners for all of the
  other, if the sizes agree and no partner is taken twice.
* `SetLaws` and `MapLaws`: when the comparators are reflexive and symmetric, over any equality of the elements.
  Over a transitive one it is enough that neither sequence has equal elements.
* `Env.unkeyed_comparators` ties this to the code of the helpers, and `Env.cabinet_compares_one_sided` has the two
  examples above.

The equality of the elements is a parameter: for nested containers it is again a comparator, with the same defects.
-/

namespace GoSchema

open Go

/-! ### Comparators as statements -/

section

variable {σ : Type}

/-- Returns the answer no. -/
def answerNo : Statement σ Bool := .ret "return false" fun _ => false

/-- The body of a comparator: sizes first, then the loop. -/
def comparatorBody (differ : σ → Bool) (loop : Statement σ Bool) : Statement σ Bool :=
  .block [.cond "len(lhs) != len(rhs)" differ answerNo, .gap, loop, .ret "return true" fun _ => true]

theorem code_comparatorBody (name type : String) (differ : σ → Bool) (loop : Statement σ Bool) :
    func s!"{name}(lhs, rhs {type}) bool" (comparatorBody differ loop).code =
      comparatorCode name type loop.code := by
  simp [comparatorBody, comparatorCode, Statement.code_block, Statement.code, answerNo, returnFalse]

/-- A comparator whose loop checks something answers whether sizes agree and the check passes. -/
theorem returned_comparatorBody {differ : σ → Bool} {loop : Statement σ Bool} {I : σ → Prop} {passes : Bool} {s : σ}
    (h : Statement.Checks I passes false (loop.run s)) :
    ((comparatorBody differ loop).run s).returned?.map Prod.snd = some (!differ s && passes) := by
  cases hdiffer : differ s with
  | true => simp [comparatorBody, Statement.block, Statement.run, hdiffer, answerNo, Outcome.andThen, Outcome.returned?]
  | false =>
    cases passes with
    | true =>
      obtain ⟨t, ht, -⟩ := h.1 rfl
      simp [comparatorBody, Statement.block, Statement.run, hdiffer, ht, Outcome.andThen, Outcome.returned?]
    | false =>
      obtain ⟨t, ht⟩ := h.2 rfl
      simp [comparatorBody, Statement.block, Statement.run, hdiffer, ht, Outcome.andThen, Outcome.returned?]

end

/-! ### Sets -/

section

variable {α : Type}

/-- The variables of the comparator of sets. -/
structure SetFrame (α : Type) where
  lhs : List α
  rhs : List α
  x : Option α
  y : Option α
  ok : Bool

namespace SetFrame

/-- A round of the outer loop begins. -/
def enterX (x : α) (s : SetFrame α) : SetFrame α := { s with x := some x }

/-- A round of the inner loop begins. -/
def enterY (y : α) (s : SetFrame α) : SetFrame α := { s with y := some y }

/-- The answer of the search is noted. -/
def note (found : Bool) (s : SetFrame α) : SetFrame α := { s with ok := found }

/-- The sequences that are compared. -/
def Holds (a b : List α) (s : SetFrame α) : Prop := s.lhs = a ∧ s.rhs = b

/-- A search for an element equal to `x` has not found one yet. -/
def Seeks (a b : List α) (x : α) (s : SetFrame α) : Prop := s.Holds a b ∧ s.x = some x ∧ s.ok = false

end SetFrame

/-- Compares `x` with one element; `eq` is the text for `R`. -/
def tryElement (eq : String) (R : α → α → Bool) : Statement (SetFrame α) Bool :=
  .cond eq (fun s => s.x.any fun x => s.y.any (R x)) (.block [.act "ok = true" (.note true), .brk])

/-- Looks for an element equal to `x`; `eq` is the text for `R`. -/
def searchElement (eq : String) (R : α → α → Bool) : Statement (SetFrame α) Bool :=
  .block
    [.act "ok := false" (.note false),
     .each "_, y := range rhs" (fun s => s.rhs.map .enterY) (tryElement eq R),
     .cond "!ok" (fun s => !s.ok) answerNo]

/-- The comparator of sets that are sequences; `eq` is the text for `R`. -/
def searchSet (eq : String) (R : α → α → Bool) : Statement (SetFrame α) Bool :=
  comparatorBody (fun s => s.lhs.length != s.rhs.length)
    (.each "_, x := range lhs" (fun s => s.lhs.map .enterX) (searchElement eq R))

/-- What the comparator of sets answers. -/
def compareSets (eq : String) (R : α → α → Bool) (a b : List α) : Option Bool :=
  ((searchSet eq R).run ⟨a, b, none, none, false⟩).returned?.map Prod.snd

theorem code_searchSet (name type eq : String) (R : α → α → Bool) :
    func s!"{name}(lhs, rhs {type}) bool" (searchSet eq R).code = comparatorCode name type (searchSetLoop eq) := by
  rw [searchSet, code_comparatorBody]
  simp [searchElement, tryElement, searchSetLoop, Statement.code_block, Statement.code, answerNo, returnFalse]

theorem run_tryElement (eq : String) (R : α → α → Bool) {x : α} (y : α) {s : SetFrame α} (hx : s.x = some x) :
    (tryElement eq R).run (s.enterY y) = if R x y then .breaks ((s.enterY y).note true) else .goes (s.enterY y) := by
  simp [tryElement, Statement.run, Statement.block, Outcome.andThen, SetFrame.enterY, hx]

/-- The inner loop notes whether there is an equal element. -/
theorem rounds_tryElement (eq : String) (R : α → α → Bool) {a b : List α} {x : α} {s : SetFrame α}
    (hs : s.Seeks a b x) : ∃ t, t.Holds a b ∧ t.ok = b.any (R x) ∧
      Statement.rounds (tryElement eq R).run (b.map SetFrame.enterY) s = .goes t := by
  have hskip (y : α) (t : SetFrame α) (ht : t.Seeks a b x) (hy : R x y = false) :
      Statement.GoesOn (SetFrame.Seeks a b x) ((tryElement eq R).run (t.enterY y)) := by
    rw [run_tryElement eq R y ht.2.1, hy]
    exact ⟨t.enterY y, ht, .inl rfl⟩
  have hstop (y : α) (t : SetFrame α) (ht : t.Seeks a b x) (hy : R x y = true) :
      Statement.Stops ((tryElement eq R).run (t.enterY y)) := by
    rw [run_tryElement eq R y ht.2.1, hy]
    exact .inl ⟨_, rfl⟩
  obtain ⟨hnone, hsome⟩ := Statement.rounds_find (l := b) hskip hstop hs
  cases hfind : b.find? (R x) with
  | none =>
    obtain ⟨t, ⟨ht, -, hok⟩, hrun⟩ := hnone hfind
    refine ⟨t, ht, ?_, hrun⟩
    rw [hok, List.any_eq_false.mpr (List.find?_eq_none.mp hfind)]
  | some y =>
    obtain ⟨t, ht, hrun⟩ := hsome y hfind
    have hy : R x y = true := List.find?_some hfind
    rw [run_tryElement eq R y ht.2.1, hy] at hrun
    refine ⟨(t.enterY y).note true, ht.1, ?_, hrun⟩
    exact (List.any_eq_true.mpr ⟨y, List.mem_of_find?_eq_some hfind, hy⟩).symm

theorem searchElement_checks (eq : String) (R : α → α → Bool) {a b : List α} (x : α) {s : SetFrame α}
    (hs : s.Holds a b) :
    Statement.Checks (SetFrame.Holds a b) (b.any (R x)) false ((searchElement eq R).run (s.enterX x)) := by
  obtain ⟨t, ht, hok, hrun⟩ := rounds_tryElement eq R (s := (s.enterX x).note false) ⟨hs, rfl, rfl⟩
  have hsearch : (searchElement eq R).run (s.enterX x) = if b.any (R x) then .goes t else .returns t false := by
    have hrhs : ((s.enterX x).note false).rhs = b := hs.2
    simp only [searchElement, Statement.block, Statement.run, Outcome.andThen, hrhs, hrun, hok]
    cases b.any (R x) <;> rfl
  rw [hsearch]
  exact Statement.checks_ite ht _ _

/-- The comparator of sets answers whether the sizes agree and each element on the left has an equal one on the
right. -/
theorem compareSets_eq (eq : String) (R : α → α → Bool) (a b : List α) :
    compareSets eq R a b = some (a.length == b.length && a.all fun x => b.any (R x)) := by
  have hloop : Statement.Checks (SetFrame.Holds a b) (a.all fun x => b.any (R x)) false
      (Statement.rounds (searchElement eq R).run (a.map SetFrame.enterX) ⟨a, b, none, none, false⟩) :=
    Statement.rounds_check (fun x _ s hs => searchElement_checks eq R x hs) ⟨rfl, rfl⟩
  rw [compareSets, searchSet, returned_comparatorBody hloop]
  simp [bne]

end

/-! ### Maps -/

section

variable {κ ν : Type}

/-- The variables of the comparator of maps. -/
structure MapFrame (κ ν : Type) where
  lhs : List (κ × ν)
  rhs : List (κ × ν)
  i : Option (κ × ν)
  j : Option (κ × ν)
  lk : Option κ
  rk : Option κ
  lv : Option ν
  rv : Option ν
  ok : Bool

namespace MapFrame

/-- A round of the outer loop begins. -/
def enterI (p : κ × ν) (s : MapFrame κ ν) : MapFrame κ ν := { s with i := some p }

/-- A round of the inner loop begins. -/
def enterJ (q : κ × ν) (s : MapFrame κ ν) : MapFrame κ ν := { s with j := some q }

/-- The pair on the left is taken apart. -/
def takeI (s : MapFrame κ ν) : MapFrame κ ν := { s with lk := s.i.map Prod.fst, lv := s.i.map Prod.snd }

/-- The pair on the right is taken apart. -/
def takeJ (s : MapFrame κ ν) : MapFrame κ ν := { s with rk := s.j.map Prod.fst, rv := s.j.map Prod.snd }

/-- The answer of the search is noted. -/
def note (found : Bool) (s : MapFrame κ ν) : MapFrame κ ν := { s with ok := found }

theorem note_of_ok {s : MapFrame κ ν} {found : Bool} (h : s.ok = found) : s.note found = s := by
  cases s
  cases h
  rfl

/-- The sequences that are compared. -/
def Holds (a b : List (κ × ν)) (s : MapFrame κ ν) : Prop := s.lhs = a ∧ s.rhs = b

/-- A search for a pair with the key of `p` has not found one yet. -/
def Seeks (a b : List (κ × ν)) (p : κ × ν) (s : MapFrame κ ν) : Prop :=
  s.Holds a b ∧ s.lk = some p.1 ∧ s.lv = some p.2 ∧ s.ok = false

end MapFrame

/-- Compares a pair on the left with one on the right; `keyEq` is the text for `K` and `valueEq` that for `V`. -/
def tryPair (keyEq valueEq : String) (K : κ → κ → Bool) (V : ν → ν → Bool) : Statement (MapFrame κ ν) Bool :=
  .block
    [.act "rk := j.Key" fun s => { s with rk := s.j.map Prod.fst },
     .act "rv := j.Value" fun s => { s with rv := s.j.map Prod.snd },
     .cond s!"!{keyEq}" (fun s => !(s.lk.any fun k => s.rk.any (K k))) .cont,
     .cond s!"!{valueEq}" (fun s => !(s.lv.any fun v => s.rv.any (V v))) answerNo,
     .act "ok = true" (.note true),
     .brk]

/-- Looks for the pair with the key of a pair on the left. -/
def searchPair (keyEq valueEq : String) (K : κ → κ → Bool) (V : ν → ν → Bool) : Statement (MapFrame κ ν) Bool :=
  .block
    [.act "lk := i.Key" fun s => { s with lk := s.i.map Prod.fst },
     .act "lv := i.Value" fun s => { s with lv := s.i.map Prod.snd },
     .act "ok := false" (.note false),
     .each "_, j := range rhs" (fun s => s.rhs.map .enterJ) (tryPair keyEq valueEq K V),
     .cond "!ok" (fun s => !s.ok) answerNo]

/-- The comparator of maps that are sequences of pairs. -/
def searchMap (keyEq valueEq : String) (K : κ → κ → Bool) (V : ν → ν → Bool) : Statement (MapFrame κ ν) Bool :=
  comparatorBody (fun s => s.lhs.length != s.rhs.length)
    (.each "_, i := range lhs" (fun s => s.lhs.map .enterI) (searchPair keyEq valueEq K V))

/-- What the comparator of maps answers. -/
def compareMaps (keyEq valueEq : String) (K : κ → κ → Bool) (V : ν → ν → Bool) (a b : List (κ × ν)) : Option Bool :=
  ((searchMap keyEq valueEq K V).run ⟨a, b, none, none, none, none, none, none, false⟩).returned?.map Prod.snd

/-- The first pair with the key of `p` has its value. -/
def agreesAtFirst (K : κ → κ → Bool) (V : ν → ν → Bool) (b : List (κ × ν)) (p : κ × ν) : Bool :=
  (b.find? fun q => K p.1 q.1).any fun q => V p.2 q.2

theorem code_searchMap (name type keyEq valueEq : String) (K : κ → κ → Bool) (V : ν → ν → Bool) :
    func s!"{name}(lhs, rhs {type}) bool" (searchMap keyEq valueEq K V).code =
      comparatorCode name type (searchMapLoop keyEq valueEq) := by
  rw [searchMap, code_comparatorBody]
  simp [searchPair, tryPair, searchMapLoop, Statement.code_block, Statement.code, answerNo, returnFalse]

variable (keyEq valueEq : String) (K : κ → κ → Bool) (V : ν → ν → Bool) {a b : List (κ × ν)} {p : κ × ν}
  {s : MapFrame κ ν}

theorem run_tryPair (hs : s.Seeks a b p) (q : κ × ν) :
    (tryPair keyEq valueEq K V).run (s.enterJ q) =
      if K p.1 q.1 then
        if V p.2 q.2 then .breaks ((s.enterJ q).takeJ.note true) else .returns (s.enterJ q).takeJ false
      else .continues (s.enterJ q).takeJ := by
  obtain ⟨-, hlk, hlv, -⟩ := hs
  cases hK : K p.1 q.1 <;> cases hV : V p.2 q.2 <;>
    simp [tryPair, Statement.run, Statement.block, Outcome.andThen, MapFrame.enterJ, MapFrame.takeJ, MapFrame.note,
      answerNo, hlk, hlv, hK, hV]

/-- The inner loop ends at the first pair with the key, and there it answers no if the values differ. -/
theorem rounds_tryPair (hs : s.Seeks a b p) :
    ∃ t, t.Holds a b ∧
      Statement.rounds (tryPair keyEq valueEq K V).run (b.map MapFrame.enterJ) s =
        if (b.find? fun q => K p.1 q.1).any fun q => !V p.2 q.2 then .returns t false
        else .goes (t.note (agreesAtFirst K V b p)) := by
  have hskip (q : κ × ν) (t : MapFrame κ ν) (ht : t.Seeks a b p) (hq : K p.1 q.1 = false) :
      Statement.GoesOn (MapFrame.Seeks a b p) ((tryPair keyEq valueEq K V).run (t.enterJ q)) := by
    rw [run_tryPair keyEq valueEq K V ht, hq]
    exact ⟨(t.enterJ q).takeJ, ht, .inr rfl⟩
  have hstop (q : κ × ν) (t : MapFrame κ ν) (ht : t.Seeks a b p) (hq : K p.1 q.1 = true) :
      Statement.Stops ((tryPair keyEq valueEq K V).run (t.enterJ q)) := by
    rw [run_tryPair keyEq valueEq K V ht, hq]
    cases V p.2 q.2 with
    | true => exact .inl ⟨_, rfl⟩
    | false => exact .inr ⟨_, _, rfl⟩
  obtain ⟨hnone, hsome⟩ := Statement.rounds_find (l := b) hskip hstop hs
  cases hfind : b.find? fun q => K p.1 q.1 with
  | none =>
    obtain ⟨t, ⟨ht, -, -, hok⟩, hrun⟩ := hnone hfind
    refine ⟨t, ht, ?_⟩
    rw [hrun, agreesAtFirst, hfind, Option.any_none, Option.any_none, MapFrame.note_of_ok hok]
    rfl
  | some q =>
    obtain ⟨t, ht, hrun⟩ := hsome q hfind
    have hq : K p.1 q.1 = true := by simpa using List.find?_some hfind
    rw [run_tryPair keyEq valueEq K V ht, hq] at hrun
    refine ⟨(t.enterJ q).takeJ, ht.1, ?_⟩
    rw [hrun, agreesAtFirst, hfind, Option.any_some, Option.any_some]
    cases V p.2 q.2 <;> rfl

theorem searchPair_checks (p : κ × ν) (hs : s.Holds a b) :
    Statement.Checks (MapFrame.Holds a b) (agreesAtFirst K V b p) false
      ((searchPair keyEq valueEq K V).run (s.enterI p)) := by
  obtain ⟨rfl, rfl⟩ := hs
  have hseeks : ((s.enterI p).takeI.note false).Seeks s.lhs s.rhs p := ⟨⟨rfl, rfl⟩, rfl, rfl, rfl⟩
  have hrun : (searchPair keyEq valueEq K V).run (s.enterI p) =
      (Statement.rounds (tryPair keyEq valueEq K V).run (s.rhs.map .enterJ) ((s.enterI p).takeI.note false)).andThen
        (Statement.block [.cond "!ok" (fun s => !s.ok) answerNo]).run := rfl
  obtain ⟨t, ht, hrounds⟩ := rounds_tryPair keyEq valueEq K V hseeks
  rw [hrun, hrounds, agreesAtFirst]
  cases s.rhs.find? fun q => K p.1 q.1 with
  | none => exact ⟨nofun, fun _ => ⟨t.note false, rfl⟩⟩
  | some q =>
    rw [Option.any_some, Option.any_some]
    cases V p.2 q.2 with
    | true => exact ⟨fun _ => ⟨t.note true, rfl, ht⟩, nofun⟩
    | false => exact ⟨nofun, fun _ => ⟨t, rfl⟩⟩

/-- The comparator of maps answers whether the sizes agree and, for each pair on the left, the first pair with its key
on the right has its value. -/
theorem compareMaps_eq (a b : List (κ × ν)) :
    compareMaps keyEq valueEq K V a b = some (a.length == b.length && a.all (agreesAtFirst K V b)) := by
  have hloop : Statement.Checks (MapFrame.Holds a b) (a.all (agreesAtFirst K V b)) false
      (Statement.rounds (searchPair keyEq valueEq K V).run (a.map MapFrame.enterI)
        ⟨a, b, none, none, none, none, none, none, false⟩) :=
    Statement.rounds_check (fun p _ s hs => searchPair_checks keyEq valueEq K V p hs) ⟨rfl, rfl⟩
  rw [compareMaps, searchMap, returned_comparatorBody hloop]
  simp [bne]

end

/-! ### Laws -/

section

variable {α β : Type} {R : α → β → Bool} {a : List α} {b : List β}

/-- No element of `b` is equal to `a` at two positions. -/
def Apart (R : α → β → Bool) (a : List α) (b : List β) : Prop :=
  ∀ y ∈ b, ∀ i j : Fin a.length, R (a.get i) y = true → R (a.get j) y = true → i = j

theorem Apart.eq_of_mem (h : Apart R a b) {x x' : α} {y : β} (hx : x ∈ a) (hx' : x' ∈ a) (hy : y ∈ b)
    (hR : R x y = true) (hR' : R x' y = true) : x = x' := by
  obtain ⟨i, rfl⟩ := List.mem_iff_get.mp hx
  obtain ⟨j, rfl⟩ := List.mem_iff_get.mp hx'
  rw [h y hy i j hR hR']

/-- No two elements of the sequence are equal. -/
def Distinct (R : α → α → Bool) (a : List α) : Prop := a.Pairwise fun x y => R x y = false

/-- Sequences without equal elements are apart from all others, if equality is transitive. -/
theorem Distinct.apart {R : α → α → Bool} (hsymm : ∀ x y, R x y = R y x)
    (htrans : ∀ x y z, R x y = true → R y z = true → R x z = true) {a : List α} (ha : Distinct R a) (b : List α) :
    Apart R a b := by
  intro y _ i j hi hj
  have hboth : R (a.get i) (a.get j) = true := htrans _ y _ hi (hsymm y _ ▸ hj)
  rw [Distinct, List.pairwise_iff_get] at ha
  rcases lt_trichotomy i j with hlt | heq | hgt
  · exact absurd hboth (Bool.eq_false_iff.mp (ha i j hlt))
  · exact heq
  · rw [hsymm] at hboth
    exact absurd hboth (Bool.eq_false_iff.mp (ha j i hgt))

/-- Partners for all of `a` are partners for all of `b`, if the sizes agree and no partner is taken twice. -/
theorem Apart.exists_partner (h : Apart R a b) (hlength : a.length = b.length) {S : α → β → Prop}
    (hS : ∀ x y, S x y → R x y = true) (hpartner : ∀ x ∈ a, ∃ y ∈ b, S x y) : ∀ y ∈ b, ∃ x ∈ a, S x y := by
  have hget (i : Fin a.length) : ∃ j : Fin b.length, S (a.get i) (b.get j) := by
    obtain ⟨y, hy, hxy⟩ := hpartner _ (List.get_mem a i)
    obtain ⟨j, rfl⟩ := List.mem_iff_get.mp hy
    exact ⟨j, hxy⟩
  choose partner hchosen using hget
  have hinj : Function.Injective partner := by
    intro i j hij
    have hj : S (a.get j) (b.get (partner i)) := hij ▸ hchosen j
    exact h _ (List.get_mem b (partner i)) i j (hS _ _ (hchosen i)) (hS _ _ hj)
  have hbij := (Fintype.bijective_iff_injective_and_card partner).mpr ⟨hinj, by simp [hlength]⟩
  intro y hy
  obtain ⟨j, rfl⟩ := List.mem_iff_get.mp hy
  obtain ⟨i, rfl⟩ := hbij.2 j
  exact ⟨a.get i, List.get_mem a i, hchosen i⟩

end

/-- What the comparator of sets answers, over an equality `R` of elements. -/
structure SetLaws {α : Type} (eq : String) (R : α → α → Bool) : Prop where
  answer : ∀ a b, compareSets eq R a b = some (a.length == b.length && a.all fun x => b.any (R x))
  refl : (∀ x, R x x = true) → ∀ a, compareSets eq R a a = some true
  symm : (∀ x y, R x y = R y x) → ∀ a b, Apart R a b → Apart R b a → compareSets eq R a b = compareSets eq R b a
  /-- Over a transitive equality it is enough that neither sequence has equal elements. -/
  symm_of_distinct : (∀ x y, R x y = R y x) → (∀ x y z, R x y = true → R y z = true → R x z = true) →
    ∀ a b, Distinct R a → Distinct R b → compareSets eq R a b = compareSets eq R b a

theorem setLaws {α : Type} (eq : String) (R : α → α → Bool) : SetLaws eq R := by
  have hflip (hsymm : ∀ x y, R x y = R y x) {a b : List α} (hab : Apart R a b)
      (h : (a.length == b.length && a.all fun x => b.any (R x)) = true) :
      (b.length == a.length && b.all fun x => a.any (R x)) = true := by
    simp only [Bool.and_eq_true, beq_iff_eq, List.all_eq_true, List.any_eq_true] at h ⊢
    obtain ⟨hlength, hpartner⟩ := h
    refine ⟨hlength.symm, fun y hy => ?_⟩
    obtain ⟨x, hx, hxy⟩ := hab.exists_partner hlength (fun _ _ h => h) hpartner y hy
    exact ⟨x, hx, hsymm x y ▸ hxy⟩
  have hsymm (hR : ∀ x y, R x y = R y x) (a b : List α) (hab : Apart R a b) (hba : Apart R b a) :
      compareSets eq R a b = compareSets eq R b a := by
    rw [compareSets_eq, compareSets_eq]
    exact congrArg some (Bool.eq_iff_iff.mpr ⟨hflip hR hab, hflip hR hba⟩)
  refine ⟨compareSets_eq eq R, ?_, hsymm, ?_⟩
  · intro hrefl a
    have hself : (a.all fun x => a.any (R x)) = true :=
      List.all_eq_true.mpr fun x hx => List.any_eq_true.mpr ⟨x, hx, hrefl x⟩
    rw [compareSets_eq, hself, beq_self_eq_true, Bool.true_and]
  · exact fun hR htrans a b ha hb => hsymm hR a b (ha.apart hR htrans b) (hb.apart hR htrans a)

theorem agreesAtFirst_eq_true {κ ν : Type} {K : κ → κ → Bool} {V : ν → ν → Bool} {b : List (κ × ν)} {p : κ × ν} :
    agreesAtFirst K V b p = true ↔ ∃ q, (b.find? fun q => K p.1 q.1) = some q ∧ V p.2 q.2 = true := by
  simp [agreesAtFirst, Option.any_eq_true]

theorem exists_find? {κ ν : Type} {K : κ → κ → Bool} {a : List (κ × ν)} {k : κ} {p : κ × ν} (hp : p ∈ a)
    (h : K k p.1 = true) : ∃ q, (a.find? fun q => K k q.1) = some q :=
  Option.isSome_iff_exists.mp (List.find?_isSome.mpr ⟨p, hp, h⟩)

theorem agreesAtFirst_flip {κ ν : Type} {K : κ → κ → Bool} {V : ν → ν → Bool} (hK : ∀ k k', K k k' = K k' k)
    (hV : ∀ v v', V v v' = V v' v) {a b : List (κ × ν)} (hab : Apart (fun p q => K p.1 q.1) a b)
    (h : (a.length == b.length && a.all (agreesAtFirst K V b)) = true) :
    (b.length == a.length && b.all (agreesAtFirst K V a)) = true := by
  simp only [Bool.and_eq_true, beq_iff_eq, List.all_eq_true, agreesAtFirst_eq_true] at h ⊢
  obtain ⟨hlength, hpartner⟩ := h
  have hpairs : ∀ p ∈ a, ∃ q ∈ b, K p.1 q.1 = true ∧ V p.2 q.2 = true := by
    intro p hp
    obtain ⟨q, hq, hvalue⟩ := hpartner p hp
    exact ⟨q, List.mem_of_find?_eq_some hq, by simpa using List.find?_some hq, hvalue⟩
  refine ⟨hlength.symm, fun q hq => ?_⟩
  obtain ⟨p, hp, hkey, hvalue⟩ := hab.exists_partner hlength (fun _ _ h => h.1) hpairs q hq
  obtain ⟨p', hp'⟩ := exists_find? (K := K) hp (hK p.1 q.1 ▸ hkey)
  -- The first pair with the key is the only one.
  have hkey' : K q.1 p'.1 = true := by simpa using List.find?_some hp'
  rw [hK] at hkey'
  obtain rfl := hab.eq_of_mem hp (List.mem_of_find?_eq_some hp') hq hkey hkey'
  exact ⟨p, hp', hV p.2 q.2 ▸ hvalue⟩

/-- What the comparator of maps answers, over an equality `K` of keys and an equality `V` of values. -/
structure MapLaws {κ ν : Type} (keyEq valueEq : String) (K : κ → κ → Bool) (V : ν → ν → Bool) : Prop where
  answer : ∀ a b, compareMaps keyEq valueEq K V a b = some (a.length == b.length && a.all (agreesAtFirst K V b))
  refl_iff : (∀ k, K k k = true) → ∀ a, (compareMaps keyEq valueEq K V a a = some true ↔
    ∀ p ∈ a, ∀ q, (a.find? fun q => K p.1 q.1) = some q → V p.2 q.2 = true)
  refl : (∀ k, K k k = true) → (∀ v, V v v = true) → ∀ a, Apart (fun p q => K p.1 q.1) a a →
    compareMaps keyEq valueEq K V a a = some true
  symm : (∀ k k', K k k' = K k' k) → (∀ v v', V v v' = V v' v) → ∀ a b, Apart (fun p q => K p.1 q.1) a b →
    Apart (fun p q => K p.1 q.1) b a → compareMaps keyEq valueEq K V a b = compareMaps keyEq valueEq K V b a
  /-- Over a transitive equality of keys it is enough that no sequence has equal keys. -/
  of_distinct : (∀ k k', K k k' = K k' k) → (∀ k k' k'', K k k' = true → K k' k'' = true → K k k'' = true) →
    ∀ a, Distinct (fun p q => K p.1 q.1) a →
      ((∀ k, K k k = true) → (∀ v, V v v = true) → compareMaps keyEq valueEq K V a a = some true) ∧
      ((∀ v v', V v v' = V v' v) → ∀ b, Distinct (fun p q => K p.1 q.1) b →
        compareMaps keyEq valueEq K V a b = compareMaps keyEq valueEq K V b a)

theorem mapLaws {κ ν : Type} (keyEq valueEq : String) (K : κ → κ → Bool) (V : ν → ν → Bool) :
    MapLaws keyEq valueEq K V := by
  have hrefl_iff (hK : ∀ k, K k k = true) (a : List (κ × ν)) : compareMaps keyEq valueEq K V a a = some true ↔
      ∀ p ∈ a, ∀ q, (a.find? fun q => K p.1 q.1) = some q → V p.2 q.2 = true := by
    rw [compareMaps_eq, beq_self_eq_true, Bool.true_and, Option.some_inj, List.all_eq_true]
    refine forall₂_congr fun p hp => ?_
    obtain ⟨q, hq⟩ := exists_find? (K := K) hp (hK p.1)
    simp [agreesAtFirst_eq_true, hq]
  have hrefl (hK : ∀ k, K k k = true) (hV : ∀ v, V v v = true) (a : List (κ × ν))
      (ha : Apart (fun p q => K p.1 q.1) a a) : compareMaps keyEq valueEq K V a a = some true := by
    refine (hrefl_iff hK a).mpr fun p hp q hq => ?_
    have hpq : K p.1 q.1 = true := by simpa using List.find?_some hq
    have hmem := List.mem_of_find?_eq_some hq
    rw [ha.eq_of_mem hp hmem hmem hpq (hK q.1)]
    exact hV q.2
  have hsymm (hK : ∀ k k', K k k' = K k' k) (hV : ∀ v v', V v v' = V v' v) (a b : List (κ × ν))
      (hab : Apart (fun p q => K p.1 q.1) a b) (hba : Apart (fun p q => K p.1 q.1) b a) :
      compareMaps keyEq valueEq K V a b = compareMaps keyEq valueEq K V b a := by
    rw [compareMaps_eq, compareMaps_eq]
    exact congrArg some (Bool.eq_iff_iff.mpr ⟨agreesAtFirst_flip hK hV hab, agreesAtFirst_flip hK hV hba⟩)
  refine ⟨compareMaps_eq keyEq valueEq K V, hrefl_iff, hrefl, hsymm, fun hK htrans a ha => ?_⟩
  have hapart {c : List (κ × ν)} (hc : Distinct (fun p q => K p.1 q.1) c) (d : List (κ × ν)) :
      Apart (fun p q => K p.1 q.1) c d :=
    Distinct.apart (R := fun p q => K p.1 q.1) (fun p q => hK p.1 q.1) (fun p q r => htrans p.1 q.1 r.1) hc d
  exact ⟨fun hself hV => hrefl hself hV a (hapart ha a),
    fun hV b hb => hsymm hK hV a b (hapart ha b) (hapart hb a)⟩

/-! ### Comparators of types -/

namespace Env

variable {env : Env}

theorem setComparator_searches {e : Ty} {annotations : Annotations}
    (h : env.program.isKeyedSet? e annotations = some false) (name : String) :
    Gives (env.containerComparator (.set e annotations) name) fun code => ∃ type eq,
      Answers (env.equals e "x" "y") eq ∧ code = comparatorCode name type (searchSetLoop eq) := by
  refine .bind fun type _ => .bind fun keyed hkeyed => ?_
  obtain rfl := Option.some.inj (h.symm.trans (present_eq_ok.mp hkeyed.of_lift))
  exact .bind fun eq heq => .pure ⟨type, eq, heq, rfl⟩

theorem mapComparator_searches {k : Ty} (h : env.program.isHashable? k = some false) (v : Ty) (name : String) :
    Gives (env.containerComparator (.map k v) name) fun code => ∃ type keyEq valueEq,
      Answers (env.equals k "lk" "rk") keyEq ∧ Answers (env.equals v "lv" "rv") valueEq ∧
        code = comparatorCode name type (searchMapLoop keyEq valueEq) := by
  refine .bind fun type _ => .bind fun valueEq hvalue => .bind fun keyed hkeyed => ?_
  obtain rfl := Option.some.inj (h.symm.trans (present_eq_ok.mp hkeyed.of_lift))
  exact .bind fun keyEq hkey => .pure ⟨type, keyEq, valueEq, hkey, hvalue, rfl⟩

/-- The comparators of sets and maps that Go cannot key are the searches, whatever equality the texts for elements, keys
and values stand for. Over a reflexive equality a set is equal to itself; a map is, if for each of its pairs the first
one with its key has its value. Over a symmetric equality both are symmetric for sequences that are apart, and over
an equivalence for sequences without equal elements or keys. -/
theorem unkeyed_comparators (env : Env) :
    (∀ e annotations name code, env.program.isKeyedSet? e annotations = some false →
      Answers (env.containerComparator (.set e annotations) name) code →
      ∃ type eq : String, Answers (env.equals e "x" "y") eq ∧ ∀ (α : Type) (R : α → α → Bool),
        code = func s!"{name}(lhs, rhs {type}) bool" (searchSet eq R).code ∧ SetLaws eq R) ∧
    (∀ k v name code, env.program.isHashable? k = some false →
      Answers (env.containerComparator (.map k v) name) code →
      ∃ type keyEq valueEq : String, Answers (env.equals k "lk" "rk") keyEq ∧
        Answers (env.equals v "lv" "rv") valueEq ∧ ∀ (κ ν : Type) (K : κ → κ → Bool) (V : ν → ν → Bool),
          code = func s!"{name}(lhs, rhs {type}) bool" (searchMap keyEq valueEq K V).code ∧
            MapLaws keyEq valueEq K V) := by
  constructor
  · intro e annotations name code hunkeyed hcode
    obtain ⟨type, eq, heq, rfl⟩ := setComparator_searches hunkeyed name code hcode
    exact ⟨type, eq, heq, fun α R => ⟨(code_searchSet name type eq R).symm, setLaws eq R⟩⟩
  · intro k v name code hunkeyed hcode
    obtain ⟨type, keyEq, valueEq, hkey, hvalue, rfl⟩ := mapComparator_searches hunkeyed v name code hcode
    exact ⟨type, keyEq, valueEq, hkey, hvalue, fun κ ν K V =>
      ⟨(code_searchMap name type keyEq valueEq K V).symm, mapLaws keyEq valueEq K V⟩⟩

/-- The annotation that makes a set a sequence. -/
def sliced : Annotations := ⟨[(typeKey, sliceForm)], List.nodup_singleton _⟩

/-- A program with a set of texts that is a sequence, and a map from bytes to numbers. -/
def cabinet : Program :=
  { Program.empty with
    files := [⟨"a.thrift", "ex/a", "a"⟩]
    typedefs := [⟨"Names", ⟨0⟩, .set (.base .string) sliced, .empty⟩,
      ⟨"Sizes", ⟨0⟩, .map (.base .binary) (.base .i32), .empty⟩] }

/-- The file of the program. -/
def cabinetEnv : Env := ⟨cabinet, ⟨0⟩, ⟨"a.thrift", "ex/a", "a"⟩, { noZap := true }, standardAliases⟩

/-- Texts are equal. -/
def sameText (x y : String) : Bool := x == y

/-- Numbers are equal. -/
def sameNumber (x y : Int32) : Bool := x == y

theorem sameText_trans (x y z : String) (hxy : sameText x y = true) (hyz : sameText y z = true) : sameText x z = true :=
  beq_iff_eq.mpr ((beq_iff_eq.mp hxy).trans (beq_iff_eq.mp hyz))

theorem unkeyed_comparators_cabinet :
    ∃ setType mapType eq keyEq valueEq : String,
      Answers (cabinetEnv.containerComparator (.set (.base .string) sliced) "_Names_Equals")
        (func s!"_Names_Equals(lhs, rhs {setType}) bool" (searchSet eq sameText).code) ∧
      compareSets eq sameText ["a", "b"] ["b", "a"] = compareSets eq sameText ["b", "a"] ["a", "b"] ∧
      compareSets eq sameText ["a", "a"] ["a", "a"] = some true ∧
      Answers (cabinetEnv.containerComparator (.map (.base .binary) (.base .i32)) "_Sizes_Equals")
        (func s!"_Sizes_Equals(lhs, rhs {mapType}) bool" (searchMap keyEq valueEq sameText sameNumber).code) ∧
      compareMaps keyEq valueEq sameText sameNumber [("k", 1), ("k", 1)] [("k", 1), ("k", 1)] = some true := by
  obtain ⟨hsets, hmaps⟩ := unkeyed_comparators cabinetEnv
  obtain ⟨set, hset⟩ : ∃ code,
      Answers (cabinetEnv.containerComparator (.set (.base .string) sliced) "_Names_Equals") code :=
    ⟨_, .start ⟨.empty, []⟩, _, rfl⟩
  obtain ⟨map, hmap⟩ : ∃ code,
      Answers (cabinetEnv.containerComparator (.map (.base .binary) (.base .i32)) "_Sizes_Equals") code :=
    ⟨_, .start ⟨.empty, []⟩, _, rfl⟩
  obtain ⟨setType, eq, -, hsearchSet⟩ := hsets _ _ _ _ rfl hset
  obtain ⟨mapType, keyEq, valueEq, -, -, hsearchMap⟩ := hmaps _ _ _ _ rfl hmap
  obtain ⟨hsetCode, hsetLaws⟩ := hsearchSet String sameText
  obtain ⟨hmapCode, hmapLaws⟩ := hsearchMap String Int32 sameText sameNumber
  refine ⟨setType, mapType, eq, keyEq, valueEq, hsetCode ▸ hset, ?_, ?_, hmapCode ▸ hmap, ?_⟩
  · exact hsetLaws.symm_of_distinct (fun x y => BEq.comm) sameText_trans _ _ (by simp [Distinct, sameText])
      (by simp [Distinct, sameText])
  · exact hsetLaws.refl (fun x => beq_self_eq_true x) _
  · refine (hmapLaws.refl_iff (fun k => beq_self_eq_true k) _).mpr fun p hp q hq => ?_
    have hmem := List.mem_of_find?_eq_some hq
    simp only [List.mem_cons, List.not_mem_nil, or_false, or_self] at hp hmem
    rw [hp, hmem]
    rfl

/-- The comparator of sets takes `["a", "a"]` for equal to `["a", "b"]`, but not the other way round; that of maps does
not take a sequence with one key twice for equal to itself. -/
theorem cabinet_compares_one_sided :
    cabinet.check = .ok () ∧
      ∃ d, cabinet.draft ⟨0⟩ { noZap := true } = .ok d ∧ cabinet.generate ⟨0⟩ { noZap := true } = .ok d.source ∧
        func "_Set_String_sliceType_Equals(lhs, rhs []string) bool" (searchSet "(x == y)" sameText).code ∈
          d.run.helpers.map Helper.code ∧
        func "_Map_Binary_I32_Equals(lhs, rhs []struct\x7bKey []byte; Value int32\x7d) bool"
            (searchMap "bytes.Equal(lk, rk)" "(lv == rv)" sameText sameNumber).code ∈
          d.run.helpers.map Helper.code ∧
        compareSets "(x == y)" sameText ["a", "a"] ["a", "b"] = some true ∧
        compareSets "(x == y)" sameText ["a", "b"] ["a", "a"] = some false ∧
        compareMaps "bytes.Equal(lk, rk)" "(lv == rv)" sameText sameNumber [("k", 1), ("k", 2)] [("k", 1), ("k", 2)] =
          some false := by
  obtain ⟨d, hd, hset, hmap⟩ : ∃ d, cabinet.draft ⟨0⟩ { noZap := true } = .ok d ∧
      func "_Set_String_sliceType_Equals(lhs, rhs []string) bool" (searchSet "(x == y)" sameText).code ∈
        d.run.helpers.map Helper.code ∧
      func "_Map_Binary_I32_Equals(lhs, rhs []struct\x7bKey []byte; Value int32\x7d) bool"
          (searchMap "bytes.Equal(lk, rk)" "(lv == rv)" sameText sameNumber).code ∈
        d.run.helpers.map Helper.code :=
    Program.exists_draft (by decide +kernel)
  exact ⟨rfl, d, hd, Program.generate_eq_ok.mpr ⟨d, hd, rfl⟩, hset, hmap, by decide, by decide, by decide⟩

end Env

end GoSchema
