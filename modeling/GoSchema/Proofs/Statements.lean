import GoSchema.Go.Code
import Mathlib.Data.List.Basic

/-!
# Statements of Go

Generated code is text. Where it matters what the code does, a piece of it is written down as a statement: each leaf
holds its text and, beside it, what Go makes of this text. How the leaves are put together is read as Go reads
it, with the four ways to leave a statement. `Statement.code` prints a statement and `Statement.run` runs it, so what is
shown of a run holds of the code that is printed.

Two kinds of loop are treated here once: one that checks every element and returns at the first that fails
(`Statement.rounds_check`), and one that looks for an element and stops there (`Statement.rounds_find`).

## What is proved

* `Statement.run_table`: a switch by a table takes the entry of its key, or goes on to the other branches.
* `Statement.rounds_check` and `Statement.rounds_find`: the two kinds of loop, each by induction on the elements.

What a leaf does stands beside its text and is not derived from it: this is where the reading of Go enters, and
each module that writes statements down says for itself what its leaves do. Types, values and panics of Go are not
modelled.
-/

namespace GoSchema.Go

/-- How a statement is left, and with which variables. -/
inductive Outcome (σ ρ : Type) where
  | goes (s : σ)
  | breaks (s : σ)
  | continues (s : σ)
  | returns (s : σ) (value : ρ)

namespace Outcome

variable {σ ρ : Type}

/-- Goes on with what follows, unless the statement was left. -/
def andThen : Outcome σ ρ → (σ → Outcome σ ρ) → Outcome σ ρ
  | goes s, next => next s
  | breaks s, _ => breaks s
  | continues s, _ => continues s
  | returns s value, _ => returns s value

/-- A loop or a switch ends where it is broken off. -/
def leave : Outcome σ ρ → Outcome σ ρ
  | goes s => goes s
  | breaks s => goes s
  | continues s => continues s
  | returns s value => returns s value

/-- The variables and the value with which a function returns. -/
def returned? : Outcome σ ρ → Option (σ × ρ)
  | returns s value => some (s, value)
  | goes _ | breaks _ | continues _ => none

end Outcome

/-- A statement over variables `σ`, in a function with results `ρ`. -/
inductive Statement (σ ρ : Type) where
  | skip
  | seq (first rest : Statement σ ρ)
  /-- A blank line. -/
  | gap
  | act (text : String) (effect : σ → σ)
  | ret (text : String) (value : σ → ρ)
  | brk
  | cont
  | cond (test : String) (holds : σ → Bool) (body : Statement σ ρ)
  /-- A loop over a range, which is settled when the loop is entered; each round begins by setting variables. -/
  | each (clause : String) (entries : σ → List (σ → σ)) (body : Statement σ ρ)
  /-- A switch, which may begin by setting a variable. -/
  | choose (subject : String) (enter : σ → σ) (branches : Statement σ ρ)
  /-- A branch of a switch, in front of the others. -/
  | branch (label : String) (taken : σ → Bool) (body others : Statement σ ρ)

namespace Statement

variable {σ ρ α : Type}

/-- Statements one after the other. -/
def block : List (Statement σ ρ) → Statement σ ρ
  | [] => skip
  | s :: ss => seq s (block ss)

/-- The code of a statement. -/
def code : Statement σ ρ → Code
  | skip => []
  | seq first rest => first.code ++ rest.code
  | gap => blank
  | act text _ => line text
  | ret text _ => line text
  | brk => line "break"
  | cont => line "continue"
  | cond test _ body => ifThen test body.code
  | each clause _ body => forLoop clause body.code
  | choose subject _ branches => switch subject branches.code
  | branch label _ body others => caseOf label body.code ++ others.code

/-- The rounds of a loop, each from the variables that the round before left. -/
def rounds (body : σ → Outcome σ ρ) : List (σ → σ) → σ → Outcome σ ρ
  | [], s => .goes s
  | entry :: entries, s =>
    match body (entry s) with
    | .goes t | .continues t => rounds body entries t
    | .breaks t => .goes t
    | .returns t value => .returns t value

/-- Runs a statement. -/
def run : Statement σ ρ → σ → Outcome σ ρ
  | skip, s | gap, s => .goes s
  | seq first rest, s => (first.run s).andThen rest.run
  | act _ effect, s => .goes (effect s)
  | ret _ value, s => .returns s (value s)
  | brk, s => .breaks s
  | cont, s => .continues s
  | cond _ holds body, s => if holds s then body.run s else .goes s
  | each _ entries body, s => rounds body.run (entries s) s
  | choose _ enter branches, s => (branches.run (enter s)).leave
  | branch _ taken body others, s => if taken s then body.run s else others.run s

theorem code_block (ss : List (Statement σ ρ)) : (block ss).code = ss.flatMap code := by
  induction ss with
  | nil => rfl
  | cons s ss ih => rw [block, code, ih, List.flatMap_cons]

/-! ### Switches by a table -/

section

variable {κ β : Type} [DecidableEq κ]

/-- The branches of a switch by a table, one for each entry, in front of others. -/
def table (label : κ → String) (key : σ → κ) (leaf : β → Statement σ ρ) (others : Statement σ ρ) :
    List (κ × β) → Statement σ ρ
  | [] => others
  | entry :: entries =>
    branch (label entry.1) (fun s => key s = entry.1) (leaf entry.2) (table label key leaf others entries)

variable (label : κ → String) (key : σ → κ) (leaf : β → Statement σ ρ) (others : Statement σ ρ)

theorem code_table (entries : List (κ × β)) :
    (table label key leaf others entries).code =
      entries.flatMap (fun e => caseOf (label e.1) (leaf e.2).code) ++ others.code := by
  induction entries with
  | nil => rfl
  | cons e entries ih => rw [table, code, ih, List.flatMap_cons, List.append_assoc]

/-- A switch by a table takes the entry of its key, or else goes on to the other branches. -/
theorem run_table (entries : List (κ × β)) (s : σ) :
    (table label key leaf others entries).run s =
      ((entries.lookup (key s)).map fun b => (leaf b).run s).getD (others.run s) := by
  induction entries with
  | nil => rfl
  | cons e entries ih =>
    rw [table, run, ih, List.lookup_cons]
    by_cases h : key s = e.1
    · simp [h]
    · simp [h, beq_false_of_ne h]

end

/-! ### Loops -/

/-- A check passed and left the variables as `I` says, or failed and returned this value. -/
def Checks (I : σ → Prop) (passes : Bool) (value : ρ) (outcome : Outcome σ ρ) : Prop :=
  (passes = true → ∃ t, outcome = .goes t ∧ I t) ∧ (passes = false → ∃ t, outcome = .returns t value)

theorem checks_ite {I : σ → Prop} {t : σ} (ht : I t) (passes : Bool) (value : ρ) :
    Checks I passes value (if passes then .goes t else .returns t value) := by
  cases passes with
  | true => exact ⟨fun _ => ⟨t, rfl, ht⟩, nofun⟩
  | false => exact ⟨nofun, fun _ => ⟨t, rfl⟩⟩

variable {body : σ → Outcome σ ρ} {entry : α → σ → σ} {I : σ → Prop} {s : σ}

/-- A loop whose rounds each check an element checks all of them. -/
theorem rounds_check {P : α → Bool} {value : ρ} {as : List α}
    (hround : ∀ a ∈ as, ∀ s, I s → Checks I (P a) value (body (entry a s))) (hs : I s) :
    Checks I (as.all P) value (rounds body (as.map entry) s) := by
  induction as generalizing s with
  | nil => exact ⟨fun _ => ⟨s, rfl, hs⟩, nofun⟩
  | cons a as ih =>
    obtain ⟨hfirst, hrest⟩ := List.forall_mem_cons.mp hround
    obtain ⟨hpasses, hfails⟩ := hfirst s hs
    rw [List.map_cons, rounds, List.all_cons]
    cases hP : P a with
    | true =>
      obtain ⟨t, hgoes, ht⟩ := hpasses hP
      rw [hgoes, Bool.true_and]
      exact ih hrest ht
    | false =>
      obtain ⟨t, hreturns⟩ := hfails hP
      rw [hreturns, Bool.false_and]
      exact ⟨nofun, fun _ => ⟨t, rfl⟩⟩

/-- A round after which the loop goes on, with the variables as `I` says. -/
def GoesOn (I : σ → Prop) (outcome : Outcome σ ρ) : Prop := ∃ t, I t ∧ (outcome = .goes t ∨ outcome = .continues t)

/-- A round that stops the loop. -/
def Stops (outcome : Outcome σ ρ) : Prop :=
  (∃ t, outcome = .breaks t) ∨ ∃ t value, outcome = .returns t value

/-- A loop that goes on until it meets an element: it ends as its round for the first such element, or else it runs
through. -/
theorem rounds_find {P : α → Bool} {l : List α}
    (hskip : ∀ b s, I s → P b = false → GoesOn I (body (entry b s)))
    (hstop : ∀ b s, I s → P b = true → Stops (body (entry b s))) (hs : I s) :
    (l.find? P = none → ∃ t, I t ∧ rounds body (l.map entry) s = .goes t) ∧
      ∀ b, l.find? P = some b → ∃ t, I t ∧ rounds body (l.map entry) s = (body (entry b t)).leave := by
  induction l generalizing s with
  | nil => exact ⟨fun _ => ⟨s, hs, rfl⟩, nofun⟩
  | cons b l ih =>
    rw [List.map_cons, rounds]
    cases hP : P b with
    | true =>
      rw [List.find?_cons_of_pos hP]
      refine ⟨nofun, fun b' hb' => ?_⟩
      obtain rfl := Option.some.inj hb'
      refine ⟨s, hs, ?_⟩
      obtain ⟨t, ht⟩ | ⟨t, value, ht⟩ := hstop b s hs hP <;> rw [ht] <;> rfl
    | false =>
      rw [List.find?_cons_of_neg (by simp [hP])]
      obtain ⟨t, ht, hgoes | hcontinues⟩ := hskip b s hs hP
      · rw [hgoes]
        exact ih ht
      · rw [hcontinues]
        exact ih ht

end Statement

end GoSchema.Go
