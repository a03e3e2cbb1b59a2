import GoSchema.Go.Code
import Mathlib.Logic.Basic

/-!
# Lines of code and their text

Code is a list of lines, each with its depth, and is put together from blocks, functions, loops and branches. Statements
about code speak of its lines, and this module connects the lines with both sides.

* `HasLine` says that a line with some text is there, at any depth. For each way in which code is put together there
  is an equation that says which lines come in (`hasLine_block`, `hasLine_func` and so on). They are rules for
  `simp`, which finds a line in the code of a whole method.
* `render_cons` and `Line.render_eq` say what is printed: line after line, each behind as many tabs as its depth, and
  with an end of line. So code that is put together from parts prints the texts of the parts (`render_append`,
  `render_flatMap`), and a line that the code has is printed as one (`HasLine.exists_render_eq`).

That the texts of lines hold no end of line is not proved here: a literal may, where a name of the schema does.
-/

namespace GoSchema.Go

/-! ### Lines -/

/-- The code has a line with this text, at any depth. -/
def HasLine (code : Code) (text : String) : Prop := ∃ l ∈ code, l.text = text

section HasLine

variable {a b code body branches : Code} {head subject text t : String} {codes : List Code}

@[simp] theorem hasLine_nil : ¬ HasLine [] text := by simp [HasLine]

@[simp] theorem hasLine_append : HasLine (a ++ b) text ↔ HasLine a text ∨ HasLine b text := by
  simp [HasLine, or_and_right, exists_or]

@[simp] theorem hasLine_line : HasLine (line t) text ↔ text = t := by simp [HasLine, line, eq_comm]

@[simp] theorem hasLine_indent : HasLine (indent code) text ↔ HasLine code text := by simp [HasLine, indent]

@[simp] theorem hasLine_flatten : HasLine codes.flatten text ↔ ∃ code ∈ codes, HasLine code text := by
  induction codes with
  | nil => simp
  | cons code codes ih => simp [ih]

@[simp] theorem hasLine_flatMap {α : Type} {as : List α} {f : α → Code} :
    HasLine (as.flatMap f) text ↔ ∃ x ∈ as, HasLine (f x) text := by
  simp [List.flatMap]

@[simp] theorem hasLine_block :
    HasLine (block head body) text ↔ text = head ++ " \x7b" ∨ HasLine body text ∨ text = "\x7d" := by
  simp [block]

@[simp] theorem hasLine_func :
    HasLine (func head body) text ↔ HasLine (block ("func " ++ head) body) text ∨ HasLine blank text := by
  simp [func]

@[simp] theorem hasLine_ifThen :
    HasLine (ifThen head body) text ↔ HasLine (block ("if " ++ head) body) text := Iff.rfl

@[simp] theorem hasLine_forLoop :
    HasLine (forLoop head body) text ↔ HasLine (block ("for " ++ head) body) text := Iff.rfl

@[simp] theorem hasLine_caseOf : HasLine (caseOf head body) text ↔ text = head ++ ":" ∨ HasLine body text := by
  simp [caseOf]

@[simp] theorem hasLine_switch : HasLine (switch subject branches) text ↔
    text = "switch " ++ subject ++ " \x7b" ∨ HasLine branches text ∨ text = "\x7d" := by
  simp [switch]

end HasLine

/-! ### Text -/

/-- What stands before the text of a line. -/
def Line.indentation (l : Line) : String :=
  if l.text.isEmpty then "" else String.ofList (List.replicate l.depth '\t')

theorem Line.render_eq (l : Line) : l.render = l.indentation ++ l.text ++ "\n" := by
  unfold render indentation
  split
  · next h =>
    rw [String.isEmpty_iff.mp h]
    rfl
  · rfl

@[simp] theorem Line.indentation_top (text : String) : Line.indentation ⟨0, text⟩ = "" := by simp [indentation]

theorem render_cons (l : Line) (code : Code) : render (l :: code) = l.indentation ++ l.text ++ "\n" ++ render code := by
  rw [render, List.map_cons, String.join_cons, Line.render_eq]
  rfl

theorem render_append (a b : Code) : render (a ++ b) = render a ++ render b := by
  rw [render, List.map_append, String.join_append]
  rfl

theorem render_flatMap {α : Type} (f : α → Code) (as : List α) :
    render (as.flatMap f) = String.join (as.map fun a => render (f a)) := by
  induction as with
  | nil => rfl
  | cons a as ih => rw [List.flatMap_cons, render_append, ih, List.map_cons, String.join_cons]

/-- A line of the code is printed as a line: between what is printed for the code before it and after it. -/
theorem HasLine.exists_render_eq {code : Code} {text : String} (h : HasLine code text) :
    ∃ before, ∃ l : Line, ∃ after, l.text = text ∧
      render code = render before ++ (l.indentation ++ text ++ "\n") ++ render after := by
  obtain ⟨l, hl, rfl⟩ := h
  obtain ⟨before, after, rfl⟩ := List.append_of_mem hl
  exact ⟨before, l, after, rfl, by simp [render_append, render_cons, String.append_assoc]⟩

end GoSchema.Go
