import GoSchema.Go.Type
import GoSchema.Proofs.Rendering
import Mathlib.Data.List.Infix

/-!
# Qualifiers in Go code

The name of a package qualifies something in a text when it stands there with a dot behind it and does not
continue another word (`Qualifies`). A line displays the name when this happens in it and it is not a comment
(`Displays`), and a piece of code shows the name when one of its lines displays it (`Shows`).

Texts are put together from pieces. A name that qualifies something in a piece still does so when text is added at
the end (`Qualifies.append_left`), and when text is added in front that ends where a word can begin
(`Qualifies.append_right`); how a written piece begins or ends, `rfl` finds out. Code is put together from lines, and
`HasLine` says which ones it has: to see that a piece of code shows a name, one names the line (`Shows.of_line`), the
signature or condition that begins a block (`Shows.of_signature`, `Shows.of_condition`), or the part of the code that
shows it already (`Shows.of_part`), and `simp` finds it in the code.

**Main result**: every import path that a Go type needs is shown in its text (`GoType.Aliased.qualifies`). That the
code of a file shows what it imports is put together from this in the modules about printing.
-/

namespace GoSchema.Go

/-! ### Texts -/

/-- The characters after which a word begins. -/
def separators : List Char := [' ', '(', '[', ']', '*', '&', '!', '\x7b']

/-- The text ends where a word can begin. -/
def endsOpen (t : String) : Bool := t.toList.getLast?.any separators.contains

/-- The text begins with a dot. -/
def dotted (t : String) : Bool := t.toList.head?.any (· == '.')

/-- The name stands in the text as a word with a dot behind it. -/
def Qualifies (name text : String) : Prop :=
  ∃ before after, (before = "" ∨ endsOpen before = true) ∧ text = before ++ name ++ "." ++ after

theorem endsOpen_append {b : String} (h : endsOpen b = true) (a : String) : endsOpen (a ++ b) = true := by
  unfold endsOpen at h ⊢
  rw [String.toList_append, List.getLast?_append]
  cases hlast : b.toList.getLast? with
  | none => simp [hlast] at h
  | some c => simpa [hlast] using h

theorem exists_of_dotted {t : String} (h : dotted t = true) : ∃ rest, t = "." ++ rest := by
  unfold dotted at h
  cases hlist : t.toList with
  | nil => simp [hlist] at h
  | cons c rest =>
    obtain rfl : c = '.' := by simpa [hlist] using h
    exact ⟨String.ofList rest, by rw [← String.toList_inj, hlist]; simp⟩

theorem exists_append_of_isPrefix {a b : String} (h : a.toList <+: b.toList) : ∃ rest, b = a ++ rest := by
  obtain ⟨rest, hrest⟩ := h
  exact ⟨String.ofList rest, by rw [← String.toList_inj]; simp [hrest]⟩

namespace Qualifies

variable {name a b c text : String}

theorem self_append (hb : dotted b = true) : Qualifies name (name ++ b) := by
  obtain ⟨rest, rfl⟩ := exists_of_dotted hb
  exact ⟨"", rest, .inl rfl, by simp [← String.append_assoc]⟩

theorem append_left (h : Qualifies name a) : Qualifies name (a ++ b) := by
  obtain ⟨before, after, hopen, rfl⟩ := h
  exact ⟨before, after ++ b, hopen, by simp [← String.append_assoc]⟩

theorem append_right (h : Qualifies name b) (ha : endsOpen a = true) : Qualifies name (a ++ b) := by
  obtain ⟨before, after, hopen, rfl⟩ := h
  refine ⟨a ++ before, after, .inr ?_, by simp [← String.append_assoc]⟩
  rcases hopen with rfl | hopen
  · simpa using ha
  · exact endsOpen_append hopen a

theorem append_append_right (h : Qualifies name c) (hb : endsOpen b = true) : Qualifies name (a ++ b ++ c) :=
  h.append_right (endsOpen_append hb a)

theorem append_self_append (ha : endsOpen a = true) (hb : dotted b = true) : Qualifies name (a ++ name ++ b) := by
  rw [String.append_assoc]
  exact (self_append hb).append_right ha

theorem append_append_self_append (hb : endsOpen b = true) (hc : dotted c = true) :
    Qualifies name (a ++ b ++ name ++ c) :=
  append_self_append (endsOpen_append hb a) hc

/-- Where the name stands inside the last piece, the pieces before may end in any way. -/
theorem append_of_inner (ha : endsOpen a = true) (hb : dotted b = true) : Qualifies name (c ++ (a ++ name ++ b)) := by
  rw [← String.append_assoc, ← String.append_assoc]
  exact append_append_self_append ha hb

theorem of_isPrefix (a : String) (hstart : a.toList <+: text.toList) (h : Qualifies name a) : Qualifies name text := by
  obtain ⟨rest, rfl⟩ := exists_append_of_isPrefix hstart
  exact h.append_left

theorem intercalate {ts : List String} {t : String} (ht : t ∈ ts) (h : Qualifies name t) :
    Qualifies name (", ".intercalate ts) := by
  induction ts with
  | nil => cases ht
  | cons u ts ih =>
    cases ts with
    | nil =>
      obtain rfl : t = u := by simpa using ht
      exact h
    | cons v ts =>
      rw [String.intercalate_cons_cons]
      rcases List.mem_cons.mp ht with rfl | ht
      · exact h.append_left.append_left
      · exact (ih ht).append_append_right rfl

theorem braced (h : Qualifies name a) : Qualifies name (braced a) := (h.append_right rfl).append_left

/-- The brace that follows a text ends its last word. -/
theorem append_braced (h : Qualifies name b) (a : String) : Qualifies name (a ++ Go.braced b) := by
  rw [Go.braced, ← String.append_assoc, ← String.append_assoc]
  exact (h.append_append_right rfl).append_left

theorem toList_infix (h : Qualifies name a) : (name ++ ".").toList <:+: a.toList := by
  obtain ⟨before, after, -, rfl⟩ := h
  exact ⟨before.toList, after.toList, by simp⟩

end Qualifies

/-! ### Types -/

/-- The types of other packages go by the names of these. -/
def GoType.Aliased (aliasOf : String → String) : GoType → Prop
  | .basic _ | .unit => True
  | .named ref => ∀ k ∈ ref.package, k.name = aliasOf k.path
  | .pointer t | .slice t => t.Aliased aliasOf
  | .map k v | .pair k v => k.Aliased aliasOf ∧ v.Aliased aliasOf

theorem Reference.qualifies {aliasOf : String → String} {ref : Reference}
    (h : ∀ k ∈ ref.package, k.name = aliasOf k.path) {path : String} (hpath : path ∈ ref.paths) :
    Qualifies (aliasOf path) ref.text := by
  obtain ⟨package, ident⟩ := ref
  cases package with
  | none => simp [Reference.paths] at hpath
  | some k =>
    obtain rfl : k.path = path := by simpa [Reference.paths, eq_comm] using hpath
    rw [← h k rfl]
    exact .append_left (.self_append rfl)

/-- Every path that a type needs is shown in its text. -/
theorem GoType.Aliased.qualifies {aliasOf : String → String} {t : GoType} (h : t.Aliased aliasOf) {path : String}
    (hpath : path ∈ t.paths) : Qualifies (aliasOf path) t.text := by
  induction t with
  | basic _ | unit => cases hpath
  | named ref => exact ref.qualifies h hpath
  | pointer t ih | slice t ih => exact (ih h hpath).append_right rfl
  | map k v ihk ihv =>
    rcases List.mem_append.mp hpath with hpath | hpath
    · exact ((ihk h.1 hpath).append_right rfl).append_left.append_left
    · exact (ihv h.2 hpath).append_append_right rfl
  | pair k v ihk ihv =>
    rcases List.mem_append.mp hpath with hpath | hpath
    · exact ((ihk h.1 hpath).append_right rfl).append_left.append_left.append_left
    · exact ((ihv h.2 hpath).append_append_right rfl).append_left

/-! ### Lines -/

/-- The text is not that of a comment. -/
def plain (t : String) : Bool := t.toList.head?.any (· != '/')

/-- The text begins a line that is not a comment, and ends where a word can begin. -/
def leads (t : String) : Bool := plain t && endsOpen t

/-- The text is not that of a comment, and the name qualifies something in it. -/
structure Displays (name text : String) : Prop where
  plain : plain text = true
  qualifies : Qualifies name text

theorem plain_append {a : String} (h : plain a = true) (b : String) : plain (a ++ b) = true := by
  unfold plain at h ⊢
  rw [String.toList_append]
  cases hlist : a.toList with
  | nil => simp [hlist] at h
  | cons c rest => simpa [hlist] using h

namespace Displays

variable {name a b c d text : String}

theorem append_left (h : Displays name a) : Displays name (a ++ b) :=
  ⟨plain_append h.plain b, h.qualifies.append_left⟩

theorem append_right (h : Qualifies name b) (ha : leads a = true) : Displays name (a ++ b) := by
  obtain ⟨hplain, hopen⟩ := (Bool.and_eq_true _ _).mp ha
  exact ⟨plain_append hplain b, h.append_right hopen⟩

theorem append_append_append_right (h : Qualifies name d) (ha : Go.plain a = true) (hc : endsOpen c = true) :
    Displays name (a ++ b ++ c ++ d) :=
  ⟨plain_append (plain_append (plain_append ha b) c) d, h.append_append_right hc⟩

theorem append_self_append (ha : leads a = true) (hb : dotted b = true) : Displays name (a ++ name ++ b) := by
  rw [String.append_assoc]
  exact append_right (.self_append hb) ha

theorem of_isPrefix (a : String) (hstart : a.toList <+: text.toList) (h : Displays name a) : Displays name text := by
  obtain ⟨rest, rfl⟩ := exists_append_of_isPrefix hstart
  exact h.append_left

end Displays

/-! ### Code -/

/-- A line of the code displays the name. -/
def Shows (name : String) (code : Code) : Prop := ∃ text, HasLine code text ∧ Displays name text

namespace Shows

variable {name : String} {code part : Code}

theorem of_line (text : String) (hline : HasLine code text) (h : Displays name text) : Shows name code :=
  ⟨text, hline, h⟩

/-- The line that begins a function. -/
theorem of_signature (signature : String) (hline : HasLine code ("func " ++ signature ++ " \x7b"))
    (h : Qualifies name signature) : Shows name code :=
  .of_line _ hline (.append_left (.append_right h rfl))

/-- The line that begins a conditional statement. -/
theorem of_condition (condition : String) (hline : HasLine code ("if " ++ condition ++ " \x7b"))
    (h : Qualifies name condition) : Shows name code :=
  .of_line _ hline (.append_left (.append_right h rfl))

theorem of_part (h : Shows name part) (hpart : ∀ text, HasLine part text → HasLine code text) :
    Shows name code := by
  obtain ⟨text, hline, h⟩ := h
  exact .of_line text (hpart text hline) h

/-- One of the pieces of code that are put together. -/
theorem of_mem {codes : List Code} (h : Shows name part) (hpart : part ∈ codes) : Shows name codes.flatten :=
  h.of_part fun _ hline => hasLine_flatten.mpr ⟨part, hpart, hline⟩

end Shows

@[simp] theorem shows_nil {name : String} : ¬ Shows name [] := by simp [Shows]

@[simp] theorem shows_append {name : String} {a b : Code} : Shows name (a ++ b) ↔ Shows name a ∨ Shows name b := by
  simp [Shows, or_and_right, exists_or]

end GoSchema.Go
