import GoSchema.Proofs.RecordCodec
import GoSchema.Proofs.StringLiterals

/-!
# Labels in JSON

The method that writes an enum to JSON returns the label of its value in quotes. The text is quoted once more to stand
in the code, and Go reads this literal as the text with its quotes. But the inner quotes are those of a Go literal too,
and JSON has no escapes `\xHH`. So the text is a JSON string of the label exactly if no character of the label is
written by its number; otherwise it is no JSON at all (`Program.marshalJSON_returns`).

## What is proved

* `Json.pieces?_quoteChar` and `Json.read?_quote`: a reader of JSON strings on texts in the quotes of Go, character
  by character.
* `Program.marshalJSON_branch`: the first item with a value has its branch in the method, which returns the label
  quoted twice.
* `Program.marshalJSON_returns`: Go reads this as the label in quotes, and JSON reads that as the label exactly if
  no character is written by its number. `Program.keyboard_returns_no_json` has a label for which it is no JSON.

Later items with a value have no branch of their own. The method that reads JSON back is not followed here.
-/

namespace GoSchema

open Go

/-! ### Quoted texts as JSON -/

namespace Json

theorem escape?_lettered : ∀ p ∈ Go.lettered, p.2 ≠ 'u' ∧ escape? p.2 = some p.1 := by decide

/-- A character in the quotes of Go is one of a JSON string, unless it is written by its number. -/
theorem pieces?_quoteChar (c : Char) (rest : List Char) :
    pieces? (quoteChar c ++ rest) =
      if isHexWritten c then none else (pieces? rest).map fun r => (.char c :: r.1, r.2) := by
  rcases quoteChar_cases c with ⟨e, he⟩ | ⟨hhex, -, hc⟩ | ⟨hhex, hprint, hquote, hslash, hc⟩
  · obtain ⟨hhex, -, -, hc⟩ := quoteChar_lettered _ he
    obtain ⟨hu, hescape⟩ := escape?_lettered _ he
    rw [hhex, hc, List.cons_append, List.cons_append, List.nil_append, pieces?, hescape]
    · cases pieces? rest <;> rfl
    · exact fun _ _ _ _ _ h _ => hu h
  · -- `x` is no letter of an escape in JSON.
    rw [hhex, hc]
    rfl
  · rw [hhex, hc, List.singleton_append, pieces?, if_neg fun h => h.elim (hprint ∘ .inl) hslash]
    · cases pieces? rest <;> rfl
    · exact hquote
    · exact fun _ _ _ _ _ h _ => hslash h
    · exact fun _ _ h _ => hslash h

theorem pieces?_quoteChars (cs rest : List Char) :
    pieces? (cs.flatMap quoteChar ++ '"' :: rest) =
      if cs.any isHexWritten then none else some (cs.map .char, rest) := by
  induction cs with
  | nil => rfl
  | cons c cs ih =>
    rw [List.flatMap_cons, List.append_assoc, pieces?_quoteChar, ih, List.any_cons]
    cases isHexWritten c with
    | true => rfl
    | false => cases cs.any isHexWritten <;> rfl

theorem chars?_map_char (cs : List Char) : chars? (cs.map .char) = some cs := by
  induction cs with
  | nil => rfl
  | cons c cs ih => rw [List.map_cons, chars?, ih, Option.map_some]

/-- A text in the quotes of Go is a JSON string of the text, or no JSON. -/
theorem read?_quote (s : String) :
    read? (quote s) = if s.toList.any isHexWritten then none else some (.quoted s) := by
  have hnode (fuel : Nat) : node? (fuel + 1) (quote s).toList =
      if s.toList.any isHexWritten then none else some (.quoted s, []) := by
    rw [toList_quote, node?_string, pieces?_quoteChars]
    split_ifs
    · rfl
    · rw [Option.bind_some, stringNode, chars?_map_char]
      dsimp only
      rw [String.ofList_toList]
  rw [read?, hnode]
  split_ifs <;> rfl

end Json

/-! ### The first items of their values -/

section Firsts

variable {α β κ : Type} [DecidableEq κ]

theorem firstsFrom_map (key : β → κ) (f : α → β) (seen : List κ) (as : List α) :
    (firstsFrom (key ∘ f) seen as).map f = firstsFrom key seen (as.map f) := by
  induction as generalizing seen with
  | nil => rfl
  | cons a as ih =>
    rw [List.map_cons, firstsFrom, firstsFrom, ← ih, ← ih]
    exact apply_ite (List.map f) _ _ _

/-- An element is kept if its key was not met before. -/
theorem mem_firstsFrom {key : α → κ} {seen : List κ} {before after : List α} {a : α} (hseen : key a ∉ seen)
    (hbefore : ∀ b ∈ before, key b ≠ key a) : a ∈ firstsFrom key seen (before ++ a :: after) := by
  induction before generalizing seen with
  | nil =>
    rw [List.nil_append, firstsFrom, if_neg hseen]
    exact List.mem_cons_self
  | cons b before ih =>
    obtain ⟨hb, hbefore⟩ := List.forall_mem_cons.mp hbefore
    rw [List.cons_append, firstsFrom]
    split_ifs
    · exact ih hseen hbefore
    · exact List.mem_cons_of_mem _ (ih (by simp [hseen, Ne.symm hb]) hbefore)

end Firsts

namespace ItemLayout

/-- The table from values to labels depends on nothing but values and labels. -/
theorem byValue_eq (items : List ItemLayout) :
    byValue items = firstsBy Prod.fst (items.map fun i => (i.value, i.label)) :=
  firstsFrom_map Prod.fst (fun i : ItemLayout => (i.value, i.label)) [] items

end ItemLayout

/-- The value of an item with its label. -/
def EnumItem.labelled (item : EnumItem) : Int32 × String := (item.value, label item.name item.annotations)

namespace Env

variable {env : Env}

theorem enumLayout_eq_ok {e : Enum} {ident : String} {items : List ItemLayout}
    (h : env.enumLayout e ident = .ok items) :
    (items.map fun i => (i.value, i.label)) = e.items.map EnumItem.labelled := by
  refine Except.map_of_mapM h fun item layout hlayout => ?_
  obtain ⟨_, -, hlayout⟩ := Except.bind_eq_ok.mp hlayout
  cases hlayout
  rfl

/-- The code of an enum has the method that writes it to JSON, with the table of the values. -/
theorem enumCode_marshalJSON (e : Enum) :
    Gives (env.enumCode e) fun code => ∃ strconv,
      enumMarshalJSON (goName e.name e.annotations) strconv (firstsBy Prod.fst (e.items.map EnumItem.labelled)) <:+:
        code := by
  refine .bind fun name hname => .bind fun items hitems => .bind fun wire _ => .bind fun fmt _ => ?_
  refine .bind fun strconv _ => .bind fun json _ => .bind fun bytes _ => .bind fun math _ => ?_
  obtain ⟨-, rfl⟩ := identifier_eq_ok.mp hname.of_lift
  rw [← enumLayout_eq_ok hitems.of_lift, ← ItemLayout.byValue_eq]
  dsimp only
  refine .ite (.bind fun log _ => .pure ?_) (.bind fun zapcore _ => .bind fun log _ => .pure ?_)
  all_goals exact ⟨strconv, _, _, rfl⟩

end Env

/-- The branch of an entry stands among the branches of its table. -/
theorem caseOf_inside_valueBranches {table : List (Int32 × String)} {entry : Int32 × String} (h : entry ∈ table)
    (body : String → String) :
    caseOf ("case " ++ toString entry.1.toInt) (line (body entry.2)) <:+: valueBranches table body := by
  rw [valueBranches, List.flatMap_def]
  exact List.infix_of_mem_flatten (List.mem_map_of_mem h)

/-- The method that writes the values of an enum to JSON, with these branches. -/
def marshalJSONMethod (name strconv : String) (branches : Code) : Code :=
  func s!"(v {name}) MarshalJSON() ([]byte, error)"
    (switch "int32(v)" branches ++ line s!"return ([]byte)({strconv}.FormatInt(int64(v), 10)), nil")

namespace Program

variable {p : Program} {r : Ref .enum} {e : Enum} {o : Options} {d : Draft} {before after : List EnumItem}
  {item : EnumItem}

/-- The first item with a value has a branch in the method. -/
theorem marshalJSON_branch (he : p.enum? r = some e) (hd : p.draft e.file o = .ok d)
    (hitems : e.items = before ++ item :: after) (hfirst : ∀ b ∈ before, b.value ≠ item.value) :
    ∃ strconv branches, marshalJSONMethod (goName e.name e.annotations) strconv branches <:+: d.code ∧
      caseOf ("case " ++ toString item.value.toInt)
        (line ("return ([]byte)(" ++ quote (quote (label item.name item.annotations)) ++ "), nil")) <:+: branches := by
  obtain ⟨hprogram, hfile, hcovers⟩ := draft_covers hd
  obtain ⟨part, hpart, hinside⟩ := hcovers.enums r e (hprogram ▸ he) hfile.symm
  obtain ⟨strconv, hmethod⟩ := Env.enumCode_marshalJSON e part hpart
  have hentry : item.labelled ∈ firstsBy Prod.fst (e.items.map EnumItem.labelled) := by
    rw [hitems, List.map_append, List.map_cons]
    refine mem_firstsFrom List.not_mem_nil ?_
    rw [List.forall_mem_map]
    exact hfirst
  have hbranch := caseOf_inside_valueBranches hentry fun l => "return ([]byte)(" ++ quote (quote l) ++ "), nil"
  refine ⟨strconv, _, ?_, hbranch⟩
  exact (List.suffix_append _ _).isInfix.trans (hmethod.trans hinside)

/-- For the first item with a value, the method returns the label quoted twice, which Go reads as the label in quotes.
This text is a JSON string of the label, if no character of the label is written by its number, and no JSON
otherwise. -/
theorem marshalJSON_returns (he : p.enum? r = some e) (hd : p.draft e.file o = .ok d)
    (hitems : e.items = before ++ item :: after) (hfirst : ∀ b ∈ before, b.value ≠ item.value) :
    ∃ strconv branches, marshalJSONMethod (goName e.name e.annotations) strconv branches <:+: d.code ∧
      caseOf ("case " ++ toString item.value.toInt)
        (line ("return ([]byte)(" ++ quote (quote (label item.name item.annotations)) ++ "), nil")) <:+: branches ∧
      literal? (quote (quote (label item.name item.annotations))) =
        some (quote (label item.name item.annotations)).toByteArray ∧
      Json.read? (quote (label item.name item.annotations)) =
        if (label item.name item.annotations).toList.any isHexWritten then none
        else some (.quoted (label item.name item.annotations)) := by
  obtain ⟨strconv, branches, hmethod, hbranch⟩ := marshalJSON_branch he hd hitems hfirst
  exact ⟨strconv, branches, hmethod, hbranch, literal?_quote _, Json.read?_quote _⟩

/-- An item with a control character for a label. -/
def escapeItem : EnumItem := ⟨"Esc", 1, .ofList [(labelKey, "\x1b")]⟩

/-- An item whose label has a tab, a quote and a backslash. -/
def tabItem : EnumItem := ⟨"Tab", 3, .ofList [(labelKey, "\t\"\\")]⟩

/-- An enum of keys, two of which have one value. -/
def keyEnum : Enum := ⟨"Key", ⟨0⟩, [escapeItem, tabItem, ⟨"Next", 3, .empty⟩], .empty⟩

/-- A program with this enum. -/
def keyboard : Program := { Program.empty with files := [⟨"a.thrift", "ex/a", "a"⟩], enums := [keyEnum] }

theorem keyboard_drafts : ∃ d, keyboard.draft keyEnum.file { noZap := true } = .ok d :=
  exists_draft_of_isOk (by decide +kernel)

/-- Tabs, quotes and backslashes come through. -/
theorem marshalJSON_returns_tab :
    ∃ d, keyboard.draft keyEnum.file { noZap := true } = .ok d ∧
      ∃ strconv branches, marshalJSONMethod "Key" strconv branches <:+: d.code ∧
        caseOf "case 3" (line ("return ([]byte)(" ++ quote "\"\\t\\\"\\\\\"" ++ "), nil")) <:+: branches ∧
        literal? (quote "\"\\t\\\"\\\\\"") = some "\"\\t\\\"\\\\\"".toByteArray ∧
        Json.read? "\"\\t\\\"\\\\\"" = some (.quoted "\t\"\\") := by
  obtain ⟨d, hd⟩ := keyboard_drafts
  have hitems : keyEnum.items = [escapeItem] ++ tabItem :: [⟨"Next", 3, .empty⟩] := rfl
  have hvalue : toString tabItem.value.toInt = "3" := rfl
  have hname : goName keyEnum.name keyEnum.annotations = "Key" := by decide +kernel
  have hquote : quote (label tabItem.name tabItem.annotations) = "\"\\t\\\"\\\\\"" := by decide
  obtain ⟨strconv, branches, hmethod, hbranch, hliteral, hread⟩ :=
    marshalJSON_returns (p := keyboard) (r := ⟨0⟩) (e := keyEnum) rfl hd hitems (by decide)
  rw [hname] at hmethod
  rw [hvalue, hquote] at hbranch
  rw [hquote] at hliteral hread
  exact ⟨d, hd, strconv, branches, hmethod, hbranch, hliteral, hread⟩

/-- For a control character the method returns a text that is no JSON. -/
theorem keyboard_returns_no_json :
    ∃ d, keyboard.draft keyEnum.file { noZap := true } = .ok d ∧
      keyboard.generate keyEnum.file { noZap := true } = .ok d.source ∧
      ∃ strconv branches, marshalJSONMethod "Key" strconv branches <:+: d.code ∧
        caseOf "case 1" (line "return ([]byte)(\"\\\"\\\\x1b\\\"\"), nil") <:+: branches ∧
        literal? "\"\\\"\\\\x1b\\\"\"" = some "\"\\x1b\"".toByteArray ∧ Json.read? "\"\\x1b\"" = none := by
  obtain ⟨d, hd⟩ := keyboard_drafts
  have hitems : keyEnum.items = [] ++ escapeItem :: [tabItem, ⟨"Next", 3, .empty⟩] := rfl
  have hname : goName keyEnum.name keyEnum.annotations = "Key" := by decide +kernel
  have hlabel : label escapeItem.name escapeItem.annotations = "\x1b" := rfl
  have hinner : quote "\x1b" = "\"\\x1b\"" := by decide
  have houter : quote "\"\\x1b\"" = "\"\\\"\\\\x1b\\\"\"" := by decide
  obtain ⟨strconv, branches, hmethod, hbranch⟩ :=
    marshalJSON_branch (p := keyboard) (r := ⟨0⟩) (e := keyEnum) rfl hd hitems (by simp)
  rw [hname] at hmethod
  rw [hlabel, hinner, houter] at hbranch
  refine ⟨d, hd, generate_eq_ok.mpr ⟨d, hd, rfl⟩, strconv, branches, hmethod, hbranch, ?_, ?_⟩
  · rw [← houter, literal?_quote]
  · rw [← hinner, Json.read?_quote]
    rfl

end Program

end GoSchema
