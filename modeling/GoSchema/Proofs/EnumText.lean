import GoSchema.Proofs.JsonLabels
import GoSchema.Proofs.Statements

/-!
# Enums as texts

Values and labels of an enum may repeat. Four methods turn a value into a name, and all of them switch by the same
table: one branch for each value, with the label of the first item that has it. One method turns a text into
a value, and switches by a table with one branch for each label, which assigns the first item that has it. What is
not in the tables is written and read as a number.

So two different choices of first items meet. Reading what was written gives back the value if no label belongs to
items of different values, and a value without item is given back if its number is not a label
(`Program.enum_texts`).

## What is proved

* `Enum.Speaks` says what methods with given tables do, as programs over their variables: `marshalText`,
  `marshalJSON`, `showString`, `marshalLog` and `unmarshalText` run the statements that the code prints.
* `lookup_firstsBy`: a table of first elements finds the first element of a key. Both tables are of this kind.
* `Enum.Speaks.unmarshalText_marshalText`: reading what was written gives back the value.
* `Program.enum_texts`: the tables are read off the code of a draft, and the methods with these tables do what is
  said above, for every enum. Where a label belongs to items of different values, reading gives the first of them.

Numerals are read as Go reads them in base ten (`parseInt32?`). JSON enters only as the text that is written; that
it is JSON for every label is not so, and treated with the labels.
-/

namespace GoSchema

open Go

/-! ### Numerals -/

/-- The number that digits stand for, if there are any and nothing else. -/
def digits? (cs : List Char) : Option Nat :=
  if cs ≠ [] ∧ cs.all Char.isDigit = true then some (Nat.ofDigitChars 10 cs 0) else none

/-- What is left of a numeral without its sign. -/
def unsigned (cs : List Char) : List Char := if cs.head? = some '-' ∨ cs.head? = some '+' then cs.tail else cs

/-- The number of 32 bits that a numeral stands for. The numeral has base ten and may have a sign. -/
def parseInt32? (text : String) : Option Int32 :=
  (digits? (unsigned text.toList)).bind fun n =>
    let i : Int := if text.toList.head? = some '-' then -n else n
    if Int32.minValue.toInt ≤ i ∧ i ≤ Int32.maxValue.toInt then some (.ofInt i) else none

theorem digits?_toDigits (n : Nat) : digits? (Nat.toDigits 10 n) = some n := by
  have hdigits : (Nat.toDigits 10 n).all Char.isDigit = true :=
    List.all_eq_true.mpr fun c hc => @Nat.isDigit_of_mem_toDigits 10 n c (by decide) (by decide) hc
  rw [digits?, if_pos ⟨Nat.toDigits_ne_nil, hdigits⟩, Nat.ofDigitChars_ten_toDigits]

theorem head?_toDigits_ne (n : Nat) {c : Char} (hc : c.isDigit = false) : (Nat.toDigits 10 n).head? ≠ some c := by
  intro h
  have hdigit := @Nat.isDigit_of_mem_toDigits 10 n c (by decide) (by decide) (List.mem_of_mem_head? h)
  rw [hc] at hdigit
  cases hdigit

/-- A number of 32 bits is read back from its numeral. -/
theorem parseInt32?_toString (v : Int32) : parseInt32? (toString v.toInt) = some v := by
  have hrange := And.intro v.minValue_le_toInt v.toInt_le
  rw [parseInt32?, Json.toList_toString_int]
  by_cases hneg : v.toInt < 0
  · have hvalue : -(v.toInt.natAbs : Int) = v.toInt := by omega
    rw [decide_eq_true hneg]
    simp only [if_true, List.cons_append, List.nil_append, unsigned, List.head?_cons, List.tail_cons, true_or,
      digits?_toDigits, Option.bind_some, hvalue, hrange, and_self, Int32.ofInt_toInt]
  · have hvalue : (v.toInt.natAbs : Int) = v.toInt := by omega
    have hminus := head?_toDigits_ne v.toInt.natAbs (c := '-') (by decide)
    have hplus := head?_toDigits_ne v.toInt.natAbs (c := '+') (by decide)
    rw [decide_eq_false hneg]
    simp [unsigned, digits?_toDigits, hvalue, hrange, hminus, hplus]

/-! ### Tables of first items -/

section

variable {α β κ : Type} [DecidableEq κ] {key : α → κ}

theorem lookup_firstsFrom (g : α → β) {seen : List κ} {k : κ} (hk : k ∉ seen) (as : List α) :
    ((firstsFrom key seen as).map fun a => (key a, g a)).lookup k = (as.find? fun a => key a = k).map g := by
  induction as generalizing seen with
  | nil => rfl
  | cons a as ih =>
    rw [firstsFrom]
    split_ifs with ha
    · have hne : key a ≠ k := fun h => hk (h ▸ ha)
      rw [ih hk, List.find?_cons_of_neg (by simpa using hne)]
    · rw [List.map_cons, List.lookup_cons]
      by_cases h : key a = k
      · simp [h]
      · rw [beq_false_of_ne (Ne.symm h), List.find?_cons_of_neg (by simpa using h)]
        exact ih (by simp [hk, Ne.symm h])

theorem nodup_firstsFrom (key : α → κ) (seen : List κ) (as : List α) :
    ((firstsFrom key seen as).map key).Nodup ∧ ∀ k ∈ (firstsFrom key seen as).map key, k ∉ seen := by
  induction as generalizing seen with
  | nil => exact ⟨List.nodup_nil, by simp [firstsFrom]⟩
  | cons a as ih =>
    rw [firstsFrom]
    split_ifs with ha
    · exact ih seen
    · obtain ⟨hnodup, hfresh⟩ := ih (key a :: seen)
      rw [List.map_cons]
      refine ⟨List.nodup_cons.mpr ⟨fun h => hfresh _ h List.mem_cons_self, hnodup⟩, ?_⟩
      rw [List.forall_mem_cons]
      exact ⟨ha, fun k hk h => hfresh k hk (List.mem_cons_of_mem _ h)⟩

/-- A table of first elements finds the first element of a key. -/
theorem lookup_firstsBy (key : α → κ) (g : α → β) (as : List α) (k : κ) :
    ((firstsBy key as).map fun a => (key a, g a)).lookup k = (as.find? fun a => key a = k).map g :=
  lookup_firstsFrom g List.not_mem_nil as

theorem nodup_firstsBy (key : α → κ) (g : α → β) (as : List α) :
    (((firstsBy key as).map fun a => (key a, g a)).map Prod.fst).Nodup := by
  rw [List.map_map]
  exact (nodup_firstsFrom key [] as).1

end

/-! ### Methods as statements -/

section

variable {σ ρ : Type}

/-- A switch over the values of an enum; `read` is the variable that it asks. -/
def valueSwitch (subject : String) (read : σ → Int32) (leaf : String → Statement σ ρ)
    (values : List (Int32 × String)) : Statement σ ρ :=
  .choose subject id (.table (fun k => "case " ++ toString k.toInt) read leaf .skip values)

theorem code_valueSwitch (subject : String) (read : σ → Int32) {leaf : String → Statement σ ρ} {body : String → String}
    (hleaf : ∀ l, (leaf l).code = line (body l)) (values : List (Int32 × String)) :
    (valueSwitch subject read leaf values).code = switch subject (valueBranches values body) := by
  rw [valueSwitch, Statement.code, Statement.code_table, Statement.code, List.append_nil, valueBranches]
  simp only [hleaf]

theorem run_valueSwitch (subject : String) (read : σ → Int32) (leaf : String → Statement σ ρ)
    (values : List (Int32 × String)) (s : σ) :
    (valueSwitch subject read leaf values).run s =
      ((values.lookup (read s)).map fun l => ((leaf l).run s).leave).getD (.goes s) := by
  rw [valueSwitch, Statement.run, Statement.run_table, id]
  cases values.lookup (read s) <;> rfl

end

/-- The body of the method that writes a value as text. -/
def marshalTextBody (strconv : String) (values : List (Int32 × String)) : Statement Int32 String :=
  .block
    [valueSwitch "int32(v)" id (fun l => .ret ("return []byte(" ++ quote l ++ "), nil") fun _ => l) values,
     .ret s!"return []byte({strconv}.FormatInt(int64(v), 10)), nil" fun v => toString v.toInt]

/-- The body of the method that writes a value in JSON. -/
def marshalJSONBody (strconv : String) (values : List (Int32 × String)) : Statement Int32 String :=
  .block
    [valueSwitch "int32(v)" id (fun l => .ret ("return ([]byte)(" ++ quote (quote l) ++ "), nil") fun _ => quote l)
      values,
     .ret s!"return ([]byte)({strconv}.FormatInt(int64(v), 10)), nil" fun v => toString v.toInt]

/-- The variables of the method that shows a value. -/
structure ShowFrame where
  v : Int32
  w : Int32

/-- The body of the method that shows a value. -/
def stringBody (name fmt : String) (values : List (Int32 × String)) : Statement ShowFrame String :=
  .block
    [.act "w := int32(v)" fun s => { s with w := s.v },
     valueSwitch "w" ShowFrame.w (fun l => .ret ("return " ++ quote l) fun _ => l) values,
     .ret (s!"return {fmt}.Sprintf(" ++ quote (name ++ "(%d)") ++ ", w)") fun s =>
      name ++ "(" ++ toString s.w.toInt ++ ")"]

/-- What a log entry holds. -/
inductive Logged where
  | number (n : Int32)
  | text (s : String)

/-- The variables of the method that logs a value: the value and the entry that it fills. -/
structure LogFrame where
  v : Int32
  entry : List (String × Logged)

/-- The body of the method that logs a value. -/
def marshalLogBody (values : List (Int32 × String)) : Statement LogFrame Unit :=
  .block
    [.act "enc.AddInt32(\"value\", int32(v))" fun s => { s with entry := s.entry ++ [("value", .number s.v)] },
     valueSwitch "int32(v)" LogFrame.v (fun l => .act ("enc.AddString(\"name\", " ++ quote l ++ ")") fun s =>
      { s with entry := s.entry ++ [("name", .text l)] }) values,
     .ret "return nil" fun _ => ()]

/-- The variables of the method that reads a text: the text, `s`, what `v` points to, and the outcome of reading a
numeral. -/
structure TextFrame where
  value : String
  s : String
  v : Int32
  val : Option Int32

/-- The body of the method that reads a text. Its result is the text that it refused with the name of the enum, if it
did. The constants of the package are given by `constant`. -/
def unmarshalTextBody (name fmt strconv : String) (constant : String → Int32) (labels : List (String × String)) :
    Statement TextFrame (Option (String × String)) :=
  .choose "s := string(value); s" (fun f => { f with s := f.value })
    (.table (fun l => "case " ++ quote l) TextFrame.s
      (fun ident => .block
        [.act ("*v = " ++ ident) fun f => { f with v := constant ident }, .ret "return nil" fun _ => none])
      (.branch "default" (fun _ => true)
        (.block
          [.act s!"val, err := {strconv}.ParseInt(s, 10, 32)" fun f => { f with val := parseInt32? f.s },
           .cond "err != nil" (fun f => f.val.isNone)
            (.ret (s!"return {fmt}.Errorf(\"unknown enum value %q for %q: %v\", s, " ++ quote name ++ ", err)")
              fun f => some (f.s, name)),
           .act s!"*v = {name}(val)" fun f => { f with v := f.val.getD f.v },
           .ret "return nil" fun _ => none])
        .skip)
      labels)

theorem code_marshalTextBody (name strconv : String) (values : List (Int32 × String)) :
    func s!"(v {name}) MarshalText() ([]byte, error)" (marshalTextBody strconv values).code <:+:
      enumMarshalText name strconv values := by
  rw [marshalTextBody, Statement.code_block, List.flatMap_cons, code_valueSwitch _ _ fun _ => rfl]
  exact (List.suffix_append _ _).isInfix

theorem code_marshalJSONBody (name strconv : String) (values : List (Int32 × String)) :
    func s!"(v {name}) MarshalJSON() ([]byte, error)" (marshalJSONBody strconv values).code <:+:
      enumMarshalJSON name strconv values := by
  rw [marshalJSONBody, Statement.code_block, List.flatMap_cons, code_valueSwitch _ _ fun _ => rfl]
  exact (List.suffix_append _ _).isInfix

theorem code_stringBody (name fmt : String) (values : List (Int32 × String)) :
    func s!"(v {name}) String() string" (stringBody name fmt values).code <:+: enumString name fmt values := by
  rw [stringBody, Statement.code_block, List.flatMap_cons, List.flatMap_cons, code_valueSwitch _ _ fun _ => rfl,
    ← List.append_assoc]
  exact (List.suffix_append _ _).isInfix

theorem code_marshalLogBody (name zapcore : String) (values : List (Int32 × String)) :
    func s!"(v {name}) MarshalLogObject(enc {zapcore}.ObjectEncoder) error" (marshalLogBody values).code <:+:
      enumMarshalLog name zapcore values := by
  rw [marshalLogBody, Statement.code_block, List.flatMap_cons, List.flatMap_cons, code_valueSwitch _ _ fun _ => rfl,
    ← List.append_assoc]
  exact (List.suffix_append _ _).isInfix

theorem code_unmarshalTextBody (name fmt strconv : String) (constant : String → Int32)
    (labels : List (String × String)) :
    func s!"(v *{name}) UnmarshalText(value []byte) error"
        (unmarshalTextBody name fmt strconv constant labels).code <:+:
      enumUnmarshalText name fmt strconv labels := by
  rw [unmarshalTextBody, Statement.code, Statement.code_table]
  simp only [Statement.code, Statement.code_block, List.flatMap_cons, List.flatMap_nil, List.append_nil]
  rw [enumUnmarshalText, labelBranches]
  simp only [List.append_assoc]
  exact (List.suffix_append _ _).isInfix

/-! ### What the methods do -/

section

variable (name fmt strconv : String) (values : List (Int32 × String)) (v : Int32)

/-- The text of a value. -/
def marshalText : Option String := ((marshalTextBody strconv values).run v).returned?.map Prod.snd

/-- The JSON of a value. -/
def marshalJSON : Option String := ((marshalJSONBody strconv values).run v).returned?.map Prod.snd

/-- The text that shows a value. -/
def showString : Option String := ((stringBody name fmt values).run ⟨v, 0⟩).returned?.map Prod.snd

/-- The log entry of a value. -/
def marshalLog : Option (List (String × Logged)) :=
  ((marshalLogBody values).run ⟨v, []⟩).returned?.map fun r => r.1.entry

/-- What `v` points to after a text was read, and the result. -/
def unmarshalText (constant : String → Int32) (labels : List (String × String)) (text : String) :
    Option (Int32 × Option (String × String)) :=
  ((unmarshalTextBody name fmt strconv constant labels).run ⟨text, "", v, none⟩).returned?.map fun r => (r.1.v, r.2)

theorem marshalText_eq : marshalText strconv values v = some ((values.lookup v).getD (toString v.toInt)) := by
  simp only [marshalText, marshalTextBody, Statement.block, Statement.run, run_valueSwitch, id]
  cases values.lookup v <;> rfl

theorem marshalJSON_eq :
    marshalJSON strconv values v = some (((values.lookup v).map quote).getD (toString v.toInt)) := by
  simp only [marshalJSON, marshalJSONBody, Statement.block, Statement.run, run_valueSwitch, id]
  cases values.lookup v <;> rfl

theorem showString_eq :
    showString name fmt values v = some ((values.lookup v).getD (name ++ "(" ++ toString v.toInt ++ ")")) := by
  simp only [showString, stringBody, Statement.block, Statement.run, Outcome.andThen, run_valueSwitch]
  cases values.lookup v <;> rfl

theorem marshalLog_eq :
    marshalLog values v =
      some (("value", .number v) :: ((values.lookup v).map fun l => ("name", Logged.text l)).toList) := by
  simp only [marshalLog, marshalLogBody, Statement.block, Statement.run, Outcome.andThen, run_valueSwitch]
  cases values.lookup v <;> rfl

theorem unmarshalText_eq (constant : String → Int32) (labels : List (String × String)) (text : String) :
    unmarshalText name fmt strconv v constant labels text =
      some (((labels.lookup text).map fun ident => (constant ident, none)).getD
        (((parseInt32? text).map fun n => (n, none)).getD (v, some (text, name)))) := by
  rw [unmarshalText, unmarshalTextBody, Statement.run, Statement.run_table]
  cases labels.lookup text with
  | some ident => rfl
  | none =>
    simp only [Option.map_none, Option.getD_none, Statement.run, Statement.block, if_true, Outcome.andThen]
    cases parseInt32? text <;> rfl

end

/-! ### Enums -/

/-- The label of an item. -/
def EnumItem.text (item : EnumItem) : String := label item.name item.annotations

namespace Enum

variable (e : Enum)

/-- The first item with a value. -/
def firstOfValue? (v : Int32) : Option EnumItem := e.items.find? fun i => i.value = v

/-- The first item with a label. -/
def firstOfText? (text : String) : Option EnumItem := e.items.find? fun i => i.text = text

/-- The identifier of an item. -/
def identOf (item : EnumItem) : String := itemName (goName e.name e.annotations) item

/-- The items as the code shows them. -/
def layouts : List ItemLayout := e.items.map fun item => ⟨e.identOf item, item.text, item.value⟩

/-- The value of the constant with this identifier. -/
def constant (ident : String) : Int32 := ((e.items.find? fun i => e.identOf i = ident).map EnumItem.value).getD 0

/-- The tables of an enum: each value once, with the label of its first item, and each label once, with the identifier
of its first item. -/
structure Tables (values : List (Int32 × String)) (labels : List (String × String)) : Prop where
  values_once : (values.map Prod.fst).Nodup
  values_first : ∀ v, values.lookup v = (e.firstOfValue? v).map EnumItem.text
  labels_once : (labels.map Prod.fst).Nodup
  labels_first : ∀ text, labels.lookup text = (e.firstOfText? text).map e.identOf

/-- The code has the constants of the enum and the methods for texts, which switch by these tables. -/
structure Prints (o : Options) (fmt strconv : String) (values : List (Int32 × String))
    (labels : List (String × String)) (code : Code) : Prop where
  constants : itemConstants (goName e.name e.annotations) e.layouts <:+: code
  marshalText : func s!"(v {goName e.name e.annotations}) MarshalText() ([]byte, error)"
    (marshalTextBody strconv values).code <:+: code
  marshalJSON : func s!"(v {goName e.name e.annotations}) MarshalJSON() ([]byte, error)"
    (marshalJSONBody strconv values).code <:+: code
  string : func s!"(v {goName e.name e.annotations}) String() string"
    (stringBody (goName e.name e.annotations) fmt values).code <:+: code
  marshalLog : o.noZap = false → ∃ zapcore : String,
    func s!"(v {goName e.name e.annotations}) MarshalLogObject(enc {zapcore}.ObjectEncoder) error"
      (marshalLogBody values).code <:+: code
  unmarshalText : func s!"(v *{goName e.name e.annotations}) UnmarshalText(value []byte) error"
    (unmarshalTextBody (goName e.name e.annotations) fmt strconv e.constant labels).code <:+: code

theorem tables_layouts : e.Tables (ItemLayout.byValue e.layouts) (ItemLayout.byLabel e.layouts) where
  values_once := nodup_firstsBy ItemLayout.value ItemLayout.label e.layouts
  values_first v := by
    rw [ItemLayout.byValue, lookup_firstsBy, layouts, List.find?_map, Option.map_map]
    rfl
  labels_once := nodup_firstsBy ItemLayout.label ItemLayout.ident e.layouts
  labels_first text := by
    rw [ItemLayout.byLabel, lookup_firstsBy, layouts, List.find?_map, Option.map_map]
    rfl

/-- The parts of the code of an enum. -/
def parts (fmt strconv wire json bytes math : String) (values : List (Int32 × String))
    (labels : List (String × String)) (log : Code) : List Code :=
  let name := goName e.name e.annotations
  [line s!"type {name} int32", blank, itemConstants name e.layouts, enumValues name e.layouts,
   enumUnmarshalText name fmt strconv labels, enumMarshalText name strconv values, log, enumWire name wire,
   enumString name fmt values, enumEquals name, enumMarshalJSON name strconv values,
   enumUnmarshalJSON name fmt json bytes math]

theorem prints_parts {o : Options} {values : List (Int32 × String)} {log : Code}
    (hlog : o.noZap = false → ∃ zapcore, log = enumMarshalLog (goName e.name e.annotations) zapcore values)
    (fmt strconv wire json bytes math : String) (labels : List (String × String)) :
    e.Prints o fmt strconv values labels (e.parts fmt strconv wire json bytes math values labels log).flatten where
  constants := List.infix_of_mem_flatten (by simp [parts])
  marshalText := (code_marshalTextBody _ _ _).trans (List.infix_of_mem_flatten (by simp [parts]))
  marshalJSON := (code_marshalJSONBody _ _ _).trans (List.infix_of_mem_flatten (by simp [parts]))
  string := (code_stringBody _ _ _).trans (List.infix_of_mem_flatten (by simp [parts]))
  marshalLog hzap := by
    obtain ⟨zapcore, rfl⟩ := hlog hzap
    exact ⟨zapcore, (code_marshalLogBody _ _ _).trans (List.infix_of_mem_flatten (by simp [parts]))⟩
  unmarshalText := (code_unmarshalTextBody _ _ _ _ _).trans (List.infix_of_mem_flatten (by simp [parts]))

variable {e}

theorem Prints.mono {o : Options} {fmt strconv : String} {values : List (Int32 × String)}
    {labels : List (String × String)} {part code : Code} (h : e.Prints o fmt strconv values labels part)
    (hinside : part <:+: code) : e.Prints o fmt strconv values labels code where
  constants := h.constants.trans hinside
  marshalText := h.marshalText.trans hinside
  marshalJSON := h.marshalJSON.trans hinside
  string := h.string.trans hinside
  marshalLog hzap := by
    obtain ⟨zapcore, hlog⟩ := h.marshalLog hzap
    exact ⟨zapcore, hlog.trans hinside⟩
  unmarshalText := h.unmarshalText.trans hinside

/-- The constant of an item has its value, if the identifiers are different. -/
theorem constant_identOf (hnodup : (e.items.map e.identOf).Nodup) {item : EnumItem} (hitem : item ∈ e.items) :
    e.constant (e.identOf item) = item.value := by
  obtain ⟨other, hother⟩ : ∃ other, (e.items.find? fun i => e.identOf i = e.identOf item) = some other :=
    Option.isSome_iff_exists.mp (List.find?_isSome.mpr ⟨item, hitem, decide_eq_true rfl⟩)
  have hident : e.identOf other = e.identOf item := by simpa using List.find?_some hother
  obtain rfl := List.inj_on_of_nodup_map hnodup (List.mem_of_find?_eq_some hother) hitem hident
  rw [constant, hother, Option.map_some, Option.getD_some]

/-- What the methods with these tables do: they write the label of the first item of a value, or else its number, and
they read the first item of a label, or else a number. -/
structure Speaks (e : Enum) (fmt strconv : String) (values : List (Int32 × String)) (labels : List (String × String)) :
    Prop where
  marshalText : ∀ v, marshalText strconv values v =
    some (((e.firstOfValue? v).map EnumItem.text).getD (toString v.toInt))
  marshalJSON : ∀ v, marshalJSON strconv values v =
    some (((e.firstOfValue? v).map fun i => quote i.text).getD (toString v.toInt))
  string : ∀ v, showString (goName e.name e.annotations) fmt values v =
    some (((e.firstOfValue? v).map EnumItem.text).getD (goName e.name e.annotations ++ "(" ++ toString v.toInt ++ ")"))
  marshalLog : ∀ v, marshalLog values v =
    some (("value", .number v) :: ((e.firstOfValue? v).map fun i => ("name", Logged.text i.text)).toList)
  unmarshalText : ∀ before text,
    unmarshalText (goName e.name e.annotations) fmt strconv before e.constant labels text =
      some (((e.firstOfText? text).map fun i => (i.value, none)).getD
        (((parseInt32? text).map fun n => (n, none)).getD (before, some (text, goName e.name e.annotations))))

theorem Tables.speaks {values : List (Int32 × String)} {labels : List (String × String)} (ht : e.Tables values labels)
    (hnodup : (e.items.map e.identOf).Nodup) (fmt strconv : String) : e.Speaks fmt strconv values labels where
  marshalText v := by rw [marshalText_eq, ht.values_first]
  marshalJSON v := by
    rw [marshalJSON_eq, ht.values_first, Option.map_map]
    rfl
  string v := by rw [showString_eq, ht.values_first]
  marshalLog v := by
    rw [marshalLog_eq, ht.values_first, Option.map_map]
    rfl
  unmarshalText before text := by
    rw [unmarshalText_eq, ht.labels_first, Option.map_map]
    cases hfirst : e.firstOfText? text with
    | none => rfl
    | some item =>
      have hvalue := constant_identOf hnodup (List.mem_of_find?_eq_some hfirst)
      simp [hvalue]

/-- No label belongs to items of different values. -/
def LabelsSettle (e : Enum) : Prop := ∀ i ∈ e.items, ∀ j ∈ e.items, i.text = j.text → i.value = j.value

instance (e : Enum) : Decidable e.LabelsSettle :=
  inferInstanceAs (Decidable (∀ i ∈ e.items, ∀ j ∈ e.items, i.text = j.text → i.value = j.value))

/-- The value is one of the enum, or its number is not a label. -/
def Writes (e : Enum) (v : Int32) : Prop :=
  (∃ item ∈ e.items, item.value = v) ∨ ∀ item ∈ e.items, item.text ≠ toString v.toInt

/-- Reading what was written gives back the value. -/
theorem Speaks.unmarshalText_marshalText {fmt strconv : String} {values : List (Int32 × String)}
    {labels : List (String × String)} (h : e.Speaks fmt strconv values labels) (hsettle : e.LabelsSettle) {v : Int32}
    (hv : e.Writes v) (before : Int32) :
    ∃ text, GoSchema.marshalText strconv values v = some text ∧
      GoSchema.unmarshalText (goName e.name e.annotations) fmt strconv before e.constant labels text =
        some (v, none) := by
  refine ⟨_, h.marshalText v, ?_⟩
  rw [h.unmarshalText]
  cases hfirst : e.firstOfValue? v with
  | some item =>
    have hitem := List.mem_of_find?_eq_some hfirst
    have hvalue : item.value = v := by simpa using List.find?_some hfirst
    obtain ⟨other, hother⟩ : ∃ other, e.firstOfText? item.text = some other :=
      Option.isSome_iff_exists.mp (List.find?_isSome.mpr ⟨item, hitem, decide_eq_true rfl⟩)
    have htext : other.text = item.text := by simpa using List.find?_some hother
    have hsame := hsettle other (List.mem_of_find?_eq_some hother) item hitem htext
    rw [Option.map_some, Option.getD_some, hother, Option.map_some, Option.getD_some, hsame, hvalue]
  | none =>
    have hnone := List.find?_eq_none.mp hfirst
    have hnumeral : e.firstOfText? (toString v.toInt) = none := by
      rcases hv with ⟨item, hitem, hvalue⟩ | hv
      · exact absurd (decide_eq_true hvalue) (hnone item hitem)
      · exact List.find?_eq_none.mpr (by simpa using hv)
    rw [Option.map_none, Option.getD_none, hnumeral, Option.map_none, Option.getD_none, parseInt32?_toString,
      Option.map_some, Option.getD_some]

end Enum

namespace Env

variable {env : Env}

theorem enumLayout_eq {e : Enum} {items : List ItemLayout}
    (h : env.enumLayout e (goName e.name e.annotations) = .ok items) : items = e.layouts := by
  have hlayouts : items.map id = e.layouts := by
    refine Except.map_of_mapM h fun item layout hlayout => ?_
    obtain ⟨ident, hident, hlayout⟩ := Except.bind_eq_ok.mp hlayout
    cases hlayout
    obtain ⟨-, rfl⟩ := itemIdent_eq_ok.mp hident
    rfl
  rwa [List.map_id] at hlayouts

/-- The code of an enum has its constants and methods, with the tables of its items. -/
theorem enumCode_switches (e : Enum) :
    Gives (env.enumCode e) fun code => ∃ fmt strconv,
      e.Prints env.options fmt strconv (ItemLayout.byValue e.layouts) (ItemLayout.byLabel e.layouts) code := by
  refine .bind fun name hname => .bind fun items hitems => .bind fun wire _ => .bind fun fmt _ => ?_
  refine .bind fun strconv _ => .bind fun json _ => .bind fun bytes _ => .bind fun math _ => ?_
  obtain ⟨-, rfl⟩ := identifier_eq_ok.mp hname.of_lift
  obtain rfl := enumLayout_eq hitems.of_lift
  dsimp only
  -- The two ways through the code differ in the part for logging.
  by_cases hzap : env.options.noZap = true
  · rw [if_pos hzap]
    refine .bind fun log _ => .pure ⟨fmt, strconv, ?_⟩
    simpa [Enum.parts] using e.prints_parts (o := env.options) (by simp [hzap]) fmt strconv wire json bytes math _
  · rw [if_neg hzap]
    refine .bind fun zapcore _ => .bind fun log hlog => .pure ⟨fmt, strconv, ?_⟩
    simpa [Enum.parts] using
      e.prints_parts (o := env.options) (fun _ => ⟨zapcore, hlog.of_pure.symm⟩) fmt strconv wire json bytes math _

end Env

namespace Program

variable {p : Program} {r : Ref .enum} {e : Enum} {o : Options} {d : Draft}

/-- In a file that was generated, the items of an enum have different identifiers. -/
theorem nodup_identOf (he : p.enum? r = some e) (hd : p.draft e.file o = .ok d) : (e.items.map e.identOf).Nodup := by
  obtain ⟨self, names, -, henv, hstarts, -⟩ := draft_eq_ok hd
  have hheld := hstarts.clean.nodup
  rw [hstarts.held, henv.program, henv.file] at hheld
  have hdeclared : (p.declaredNames e.file).Nodup := List.nodup_reverse.mp (List.nodup_append.mp hheld).1
  have hmem : e ∈ p.enumsOf e.file := List.mem_filter.mpr ⟨List.mem_of_getElem? he, decide_eq_true rfl⟩
  have hitems : e.items.map e.identOf <:+: (p.enumsOf e.file).flatMap Enum.declaredNames := by
    rw [List.flatMap_def]
    exact .trans (List.suffix_append [_, _] _).isInfix (List.infix_of_mem_flatten (List.mem_map_of_mem hmem))
  have henums : (p.enumsOf e.file).flatMap Enum.declaredNames <:+: p.declaredNames e.file :=
    List.infix_append_of_infix_left (List.infix_append_of_infix_left (List.infix_append_of_infix_left
      (List.suffix_append _ _).isInfix))
  exact hdeclared.sublist (hitems.trans henums).sublist

/-- The methods of an enum that deal with texts switch by two tables: by value, with the label of the first item of each
value, and by label, with the first item of each label. If no label belongs to items of different values, each value
of the enum is read back from its text, and so is each other value whose number is not a label. -/
theorem enum_texts (he : p.enum? r = some e) (hd : p.draft e.file o = .ok d) :
    ∃ fmt strconv values labels, e.Prints o fmt strconv values labels d.code ∧ e.Tables values labels ∧
      (e.items.map e.identOf).Nodup ∧ e.Speaks fmt strconv values labels ∧
      (e.LabelsSettle → ∀ v, e.Writes v → ∀ before, ∃ text, marshalText strconv values v = some text ∧
        unmarshalText (goName e.name e.annotations) fmt strconv before e.constant labels text = some (v, none)) := by
  obtain ⟨hprogram, hfile, hcovers⟩ := draft_covers hd
  obtain ⟨_, _, -, henv, -⟩ := draft_eq_ok hd
  obtain ⟨part, hpart, hinside⟩ := hcovers.enums r e (hprogram ▸ he) hfile.symm
  obtain ⟨fmt, strconv, hprints⟩ := Env.enumCode_switches e part hpart
  rw [henv.options] at hprints
  have hnodup := nodup_identOf he hd
  have hspeaks := e.tables_layouts.speaks hnodup fmt strconv
  exact ⟨fmt, strconv, _, _, hprints.mono hinside, e.tables_layouts, hnodup, hspeaks,
    fun hsettle v hv before => hspeaks.unmarshalText_marshalText hsettle hv before⟩

theorem enum_texts_keyboard :
    keyEnum.LabelsSettle ∧ keyEnum.Writes 3 ∧ keyEnum.Writes (-7) ∧
      ∃ d fmt strconv values labels, keyboard.draft ⟨0⟩ { noZap := true } = .ok d ∧
        keyEnum.Prints { noZap := true } fmt strconv values labels d.code ∧
        values.lookup 3 = some tabItem.text ∧
        ∀ v ∈ [3, -7], ∃ text, marshalText strconv values v = some text ∧
          unmarshalText "Key" fmt strconv 0 keyEnum.constant labels text = some (v, none) := by
  have hsettle : keyEnum.LabelsSettle := by decide
  have hdeclared : keyEnum.Writes 3 := .inl ⟨tabItem, by decide, rfl⟩
  have hother : keyEnum.Writes (-7) := .inr (by decide)
  have hname : goName keyEnum.name keyEnum.annotations = "Key" := by decide +kernel
  obtain ⟨d, hd⟩ := keyboard_drafts
  obtain ⟨fmt, strconv, values, labels, hprints, htables, -, -, hround⟩ :=
    enum_texts (p := keyboard) (r := ⟨0⟩) (e := keyEnum) rfl hd
  rw [hname] at hround
  refine ⟨hsettle, hdeclared, hother, d, fmt, strconv, values, labels, hd, hprints, htables.values_first 3, ?_⟩
  rw [List.forall_mem_cons, List.forall_mem_singleton]
  exact ⟨hround hsettle 3 hdeclared 0, hround hsettle (-7) hother 0⟩

end Program

end GoSchema
