import GoSchema.Proofs.ConstantReferences
import GoSchema.Proofs.ImportAliases
import GoSchema.Proofs.ShortestDecimals
import GoSchema.Proofs.StringLiterals

/-!
# The texts of keys

The keys of a Go map are scalars below the typedefs of their type. Different values can be the same key: as truth
values the integer one is `true`, all doubles that are no numbers are alike, and a constant or an item is known by its
package and its identifier only. A `Key` is what is left of a value as a key.

Two values of a type have the same text as keys exactly if they are the same key (`Env.Spelled.text_eq`,
`Env.Spelled.key_eq`). For this the names among them must be identifiers of Go: a constant that is called `1` is
written like the number.

## What is proved

* `Env.plain_of_literal` and `Env.spelled_of_literal`: the literal of a value at a type of keys writes its key, and
  nothing else enters the text.
* `Env.Spells.name_eq` and `Env.Plain.double_eq`: names with one text are one name, and doubles with one text are
  one double, or none of them is a number.
* `Env.Spelled.text_eq` and `Env.Spelled.key_eq`: the two directions of the main result.

When Go takes two keys of a literal for the same is said by `Key`, and not by a semantics of Go. Keys are scalars:
containers and structs cannot be keys of a Go map and are held as sequences.
-/

namespace GoSchema

open Go Name

/-! ### Identifiers -/

/-- The text can be an identifier of Go: letters, numbers and underscores, the first of which is no digit. -/
def Go.isIdentifier (ident : String) : Bool :=
  ident.toList.head?.any (fun c => !c.isDigit) && ident.toList.all fun c => Text.isAlphanumeric c || c == '_'

section Identifiers

variable {ident : String} {x : Char}

theorem notMem_of_isIdentifier (h : isIdentifier ident = true) (hx : Text.isAlphanumeric x = false) (hne : x ≠ '_') :
    x ∉ ident.toList := by
  simp only [isIdentifier, Bool.and_eq_true, List.all_eq_true, Bool.or_eq_true, beq_iff_eq] at h
  intro hmem
  rcases h.2 x hmem with halnum | hunderscore
  · rw [hx] at halnum
    cases halnum
  · exact hne hunderscore

theorem exists_cons_of_isIdentifier (h : isIdentifier ident = true) :
    ∃ c rest, ident.toList = c :: rest ∧ c.isDigit = false := by
  simp only [isIdentifier, Bool.and_eq_true] at h
  cases hlist : ident.toList with
  | nil => simp [hlist] at h
  | cons c rest => exact ⟨c, rest, rfl, by simpa [hlist] using h.1⟩

theorem getLast?_closing (s : String) : (s ++ ")").toList.getLast? = some ')' := by
  rw [String.toList_append]
  exact List.getLast?_concat

/-- What ends in an identifier ends in no other character. -/
theorem getLast?_append_ne (h : isIdentifier ident = true) (before : List Char) (hx : Text.isAlphanumeric x = false)
    (hne : x ≠ '_') : (before ++ ident.toList).getLast? ≠ some x := by
  obtain ⟨c, rest, hlist, -⟩ := exists_cons_of_isIdentifier h
  rw [List.getLast?_append_of_ne_nil _ (by simp [hlist])]
  exact fun hlast => notMem_of_isIdentifier h hx hne (List.mem_of_getLast? hlast)

end Identifiers

/-- Two lists that are divided at the last occurrence of a character are divided alike. -/
theorem append_cons_inj_of_notMem_right {α : Type} {a : α} {as as' bs bs' : List α} (h : a ∉ bs) (h' : a ∉ bs')
    (heq : as ++ a :: bs = as' ++ a :: bs') : as = as' ∧ bs = bs' := by
  rcases List.append_eq_append_iff.mp heq with ⟨l, rfl, hl⟩ | ⟨l, rfl, hl⟩
  · cases l with
    | nil => simpa using hl
    | cons c l => exact absurd (by simp [(List.cons.inj hl).2]) h
  · cases l with
    | nil => simpa [eq_comm] using hl
    | cons c l => exact absurd (by simp [(List.cons.inj hl).2]) h'

/-! ### Numbers -/

section Numbers

variable {d d' : Double} {ident : String} {n : Int}

/-- What begins like a number is no identifier. -/
theorem not_isIdentifier_of_digit {c : Char} (hc : c.isDigit = true) {negative : Bool} {rest : List Char}
    (h : ident.toList = (if negative then ['-'] else []) ++ c :: rest) : ¬ isIdentifier ident = true := by
  intro hident
  cases negative with
  | true =>
    have hminus := notMem_of_isIdentifier hident (x := '-') (by decide) (by decide)
    exact hminus (by simp [h])
  | false =>
    obtain ⟨c', rest', hcons, hdigit⟩ := exists_cons_of_isIdentifier hident
    obtain ⟨rfl, -⟩ := List.cons.inj (hcons.symm.trans h)
    rw [hc] at hdigit
    cases hdigit

theorem not_isIdentifier_toString (n : Int) : ¬ isIdentifier (toString n) = true := by
  have hnumeral := Json.isNumeral_toDigits n.natAbs
  obtain ⟨c, rest, hcons⟩ := List.exists_cons_of_ne_nil hnumeral.nonempty
  have hlist := hcons ▸ Json.toList_toString_int n
  exact not_isIdentifier_of_digit (hnumeral.digits c (by simp [hcons])) hlist

theorem not_isIdentifier_text (h : d.isFinite = true) : ¬ isIdentifier (Decimal.text d) = true := by
  obtain ⟨c, rest, hcons, hc⟩ := (Decimal.isDecimal_magnitudeText d).leading
  have hlist := hcons ▸ Decimal.toList_text h
  exact not_isIdentifier_of_digit hc hlist

/-- The text ends in a selector: behind its last point stands a character that is no digit. -/
def EndsInSelector (text : String) : Prop :=
  ∃ start c rest, text.toList = start ++ '.' :: c :: rest ∧ '.' ∉ c :: rest ∧ c.isDigit = false

theorem not_endsInSelector_of_notMem {text : String} (h : '.' ∉ text.toList) : ¬ EndsInSelector text := by
  rintro ⟨start, c, rest, heq, -⟩
  exact h (by simp [heq])

theorem not_endsInSelector_toString (n : Int) : ¬ EndsInSelector (toString n) :=
  not_endsInSelector_of_notMem (Decimal.notMem_toString (by decide) (by decide) n)

/-- Behind the point of a double there is a digit. -/
theorem not_endsInSelector_text (h : d.isFinite = true) : ¬ EndsInSelector (Decimal.text d) := by
  rintro ⟨start, c, rest, heq, hrest, hc⟩
  rw [Decimal.toList_text h] at heq
  rcases (Decimal.isDecimal_magnitudeText d).marked with ⟨hpoint, -⟩ | ⟨before, c', rest', hlist, -, hrest', hc'⟩
  · have hmem : '.' ∈ (if d.negative then ['-'] else []) ++ Decimal.magnitudeText d := by simp [heq]
    rcases List.mem_append.mp hmem with hmem | hmem
    · split_ifs at hmem
      · simp at hmem
      · cases hmem
    · exact hpoint hmem
  · rw [hlist, ← List.append_assoc] at heq
    obtain ⟨-, hcons⟩ := append_cons_inj_of_notMem_right hrest' hrest heq
    rw [(List.cons.inj hcons).1, hc] at hc'
    cases hc'

/-- A double is not written like an integer. -/
theorem text_ne_toString (h : d.isFinite = true) (n : Int) : Decimal.text d ≠ toString n := by
  intro heq
  have hmem {c : Char} (hc : c ∈ Decimal.magnitudeText d) : c ∈ (toString n).toList := by
    rw [← heq, Decimal.toList_text h]
    exact List.mem_append_right _ hc
  rcases (Decimal.isDecimal_magnitudeText d).marked with ⟨-, hexponent⟩ | ⟨start, c, rest, hlist, -⟩
  · exact Decimal.notMem_toString (by decide) (by decide) n (hmem hexponent)
  · exact Decimal.notMem_toString (by decide) (by decide) n (@hmem '.' (by simp [hlist]))

/-- There is one infinity of either sign. -/
theorem eq_of_infinite (hnan : d.isNaN = false) (hfinite : d.isFinite = false) (hnan' : d'.isNaN = false)
    (hfinite' : d'.isFinite = false) (hsign : d.negative = d'.negative) : d = d' := by
  apply Decimal.eq_of_magnitude_eq hsign
  simp only [Double.isNaN, Double.isFinite, decide_eq_false_iff_not] at hnan hfinite hnan' hfinite'
  omega

end Numbers

/-! ### Names -/

namespace Env

variable {env : Env} {f f' : File} {ident ident' text text' : String}

theorem Spells.toList (h : env.Spells f ident text) :
    f.importPath = env.self.importPath ∧ text.toList = ident.toList ∨
      f.importPath ≠ env.self.importPath ∧ ∃ k ∈ env.packages, k.path = f.importPath ∧
        text.toList = k.name.toList ++ '.' :: ident.toList := by
  rcases h with ⟨hpath, rfl⟩ | ⟨hpath, k, hk, hkpath, -, rfl⟩
  · exact .inl ⟨hpath, rfl⟩
  · exact .inr ⟨hpath, k, hk, hkpath, by simp⟩

/-- A name has one text. -/
theorem Spells.text_eq (h : env.Spells f ident text) (h' : env.Spells f' ident text')
    (hpath : f.importPath = f'.importPath) : text = text' := by
  rcases h with ⟨hself, rfl⟩ | ⟨hself, k, hk, hkpath, hunique, rfl⟩
  · rcases h' with ⟨-, rfl⟩ | ⟨hself', -⟩
    · rfl
    · exact absurd (hpath.symm.trans hself) hself'
  · rcases h' with ⟨hself', -⟩ | ⟨-, k', hk', hkpath', -, rfl⟩
    · exact absurd (hpath.trans hself') hself
    · rw [hunique k' hk' (hkpath'.trans hpath.symm)]

/-- Names that have one text are the same, if they are identifiers. -/
theorem Spells.name_eq (hone : OneToOne env.packages) (h : env.Spells f ident text) (h' : env.Spells f' ident' text')
    (hident : isIdentifier ident = true) (hident' : isIdentifier ident' = true) (heq : text = text') :
    f.importPath = f'.importPath ∧ ident = ident' := by
  have hpoint := notMem_of_isIdentifier hident (x := '.') (by decide) (by decide)
  have hpoint' := notMem_of_isIdentifier hident' (x := '.') (by decide) (by decide)
  subst heq
  rcases h.toList with ⟨hself, hlist⟩ | ⟨-, k, hk, hkpath, hlist⟩ <;>
    rcases h'.toList with ⟨hself', hlist'⟩ | ⟨-, k', hk', hkpath', hlist'⟩
  · exact ⟨hself.trans hself'.symm, String.toList_injective (hlist.symm.trans hlist')⟩
  · exact absurd (by simp [← hlist, hlist']) hpoint
  · exact absurd (by simp [← hlist', hlist]) hpoint'
  · obtain ⟨hname, hlist⟩ := append_cons_inj_of_notMem_right hpoint hpoint' (hlist.symm.trans hlist')
    have hkk : k = k' := List.inj_on_of_nodup_map hone.names hk hk' (String.toList_injective hname)
    exact ⟨hkpath.symm.trans (hkk ▸ hkpath'), String.toList_injective hlist⟩

/-- A name does not end in a parenthesis or in a quote. -/
theorem Spells.ne_of_getLast? (h : env.Spells f ident text) (hident : isIdentifier ident = true) {x : Char}
    (hlast : text'.toList.getLast? = some x) (hx : Text.isAlphanumeric x = false) (hne : x ≠ '_') : text ≠ text' := by
  rintro rfl
  rcases h.toList with ⟨-, hlist⟩ | ⟨-, k, -, -, hlist⟩
  · rw [hlist] at hlast
    exact getLast?_append_ne hident [] hx hne hlast
  · rw [hlist, List.append_cons] at hlast
    exact getLast?_append_ne hident _ hx hne hlast

/-- A name is an identifier, or it ends in one. -/
theorem Spells.form (h : env.Spells f ident text) (hident : isIdentifier ident = true) :
    text = ident ∨ EndsInSelector text := by
  have hpoint := notMem_of_isIdentifier hident (x := '.') (by decide) (by decide)
  rcases h.toList with ⟨-, hlist⟩ | ⟨-, k, -, -, hlist⟩
  · exact .inl (String.toList_injective hlist)
  · obtain ⟨c, rest, hcons, hdigit⟩ := exists_cons_of_isIdentifier hident
    exact .inr ⟨k.name.toList, c, rest, hcons ▸ hlist, hcons ▸ hpoint, hdigit⟩

end Env

/-! ### Keys -/

/-- What a value is as a key. -/
inductive Key where
  | truth (b : Bool)
  | number (n : Int64)
  | double (d : Double)
  /-- A double that is no number. -/
  | undefined
  | text (s : String)
  /-- A constant or an item, by its import path and its identifier. An item is converted to the type of the key, if that
  is a typedef, and a constant is not. -/
  | named (converted : Bool) (path ident : String)
  deriving DecidableEq

/-- The name, if the key is one, is an identifier. -/
def Key.WellNamed : Key → Prop
  | .named _ _ ident => isIdentifier ident = true
  | _ => True

namespace Program

/-- A constant or an item as a key. -/
def namedKey? (p : Program) (converted : Bool) (e : Entity) : Option Key := do
  let owner ← p.owner? e
  let f ← p.file? owner
  let ident ← p.identOf? e
  return .named converted f.importPath ident

/-- What a value is as a key of this type. -/
def literalKey? (p : Program) (ty : Ty) : Value → Option Key
  | .bool b => some (.truth b)
  | .int n => some (if p.rootType? ty = some (.base .bool) then .truth (n = 1) else .number n)
  | .double d => some (if d.isNaN then .undefined else .double d)
  | .string s => some (.text s)
  | .constant r => p.namedKey? false (.constant r)
  | .enumItem e item => p.namedKey? ty.isTypedef (.item e item.toNat)
  | .list _ | .map _ => none

end Program

theorem Answers.not_throw {α : Type} {e : GenError} {a : α} : ¬ Answers (throw e) a := by
  rintro ⟨r, r', h⟩
  cases h

namespace Env

/-- How a key is written at a type that is no typedef, if it is not a constant. -/
inductive Plain (env : Env) (converted : Bool) : Ty → Key → String → Prop where
  | truth (b : Bool) : env.Plain converted (.base .bool) (.truth b) (toString b)
  | integer {b : Base} {range : IntRange} (n : Int64) : b.intRange? = some range →
      env.Plain converted (.base b) (.number n) (toString n.toInt)
  | whole (n : Int64) : env.Plain converted (.base .double) (.number n) (toString n.toInt)
  | finite {d : Double} : d.isFinite = true → env.Plain converted (.base .double) (.double d) (Decimal.text d)
  | infinite {d : Double} : d.isNaN = false → d.isFinite = false →
      env.Plain converted (.base .double) (.double d)
        (env.aliasOf "math" ++ ".Inf(" ++ (if d.negative then "-1" else "1") ++ ")")
  | undefined : env.Plain converted (.base .double) .undefined (env.aliasOf "math" ++ ".NaN()")
  | text (s : String) : env.Plain converted (.base .string) (.text s) (quote s)
  | item {r : Ref .enum} {f : File} {ident text : String} : env.Spells f ident text →
      env.Plain converted (.enum r) (.named converted f.importPath ident) text
  | value {r : Ref .enum} {ref : Reference} (n : Int64) : env.enumRef r = .ok ref →
      env.Plain converted (.enum r) (.number n) (ref.text ++ "(" ++ toString n.toInt ++ ")")

variable {env : Env} {site : Site} {ty root : Ty} {layers : List (Ref .typedef)} {converted : Bool} {v : Value}
  {k k' : Key} {text text' : String}

/-! ### The literals of keys -/

theorem namedKey?_of_constantRef (hr : env.Registers) {r : Ref .constant} {ref : Reference}
    (h : env.constantRef r = .ok ref) :
    ∃ c f, env.program.constant? r = some c ∧ OverrideValid c.annotations ∧
      env.program.namedKey? converted (.constant r) =
        some (.named converted f.importPath (goName c.name c.annotations)) ∧
      env.Spells f (goName c.name c.annotations) ref.text := by
  obtain ⟨c, hc, h⟩ := Except.bind_eq_ok.mp h
  obtain ⟨path, hpath, h⟩ := Except.bind_eq_ok.mp h
  obtain ⟨ident, hident, h⟩ := Except.bind_eq_ok.mp h
  cases h
  obtain ⟨f, hf, -⟩ := Option.map_eq_some_iff.mp (present_eq_ok.mp hpath)
  obtain ⟨hvalid, rfl⟩ := identifier_eq_ok.mp hident
  have hc := present_eq_ok.mp hc
  refine ⟨c, f, hc, hvalid, ?_, hr.spells hf _⟩
  simp [Program.namedKey?, Program.owner?, Program.identOf?, hc, hf]

theorem namedKey?_of_enumItemRef (hr : env.Registers) {r : Ref .enum} {position : Nat} {ref : Reference}
    (h : env.enumItemRef r position = .ok ref) :
    ∃ f ident, env.program.namedKey? converted (.item r position) = some (.named converted f.importPath ident) ∧
      env.Spells f ident ref.text := by
  obtain ⟨e, he, h⟩ := Except.bind_eq_ok.mp h
  have he := present_eq_ok.mp he
  cases hitem : e.items[position]? with
  | none =>
    rw [hitem] at h
    cases h
  | some item =>
    rw [hitem] at h
    obtain ⟨path, hpath, h⟩ := Except.bind_eq_ok.mp h
    obtain ⟨enumIdent, henumIdent, h⟩ := Except.bind_eq_ok.mp h
    obtain ⟨ident, hident, h⟩ := Except.bind_eq_ok.mp h
    cases h
    obtain ⟨f, hf, -⟩ := Option.map_eq_some_iff.mp (present_eq_ok.mp hpath)
    obtain ⟨-, rfl⟩ := identifier_eq_ok.mp henumIdent
    obtain ⟨-, rfl⟩ := itemIdent_eq_ok.mp hident
    refine ⟨f, _, ?_, hr.spells hf _⟩
    simp [Program.namedKey?, Program.owner?, Program.identOf?, he, hitem, hf]

theorem text_of_intLiteral {range : IntRange} {n : Int64} (h : intLiteral site range n = .ok text) :
    toString n.toInt = text := by
  unfold intLiteral at h
  split_ifs at h
  exact Except.ok.inj h

theorem plain_of_intAt {n : Int64} (hl : env.program.Unfolds ty layers root)
    (h : Answers (env.intAt site root n) text) :
    ∃ k, env.program.literalKey? ty (.int n) = some k ∧ env.Plain converted root k text := by
  rw [Program.literalKey?, hl.rootType?_eq]
  unfold intAt at h
  split at h
  · rw [if_pos rfl]
    split_ifs at h with hzero hone
    · subst hzero
      exact ⟨_, rfl, h.of_pure ▸ .truth false⟩
    · subst hone
      exact ⟨_, rfl, h.of_pure ▸ .truth true⟩
    · exact absurd h Answers.not_throw
  · exact ⟨.number n, by simp, h.of_pure ▸ .whole n⟩
  · rename_i b hbool _
    rw [if_neg (by simpa using hbool)]
    cases hrange : b.intRange? with
    | none =>
      rw [hrange] at h
      exact absurd h Answers.not_throw
    | some range =>
      rw [hrange] at h
      exact ⟨_, rfl, text_of_intLiteral h.of_lift ▸ .integer n hrange⟩
  · obtain ⟨ref, href, h⟩ := h.of_bind
    obtain ⟨type, htype, h⟩ := h.of_bind
    obtain ⟨raw, hraw, h⟩ := h.of_bind
    obtain rfl := text_of_refer htype
    obtain rfl := text_of_intLiteral hraw.of_lift
    exact ⟨.number n, by simp, h.of_pure ▸ .value n href.of_lift⟩
  · exact absurd h Answers.not_throw

theorem plain_of_doubleLiteral {d : Double} (h : Answers (env.doubleLiteral d) text) :
    ∃ k, env.program.literalKey? ty (.double d) = some k ∧ env.Plain converted (.base .double) k text := by
  have halias {path math : String} (hmath : Answers (env.package path) math) : env.aliasOf path = math := by
    obtain ⟨_, -, hmath⟩ := hmath.of_bind
    exact hmath.of_pure
  unfold doubleLiteral at h
  cases hnan : d.isNaN with
  | true =>
    rw [if_pos hnan] at h
    obtain ⟨math, hmath, h⟩ := h.of_bind
    obtain rfl := halias hmath
    exact ⟨.undefined, by simp [Program.literalKey?, hnan], h.of_pure ▸ .undefined⟩
  | false =>
    refine ⟨.double d, by simp [Program.literalKey?, hnan], ?_⟩
    rw [if_neg (by simp [hnan])] at h
    cases hfinite : d.isFinite with
    | true =>
      rw [if_pos hfinite] at h
      exact h.of_pure ▸ .finite hfinite
    | false =>
      rw [if_neg (by simp [hfinite])] at h
      obtain ⟨math, hmath, h⟩ := h.of_bind
      obtain rfl := halias hmath
      exact h.of_pure ▸ .infinite hnan hfinite

/-- The literal of a value at a scalar type writes its key. -/
theorem plain_of_literal (hr : env.Registers) (hl : env.program.Unfolds ty layers root)
    (hscalar : root.isScalar = true) (hv : v.isReference = false) (h : Answers (env.literal site root v) text) :
    ∃ k, env.program.literalKey? ty v = some k ∧ env.Plain ty.isTypedef root k text := by
  have hroot : env.layers root = .ok ([], root) := layers_eq (.stop hl.root_not_typedef)
  have hplain {x : String} (h : Answers (env.convert [] x) text) : x = text := h.of_pure
  cases v with
  | constant r => cases hv
  | bool b =>
    rw [literal, hroot, lift_ok_bind] at h
    dsimp only at h
    split at h
    · exact ⟨.truth b, rfl, hplain h ▸ .truth b⟩
    · exact absurd h Answers.not_throw
  | int n =>
    rw [literal, hroot, lift_ok_bind] at h
    obtain ⟨x, hx, h⟩ := h.of_bind
    exact hplain h ▸ plain_of_intAt hl hx
  | double d =>
    rw [literal, hroot, lift_ok_bind] at h
    dsimp only at h
    split at h
    · obtain ⟨x, hx, h⟩ := h.of_bind
      exact hplain h ▸ plain_of_doubleLiteral hx
    · exact absurd h Answers.not_throw
  | string s =>
    rw [literal, hroot, lift_ok_bind] at h
    obtain ⟨x, hx, h⟩ := h.of_bind
    obtain rfl := hplain h
    have hok := hx.of_lift
    unfold stringAt at hok
    split at hok
    · cases hok
      exact ⟨.text s, rfl, .text s⟩
    · cases hscalar
    · cases hok
  | enumItem e position =>
    rw [literal, hroot, lift_ok_bind] at h
    dsimp only at h
    split at h
    · split_ifs at h with he
      · subst he
        obtain ⟨ref, href, h⟩ := h.of_bind
        obtain ⟨x, hx, h⟩ := h.of_bind
        obtain rfl := hplain h
        obtain ⟨f, ident, hkey, hspells⟩ := namedKey?_of_enumItemRef hr href.of_lift
        exact ⟨_, hkey, .item (text_of_refer hx ▸ hspells)⟩
      · exact absurd h Answers.not_throw
    · exact absurd h Answers.not_throw
  | list items =>
    rw [literal, hroot, lift_ok_bind] at h
    dsimp only at h
    split at h
    · cases hscalar
    · cases hscalar
    · exact absurd h Answers.not_throw
  | map entries =>
    rw [literal, hroot, lift_ok_bind] at h
    dsimp only at h
    split at h
    · cases hscalar
    · cases hscalar
    · exact absurd h Answers.not_throw

/-- A conversion puts texts around an expression that do not depend on it; the last character is a parenthesis. -/
theorem convert_around (env : Env) (layers : List (Ref .typedef)) :
    ∃ opening closing : String, (∀ x text, Answers (env.convert layers x) text → text = opening ++ x ++ closing) ∧
      (layers ≠ [] → closing.toList.getLast? = some ')') := by
  induction layers with
  | nil => exact ⟨"", "", fun x text h => by simp [h.of_pure], fun h => absurd rfl h⟩
  | cons layer inner ih =>
    obtain ⟨opening, closing, haround, -⟩ := ih
    have houter {x text : String} (h : Answers (env.convert (layer :: inner) x) text) :
        ∃ t, env.goType (.typedef layer) = .ok t ∧
          text = s!"({t.text})(" ++ opening ++ x ++ (closing ++ ")") := by
      obtain ⟨expr, hexpr, h⟩ := h.of_bind
      obtain ⟨type, htype, h⟩ := h.of_bind
      obtain ⟨t, ht, rfl⟩ := typeText_eq htype
      refine ⟨t, ht, h.of_pure.symm.trans ?_⟩
      rw [haround x expr hexpr]
      show "(" ++ t.text ++ ")(" ++ (opening ++ x ++ closing) ++ ")" = _
      simp only [String.append_assoc]
      rfl
    cases htype : env.goType (.typedef layer) with
    | error e =>
      refine ⟨"", ")", fun x text h => ?_, fun _ => rfl⟩
      obtain ⟨t, ht, -⟩ := houter h
      cases htype.symm.trans ht
    | ok t =>
      refine ⟨s!"({t.text})(" ++ opening, closing ++ ")", fun x text h => ?_, fun _ => by simp⟩
      obtain ⟨t', ht, rfl⟩ := houter h
      cases htype.symm.trans ht
      rfl

/-- How a key is written at a type: a constant stands for itself, and everything else is converted to the type. No
constant begins with a small letter of ASCII. -/
inductive Spelled (env : Env) (ty : Ty) : Key → String → Prop where
  | constant {f : File} {ident text : String} : (∀ x : Char, x.isLower = true → ident.toList.head? ≠ some x) →
      env.Spells f ident text → env.Spelled ty (.named false f.importPath ident) text
  | plain {layers : List (Ref .typedef)} {root : Ty} {k : Key} {expr text : String} :
      env.program.Unfolds ty layers root → env.Plain ty.isTypedef root k expr →
      Answers (env.convert layers expr) text → env.Spelled ty k text

/-- The literal of a value whose type has keys writes its key. -/
theorem spelled_of_literal (hp : env.program.Sound) (hr : env.Registers) (hty : env.program.TypeInRange ty)
    (hscalar : env.program.isHashable? ty = some true) (h : Answers (env.literal site ty v) text) :
    ∃ k, env.program.literalKey? ty v = some k ∧ env.Spelled ty k text := by
  cases hv : v.isReference with
  | true =>
    obtain ⟨r, rfl⟩ := Value.isReference_iff.mp hv
    rw [literal] at h
    obtain ⟨ref, href, h⟩ := h.of_bind
    obtain ⟨c, f, -, hvalid, hkey, hspells⟩ := namedKey?_of_constantRef hr href.of_lift
    exact ⟨_, hkey, .constant (fun x => head?_goName_ne hvalid c.name) (text_of_refer h ▸ hspells)⟩
  | false =>
    obtain ⟨layers, root, hl⟩ := hp.unfolds hty
    rw [literal_eq hl hv] at h
    obtain ⟨expr, hexpr, h⟩ := h.of_bind
    rw [Program.isHashable?, hl.rootType?_eq] at hscalar
    obtain ⟨k, hk, hplain⟩ := plain_of_literal hr hl (Option.some.inj hscalar) hv hexpr
    exact ⟨k, hk, .plain hl hplain h⟩

/-! ### Keys and their texts -/

theorem Plain.text_eq (h : env.Plain converted root k text) (h' : env.Plain converted root k' text') (hk : k = k') :
    text = text' := by
  cases h with
  | truth | integer | whole | undefined | text => cases h' <;> cases hk <;> rfl
  | @finite d hfinite =>
    cases h' with
    | finite _ => cases hk; rfl
    | infinite _ hinfinite => cases hk; cases hfinite.symm.trans hinfinite
    | _ => cases hk
  | @infinite d _ hinfinite =>
    cases h' with
    | finite hfinite => cases hk; cases hfinite.symm.trans hinfinite
    | infinite _ _ => cases hk; rfl
    | _ => cases hk
  | item hspells =>
    cases h' with
    | item hspells' =>
      obtain ⟨-, hpath, rfl⟩ := Key.named.inj hk
      exact hspells.text_eq hspells' hpath
    | value _ _ => cases hk
  | value n href =>
    cases h' with
    | item _ => cases hk
    | value n' href' =>
      cases hk
      cases href.symm.trans href'
      rfl

/-- A constant is written like no other key. -/
theorem Plain.ne_constant (h : env.Plain converted root k text) {f : File} {ident name : String}
    (hname : env.Spells f ident name) (hident : isIdentifier ident = true)
    (hlower : ∀ x : Char, x.isLower = true → ident.toList.head? ≠ some x)
    (hk : ∀ converted path ident, k ≠ .named converted path ident) : name ≠ text := by
  have hinteger (n : Int64) : name ≠ toString n.toInt := by
    rintro rfl
    rcases hname.form hident with rfl | hselector
    · exact not_isIdentifier_toString _ hident
    · exact not_endsInSelector_toString _ hselector
  cases h with
  | truth b =>
    rintro rfl
    have hpoint : '.' ∉ (toString b).toList := by cases b <;> decide
    rcases hname.form hident with rfl | hselector
    · cases b with
      | true => exact hlower 't' rfl rfl
      | false => exact hlower 'f' rfl rfl
    · exact not_endsInSelector_of_notMem hpoint hselector
  | integer n _ | whole n => exact hinteger n
  | finite hfinite =>
    rintro rfl
    rcases hname.form hident with rfl | hselector
    · exact not_isIdentifier_text hfinite hident
    · exact not_endsInSelector_text hfinite hselector
  | infinite _ _ | value _ _ => exact hname.ne_of_getLast? hident (getLast?_closing _) (by decide) (by decide)
  | undefined => exact hname.ne_of_getLast? hident (x := ')') (by simp) (by decide) (by decide)
  | text s =>
    refine hname.ne_of_getLast? hident (x := '"') ?_ (by decide) (by decide)
    rw [toList_quote, ← List.cons_append]
    exact List.getLast?_concat
  | item _ => exact absurd rfl (hk _ _ _)

theorem toString_number_inj {n n' : Int64} (h : toString n.toInt = toString n'.toInt) : n = n' :=
  Int64.toInt_inj.mp (toString_int_injective h)

theorem endsInSelector_infinite (math : String) (negative : Bool) :
    EndsInSelector (math ++ ".Inf(" ++ (if negative then "-1" else "1") ++ ")") := by
  cases negative with
  | true => exact ⟨math.toList, 'I', "nf(-1)".toList, by simp, by decide, rfl⟩
  | false => exact ⟨math.toList, 'I', "nf(1)".toList, by simp, by decide, rfl⟩

theorem endsInSelector_undefined (math : String) : EndsInSelector (math ++ ".NaN()") :=
  ⟨math.toList, 'N', "aN()".toList, by simp, by decide, rfl⟩

theorem infinite_ne_undefined (math : String) (negative : Bool) :
    math ++ ".Inf(" ++ (if negative then "-1" else "1") ++ ")" ≠ math ++ ".NaN()" := by
  simp only [String.append_assoc, ne_eq, String.append_right_inj]
  cases negative <;> decide

theorem infinite_inj {math : String} {negative negative' : Bool}
    (h : math ++ ".Inf(" ++ (if negative then "-1" else "1") ++ ")" =
      math ++ ".Inf(" ++ (if negative' then "-1" else "1") ++ ")") : negative = negative' := by
  simp only [String.append_assoc, String.append_right_inj] at h
  revert h
  cases negative <;> cases negative' <;> decide

/-- At the type of doubles, keys with one text are the same. -/
theorem Plain.double_eq (h : env.Plain converted (.base .double) k text)
    (h' : env.Plain converted (.base .double) k' text') (heq : text = text') : k = k' := by
  cases h with
  | integer n hrange => cases hrange
  | whole n =>
    cases h' with
    | integer n' hrange => cases hrange
    | whole n' => rw [toString_number_inj heq]
    | finite hd => exact absurd heq.symm (text_ne_toString hd _)
    | infinite _ _ => exact absurd (heq ▸ endsInSelector_infinite _ _) (not_endsInSelector_toString _)
    | undefined => exact absurd (heq ▸ endsInSelector_undefined _) (not_endsInSelector_toString _)
  | finite hd =>
    cases h' with
    | integer n' hrange => cases hrange
    | whole n' => exact absurd heq (text_ne_toString hd _)
    | finite hd' => rw [(Decimal.text_inj hd hd').mp heq]
    | infinite _ _ => exact absurd (heq ▸ endsInSelector_infinite _ _) (not_endsInSelector_text hd)
    | undefined => exact absurd (heq ▸ endsInSelector_undefined _) (not_endsInSelector_text hd)
  | infinite hnan hinfinite =>
    cases h' with
    | integer n' hrange => cases hrange
    | whole n' => exact absurd (heq ▸ endsInSelector_infinite _ _) (not_endsInSelector_toString _)
    | finite hd => exact absurd (heq ▸ endsInSelector_infinite _ _) (not_endsInSelector_text hd)
    | infinite hnan' hinfinite' => rw [eq_of_infinite hnan hinfinite hnan' hinfinite' (infinite_inj heq)]
    | undefined => exact absurd heq (infinite_ne_undefined _ _)
  | undefined =>
    cases h' with
    | integer n' hrange => cases hrange
    | whole n' => exact absurd (heq ▸ endsInSelector_undefined _) (not_endsInSelector_toString _)
    | finite hd => exact absurd (heq ▸ endsInSelector_undefined _) (not_endsInSelector_text hd)
    | infinite _ _ => exact absurd heq.symm (infinite_ne_undefined _ _)
    | undefined => rfl

/-- Keys with one text are the same, if the names among them are identifiers. -/
theorem Plain.key_eq (hone : OneToOne env.packages) (h : env.Plain converted root k text)
    (h' : env.Plain converted root k' text') (hk : k.WellNamed) (hk' : k'.WellNamed) (heq : text = text') : k = k' := by
  cases root with
  | base b =>
    cases b with
    | double => exact h.double_eq h' heq
    | bool =>
      cases h with
      | integer n hrange => cases hrange
      | truth b =>
        cases h' with
        | integer n hrange => cases hrange
        | truth b' =>
          revert heq
          cases b <;> cases b' <;> decide
    | string =>
      cases h with
      | integer n hrange => cases hrange
      | text s =>
        cases h' with
        | integer n hrange => cases hrange
        | text s' => rw [quote_inj.mp heq]
    | i8 | i16 | i32 | i64 | binary =>
      cases h with
      | integer n _ =>
        cases h' with
        | integer n' _ => rw [toString_number_inj heq]
  | enum r =>
    cases h with
    | item hspells =>
      cases h' with
      | item hspells' =>
        obtain ⟨hpath, rfl⟩ := hspells.name_eq hone hspells' hk hk' heq
        rw [hpath]
      | value n _ => exact absurd heq (hspells.ne_of_getLast? hk (getLast?_closing _) (by decide) (by decide))
    | value n href =>
      cases h' with
      | item hspells =>
        exact absurd heq.symm (hspells.ne_of_getLast? hk' (getLast?_closing _) (by decide) (by decide))
      | value n' href' =>
        cases href.symm.trans href'
        simp only [String.append_assoc, String.append_right_inj, String.append_left_inj] at heq
        rw [toString_number_inj heq]
  | _ => cases h

/-- An expression is converted to a typedef by a call, and to another type it is not converted. -/
theorem converted_form (hl : env.program.Unfolds ty layers root) {expr : String}
    (h : Answers (env.convert layers expr) text) :
    ty.isTypedef = false ∧ text = expr ∨ ty.isTypedef = true ∧ text.toList.getLast? = some ')' := by
  cases hl with
  | stop hty => exact .inl ⟨hty, h.of_pure.symm⟩
  | @layer r _ layers _ _ _ =>
    obtain ⟨opening, closing, haround, hclosing⟩ := convert_around env (r :: layers)
    have hlast := hclosing (List.cons_ne_nil r layers)
    have hne : closing.toList ≠ [] := by
      intro hnil
      rw [hnil] at hlast
      cases hlast
    refine .inr ⟨rfl, ?_⟩
    rw [haround expr text h, String.toList_append, List.getLast?_append_of_ne_nil _ hne, hlast]

/-- Where a constant and an expression of the type are the same key, they have one text. -/
theorem Spells.text_eq_plain {f : File} {ident name expr : String} (hname : env.Spells f ident name)
    (hl : env.program.Unfolds ty layers root) (hplain : env.Plain ty.isTypedef root k expr)
    (htext : Answers (env.convert layers expr) text) (hk : .named false f.importPath ident = k) : name = text := by
  rcases converted_form hl htext with ⟨hty, rfl⟩ | ⟨hty, -⟩
  · rw [hty] at hplain
    cases hplain with
    | item hname' =>
      obtain ⟨-, hpath, rfl⟩ := Key.named.inj hk
      exact hname.text_eq hname' hpath
    | _ => cases hk
  · rw [hty] at hplain
    cases hplain <;> cases hk

/-- Where a constant and an expression of the type have one text, they are the same key. -/
theorem Spells.key_eq_plain (hone : OneToOne env.packages) {f : File} {ident name expr : String}
    (hlower : ∀ x : Char, x.isLower = true → ident.toList.head? ≠ some x) (hname : env.Spells f ident name)
    (hl : env.program.Unfolds ty layers root) (hplain : env.Plain ty.isTypedef root k expr)
    (htext : Answers (env.convert layers expr) text) (hident : isIdentifier ident = true) (hk : k.WellNamed)
    (heq : name = text) : .named false f.importPath ident = k := by
  rcases converted_form hl htext with ⟨hty, rfl⟩ | ⟨-, hlast⟩
  · rw [hty] at hplain
    cases k with
    | named converted path ident' =>
      cases hplain with
      | item hname' =>
        obtain ⟨hpath, rfl⟩ := hname.name_eq hone hname' hident hk heq
        rw [hpath]
    | _ => exact absurd heq (hplain.ne_constant hname hident hlower nofun)
  · exact absurd heq (hname.ne_of_getLast? hident hlast (by decide) (by decide))

/-- A key has one text. -/
theorem Spelled.text_eq (h : env.Spelled ty k text) (h' : env.Spelled ty k' text') (hk : k = k') : text = text' := by
  cases h with
  | constant _ hname =>
    cases h' with
    | constant _ hname' =>
      obtain ⟨-, hpath, rfl⟩ := Key.named.inj hk
      exact hname.text_eq hname' hpath
    | plain hl hplain htext => exact hname.text_eq_plain hl hplain htext hk
  | @plain layers root _ expr _ hl hplain htext =>
    cases h' with
    | constant _ hname => exact (hname.text_eq_plain hl hplain htext hk.symm).symm
    | plain hl' hplain' htext' =>
      obtain ⟨rfl, rfl⟩ := hl.unique hl'
      obtain ⟨opening, closing, haround, -⟩ := convert_around env layers
      rw [haround _ _ htext, haround _ _ htext', hplain.text_eq hplain' hk]

/-- A text is that of one key, if the names among the keys are identifiers. -/
theorem Spelled.key_eq (hone : OneToOne env.packages) (h : env.Spelled ty k text) (h' : env.Spelled ty k' text')
    (hk : k.WellNamed) (hk' : k'.WellNamed) (heq : text = text') : k = k' := by
  cases h with
  | constant hlower hname =>
    cases h' with
    | constant _ hname' =>
      obtain ⟨hpath, rfl⟩ := hname.name_eq hone hname' hk hk' heq
      rw [hpath]
    | plain hl hplain htext => exact hname.key_eq_plain hone hlower hl hplain htext hk hk' heq
  | @plain layers root _ expr _ hl hplain htext =>
    cases h' with
    | constant hlower hname => exact (hname.key_eq_plain hone hlower hl hplain htext hk' hk heq.symm).symm
    | plain hl' hplain' htext' =>
      obtain ⟨rfl, rfl⟩ := hl.unique hl'
      obtain ⟨opening, closing, haround, -⟩ := convert_around env layers
      rw [haround _ _ htext, haround _ _ htext', String.append_left_inj, String.append_right_inj] at heq
      exact hplain.key_eq hone hplain' hk hk' heq

end Env

end GoSchema
