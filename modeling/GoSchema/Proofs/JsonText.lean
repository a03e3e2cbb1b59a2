import GoSchema.Document.Json
import Mathlib.Data.List.Forall2
import Mathlib.Data.List.TakeWhile

/-!
# JSON texts

What is written can be read: the text of a document of scalars, texts, sequences and maps gives back the document
(`Json.read?_write`). A string is given back because each character is read as one piece, and a number or literal
because the character behind it cannot belong to it. The reader never runs out of calls: a document takes fewer
of them than its text has characters, twice over.

## What is proved

* `Json.pieces?_encode`: a written string is read up to its closing quote, and as the characters that were written.
* `Json.integer?_toString` and `Json.number?_numeral`: a written integer is a number without fraction and exponent,
  and is read as itself.
* `Json.items?_chars` and `Json.entries?_chars`: sequences and maps are read item by item, each of which leaves
  what closes it.
* `Json.read?_write`: a document is read back from its text, if it is `Writable`.

Other texts of the same document are read as well, with blanks, other escapes and other forms of numbers. They are
not the subject here; the reader is followed only on what the writer gives.
-/

namespace GoSchema.Json

/-! ### Strings -/

/-- The characters that are written as a backslash and a letter or sign. -/
def lettered : List (Char × Char) :=
  [('"', '"'), ('\\', '\\'), ('\n', 'n'), ('\r', 'r'), ('\t', 't'), ('\x08', 'b'), ('\x0c', 'f')]

theorem encodeChar_lettered :
    ∀ p ∈ lettered, p.2 ≠ 'u' ∧ escape? p.2 = some p.1 ∧ encodeChar p.1 = ['\\', p.2] := by
  decide

/-- The three ways to write a character: by a letter, by its number, or as it is. -/
theorem encodeChar_cases (c : Char) :
    (∃ e, e ≠ 'u' ∧ escape? e = some c ∧ encodeChar c = ['\\', e]) ∨
    (c.toNat < 32 ∧
      encodeChar c = ['\\', 'u', '0', '0', Nat.digitChar (c.toNat / 16), Nat.digitChar (c.toNat % 16)]) ∨
    (¬ c.toNat < 32 ∧ c ≠ '"' ∧ c ≠ '\\' ∧ encodeChar c = [c]) := by
  by_cases hletter : ∃ e, (c, e) ∈ lettered
  · obtain ⟨e, he⟩ := hletter
    exact .inl ⟨e, encodeChar_lettered _ he⟩
  · have hne : ∀ p ∈ lettered, c ≠ p.1 := fun p hp heq => hletter ⟨p.2, heq ▸ hp⟩
    simp only [lettered, List.forall_mem_cons] at hne
    obtain ⟨hquote, hslash, hn, hr, ht, hb, hf, -⟩ := hne
    have hplain : encodeChar c = if c.toNat < 32 then
        ['\\', 'u', '0', '0', Nat.digitChar (c.toNat / 16), Nat.digitChar (c.toNat % 16)] else [c] := by
      rw [encodeChar, if_neg hquote, if_neg hslash, if_neg hn, if_neg hr, if_neg ht, if_neg hb, if_neg hf]
    rw [hplain]
    by_cases hcontrol : c.toNat < 32
    · exact .inr (.inl ⟨hcontrol, if_pos hcontrol⟩)
    · exact .inr (.inr ⟨hcontrol, hquote, hslash, if_neg hcontrol⟩)

theorem hexValue?_digitChar : ∀ n < 16, hexValue? (Nat.digitChar n) = some n := by decide

theorem unit?_digitChar {n : Nat} (h : n < 256) :
    unit? '0' '0' (Nat.digitChar (n / 16)) (Nat.digitChar (n % 16)) = some n := by
  have hzero : hexValue? '0' = some 0 := by decide
  have hhigh := hexValue?_digitChar (n / 16) (by omega)
  have hlow := hexValue?_digitChar (n % 16) (by omega)
  simp only [unit?, hzero, hhigh, hlow, Option.bind_eq_bind, Option.bind_some, Option.pure_def, Option.some.injEq]
  omega

/-- A piece that stands for a character: the character itself, or its number if it is a control. -/
def Piece.StandsFor (p : Piece) (c : Char) : Prop := p = .char c ∨ p = .unit c.toNat ∧ c.toNat < 32

/-- A written character is read as one piece that stands for it. -/
theorem exists_piece (c : Char) (rest : List Char) :
    ∃ p : Piece, p.StandsFor c ∧
      pieces? (encodeChar c ++ rest) = (pieces? rest).map fun r => (p :: r.1, r.2) := by
  rcases encodeChar_cases c with ⟨e, hu, hescape, hc⟩ | ⟨hcontrol, hc⟩ | ⟨hcontrol, hquote, hslash, hc⟩
  · refine ⟨.char c, .inl rfl, ?_⟩
    rw [hc, List.cons_append, List.cons_append, List.nil_append, pieces?, hescape]
    · cases pieces? rest <;> rfl
    · exact fun _ _ _ _ _ h _ => hu h
  · refine ⟨.unit c.toNat, .inr ⟨rfl, hcontrol⟩, ?_⟩
    simp only [hc, List.cons_append, List.nil_append, pieces?, unit?_digitChar (n := c.toNat) (by omega)]
    cases pieces? rest <;> rfl
  · refine ⟨.char c, .inl rfl, ?_⟩
    rw [hc, List.singleton_append, pieces?, if_neg (not_or.mpr ⟨hcontrol, hslash⟩)]
    · cases pieces? rest <;> rfl
    · exact fun h => hquote h
    · exact fun _ _ _ _ _ h _ => hslash h
    · exact fun _ _ h _ => hslash h

theorem exists_pieces (cs rest : List Char) :
    ∃ ps, List.Forall₂ Piece.StandsFor ps cs ∧
      pieces? (cs.flatMap encodeChar ++ '"' :: rest) = some (ps, rest) := by
  induction cs with
  | nil => exact ⟨[], .nil, rfl⟩
  | cons c cs ih =>
    obtain ⟨ps, hps, hread⟩ := ih
    obtain ⟨p, hp, hpiece⟩ := exists_piece c (cs.flatMap encodeChar ++ '"' :: rest)
    refine ⟨p :: ps, .cons hp hps, ?_⟩
    rw [List.flatMap_cons, List.append_assoc, hpiece, hread]
    rfl

/-- Pieces that stand for characters are read as these characters. -/
theorem chars?_of_standFor {ps : List Piece} {cs : List Char} (h : List.Forall₂ Piece.StandsFor ps cs) :
    chars? ps = some cs := by
  induction h with
  | nil => rfl
  | @cons p c ps cs hp _ ih =>
    rcases hp with rfl | ⟨rfl, hcontrol⟩
    · rw [chars?, ih]
      rfl
    · -- A control is no half of a surrogate pair, whatever follows it.
      have hchar : Char.ofNat c.toNat = c := Char.ofNat_toNat c
      cases ps with
      | nil =>
        rw [chars?, if_neg (by omega), ih, hchar]
        · rfl
        · simp
      | cons q ps =>
        cases q with
        | char d =>
          rw [chars?, if_neg (by omega), ih, hchar]
          · rfl
          · simp
        | unit lo =>
          rw [chars?, if_neg (by omega), if_neg (by omega), ih, hchar]
          rfl

/-- A written string is read up to its closing quote. -/
theorem pieces?_encode (s : String) (rest : List Char) :
    ∃ ps, pieces? (s.toList.flatMap encodeChar ++ '"' :: rest) = some (ps, rest) ∧ stringNode ps = .quoted s := by
  obtain ⟨ps, hps, hread⟩ := exists_pieces s.toList rest
  refine ⟨ps, hread, ?_⟩
  rw [stringNode, chars?_of_standFor hps]
  dsimp only
  rw [String.ofList_toList]

/-! ### Integers -/

/-- The digits of a number without leading zeros. -/
structure IsNumeral (ds : List Char) : Prop where
  digits : ∀ c ∈ ds, c.isDigit = true
  nonempty : ds ≠ []
  leading : ds.head? = some '0' → ds.length = 1

theorem head?_toDigits_ne (n : Nat) (h : 0 < n) : (Nat.toDigits 10 n).head? ≠ some '0' := by
  have hdigit : ∀ d < 10, 0 < d → Nat.digitChar d ≠ '0' := by decide
  induction n using Nat.strongRecOn with
  | ind n ih =>
    by_cases hlt : n < 10
    · rw [Nat.toDigits_of_lt_base hlt]
      simpa using hdigit n hlt h
    · rw [Nat.toDigits_of_base_le (by decide) (by omega)]
      have hrest := ih (n / 10) (by omega) (by omega)
      have hne : Nat.toDigits 10 (n / 10) ≠ [] := Nat.toDigits_ne_nil
      rwa [List.head?_append_of_ne_nil _ hne]

theorem isNumeral_toDigits (n : Nat) : IsNumeral (Nat.toDigits 10 n) := by
  refine ⟨fun c hc => Nat.isDigit_of_mem_toDigits (by decide) (by decide) hc, Nat.toDigits_ne_nil, fun h => ?_⟩
  rcases Nat.eq_zero_or_pos n with rfl | hpos
  · rfl
  · exact absurd h (head?_toDigits_ne n hpos)

theorem IsNumeral.head_isDigit {ds : List Char} (h : IsNumeral ds) : ∃ c cs, ds = c :: cs ∧ c.isDigit = true := by
  cases ds with
  | nil => exact absurd rfl h.nonempty
  | cons c cs => exact ⟨c, cs, rfl, h.digits c List.mem_cons_self⟩

/-- A numeral, with or without a sign, is a number without fraction and exponent. -/
theorem number?_numeral {ds : List Char} (h : IsNumeral ds) (negative : Bool) :
    number? (String.ofList ((if negative then ['-'] else []) ++ ds)) = some ⟨negative, ⟨ds, [], 0⟩, true⟩ := by
  obtain ⟨c, cs, rfl, hc⟩ := h.head_isDigit
  have htake : (c :: cs).takeWhile Char.isDigit = c :: cs := by
    rw [List.takeWhile_eq_self_iff]
    exact h.digits
  have hdrop : (c :: cs).dropWhile Char.isDigit = [] := by
    rw [List.dropWhile_eq_nil_iff]
    exact h.digits
  have hguard : ¬ ((c :: cs).isEmpty || decide ((c :: cs).head? = some '0') && decide ((c :: cs).length ≠ 1)) = true := by
    simpa using h.leading
  have hsign : c ≠ '-' := by
    rintro rfl
    exact absurd hc (by decide)
  cases negative with
  | true =>
    simp only [number?, if_true, List.cons_append, List.nil_append, String.toList_ofList, htake, hdrop]
    rw [if_neg hguard]
    rfl
  | false =>
    simp only [number?, Bool.false_eq_true, if_false, List.nil_append, String.toList_ofList]
    split
    · next heq => exact absurd (List.cons.inj heq).1 hsign
    · simp only [htake, hdrop]
      rw [if_neg hguard]
      rfl

theorem toList_toString_int (n : Int) :
    (toString n).toList = (if decide (n < 0) then ['-'] else []) ++ Nat.toDigits 10 n.natAbs := by
  rw [Int.toString_eq_repr]
  cases n with
  | ofNat k =>
    have hsign : ¬ (Int.ofNat k < 0) := by simp
    rw [decide_eq_false hsign, Int.repr, Nat.repr_eq_ofList_toDigits, String.toList_ofList]
    rfl
  | negSucc k =>
    rw [decide_eq_true (Int.negSucc_lt_zero k), Int.repr, String.toList_append, Nat.repr_eq_ofList_toDigits,
      @String.toList_ofList (Nat.toDigits 10 k.succ)]
    rfl

theorem readDigits_toDigits (n : Nat) : Decimal.readDigits (Nat.toDigits 10 n) = n :=
  Nat.ofDigitChars_ten_toDigits

theorem number?_toString (n : Int) :
    number? (toString n) = some ⟨decide (n < 0), ⟨Nat.toDigits 10 n.natAbs, [], 0⟩, true⟩ := by
  rw [← String.ofList_toList (s := toString n), toList_toString_int]
  exact number?_numeral (isNumeral_toDigits _) _

/-- An integer of 64 bits, with or without sign, is read as itself. -/
theorem integer?_toString {n : Int} (hlow : -(1 <<< 63 : Nat) ≤ n) (hhigh : n ≤ Decimal.greatestWord) :
    integer? (toString n) = some n := by
  simp only [integer?, number?_toString, readDigits_toDigits, Option.bind_eq_bind, Option.bind_some, Bool.not_true,
    Bool.false_eq_true, if_false, decide_eq_true_eq]
  split_ifs with hneg hrange hrange
  · omega
  · exact congrArg some (by omega)
  · exact congrArg some (by omega)
  · omega

theorem natural?_toString {n : Nat} (h : n ≤ Decimal.greatestWord) : natural? (toString (n : Int)) = some n := by
  rw [natural?, integer?_toString (by omega) (by omega)]
  simp

/-! ### Documents -/

/-- A document that a JSON text can hold: its plain scalars are numbers and literals, the keys of its maps are
texts, and it has neither tags nor links. -/
inductive Writable : Node → Prop where
  | plain {text : String} (hscalar : isScalar text = true) (hchars : ∀ c ∈ text.toList, isScalarChar c = true) :
    Writable (.plain text)
  | quoted (text : String) : Writable (.quoted text)
  | seq {items : List Node} (h : ∀ n ∈ items, Writable n) : Writable (.seq items)
  | map {entries : List (Node × Node)} (hkeys : ∀ e ∈ entries, ∃ key, e.1 = .quoted key)
      (hvalues : ∀ e ∈ entries, Writable e.2) : Writable (.map entries)

/-- The characters of a written document. -/
def chars (n : Node) : List Char := (write n).toList

/-- The characters of a written entry. -/
def entryChars (e : Node × Node) : List Char := chars e.1 ++ ':' :: chars e.2

theorem writeItems_eq (items : List Node) : writeItems items = items.map write := by
  induction items with
  | nil => rfl
  | cons n ns ih => rw [writeItems, ih, List.map_cons]

theorem writeEntries_eq (entries : List (Node × Node)) :
    writeEntries entries = entries.map fun e => write e.1 ++ ":" ++ write e.2 := by
  induction entries with
  | nil => rfl
  | cons e es ih => rw [writeEntries, ih, List.map_cons]

theorem chars_quoted (text : String) : chars (.quoted text) = '"' :: (text.toList.flatMap encodeChar ++ ['"']) := by
  simp [chars, write, encode]

theorem chars_seq (items : List Node) :
    chars (.seq items) = '[' :: ([','].intercalate (items.map chars) ++ [']']) := by
  rw [chars, write, writeItems_eq, String.toList_append, String.toList_append, String.toList_intercalate, List.map_map]
  rfl

theorem chars_map (entries : List (Node × Node)) :
    chars (.map entries) = '\x7b' :: ([','].intercalate (entries.map entryChars) ++ ['\x7d']) := by
  have hentry : String.toList ∘ (fun e : Node × Node => write e.1 ++ ":" ++ write e.2) = entryChars := by
    funext e
    simp [entryChars, chars]
  rw [chars, write, writeEntries_eq, String.toList_append, String.toList_append, String.toList_intercalate,
    List.map_map, hentry]
  rfl

/-- What follows a document does not go on with a number or literal. -/
def Closed (rest : List Char) : Prop := ∀ c, rest.head? = some c → isScalarChar c = false

/-- A document that is read from its text, whatever closed text follows, if enough calls are left. -/
def ReadsBack (n : Node) : Prop :=
  ∀ (fuel : Nat) (rest : List Char), 2 * (chars n).length ≤ fuel + 1 → Closed rest →
    node? fuel (chars n ++ rest) = some (n, rest)

theorem closed_nil : Closed [] := by simp [Closed]

theorem closed_cons {c : Char} (h : isScalarChar c = false) (rest : List Char) : Closed (c :: rest) := by
  simpa [Closed] using h

theorem isScalarChar_ne {c : Char} (h : isScalarChar c = true) :
    isBlank c = false ∧ c ≠ '[' ∧ c ≠ ']' ∧ c ≠ '\x7b' ∧ c ≠ '"' := by
  refine ⟨?_, ?_, ?_, ?_, ?_⟩
  · by_contra hblank
    rw [Bool.not_eq_false, isBlank] at hblank
    simp only [Bool.or_eq_true, decide_eq_true_eq] at hblank
    rcases hblank with ((rfl | rfl) | rfl) | rfl <;> exact absurd h (by decide)
  all_goals
    rintro rfl
    exact absurd h (by decide)

theorem skipBlank_cons {c : Char} (h : isBlank c = false) (cs : List Char) : skipBlank (c :: cs) = c :: cs := by
  simp [skipBlank, h]

/-- A written document begins with a character that is neither a blank nor a closing bracket. -/
theorem Writable.exists_head {n : Node} (h : Writable n) :
    ∃ c cs, chars n = c :: cs ∧ isBlank c = false ∧ c ≠ ']' := by
  cases h with
  | @plain text hscalar hchars =>
    cases hlist : text.toList with
    | nil =>
      have hempty : text = "" := String.toList_eq_nil_iff.mp hlist
      rw [hempty] at hscalar
      exact absurd hscalar (by decide)
    | cons c cs =>
      have hne := isScalarChar_ne (hchars c (by simp [hlist]))
      exact ⟨c, cs, hlist, hne.1, hne.2.2.1⟩
  | quoted text => exact ⟨'"', _, chars_quoted text, by decide, by decide⟩
  | seq _ => exact ⟨'[', _, chars_seq _, by decide, by decide⟩
  | map _ _ => exact ⟨'\x7b', _, chars_map _, by decide, by decide⟩

/-! ### What the reader does at each kind of document -/

theorem node?_string (fuel : Nat) (cs : List Char) :
    node? (fuel + 1) ('"' :: cs) = (pieces? cs).bind fun r => some (stringNode r.1, r.2) := rfl

theorem node?_emptySeq (fuel : Nat) (rest : List Char) :
    node? (fuel + 1) ('[' :: ']' :: rest) = some (.seq [], rest) := rfl

theorem node?_emptyMap (fuel : Nat) (rest : List Char) :
    node? (fuel + 1) ('\x7b' :: '\x7d' :: rest) = some (.map [], rest) := rfl

theorem node?_seq (fuel : Nat) {c : Char} (cs : List Char) (hblank : isBlank c = false) (hc : c ≠ ']') :
    node? (fuel + 1) ('[' :: c :: cs) = (items? fuel (c :: cs)).bind fun r => some (.seq r.1, r.2) := by
  have hopen : skipBlank ('[' :: c :: cs) = '[' :: c :: cs := rfl
  simp only [node?, hopen, skipBlank_cons hblank]
  split
  · next heq => exact absurd (List.cons.inj heq).1 hc
  · rfl

theorem node?_map (fuel : Nat) (cs : List Char) :
    node? (fuel + 1) ('\x7b' :: '"' :: cs) = (entries? fuel ('"' :: cs)).bind fun r => some (.map r.1, r.2) := rfl

theorem node?_scalar (fuel : Nat) {c : Char} (cs : List Char) (hc : isScalarChar c = true) :
    node? (fuel + 1) (c :: cs) =
      if isScalar (String.ofList ((c :: cs).takeWhile isScalarChar)) then
        some (.plain (String.ofList ((c :: cs).takeWhile isScalarChar)), (c :: cs).dropWhile isScalarChar)
      else none := by
  obtain ⟨hblank, hbracket, -, hbrace, hquote⟩ := isScalarChar_ne hc
  rw [node?, skipBlank_cons hblank]
  split
  · next heq => exact absurd (List.cons.inj heq).1 hbracket
  · next heq => exact absurd (List.cons.inj heq).1 hbrace
  · next heq => exact absurd (List.cons.inj heq).1 hquote
  · rfl

theorem items?_cons (fuel : Nat) (cs : List Char) {item : Node} {rest : List Char}
    (h : node? fuel cs = some (item, ',' :: rest)) :
    items? (fuel + 1) cs = (items? fuel rest).bind fun r => some (item :: r.1, r.2) := by
  rw [items?, h]
  rfl

theorem items?_last (fuel : Nat) (cs : List Char) {item : Node} {rest : List Char}
    (h : node? fuel cs = some (item, ']' :: rest)) : items? (fuel + 1) cs = some ([item], rest) := by
  rw [items?, h]
  rfl

theorem entries?_cons (fuel : Nat) {cs : List Char} {ps : List Piece} {after rest : List Char} {value : Node}
    (hkey : pieces? cs = some (ps, ':' :: after)) (hvalue : node? fuel after = some (value, ',' :: rest)) :
    entries? (fuel + 1) ('"' :: cs) =
      (entries? fuel rest).bind fun r => some ((stringNode ps, value) :: r.1, r.2) := by
  have hopen : skipBlank ('"' :: cs) = '"' :: cs := rfl
  have hcolon : skipBlank (':' :: after) = ':' :: after := rfl
  have hcomma : skipBlank (',' :: rest) = ',' :: rest := rfl
  simp only [entries?, hopen, hkey, hcolon, hvalue, hcomma, Option.bind_eq_bind, Option.bind_some]
  rfl

theorem entries?_last (fuel : Nat) {cs : List Char} {ps : List Piece} {after rest : List Char} {value : Node}
    (hkey : pieces? cs = some (ps, ':' :: after)) (hvalue : node? fuel after = some (value, '\x7d' :: rest)) :
    entries? (fuel + 1) ('"' :: cs) = some ([(stringNode ps, value)], rest) := by
  have hopen : skipBlank ('"' :: cs) = '"' :: cs := rfl
  have hcolon : skipBlank (':' :: after) = ':' :: after := rfl
  have hclose : skipBlank ('\x7d' :: rest) = '\x7d' :: rest := rfl
  simp only [entries?, hopen, hkey, hcolon, hvalue, hclose, Option.bind_eq_bind, Option.bind_some]
  rfl

/-! ### Reading what was written -/

theorem readsBack_plain {text : String} (hscalar : isScalar text = true)
    (hchars : ∀ c ∈ text.toList, isScalarChar c = true) : ReadsBack (.plain text) := by
  intro fuel rest hfuel hrest
  obtain ⟨c, cs, hlist, -⟩ := (Writable.plain hscalar hchars).exists_head
  have htext : chars (.plain text) = text.toList := rfl
  obtain ⟨fuel, rfl⟩ : ∃ f, fuel = f + 1 := ⟨fuel - 1, by simp [hlist] at hfuel; omega⟩
  have htake : (chars (.plain text) ++ rest).takeWhile isScalarChar = text.toList := by
    rw [htext, List.takeWhile_append_of_pos hchars]
    cases rest with
    | nil => simp
    | cons d ds => simp [hrest d rfl]
  have hdrop : (chars (.plain text) ++ rest).dropWhile isScalarChar = rest := by
    rw [htext, List.dropWhile_append_of_pos hchars]
    cases rest with
    | nil => rfl
    | cons d ds => simp [hrest d rfl]
  rw [hlist, List.cons_append] at htake hdrop ⊢
  rw [node?_scalar fuel _ (hchars c (by rw [← htext, hlist]; exact List.mem_cons_self)), htake, hdrop, String.ofList_toList, if_pos hscalar]

theorem readsBack_quoted (text : String) : ReadsBack (.quoted text) := by
  intro fuel rest hfuel _
  obtain ⟨fuel, rfl⟩ : ∃ f, fuel = f + 1 := ⟨fuel - 1, by simp [chars_quoted] at hfuel; omega⟩
  obtain ⟨ps, hread, hnode⟩ := pieces?_encode text rest
  rw [chars_quoted, List.cons_append, List.append_assoc, List.singleton_append, node?_string, hread, Option.bind_some,
    hnode]

theorem Writable.length_pos {n : Node} (h : Writable n) : 0 < (chars n).length := by
  obtain ⟨c, cs, hchars, -⟩ := h.exists_head
  simp [hchars]

/-- Items are read one by one: by induction on them, each of which leaves its comma or the bracket. -/
theorem items?_chars {items : List Node} (hne : items ≠ []) (hw : ∀ n ∈ items, Writable n)
    (h : ∀ n ∈ items, ReadsBack n) (fuel : Nat) (rest : List Char)
    (hfuel : 2 * ([','].intercalate (items.map chars)).length ≤ fuel) :
    items? fuel ([','].intercalate (items.map chars) ++ ']' :: rest) = some (items, rest) := by
  induction items generalizing fuel with
  | nil => exact absurd rfl hne
  | cons n ns ih =>
    have hpos := (hw n List.mem_cons_self).length_pos
    have hn := h n List.mem_cons_self
    cases ns with
    | nil =>
      rw [List.map_singleton, List.intercalate_singleton] at hfuel ⊢
      obtain ⟨fuel, rfl⟩ : ∃ f, fuel = f + 1 := ⟨fuel - 1, by omega⟩
      exact items?_last fuel _ (hn fuel _ hfuel (closed_cons (by decide) rest))
    | cons m ns =>
      rw [List.map_cons, List.map_cons, List.intercalate_cons_cons, ← List.map_cons] at hfuel ⊢
      simp only [List.length_append, List.length_singleton] at hfuel
      obtain ⟨fuel, rfl⟩ : ∃ f, fuel = f + 1 := ⟨fuel - 1, by omega⟩
      have hrest := ih (by simp) (fun k hk => hw k (List.mem_cons_of_mem _ hk))
        (fun k hk => h k (List.mem_cons_of_mem _ hk)) fuel (by omega)
      have hfirst := hn fuel (',' :: ([','].intercalate ((m :: ns).map chars) ++ ']' :: rest)) (by omega)
        (closed_cons (by decide) _)
      rw [List.append_assoc, List.append_assoc, List.singleton_append, items?_cons fuel _ hfirst, hrest]
      rfl

theorem readsBack_seq {items : List Node} (hw : ∀ n ∈ items, Writable n) (h : ∀ n ∈ items, ReadsBack n) :
    ReadsBack (.seq items) := by
  intro fuel rest hfuel _
  rw [chars_seq] at hfuel ⊢
  simp only [List.length_cons, List.length_append, List.length_nil] at hfuel
  obtain ⟨fuel, rfl⟩ : ∃ f, fuel = f + 1 := ⟨fuel - 1, by omega⟩
  rw [List.cons_append, List.append_assoc, List.singleton_append]
  cases items with
  | nil => exact node?_emptySeq fuel rest
  | cons n ns =>
    have hitems := items?_chars (by simp) hw h fuel rest (by omega)
    obtain ⟨c, cs, hchars, hblank, hc⟩ := (hw n List.mem_cons_self).exists_head
    obtain ⟨tail, htail⟩ : ∃ tail, [','].intercalate ((n :: ns).map chars) = c :: tail := by
      cases ns <;> simp [hchars, List.intercalate_cons_cons]
    rw [htail, List.cons_append] at hitems ⊢
    rw [node?_seq fuel _ hblank hc, hitems, Option.bind_some]

/-- A key, the colon and a value, and what stands behind them. -/
theorem entryChars_append (key : String) (value : Node) (rest : List Char) :
    entryChars (.quoted key, value) ++ rest =
      '"' :: (key.toList.flatMap encodeChar ++ '"' :: ':' :: (chars value ++ rest)) := by
  simp [entryChars, chars_quoted]

/-- Entries are read one by one, like items. -/
theorem entries?_chars {entries : List (Node × Node)} (hne : entries ≠ [])
    (hkeys : ∀ e ∈ entries, ∃ key, e.1 = .quoted key) (h : ∀ e ∈ entries, ReadsBack e.2) (fuel : Nat)
    (rest : List Char) (hfuel : 2 * ([','].intercalate (entries.map entryChars)).length ≤ fuel) :
    entries? fuel ([','].intercalate (entries.map entryChars) ++ '\x7d' :: rest) = some (entries, rest) := by
  induction entries generalizing fuel with
  | nil => exact absurd rfl hne
  | cons e es ih =>
    obtain ⟨first, value⟩ := e
    obtain ⟨key, rfl⟩ : ∃ key, first = .quoted key := hkeys _ List.mem_cons_self
    have hvalue : ReadsBack value := h (.quoted key, value) List.mem_cons_self
    have hlength : (entryChars (.quoted key, value)).length = (chars (.quoted key)).length + 1 + (chars value).length := by
      simp [entryChars]
      omega
    cases es with
    | nil =>
      rw [List.map_singleton, List.intercalate_singleton] at hfuel ⊢
      obtain ⟨fuel, rfl⟩ : ∃ f, fuel = f + 1 := ⟨fuel - 1, by omega⟩
      obtain ⟨ps, hread, hnode⟩ := pieces?_encode key (':' :: (chars value ++ '\x7d' :: rest))
      rw [entryChars_append, entries?_last fuel hread (hvalue fuel _ (by omega) (closed_cons (by decide) rest)), hnode]
    | cons e' es =>
      rw [List.map_cons, List.map_cons, List.intercalate_cons_cons, ← List.map_cons] at hfuel ⊢
      simp only [List.length_append, List.length_singleton] at hfuel
      obtain ⟨fuel, rfl⟩ : ∃ f, fuel = f + 1 := ⟨fuel - 1, by omega⟩
      have hrest := ih (by simp) (fun k hk => hkeys k (List.mem_cons_of_mem _ hk))
        (fun k hk => h k (List.mem_cons_of_mem _ hk)) fuel (by omega)
      rw [List.append_assoc, List.append_assoc, List.singleton_append, entryChars_append]
      generalize [','].intercalate ((e' :: es).map entryChars) ++ '\x7d' :: rest = more at hrest ⊢
      obtain ⟨ps, hread, hnode⟩ := pieces?_encode key (':' :: (chars value ++ ',' :: more))
      have hfirst := hvalue fuel (',' :: more) (by omega) (closed_cons (by decide) more)
      rw [entries?_cons fuel hread hfirst, hrest, Option.bind_some, hnode]

theorem readsBack_map {entries : List (Node × Node)} (hkeys : ∀ e ∈ entries, ∃ key, e.1 = .quoted key)
    (h : ∀ e ∈ entries, ReadsBack e.2) : ReadsBack (.map entries) := by
  intro fuel rest hfuel _
  rw [chars_map] at hfuel ⊢
  simp only [List.length_cons, List.length_append, List.length_nil] at hfuel
  obtain ⟨fuel, rfl⟩ : ∃ f, fuel = f + 1 := ⟨fuel - 1, by omega⟩
  rw [List.cons_append, List.append_assoc, List.singleton_append]
  cases entries with
  | nil => exact node?_emptyMap fuel rest
  | cons e es =>
    have hentries := entries?_chars (by simp) hkeys h fuel rest (by omega)
    obtain ⟨key, hkey⟩ := hkeys e List.mem_cons_self
    obtain ⟨tail, htail⟩ : ∃ tail, [','].intercalate ((e :: es).map entryChars) = '"' :: tail := by
      cases es <;> simp [entryChars, hkey, chars_quoted, List.intercalate_cons_cons]
    rw [htail, List.cons_append] at hentries ⊢
    rw [node?_map fuel, hentries, Option.bind_some]

theorem Writable.readsBack {n : Node} (h : Writable n) : ReadsBack n := by
  induction h with
  | plain hscalar hchars => exact readsBack_plain hscalar hchars
  | quoted text => exact readsBack_quoted text
  | seq hw ih => exact readsBack_seq hw ih
  | map hkeys _ ih => exact readsBack_map hkeys ih

/-- What is written can be read. -/
theorem read?_write {n : Node} (h : Writable n) : read? (write n) = some n := by
  have hread := h.readsBack (2 * (chars n).length + 1) [] (by omega) closed_nil
  rw [List.append_nil] at hread
  rw [read?]
  simp only [chars] at hread
  rw [hread]
  rfl

end GoSchema.Json
