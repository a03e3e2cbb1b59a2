import GoSchema.Generate.Enum
import GoSchema.Proofs.Escapes
import GoSchema.Proofs.JsonText

/-!
# Reading string literals

The value of a string literal in Go is a sequence of bytes: a character stands for its UTF-8 bytes, and an escape
`\xHH` for the one byte that it names. `literal?` reads literals with the escapes that `quote` makes use of.

A text in quotes is read as its own bytes, so no two texts are quoted alike, and the branches of a switch over labels
have different heads (`quote_faithful`). Only control characters are written by `\xHH`; these are one byte each, and
the character behind an escape is never taken for a part of it, since the escape has a fixed length.

## What is proved

* `quoteChar_cases`: a character is written by a letter, by its number, or as it is.
* `literalBytes?_quoteChar` and `literal?_quote`: what is read for one character and for a text.
* `quote_faithful`: for every text, with the form of what stands between the quotes.

The reader knows the escapes that occur, and refuses the others that Go has. Raw literals between backquotes are
read in the module about the tags of fields.
-/

namespace GoSchema.Go

/-! ### A reader of literals -/

/-- The character of an escape with one letter or sign. -/
def escape? : Char → Option Char
  | '"' => some '"'
  | '\\' => some '\\'
  | 'n' => some '\n'
  | 'r' => some '\r'
  | 't' => some '\t'
  | _ => none

/-- The byte that two hexadecimal digits name. -/
def byte? (high low : Char) : Option UInt8 := do
  return .ofNat (16 * (← Json.hexValue? high) + (← Json.hexValue? low))

/-- The bytes of a literal behind its opening quote. The closing quote is the last character, and a line cannot end
inside. -/
def literalBytes? : List Char → Option (List UInt8)
  | [] => none
  | '"' :: rest => if rest.isEmpty then some [] else none
  | '\\' :: 'x' :: high :: low :: rest => do
    return (← byte? high low) :: (← literalBytes? rest)
  | '\\' :: e :: rest => do
    return String.utf8EncodeChar (← escape? e) ++ (← literalBytes? rest)
  | c :: rest => if c = '\n' ∨ c = '\\' then none else (literalBytes? rest).map (String.utf8EncodeChar c ++ ·)

/-- The bytes of a string literal. -/
def literal? (text : String) : Option ByteArray :=
  if text.toList.head? = some '"' then (literalBytes? text.toList.tail).map List.toByteArray else none

/-! ### Characters in quotes -/

/-- The characters that are written by their number in hexadecimal. -/
def isHexWritten (c : Char) : Bool :=
  (c.toNat < 0x20 && c != '\n' && c != '\r' && c != '\t') || c.toNat == 0x7f

/-- The characters that may stand in a literal as they are. -/
def Printable (c : Char) : Prop := ¬ (c.toNat < 0x20 ∨ c.toNat = 0x7f)

instance : DecidablePred Printable := fun _ => inferInstanceAs (Decidable (¬ (_ ∨ _)))

/-- The characters that are written as a backslash and a letter or sign. -/
def lettered : List (Char × Char) := [('"', '"'), ('\\', '\\'), ('\n', 'n'), ('\r', 'r'), ('\t', 't')]

theorem quoteChar_lettered : ∀ p ∈ lettered, isHexWritten p.1 = false ∧ p.2 ≠ 'x' ∧ escape? p.2 = some p.1 ∧
    quoteChar p.1 = ['\\', p.2] := by
  decide

/-- The three ways to write a character: by a letter, by its number, or as it is. -/
theorem quoteChar_cases (c : Char) :
    (∃ e, (c, e) ∈ lettered) ∨
    (isHexWritten c = true ∧ c.toNat < 0x80 ∧
      quoteChar c = ['\\', 'x', Nat.digitChar (c.toNat / 16), Nat.digitChar (c.toNat % 16)]) ∨
    (isHexWritten c = false ∧ Printable c ∧ c ≠ '"' ∧ c ≠ '\\' ∧ quoteChar c = [c]) := by
  by_cases hletter : ∃ e, (c, e) ∈ lettered
  · exact .inl hletter
  · have hne : ∀ p ∈ lettered, c ≠ p.1 := fun p hp heq => hletter ⟨p.2, heq ▸ hp⟩
    simp only [lettered, List.forall_mem_cons] at hne
    obtain ⟨hquote, hslash, hn, hr, ht, -⟩ := hne
    have hplain : quoteChar c = if c.toNat < 0x20 ∨ c.toNat = 0x7f then
        ['\\', 'x', Nat.digitChar (c.toNat / 16), Nat.digitChar (c.toNat % 16)] else [c] := by
      unfold quoteChar
      split
      · exact absurd rfl hquote
      · exact absurd rfl hslash
      · exact absurd rfl hn
      · exact absurd rfl hr
      · exact absurd rfl ht
      · rfl
    have hhex : isHexWritten c = true ↔ c.toNat < 0x20 ∨ c.toNat = 0x7f := by
      simp [isHexWritten, hn, hr, ht]
    by_cases hcontrol : c.toNat < 0x20 ∨ c.toNat = 0x7f
    · exact .inr (.inl ⟨hhex.mpr hcontrol, by omega, hplain.trans (if_pos hcontrol)⟩)
    · refine .inr (.inr ⟨?_, hcontrol, hquote, hslash, hplain.trans (if_neg hcontrol)⟩)
      exact Bool.eq_false_iff.mpr (hhex.not.mpr hcontrol)

theorem byte?_digitChar {n : Nat} (h : n < 256) :
    byte? (Nat.digitChar (n / 16)) (Nat.digitChar (n % 16)) = some (.ofNat n) := by
  have hhigh := Json.hexValue?_digitChar (n / 16) (by omega)
  have hlow := Json.hexValue?_digitChar (n % 16) (by omega)
  change (do return UInt8.ofNat (16 * (← Json.hexValue? (Nat.digitChar (n / 16)))
    + (← Json.hexValue? (Nat.digitChar (n % 16))))) = _
  rw [hhigh, hlow]
  exact congrArg (fun k => some (UInt8.ofNat k)) (Nat.div_add_mod n 16)

/-- What is read for a character in quotes. -/
theorem literalBytes?_quoteChar (c : Char) (rest : List Char) :
    literalBytes? (quoteChar c ++ rest) = (literalBytes? rest).map (String.utf8EncodeChar c ++ ·) := by
  rcases quoteChar_cases c with ⟨e, he⟩ | ⟨-, hsmall, hc⟩ | ⟨-, hcontrol, hquote, hslash, hc⟩
  · obtain ⟨-, hx, hescape, hc⟩ := quoteChar_lettered _ he
    rw [hc, List.cons_append, List.cons_append, List.nil_append, literalBytes?, hescape]
    · cases literalBytes? rest <;> rfl
    · exact fun _ _ _ h _ => hx h
  · have hbyte : byte? (Nat.digitChar (c.toNat / 16)) (Nat.digitChar (c.toNat % 16)) = some (.ofNat c.toNat) :=
      byte?_digitChar (by omega)
    -- Below 0x80 the UTF-8 form of a character is the byte of its number.
    have hencode : String.utf8EncodeChar c = [.ofNat c.toNat] := by
      rw [String.utf8EncodeChar]
      exact if_pos (Nat.le_of_lt_succ hsmall)
    rw [hc, hencode]
    simp only [List.cons_append, List.nil_append, literalBytes?, hbyte]
    cases literalBytes? rest <;> rfl
  · rw [hc, List.singleton_append, literalBytes?, if_neg]
    · rintro (rfl | rfl)
      · exact hcontrol (.inl (by decide))
      · exact hslash rfl
    · exact hquote
    · exact fun _ _ _ h _ => hslash h
    · exact fun _ _ h _ => hslash h

theorem literalBytes?_quoteChars (cs : List Char) :
    literalBytes? (cs.flatMap quoteChar ++ ['"']) = some (cs.flatMap String.utf8EncodeChar) := by
  induction cs with
  | nil => rfl
  | cons c cs ih => rw [List.flatMap_cons, List.append_assoc, literalBytes?_quoteChar, ih]; rfl

theorem toList_quote (s : String) : (quote s).toList = '"' :: (s.toList.flatMap quoteChar ++ ['"']) := by
  rw [quote, String.toList_ofList]
  rfl

/-- A text in quotes is read as its bytes. -/
theorem literal?_quote (s : String) : literal? (quote s) = some s.toByteArray := by
  rw [literal?, toList_quote, List.head?_cons, if_pos rfl, List.tail_cons, literalBytes?_quoteChars,
    ← String.utf8Encode_toList]
  rfl

theorem quote_inj {s t : String} : quote s = quote t ↔ s = t := by
  refine ⟨fun h => ?_, congrArg quote⟩
  have hread := literal?_quote s
  rw [h, literal?_quote] at hread
  exact (String.toByteArray_inj.mp (Option.some.inj hread)).symm

/-! ### What stands between the quotes -/

theorem printable_lettered : ∀ p ∈ lettered, Printable p.2 := by decide

theorem plain_digitChar : ∀ n < 16, Printable (Nat.digitChar n) ∧ Nat.digitChar n ≠ '"' ∧ Nat.digitChar n ≠ '\\' := by decide

theorem escapedText_quoteChar (c : Char) : EscapedText Printable (quoteChar c) := by
  rcases quoteChar_cases c with ⟨e, he⟩ | ⟨-, hsmall, hc⟩ | ⟨-, hprint, hquote, hslash, hc⟩
  · rw [(quoteChar_lettered _ he).2.2.2]
    exact .pair (printable_lettered _ he) .nil
  · obtain ⟨hhigh, hhigh₁, hhigh₂⟩ := plain_digitChar (c.toNat / 16) (by omega)
    obtain ⟨hlow, hlow₁, hlow₂⟩ := plain_digitChar (c.toNat % 16) (by omega)
    rw [hc]
    exact .pair (by decide) (.plain hhigh hhigh₁ hhigh₂ (.plain hlow hlow₁ hlow₂ .nil))
  · rw [hc]
    exact .plain hprint hquote hslash .nil

theorem escapedText_quoteChars (cs : List Char) : EscapedText Printable (cs.flatMap quoteChar) := by
  induction cs with
  | nil => exact .nil
  | cons c cs ih => exact (escapedText_quoteChar c).append ih

/-! ### Quoting is faithful -/

/-- A text in quotes has no control character and no quote without its backslash between its quotes, and it is read
as the bytes of the text. So different texts are different in quotes, and the heads of their branches in a switch over
labels differ too. -/
theorem quote_faithful (s : String) :
    (∃ body, (quote s).toList = '"' :: (body ++ ['"']) ∧
      (∀ c ∈ body, ¬ (c.toNat < 0x20 ∨ c.toNat = 0x7f)) ∧ QuotesEscaped body) ∧
    literal? (quote s) = some s.toByteArray ∧
    (∀ t, quote t = quote s ↔ t = s) ∧
    ∀ t ident ident', (labelBranches [(t, ident')]).head? = (labelBranches [(s, ident)]).head? ↔ t = s := by
  obtain ⟨hchars, hquotes, -⟩ := (escapedText_iff (by decide)).mp (escapedText_quoteChars s.toList)
  refine ⟨⟨_, toList_quote s, hchars, hquotes⟩, literal?_quote s, fun t => quote_inj, fun t ident ident' => ?_⟩
  have hhead (t ident : String) : (labelBranches [(t, ident)]).head? = some ⟨0, "case " ++ quote t ++ ":"⟩ := rfl
  rw [hhead, hhead, Option.some_inj, Line.mk.injEq, String.append_left_inj, String.append_right_inj, quote_inj]
  exact and_iff_right rfl

end GoSchema.Go
