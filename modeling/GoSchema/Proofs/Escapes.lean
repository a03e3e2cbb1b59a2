import Mathlib.Algebra.Order.Group.Nat
import Mathlib.Algebra.Ring.Parity
import Mathlib.Data.List.TakeWhile

/-!
# Escaped quotes

Struct tags and string literals hide quotes in the same way: a backslash takes the character behind it with it.
A text of plain characters and of such pairs (`EscapedText`) is one in which every quote stands behind an odd
number of backslashes and which does not end in the middle of a pair (`escapedText_iff`). So the pairs need not
be known to tell whether a quote is escaped: it is enough to count the backslashes that lead up to it.

## What is proved

* `slashes_plain` and `slashes_pair`: how the number of backslashes at the end changes when something is put in
  front.
* `quotesEscaped_append`: what comes behind a text without adding quotes does not change which quotes are escaped.
* `escapedText_iff`: the two descriptions agree, for every text.

Which characters may follow a backslash is not looked at here. A struct tag takes all of them and a string literal
only some, and each of these says so in its own module.
-/

namespace GoSchema.Go

/-- A sequence of plain characters, which are neither quotes nor backslashes, and of pairs of a backslash and
another character. Plain characters and the second ones of pairs have the property. -/
inductive EscapedText (p : Char → Prop) : List Char → Prop where
  | nil : EscapedText p []
  | plain {c : Char} {cs : List Char} (hc : p c) (hquote : c ≠ '"') (hslash : c ≠ '\\') (h : EscapedText p cs) :
    EscapedText p (c :: cs)
  | pair {c : Char} {cs : List Char} (hc : p c) (h : EscapedText p cs) : EscapedText p ('\\' :: c :: cs)

/-- The number of backslashes with which a text ends. -/
def slashes (cs : List Char) : Nat := (cs.reverse.takeWhile (· == '\\')).length

/-- Every quote of the text is taken by a backslash: those that lead up to it are odd in number. -/
def QuotesEscaped (cs : List Char) : Prop :=
  ∀ before after, cs = before ++ '"' :: after → Odd (slashes before)

/-! ### Counting backslashes -/

theorem slashes_le (cs : List Char) : slashes cs ≤ cs.length := by
  have h := (List.takeWhile_sublist (l := cs.reverse) (· == '\\')).length_le
  rwa [List.length_reverse] at h

theorem slashes_cons (c : Char) (cs : List Char) :
    slashes (c :: cs) = if c = '\\' ∧ slashes cs = cs.length then cs.length + 1 else slashes cs := by
  rw [slashes, List.reverse_cons, List.takeWhile_append, List.length_reverse]
  change (if slashes cs = cs.length then _ else _ : List Char).length = _
  by_cases hall : slashes cs = cs.length
  · by_cases hc : c = '\\' <;> simp [hall, hc]
  · rw [if_neg hall, if_neg fun h => hall h.2, slashes]

theorem slashes_append_plain {c : Char} (h : c ≠ '\\') (cs : List Char) : slashes (cs ++ [c]) = 0 := by
  simp [slashes, h]

/-- A plain character in front changes nothing. -/
theorem slashes_plain {c : Char} (h : c ≠ '\\') (cs : List Char) : slashes (c :: cs) = slashes cs := by
  rw [slashes_cons, if_neg fun hc => h hc.1]

/-- A pair in front adds two backslashes or none. -/
theorem slashes_pair (c : Char) (cs : List Char) : slashes ('\\' :: c :: cs) % 2 = slashes cs % 2 := by
  have hle := slashes_le cs
  rw [slashes_cons '\\', slashes_cons c, List.length_cons]
  by_cases hall : c = '\\' ∧ slashes cs = cs.length
  · rw [if_pos hall, if_pos ⟨rfl, rfl⟩]
    omega
  · rw [if_neg hall, if_neg (by omega)]

/-! ### Quotes -/

theorem quotesEscaped_nil : QuotesEscaped [] := by
  intro before after h
  simp at h

theorem quotesEscaped_plain {c : Char} {cs : List Char} (hslash : c ≠ '\\') :
    QuotesEscaped (c :: cs) ↔ c ≠ '"' ∧ QuotesEscaped cs := by
  constructor
  · refine fun h => ⟨?_, fun before after hcs => ?_⟩
    · rintro rfl
      exact absurd (h [] cs rfl) (by decide)
    · rw [← slashes_plain hslash]
      exact h (c :: before) after (by rw [hcs, List.cons_append])
  · rintro ⟨hquote, h⟩ before after hcs
    cases before with
    | nil => exact absurd (List.cons.inj hcs).1 hquote
    | cons b before =>
      obtain ⟨rfl, hrest⟩ := List.cons.inj hcs
      rw [slashes_plain hslash]
      exact h before after hrest

theorem quotesEscaped_pair {c : Char} {cs : List Char} : QuotesEscaped ('\\' :: c :: cs) ↔ QuotesEscaped cs := by
  constructor
  · intro h before after hcs
    rw [Nat.odd_iff, ← slashes_pair c, ← Nat.odd_iff]
    exact h ('\\' :: c :: before) after (by rw [hcs, List.cons_append, List.cons_append])
  · intro h before after hcs
    match before, hcs with
    | [], hcs => exact absurd (List.cons.inj hcs).1 (by decide)
    | [b], hcs =>
      obtain ⟨rfl, -⟩ := List.cons.inj hcs
      decide
    | b :: b' :: before, hcs =>
      obtain ⟨rfl, hrest⟩ := List.cons.inj hcs
      obtain ⟨-, hrest⟩ := List.cons.inj hrest
      rw [Nat.odd_iff, slashes_pair, ← Nat.odd_iff]
      exact h before after hrest

/-- A text without quotes behind it does not change which quotes are escaped. -/
theorem quotesEscaped_append {cs tail : List Char} (h : '"' ∉ tail) :
    QuotesEscaped (cs ++ tail) ↔ QuotesEscaped cs := by
  constructor
  · rintro hcs before after rfl
    exact hcs before (after ++ tail) (by simp)
  · intro hcs before after heq
    rcases List.append_eq_append_iff.mp heq with ⟨middle, rfl, htail⟩ | ⟨middle, rfl, htail⟩
    · exact absurd (by simp [htail]) h
    · cases middle with
      | nil => exact absurd (by simp [← show _ = tail from htail]) h
      | cons b middle =>
        obtain ⟨rfl, -⟩ := List.cons.inj htail
        exact hcs before middle rfl

/-! ### Escaped texts -/

variable {p : Char → Prop}

theorem EscapedText.append {cs ds : List Char} (hcs : EscapedText p cs) (hds : EscapedText p ds) :
    EscapedText p (cs ++ ds) := by
  induction hcs with
  | nil => exact hds
  | plain hc hquote hslash _ ih => exact .plain hc hquote hslash ih
  | pair hc _ ih => exact .pair hc ih

/-- A text is escaped if its quotes are and no backslash at its end waits for a character. -/
theorem escapedText_iff (hslash : p '\\') {cs : List Char} :
    EscapedText p cs ↔ (∀ c ∈ cs, p c) ∧ QuotesEscaped cs ∧ Even (slashes cs) := by
  constructor
  · intro h
    induction h with
    | nil => exact ⟨by simp, quotesEscaped_nil, by decide⟩
    | @plain c cs hc hquote hne _ ih =>
      obtain ⟨hall, hquotes, heven⟩ := ih
      refine ⟨List.forall_mem_cons.mpr ⟨hc, hall⟩, (quotesEscaped_plain hne).mpr ⟨hquote, hquotes⟩, ?_⟩
      rwa [slashes_plain hne]
    | @pair c cs hc _ ih =>
      obtain ⟨hall, hquotes, heven⟩ := ih
      refine ⟨List.forall_mem_cons.mpr ⟨hslash, List.forall_mem_cons.mpr ⟨hc, hall⟩⟩,
        quotesEscaped_pair.mpr hquotes, ?_⟩
      rwa [Nat.even_iff, slashes_pair, ← Nat.even_iff]
  · -- The text is taken apart from the front, by one character or by a pair.
    induction hn : cs.length using Nat.strongRecOn generalizing cs with
    | ind n ih =>
      rintro ⟨hall, hquotes, heven⟩
      cases cs with
      | nil => exact .nil
      | cons c cs =>
        obtain ⟨hc, hrest⟩ := List.forall_mem_cons.mp hall
        by_cases hne : c = '\\'
        · subst hne
          cases cs with
          | nil => exact absurd heven (by decide)
          | cons d cs =>
            obtain ⟨hd, hrest⟩ := List.forall_mem_cons.mp hrest
            rw [Nat.even_iff, slashes_pair, ← Nat.even_iff] at heven
            have hshorter : cs.length < n := by simp only [List.length_cons] at hn; omega
            exact .pair hd (ih cs.length hshorter rfl ⟨hrest, quotesEscaped_pair.mp hquotes, heven⟩)
        · obtain ⟨hquote, hquotes⟩ := (quotesEscaped_plain hne).mp hquotes
          rw [slashes_plain hne] at heven
          have hshorter : cs.length < n := by simp only [List.length_cons] at hn; omega
          exact .plain hc hquote hne (ih cs.length hshorter rfl ⟨hrest, hquotes, heven⟩)

end GoSchema.Go
