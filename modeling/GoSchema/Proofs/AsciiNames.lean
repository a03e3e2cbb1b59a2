import GoSchema.Proofs.PackageNames

/-!
# The identifiers of ASCII names

Lowering an ASCII word changes no length, so the words of an ASCII name are cut out of it as they are spelled there
(`words_of_ascii`). Each word keeps its letters and numbers, and begins with its first character in upper case, whether
it is an initialism, a run of capitals, or is cased anew. So the identifier of an ASCII name has letters and digits only
and begins like its first letter or digit: it is one that could be given by hand exactly if this is a letter
(`identifier_allowed_iff`).

## What is proved

* `Name.words_of_ascii`: the words of an ASCII name, by the cuts alone.
* `Name.exportedChars_of_ascii`: the spelling of such a name has letters and digits only, and begins with the first
  of them in upper case.
* `Name.isLower_of_isReserved`: every reserved name begins with a small letter, so that no spelling that begins
  with a capital is reserved.
* `identifier_allowed_iff`: the identifier would be accepted if it were given by hand exactly if the first letter
  or digit of the name is a letter. One that is given by hand is taken as it stands, or refused.

Names with other characters are not treated. Their lower-case forms may be longer than they are, and their
spellings may begin with a letter that has no upper case.
-/

namespace GoSchema.Name

open GoSchema.Text

/-- All characters are ASCII characters. -/
def Ascii (cs : List Char) : Prop := ∀ c ∈ cs, c.toNat < 128

instance (cs : List Char) : Decidable (Ascii cs) := List.decidableBAll _ cs

theorem Ascii.mono {cs ds : List Char} (h : Ascii cs) (hsub : ds ⊆ cs) : Ascii ds := fun c hc => h c (hsub hc)

/-! ### Words -/

theorem lowerWord_of_ascii {word : List Char} (h : Ascii word) : lowerWord word = word.map Char.toLower := by
  fun_induction lowerWord word with
  | case1 => rfl
  | case2 => exact absurd (h 'Σ' List.mem_cons_self) (by decide)
  | case3 c rest _ ih =>
    rw [lowerChar_of_ascii (h c List.mem_cons_self), ih (h.mono (List.subset_cons_self c rest))]
    rfl

theorem lower_of_ascii {word : List Char} (h : Ascii word) : lower word = word.map Char.toLower := by
  suffices ∀ before, lowerAfter before word = word.map Char.toLower from this []
  induction word with
  | nil => exact fun _ => rfl
  | cons c rest ih =>
    intro before
    have hc : c.toNat < 128 := h c List.mem_cons_self
    have hsigma : c ≠ 'Σ' := by
      rintro rfl
      exact absurd hc (by decide)
    rw [lowerAfter, if_neg hsigma, lowerChar_of_ascii hc, ih (h.mono (List.subset_cons_self c rest))]
    rfl

/-- Lowering keeps the length of a word, so the letters are dealt out again to the words that they came from. -/
theorem respell_of_ascii {ws : List (List Char)} (h : Ascii ws.flatten) :
    respell (ws.map lowerWord) ws.flatten = ws := by
  induction ws with
  | nil => rfl
  | cons w ws ih =>
    have hw : Ascii w := h.mono (by simp)
    have hws : Ascii ws.flatten := h.mono (by simp)
    have hlength : (lowerWord w).length = w.length := by rw [lowerWord_of_ascii hw, List.length_map]
    rw [List.map_cons, List.flatten_cons, respell, hlength, List.take_left, List.drop_left, ih hws,
      if_pos ((lower_of_ascii hw).trans (lowerWord_of_ascii hw).symm)]

/-- The words of an ASCII name are spelled as they stand in it. -/
theorem words_of_ascii {name : List Char} (h : Ascii name) : words name = cut name := by
  rw [words, ← flatten_cut, respell_of_ascii]
  rw [flatten_cut]
  exact h.mono (List.filter_subset_self name)

theorem isAlphanum_of_mem_cut {name word : List Char} (h : Ascii name) (hword : word ∈ cut name) {c : Char}
    (hc : c ∈ word) : c.isAlphanum = true := by
  have hmem : c ∈ (cut name).flatten := List.mem_flatten.mpr ⟨word, hword, hc⟩
  rw [flatten_cut, List.mem_filter] at hmem
  rw [← isAlphanumeric_of_ascii (h c hmem.1)]
  exact hmem.2

/-! ### Spellings -/

/-- A word of ASCII letters and digits. -/
def AsciiWord (word : List Char) : Prop := ∀ c ∈ word, c.isAlphanum = true

theorem toNat_of_isAlphanum {c : Char} (h : c.isAlphanum = true) : c.toNat < 128 := by
  delta Char.isAlphanum Char.isAlpha Char.isUpper Char.isLower Char.isDigit at h
  simp only [Bool.or_eq_true, Bool.and_eq_true, decide_eq_true_eq] at h
  have hval (a b : UInt32) (h : a ≤ b) : a.toNat ≤ b.toNat := h
  rcases h with (⟨-, h⟩ | ⟨-, h⟩) | ⟨-, h⟩
  all_goals exact Nat.lt_of_le_of_lt (hval _ _ h) (by decide)

theorem AsciiWord.ascii {word : List Char} (h : AsciiWord word) : Ascii word :=
  fun c hc => toNat_of_isAlphanum (h c hc)

theorem AsciiWord.isAlphanumeric {word : List Char} (h : AsciiWord word) {c : Char} (hc : c ∈ word) :
    isAlphanumeric c = true := by
  rw [isAlphanumeric_of_ascii (h.ascii c hc)]
  exact h c hc

theorem AsciiWord.filter_eq {word : List Char} (h : AsciiWord word) : word.filter Text.isAlphanumeric = word :=
  List.filter_eq_self.mpr fun _ hc => h.isAlphanumeric hc

theorem capitalize_of_ascii {c : Char} {rest : List Char} (h : Ascii (c :: rest)) :
    capitalize (c :: rest) = c.toUpper :: rest.map Char.toLower := by
  rw [capitalize, upperChar_of_ascii (h c List.mem_cons_self),
    lowerWord_of_ascii (h.mono (List.subset_cons_self c rest))]
  rfl

theorem isAlphanum_toUpper {c : Char} (h : c.isAlphanum = true) : c.toUpper.isAlphanum = true := by
  have hc := toNat_of_isAlphanum h
  revert h
  exact forall_ascii (P := fun c => c.isAlphanum = true → c.toUpper.isAlphanum = true) (by decide +kernel) hc

theorem isAlphanum_toLower {c : Char} (h : c.isAlphanum = true) : c.toLower.isAlphanum = true := by
  have hc := toNat_of_isAlphanum h
  revert h
  exact forall_ascii (P := fun c => c.isAlphanum = true → c.toLower.isAlphanum = true) (by decide +kernel) hc

theorem AsciiWord.capitalize {word : List Char} (h : AsciiWord word) : AsciiWord (capitalize word) := by
  cases word with
  | nil => exact h
  | cons c rest =>
    rw [capitalize_of_ascii h.ascii]
    intro d hd
    rcases List.mem_cons.mp hd with rfl | hd
    · exact isAlphanum_toUpper (h c List.mem_cons_self)
    · obtain ⟨e, he, rfl⟩ := List.mem_map.mp hd
      exact isAlphanum_toLower (h e (List.mem_cons_of_mem _ he))

theorem AsciiWord.upperCamelCase {word : List Char} (h : AsciiWord word) : AsciiWord (upperCamelCase word) := by
  intro d hd
  obtain ⟨w, hw, hd⟩ := List.mem_flatMap.mp hd
  have hpart : AsciiWord w := fun c hc => isAlphanum_of_mem_cut h.ascii hw hc
  exact hpart.capitalize d hd

theorem AsciiWord.caseWord {word : List Char} (h : AsciiWord word) (keepRuns : Bool) :
    AsciiWord (caseWord keepRuns word) := by
  unfold Name.caseWord
  dsimp only
  split_ifs
  · intro d hd
    obtain ⟨c, hc, rfl⟩ := List.mem_map.mp hd
    exact isAlphanum_toUpper (h c hc)
  · exact h
  · exact h.upperCamelCase

/-! ### Beginnings -/

/-- If each word begins with its first character in upper case, so does the whole. -/
theorem head?_flatMap_toUpper {f : List Char → List Char} {ws : List (List Char)}
    (h : ∀ w ∈ ws, (f w).head? = w.head?.map Char.toUpper) :
    (ws.flatMap f).head? = ws.flatten.head?.map Char.toUpper := by
  induction ws with
  | nil => rfl
  | cons w ws ih =>
    have hw := h w List.mem_cons_self
    have hws := ih fun w hw => h w (List.mem_cons_of_mem _ hw)
    rw [List.flatMap_cons, List.flatten_cons, List.head?_append, List.head?_append, hw, hws]
    cases w with
    | nil => rfl
    | cons c w => rfl

theorem head?_capitalize {word : List Char} (h : AsciiWord word) :
    (capitalize word).head? = word.head?.map Char.toUpper := by
  cases word with
  | nil => rfl
  | cons c rest =>
    rw [capitalize_of_ascii h.ascii]
    rfl

theorem head?_upperCamelCase {word : List Char} (h : AsciiWord word) :
    (upperCamelCase word).head? = word.head?.map Char.toUpper := by
  have hparts : ∀ w ∈ cut word, (capitalize w).head? = w.head?.map Char.toUpper :=
    fun w hw => head?_capitalize fun c hc => isAlphanum_of_mem_cut h.ascii hw hc
  rw [upperCamelCase, head?_flatMap_toUpper hparts, flatten_cut, h.filter_eq]

theorem toUpper_of_not_lower {c : Char} (hc : c.toNat < 128) (h : c.isLower = false) : c.toUpper = c := by
  revert h
  exact forall_ascii (P := fun c => c.isLower = false → c.toUpper = c) (by decide +kernel) hc

theorem head?_caseWord {word : List Char} (h : AsciiWord word) (keepRuns : Bool) :
    (caseWord keepRuns word).head? = word.head?.map Char.toUpper := by
  unfold caseWord
  dsimp only
  split_ifs with hinitialism hrun
  · exact List.head?_map
  · -- A run has no small letter, so its first character is in upper case already.
    simp only [isUpperRun, Bool.and_eq_true, Bool.not_eq_true', List.any_eq_false] at hrun
    cases word with
    | nil => rfl
    | cons c rest =>
      have hlower := hrun.2.2 c List.mem_cons_self
      have hc := h.ascii c List.mem_cons_self
      rw [isLowercase_of_ascii hc, Bool.not_eq_true] at hlower
      rw [List.head?_cons, Option.map_some, toUpper_of_not_lower hc hlower]
  · exact head?_upperCamelCase h

/-- The spelling of an ASCII name with a letter or a digit has letters and digits only, and begins with the first of
them in upper case. -/
theorem exportedChars_of_ascii {name : List Char} (h : Ascii name) {first : Char}
    (hfirst : name.find? isAlphanumeric = some first) :
    ∃ rest, exportedChars name = first.toUpper :: rest ∧ AsciiWord (first.toUpper :: rest) := by
  have hcut : ∀ w ∈ cut name, AsciiWord w := fun w hw c hc => isAlphanum_of_mem_cut h hw hc
  obtain ⟨heq, -⟩ := exportedChars_eq (List.mem_of_find?_eq_some hfirst) (List.find?_some hfirst)
  rw [words_of_ascii h] at heq
  have hhead : (exportedChars name).head? = some first.toUpper := by
    rw [heq, head?_flatMap_toUpper fun w hw => head?_caseWord (hcut w hw) _, flatten_cut, List.head?_filter, hfirst]
    rfl
  obtain ⟨rest, hrest⟩ := List.head?_eq_some_iff.mp hhead
  refine ⟨rest, hrest, ?_⟩
  rw [← hrest, heq]
  intro c hc
  obtain ⟨w, hw, hc⟩ := List.mem_flatMap.mp hc
  exact (hcut w hw).caseWord _ c hc

/-! ### Identifiers -/

/-- An identifier that may be given by hand: it is exported and not reserved. -/
def Allowed (ident : String) : Prop := isExported ident = true ∧ isReserved ident = false

/-- Every reserved name begins with a small letter. -/
theorem isLower_of_isReserved {c : Char} {rest : List Char} {ident : String} (hident : ident.toList = c :: rest)
    (h : isReserved ident = true) : c.isLower = true := by
  have hall : ∀ ident ∈ reservedNames, ident.toList.head?.all Char.isLower = true := by decide +kernel
  have hhead := hall ident (List.contains_iff_mem.mp h)
  rw [hident] at hhead
  exact hhead

theorem isUpper_toUpper_iff {c : Char} (h : c.isAlphanum = true) : c.toUpper.isUpper = true ↔ c.isAlpha = true := by
  have hc := toNat_of_isAlphanum h
  revert h
  exact forall_ascii (P := fun c => c.isAlphanum = true → (c.toUpper.isUpper = true ↔ c.isAlpha = true))
    (by decide +kernel) hc

theorem allowed_exported_iff {name : String} (h : Ascii name.toList) {first : Char}
    (hfirst : name.toList.find? isAlphanumeric = some first) : Allowed (exported name) ↔ first.isAlpha = true := by
  obtain ⟨rest, hchars, hword⟩ := exportedChars_of_ascii h hfirst
  have hident : (exported name).toList = first.toUpper :: rest := by
    rw [exported, String.toList_ofList, hchars]
  have hfirst' : first.isAlphanum = true := by
    rw [← isAlphanumeric_of_ascii (h first (List.mem_of_find?_eq_some hfirst))]
    exact List.find?_some hfirst
  have hrest : rest.all Char.isAlphanum = true :=
    List.all_eq_true.mpr fun c hc => hword c (List.mem_cons_of_mem _ hc)
  have hexported : isExported (exported name) = first.toUpper.isUpper := by
    simp only [isExported, hident, hrest, Bool.and_true]
  rw [Allowed, hexported, isUpper_toUpper_iff hfirst']
  refine ⟨And.left, fun halpha => ⟨halpha, ?_⟩⟩
  rw [← Bool.not_eq_true]
  intro hreserved
  have hlower := isLower_of_isReserved hident hreserved
  have hupper := (isUpper_toUpper_iff hfirst').mpr halpha
  have hnot : first.toUpper.isLower = true → first.toUpper.isUpper = false :=
    forall_ascii (P := fun c => c.isLower = true → c.isUpper = false) (by decide +kernel)
      (toNat_of_isAlphanum (isAlphanum_toUpper hfirst'))
  cases hupper.symm.trans (hnot hlower)

end GoSchema.Name

namespace GoSchema

open Name

/-- An ASCII name with a letter or a digit gives an identifier that would be accepted by hand exactly if the first of
them is a letter. An identifier that is given by hand is taken exactly if it is of this kind, so the identifier of a
name whose first letter or digit is a letter is always of this kind. -/
theorem identifier_allowed_iff {name : String} (hascii : Ascii name.toList) {first : Char}
    (hfirst : name.toList.find? Text.isAlphanumeric = some first) (annotations : Annotations) (site : Site) :
    (Allowed (exported name) ↔ first.isAlpha = true) ∧
      (annotations.get? nameKey = none → identifier name annotations site = .ok (exported name)) ∧
      (∀ given, annotations.get? nameKey = some given →
        (identifier name annotations site = .ok given ↔ Allowed given)) ∧
      (first.isAlpha = true → ∀ ident, identifier name annotations site = .ok ident → Allowed ident) := by
  have hiff := allowed_exported_iff hascii hfirst
  refine ⟨hiff, fun hnone => ?_, fun given hgiven => ?_, fun halpha ident hident => ?_⟩
  · exact identifier_eq_ok.mpr ⟨by simp [OverrideValid, hnone], by simp [goName, hnone]⟩
  · rw [identifier_eq_ok]
    simp [OverrideValid, goName, hgiven, Allowed]
  · obtain ⟨hvalid, rfl⟩ := identifier_eq_ok.mp hident
    cases hget : annotations.get? nameKey with
    | none =>
      rw [goName, hget]
      exact hiff.mpr halpha
    | some given =>
      rw [goName, hget]
      exact hvalid given hget

theorem identifier_allowed_iff_type :
    (∀ site, identifier "-type" .empty site = .ok (exported "-type")) ∧ Allowed (exported "-type") ∧
      ¬ Allowed (exported "_2") := by
  have hletter : "-type".toList.find? Text.isAlphanumeric = some 't' := by decide +kernel
  have hdigit : "_2".toList.find? Text.isAlphanumeric = some '2' := by decide +kernel
  have htype := identifier_allowed_iff (by decide) hletter .empty
  have htwo := identifier_allowed_iff (by decide) hdigit .empty ⟨"_2", "a.thrift"⟩
  exact ⟨fun site => (htype site).2.1 rfl, (htype ⟨"-type", "a.thrift"⟩).1.mpr (by decide),
    fun h => absurd (htwo.1.mp h) (by decide)⟩

end GoSchema
