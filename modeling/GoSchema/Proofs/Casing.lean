import GoSchema.Name.Casing
import Mathlib.Data.List.Basic

/-!
# The shape of Go spellings

What the spelling of a schema name looks like. The words of a name are made of its letters and numbers and of
nothing else (`flatten_cut`). A name with a letter or a number has a spelling without underscores
(`underscore_notMem_exported`), every other name is its own spelling (`exported_eq_self`), and no spelling begins
with a small letter of ASCII, as the name of the initializer does (`head?_exported_ne`).

## What is proved

* `caseMapping_cases`, `toLower_cases` and `toUpper_cases` say what the tables of case mappings do to a character,
  and `mem_upperSequences` and `mem_upperRuns` what is never the upper-case form of anything: an underscore, or a
  small letter of ASCII.
* `flatten_cut` and `exists_respell`: no letter and no word is lost when a name is cut up and its words are
  spelled.
* `underscore_notMem_exported`, `exported_eq_self` and `head?_exported_ne`: the three facts about spellings that
  the modules about symbols and scopes rest on.

The tables are taken as they are: that they are those of the standard for characters is not proved, and nothing
here depends on it beyond the facts above. Which words a name has is the subject of other modules.
-/

namespace GoSchema.Text

/-! ### Case mappings -/

/-- A code point is mapped by a listed sequence, by a run, or to itself. -/
theorem caseMapping_cases (runs : List (Nat × Nat × Nat × Nat)) (sequences : List (Nat × List Nat))
    (n : Nat) :
    (∃ s ∈ sequences, caseMapping runs sequences n = s.2) ∨
      (∃ r ∈ runs, n ≤ r.2.1 ∧ caseMapping runs sequences n = [r.2.2.2 + (n - r.1)]) ∨
      caseMapping runs sequences n = [n] := by
  unfold caseMapping
  split
  · rename_i s hs
    exact .inl ⟨s, List.mem_of_find?_eq_some hs, rfl⟩
  · split
    · rename_i r hr
      have hspan := List.find?_some hr
      simp only [Bool.and_eq_true, decide_eq_true_eq] at hspan
      exact .inr (.inl ⟨r, List.mem_of_find?_eq_some hr, hspan.1.2, rfl⟩)
    · exact .inr (.inr rfl)

/-- What holds of all ASCII characters can be checked on their numbers. -/
theorem forall_ascii {P : Char → Prop} (h : ∀ n < 128, P (Char.ofNat n)) {c : Char}
    (hc : c.toNat < 128) : P c := by
  have hn := h c.toNat hc
  rwa [Char.ofNat_toNat] at hn

theorem toNat_ofNat {n : Nat} {c : Char} (h : Char.ofNat n = c) (hc : c.toNat ≠ 0) : n = c.toNat := by
  subst h
  by_cases hv : n.isValidChar
  · rw [Char.ofNat, dif_pos hv]
    rfl
  · simp [Char.ofNat, hv] at hc

/-- No run and no sequence of the tables leads to the code point `n`. -/
def avoids (n : Nat) (runs : List (Nat × Nat × Nat × Nat)) (sequences : List (Nat × List Nat)) : Bool :=
  runs.all (fun r => n < r.2.2.2 || r.2.2.2 + (r.2.1 - r.1) < n) && sequences.all fun s => n ∉ s.2

theorem notMem_caseMapping {n m : Nat} {runs : List (Nat × Nat × Nat × Nat)}
    {sequences : List (Nat × List Nat)} (h : avoids n runs sequences = true) (hm : m ≠ n) :
    n ∉ caseMapping runs sequences m := by
  simp only [avoids, Bool.and_eq_true, List.all_eq_true, Bool.or_eq_true, decide_eq_true_eq] at h
  rcases caseMapping_cases runs sequences m with ⟨s, hs, heq⟩ | ⟨r, hr, hle, heq⟩ | heq
  · rw [heq]
    exact h.2 s hs
  · rw [heq, List.mem_singleton]
    have := h.1 r hr
    omega
  · rw [heq, List.mem_singleton]
    exact hm.symm

theorem notMem_map_ofNat {x : Char} (hx : x.toNat ≠ 0) {codes : List Nat} (h : x.toNat ∉ codes) :
    x ∉ codes.map Char.ofNat := by
  rintro hmem
  obtain ⟨n, hn, heq⟩ := List.mem_map.mp hmem
  exact h (toNat_ofNat heq hx ▸ hn)

theorem toNat_of_isLower {x : Char} (hx : x.isLower = true) : 97 ≤ x.toNat ∧ x.toNat ≤ 122 := by
  obtain ⟨hleast, hgreatest⟩ :=
    Bool.and_eq_true_iff.mp (show (decide (97 ≤ x.val) && decide (x.val ≤ 122)) = true from hx)
  exact ⟨UInt32.le_iff_toNat_le.mp (of_decide_eq_true hleast), UInt32.le_iff_toNat_le.mp (of_decide_eq_true hgreatest)⟩

theorem isUpper_eq_false_of_isLower {x : Char} (hx : x.isLower = true) : x.isUpper = false := by
  obtain ⟨hleast, -⟩ := toNat_of_isLower hx
  refine decide_eq_false fun hupper => ?_
  have : x.toNat ≤ 90 := UInt32.le_iff_toNat_le.mp hupper.2
  omega

/-- The small form of a capital stands 32 places after it, and any other character is left alone. -/
theorem toLower_cases (c : Char) :
    (65 ≤ c.toNat ∧ c.toNat ≤ 90) ∧ c.toLower.toNat = c.toNat + 32 ∨ c.toLower = c := by
  delta Char.toLower
  split_ifs with hc
  · have hrange : 65 ≤ c.toNat ∧ c.toNat ≤ 90 := hc.imp UInt32.le_iff_toNat_le.mp UInt32.le_iff_toNat_le.mp
    refine .inl ⟨hrange, ?_⟩
    show (c.val + ('a'.val - 'A'.val)).toNat = c.toNat + 32
    rw [UInt32.toNat_add, show c.val.toNat = c.toNat from rfl, show ('a'.val - 'A'.val).toNat = 32 from rfl]
    omega
  · exact .inr rfl

/-- The capital of a small letter stands 32 places before it, and any other character is left alone. -/
theorem toUpper_cases (c : Char) :
    (97 ≤ c.toNat ∧ c.toNat ≤ 122) ∧ c.toUpper.toNat + 32 = c.toNat ∨
      ¬ (97 ≤ c.toNat ∧ c.toNat ≤ 122) ∧ c.toUpper = c := by
  delta Char.toUpper
  split_ifs with hc
  · have hrange : 97 ≤ c.toNat ∧ c.toNat ≤ 122 := hc.imp UInt32.le_iff_toNat_le.mp UInt32.le_iff_toNat_le.mp
    refine .inl ⟨hrange, ?_⟩
    show (c.val + ('A'.val - 'a'.val)).toNat + 32 = c.toNat
    have : c.toNat < 2 ^ 32 := c.val.toNat_lt
    rw [UInt32.toNat_add, show c.val.toNat = c.toNat from rfl, show ('A'.val - 'a'.val).toNat = 2 ^ 32 - 32 from rfl]
    omega
  · exact .inr ⟨fun hrange => hc (hrange.imp UInt32.le_iff_toNat_le.mpr UInt32.le_iff_toNat_le.mpr), rfl⟩

theorem toLower_ne_underscore {c : Char} (h : c ≠ '_') : c.toLower ≠ '_' := by
  rintro heq
  rcases toLower_cases c with ⟨hrange, hto⟩ | hself
  · rw [heq, show '_'.toNat = 95 from rfl] at hto
    omega
  · exact h (hself ▸ heq)

theorem toUpper_ne_underscore {c : Char} (h : c ≠ '_') : c.toUpper ≠ '_' := by
  rintro heq
  rcases toUpper_cases c with ⟨hrange, hto⟩ | ⟨_, hself⟩
  · rw [heq, show '_'.toNat = 95 from rfl] at hto
    omega
  · exact h (hself ▸ heq)

theorem isLower_toUpper (c : Char) : c.toUpper.isLower = false := by
  rw [Bool.eq_false_iff]
  intro h
  have hsmall := toNat_of_isLower h
  rcases toUpper_cases c with ⟨hrange, hto⟩ | ⟨hrange, hself⟩
  · omega
  · exact hrange (hself ▸ hsmall)

theorem underscore_notMem_lowerChar {c : Char} (h : c ≠ '_') : '_' ∉ lowerChar c := by
  unfold lowerChar
  split_ifs with hc
  · exact fun hmem => toLower_ne_underscore h (List.mem_singleton.mp hmem).symm
  · refine notMem_map_ofNat (by decide) (notMem_caseMapping (by decide +kernel) fun heq => hc ?_)
    rw [heq]
    decide

/-- No listed upper-case form is empty, and none has an underscore or a small letter of ASCII. -/
theorem mem_upperSequences {s : Nat × List Nat} (hs : s ∈ upperSequences) :
    s.2 ≠ [] ∧ ∀ n ∈ s.2, n < 95 ∨ 122 < n := by
  have hlist : (upperSequences.all fun s => !s.2.isEmpty && s.2.all fun n => n < 95 || 122 < n) = true := by
    decide +kernel
  simpa using List.all_eq_true.mp hlist s hs

/-- No upper-case form in a run is an underscore or a small letter of ASCII. -/
theorem mem_upperRuns {r : Nat × Nat × Nat × Nat} (hr : r ∈ upperRuns) :
    r.2.2.2 + (r.2.1 - r.1) < 95 ∨ 122 < r.2.2.2 := by
  have hlist : (upperRuns.all fun r => r.2.2.2 + (r.2.1 - r.1) < 95 || 122 < r.2.2.2) = true := by decide +kernel
  simpa using List.all_eq_true.mp hlist r hr

theorem avoids_upper {n : Nat} (hleast : 95 ≤ n) (hgreatest : n ≤ 122) : avoids n upperRuns upperSequences = true := by
  simp only [avoids, Bool.and_eq_true, List.all_eq_true, Bool.or_eq_true, decide_eq_true_eq]
  refine ⟨fun r hr => ?_, fun s hs hn => ?_⟩
  · have := mem_upperRuns hr
    omega
  · have := (mem_upperSequences hs).2 n hn
    omega

theorem underscore_notMem_upperChar {c : Char} (h : c ≠ '_') : '_' ∉ upperChar c := by
  unfold upperChar
  split_ifs with hc
  · exact fun hmem => toUpper_ne_underscore h (List.mem_singleton.mp hmem).symm
  · refine notMem_map_ofNat (by decide) (notMem_caseMapping (avoids_upper (by decide) (by decide)) fun heq => hc ?_)
    rw [heq]
    decide

/-- An upper-case form has no small letter of ASCII. -/
theorem small_notMem_upperChar {x : Char} (hx : x.isLower = true) (c : Char) : x ∉ upperChar c := by
  obtain ⟨hleast, hgreatest⟩ := toNat_of_isLower hx
  unfold upperChar
  split_ifs with hc
  · rintro hmem
    rw [List.mem_singleton.mp hmem, isLower_toUpper] at hx
    cases hx
  · refine notMem_map_ofNat (by omega) (notMem_caseMapping (avoids_upper (by omega) hgreatest) ?_)
    rintro heq
    omega

theorem upperChar_ne_nil (c : Char) : upperChar c ≠ [] := by
  unfold upperChar
  split_ifs
  · simp
  rcases caseMapping_cases upperRuns upperSequences c.toNat with ⟨s, hs, heq⟩ | ⟨r, _, _, heq⟩ | heq
  · rw [heq, ne_eq, List.map_eq_nil_iff]
    exact (mem_upperSequences hs).1
  · simp [heq]
  · simp [heq]

/-- The spans of letters and numbers, the ASCII ones included. -/
def letterSpans : List (Nat × Nat) :=
  (0x30, 0x39) :: (0x41, 0x5A) :: (0x61, 0x7A) :: alphanumericSpans

theorem isAlphanumeric_ofNat {n : Nat} (h : inSpans letterSpans n = true) :
    isAlphanumeric (Char.ofNat n) = true := by
  have hvalid : n.isValidChar := by
    obtain ⟨s, hs, hn⟩ := List.any_eq_true.mp h
    have hspans : ∀ s ∈ letterSpans, s.2 < 0xD800 ∨ 0xDFFF < s.1 ∧ s.2 < 0x110000 := by decide +kernel
    have := hspans s hs
    simp only [Bool.and_eq_true, decide_eq_true_eq] at hn
    unfold Nat.isValidChar
    omega
  have hto : (Char.ofNat n).toNat = n := by
    rw [Char.ofNat, dif_pos hvalid]
    rfl
  simp only [inSpans, letterSpans, List.any_cons, Bool.or_eq_true, Bool.and_eq_true,
    decide_eq_true_eq] at h
  unfold isAlphanumeric
  rw [hto]
  split_ifs with hn
  · -- Only the three ASCII spans reach below 128.
    have hfirst : ∀ s ∈ alphanumericSpans, 128 ≤ s.1 := by decide +kernel
    have hascii : ∀ n < 128, 0x30 ≤ n ∧ n ≤ 0x39 ∨ 0x41 ≤ n ∧ n ≤ 0x5A ∨ 0x61 ≤ n ∧ n ≤ 0x7A →
        (Char.ofNat n).isAlphanum = true := by decide +kernel
    refine hascii n hn ?_
    rcases h with h | h | h | h
    · exact .inl h
    · exact .inr (.inl h)
    · exact .inr (.inr h)
    · obtain ⟨s, hs, hspan⟩ := List.any_eq_true.mp h
      have := hfirst s hs
      simp only [Bool.and_eq_true, decide_eq_true_eq] at hspan
      omega
  · rcases h with h | h | h | h
    · omega
    · omega
    · omega
    · exact h

/-- The lower-case form of a letter or a number has a letter or a number. -/
theorem exists_isAlphanumeric_lowerChar {c : Char} (h : isAlphanumeric c = true) :
    ∃ d ∈ lowerChar c, isAlphanumeric d = true := by
  unfold lowerChar
  split_ifs with hc
  · rw [isAlphanumeric_of_ascii hc] at h
    refine ⟨_, List.mem_singleton.mpr rfl, ?_⟩
    revert h
    exact forall_ascii (P := fun c => c.isAlphanum = true → isAlphanumeric c.toLower = true)
      (by decide +kernel) hc
  rcases caseMapping_cases lowerRuns lowerSequences c.toNat with ⟨s, hs, heq⟩ | ⟨r, hr, hle, heq⟩ | heq
  · have hsequences : ∀ s ∈ lowerSequences, ∃ n ∈ s.2, inSpans letterSpans n = true := by decide +kernel
    obtain ⟨n, hn, hspan⟩ := hsequences s hs
    rw [heq]
    exact ⟨_, List.mem_map_of_mem hn, isAlphanumeric_ofNat hspan⟩
  · -- A run lies in one span, and so do all its images.
    have hruns : (lowerRuns.all fun r => letterSpans.any fun s =>
        s.1.ble r.2.2.2 && (r.2.2.2 + (r.2.1 - r.1)).ble s.2) = true := by decide +kernel
    obtain ⟨s, hs, hends⟩ := List.any_eq_true.mp (List.all_eq_true.mp hruns r hr)
    simp only [Bool.and_eq_true, Nat.ble_eq] at hends
    have hspan : inSpans letterSpans (r.2.2.2 + (c.toNat - r.1)) = true :=
      List.any_eq_true.mpr ⟨s, hs, by simp; omega⟩
    rw [heq]
    exact ⟨_, List.mem_map_of_mem (List.mem_singleton.mpr rfl), isAlphanumeric_ofNat hspan⟩
  · rw [heq]
    refine ⟨_, List.mem_map_of_mem (List.mem_singleton.mpr rfl), ?_⟩
    rwa [Char.ofNat_toNat]

end GoSchema.Text

namespace GoSchema.Name

open GoSchema.Text

/-! ### Words -/

theorem flatten_piecesFrom (piece cs : List Char) :
    (piecesFrom piece cs).flatten = piece ++ cs.filter isAlphanumeric := by
  induction cs generalizing piece with
  | nil => simp [piecesFrom]
  | cons c cs ih =>
    rw [piecesFrom]
    split_ifs with hc
    · simp [ih, hc]
    · simp [ih, hc]

theorem flatten_wordsOfPiece {mode : Mode} {word cs : List Char} (h : cs ≠ []) :
    (wordsOfPiece mode word cs).flatten = word ++ cs := by
  fun_induction wordsOfPiece mode word cs with
  | case1 => exact absurd rfl h
  | case2 => simp
  | case3 mode word c next rest _ ih => simp [ih]
  | case4 mode word c next rest _ _ ih => simp [ih]
  | case5 mode word c next rest _ _ ih => simp [ih]

/-- The words of a name are its letters and numbers, in order. -/
theorem flatten_cut (name : List Char) : (cut name).flatten = name.filter isAlphanumeric := by
  have hpieces : ∀ pieces : List (List Char),
      (pieces.flatMap (wordsOfPiece .fresh [])).flatten = pieces.flatten := by
    intro pieces
    induction pieces with
    | nil => rfl
    | cons piece pieces ih =>
      rw [List.flatMap_cons, List.flatten_append, ih, List.flatten_cons]
      cases piece with
      | nil => rfl
      | cons c piece => rw [flatten_wordsOfPiece (List.cons_ne_nil c piece), List.nil_append]
  rw [cut, hpieces, flatten_piecesFrom, List.nil_append]

theorem isAlphanumeric_of_mem_cut {name word : List Char} {c : Char} (hw : word ∈ cut name)
    (hc : c ∈ word) : isAlphanumeric c = true := by
  have hmem : c ∈ (cut name).flatten := List.mem_flatten.mpr ⟨word, hw, hc⟩
  rw [flatten_cut] at hmem
  exact (List.mem_filter.mp hmem).2

theorem underscore_notMem_of_isAlphanumeric {cs : List Char}
    (h : ∀ c ∈ cs, isAlphanumeric c = true) : '_' ∉ cs :=
  fun hmem => absurd (h '_' hmem) (by decide)

theorem underscore_notMem_lowerWord {word : List Char} (h : '_' ∉ word) : '_' ∉ lowerWord word := by
  fun_induction lowerWord word with
  | case1 => simp
  | case2 => decide
  | case3 c rest _ ih =>
    simp only [List.mem_cons, not_or] at h
    rw [List.mem_append, not_or]
    exact ⟨underscore_notMem_lowerChar (Ne.symm h.1), ih h.2⟩

/-- A word in lower case still has a letter or a number. -/
theorem exists_isAlphanumeric_lowerWord {word : List Char} {c : Char} (hc : c ∈ word)
    (h : isAlphanumeric c = true) : ∃ d ∈ lowerWord word, isAlphanumeric d = true := by
  fun_induction lowerWord word with
  | case1 => simp at hc
  | case2 => exact ⟨'ς', List.mem_singleton.mpr rfl, isAlphanumeric_ofNat (n := 0x3C2) (by decide)⟩
  | case3 first rest _ ih =>
    rcases List.mem_cons.mp hc with rfl | hc
    · obtain ⟨d, hd, hd'⟩ := exists_isAlphanumeric_lowerChar h
      exact ⟨d, List.mem_append_left _ hd, hd'⟩
    · obtain ⟨d, hd, hd'⟩ := ih hc
      exact ⟨d, List.mem_append_right _ hd, hd'⟩

/-- A respelled word is made of letters of the name, or is the lower-case word itself. -/
theorem mem_respell {ws : List (List Char)} {letters w' : List Char} (h : w' ∈ respell ws letters) :
    (∀ c ∈ w', c ∈ letters) ∨ w' ∈ ws := by
  induction ws generalizing letters with
  | nil => simp [respell] at h
  | cons w ws ih =>
    rw [respell, List.mem_cons] at h
    rcases h with rfl | h
    · split_ifs
      · exact .inl fun c hc => List.mem_of_mem_take hc
      · exact .inr List.mem_cons_self
    · rcases ih h with hw | hw
      · exact .inl fun c hc => List.mem_of_mem_drop (hw c hc)
      · exact .inr (List.mem_cons_of_mem _ hw)

/-- Each word is respelled, and no word is lost. -/
theorem exists_respell {ws : List (List Char)} {letters w : List Char} (h : w ∈ ws) :
    ∃ w' ∈ respell ws letters, (lower w' = w ∧ ∀ c ∈ w', c ∈ letters) ∨ w' = w := by
  induction ws generalizing letters with
  | nil => simp at h
  | cons v ws ih =>
    rw [respell]
    rcases List.mem_cons.mp h with rfl | h
    · refine ⟨_, List.mem_cons_self, ?_⟩
      split_ifs with hlower
      · exact .inl ⟨hlower, fun c hc => List.mem_of_mem_take hc⟩
      · exact .inr rfl
    · obtain ⟨w', hw', hcase⟩ := @ih (letters.drop v.length) h
      refine ⟨w', List.mem_cons_of_mem _ hw', hcase.imp (fun hl => ⟨hl.1, fun c hc => ?_⟩) id⟩
      exact List.mem_of_mem_drop (hl.2 c hc)

theorem underscore_notMem_words {name word : List Char} (h : word ∈ words name) : '_' ∉ word := by
  rcases mem_respell h with hw | hw
  · exact underscore_notMem_of_isAlphanumeric fun c hc => (List.mem_filter.mp (hw c hc)).2
  · obtain ⟨w, hcut, rfl⟩ := List.mem_map.mp hw
    exact underscore_notMem_lowerWord
      (underscore_notMem_of_isAlphanumeric fun c hc => isAlphanumeric_of_mem_cut hcut hc)

/-- Some word of a name with a letter or a number has a letter or a number. -/
theorem exists_isAlphanumeric_words {name : List Char} {c : Char} (hc : c ∈ name)
    (h : isAlphanumeric c = true) : ∃ word ∈ words name, ∃ d ∈ word, isAlphanumeric d = true := by
  have hmem : c ∈ (cut name).flatten := by
    rw [flatten_cut]
    exact List.mem_filter.mpr ⟨hc, h⟩
  obtain ⟨w, hw, hcw⟩ := List.mem_flatten.mp hmem
  obtain ⟨d, hd, hd'⟩ := exists_isAlphanumeric_lowerWord hcw h
  obtain ⟨w', hw', ⟨hlower, hletters⟩ | rfl⟩ :=
    @exists_respell _ (name.filter isAlphanumeric) _ (List.mem_map_of_mem (f := lowerWord) hw)
  · cases w' with
    | nil =>
      rw [← hlower] at hd
      simp [lower, lowerAfter] at hd
    | cons e w' =>
      exact ⟨e :: w', hw', e, List.mem_cons_self, (List.mem_filter.mp (hletters e List.mem_cons_self)).2⟩
  · exact ⟨lowerWord w, hw', d, hd, hd'⟩

/-! ### Spellings -/

theorem underscore_notMem_capitalize {word : List Char} (h : '_' ∉ word) : '_' ∉ capitalize word := by
  cases word with
  | nil => simp [capitalize]
  | cons c rest =>
    simp only [List.mem_cons, not_or] at h
    rw [capitalize, List.mem_append, not_or]
    exact ⟨underscore_notMem_upperChar (Ne.symm h.1), underscore_notMem_lowerWord h.2⟩

theorem underscore_notMem_upperCamelCase (word : List Char) : '_' ∉ upperCamelCase word := by
  rw [upperCamelCase, List.mem_flatMap]
  rintro ⟨w, hw, hmem⟩
  exact underscore_notMem_capitalize
    (underscore_notMem_of_isAlphanumeric fun c hc => isAlphanumeric_of_mem_cut hw hc) hmem

theorem underscore_notMem_caseWord {word : List Char} (h : '_' ∉ word) (keepRuns : Bool) :
    '_' ∉ caseWord keepRuns word := by
  unfold caseWord
  dsimp only
  split_ifs
  · intro hmem
    obtain ⟨c, hc, hupper⟩ := List.mem_map.mp hmem
    exact toUpper_ne_underscore (fun heq => h (heq ▸ hc)) hupper
  · exact h
  · exact underscore_notMem_upperCamelCase word

theorem upperCamelCase_ne_nil {word : List Char} {c : Char} (hc : c ∈ word)
    (h : isAlphanumeric c = true) : upperCamelCase word ≠ [] := by
  have hmem : c ∈ (cut word).flatten := by
    rw [flatten_cut]
    exact List.mem_filter.mpr ⟨hc, h⟩
  obtain ⟨w, hw, hcw⟩ := List.mem_flatten.mp hmem
  intro hnil
  rw [upperCamelCase, List.flatMap_eq_nil_iff] at hnil
  cases w with
  | nil => simp at hcw
  | cons first rest => simpa [capitalize, upperChar_ne_nil] using hnil (first :: rest) hw

theorem caseWord_ne_nil {word : List Char} {c : Char} (hc : c ∈ word) (h : isAlphanumeric c = true)
    (keepRuns : Bool) : caseWord keepRuns word ≠ [] := by
  have hword : word ≠ [] := List.ne_nil_of_mem hc
  unfold caseWord
  dsimp only
  split_ifs
  · simpa using hword
  · exact hword
  · exact upperCamelCase_ne_nil hc h

theorem caseWord_nil (keepRuns : Bool) : caseWord keepRuns [] = [] := by
  cases keepRuns <;> decide

/-- A name with a letter or a number is spelled with its words, and these leave something. -/
theorem exportedChars_eq {name : List Char} {c : Char} (hc : c ∈ name) (h : isAlphanumeric c = true) :
    exportedChars name = (words name).flatMap (caseWord (!isScreaming name)) ∧
      exportedChars name ≠ [] := by
  obtain ⟨word, hword, d, hd, hd'⟩ := exists_isAlphanumeric_words hc h
  have hne : (words name).flatMap (caseWord (!isScreaming name)) ≠ [] := by
    rw [ne_eq, List.flatMap_eq_nil_iff]
    exact fun hnil => caseWord_ne_nil hd hd' _ (hnil word hword)
  have heq : exportedChars name = (words name).flatMap (caseWord (!isScreaming name)) := by
    rw [exportedChars, if_neg (by simpa using hne)]
  exact ⟨heq, heq ▸ hne⟩

/-- The spelling of a name with a letter or a number has no underscore, and is not empty. -/
theorem underscore_notMem_exported {name : String} {c : Char} (hc : c ∈ name.toList)
    (h : isAlphanumeric c = true) : '_' ∉ (exported name).toList ∧ (exported name).toList ≠ [] := by
  obtain ⟨heq, hne⟩ := exportedChars_eq hc h
  rw [exported, String.toList_ofList]
  refine ⟨?_, hne⟩
  rw [heq, List.mem_flatMap]
  rintro ⟨word, hword, hmem⟩
  exact underscore_notMem_caseWord (underscore_notMem_words hword) _ hmem

/-- A name without letters and numbers is left as it is. -/
theorem exported_eq_self {name : String} (h : ∀ c ∈ name.toList, isAlphanumeric c = false) :
    exported name = name := by
  have hfilter : name.toList.filter isAlphanumeric = [] := by
    rw [List.filter_eq_nil_iff]
    exact fun c hc => by simp [h c hc]
  have hcut : ∀ w ∈ cut name.toList, w = [] := by
    rw [← List.flatten_eq_nil_iff, flatten_cut, hfilter]
  have hwords : ∀ word ∈ words name.toList, word = [] := by
    intro word hword
    rcases mem_respell hword with hw | hw
    · rw [hfilter] at hw
      exact List.eq_nil_iff_forall_not_mem.mpr fun c hc => by simpa using hw c hc
    · obtain ⟨w, hmem, rfl⟩ := List.mem_map.mp hw
      rw [hcut w hmem, lowerWord]
  have hcased : (words name.toList).flatMap (caseWord (!isScreaming name.toList)) = [] := by
    rw [List.flatMap_eq_nil_iff]
    exact fun word hword => by rw [hwords word hword, caseWord_nil]
  rw [exported, exportedChars, hcased]
  simp

/-! ### First letters -/

variable {x : Char}

theorem head?_upperCamelCase_ne (hx : x.isLower = true) (word : List Char) :
    (upperCamelCase word).head? ≠ some x := by
  rw [upperCamelCase, List.head?_flatMap]
  intro h
  obtain ⟨w, _, hw⟩ := List.exists_of_findSome?_eq_some h
  cases w with
  | nil => simp [capitalize] at hw
  | cons c rest =>
    rw [capitalize, List.head?_append_of_ne_nil _ (upperChar_ne_nil c)] at hw
    exact small_notMem_upperChar hx c (List.mem_of_head? hw)

theorem head?_caseWord_ne (hx : x.isLower = true) (keepRuns : Bool) (word : List Char) :
    (caseWord keepRuns word).head? ≠ some x := by
  unfold caseWord
  dsimp only
  split_ifs with _ hrun
  · intro h
    obtain ⟨c, -, rfl⟩ := List.mem_map.mp (List.mem_of_head? h)
    rw [isLower_toUpper] at hx
    cases hx
  · intro h
    simp only [isUpperRun, Bool.and_eq_true, Bool.not_eq_true', List.any_eq_false] at hrun
    refine hrun.2.2 x (List.mem_of_head? h) ?_
    obtain ⟨-, hgreatest⟩ := toNat_of_isLower hx
    rw [isLowercase_of_ascii (by omega), hx]
  · exact head?_upperCamelCase_ne hx word

/-- No spelling begins with a small letter of ASCII. -/
theorem head?_exported_ne (hx : x.isLower = true) (name : String) : (exported name).toList.head? ≠ some x := by
  by_cases h : ∃ c ∈ name.toList, isAlphanumeric c = true
  · obtain ⟨c, hc, halnum⟩ := h
    rw [exported, String.toList_ofList, (exportedChars_eq hc halnum).1, List.head?_flatMap]
    intro hhead
    obtain ⟨word, _, hword⟩ := List.exists_of_findSome?_eq_some hhead
    exact head?_caseWord_ne hx _ word hword
  · push Not at h
    rw [exported_eq_self fun c hc => Bool.of_not_eq_true (h c hc)]
    intro hhead
    obtain ⟨-, hgreatest⟩ := toNat_of_isLower hx
    refine h x (List.mem_of_head? hhead) ?_
    rw [isAlphanumeric_of_ascii (by omega)]
    show ((x.isUpper || x.isLower) || x.isDigit) = true
    rw [hx, Bool.or_true, Bool.true_or]

end GoSchema.Name
