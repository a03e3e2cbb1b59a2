import GoSchema.Proofs.AsciiNames

/-!
# Words counted off a name

The words of a name can be read off its snake text, the lower-case words joined by underscores: no word is empty or has
an underscore, so the text divides into the words again (`snakeWords_eq`). Their spelling comes from the letters and
numbers of the name, which are counted off word by word, as many for each word as it has in lower case
(`getElem?_words`). If lowering changed the length of one word, the count would be off for all that follow; where the
letters that are counted off are not the word, the lower-case word itself is taken.

Lowering an ASCII word keeps its length. So the letters that are counted off for a word are always those that it came
from, and no word of an ASCII name is ever replaced by its lower-case form (`words_spelled_as_written`).

## What is proved

* `Name.snakeWords_eq`: the snake text divides into the words that it was made of.
* `Name.getElem?_words`: the words of any name, by what is counted off for them.
* `Name.countedOff_of_ascii`: in an ASCII name no letter is counted off for a wrong word.
* `Name.words_spelled_as_written`: the words of an ASCII name, in every respect: order, letters and lower case.

For other names the statement about counting holds as well, and what it comes to depends on the case mappings.
Which of them change lengths is not listed.
-/

namespace GoSchema.Name

open GoSchema.Text

/-! ### The snake text -/

/-- A word that has begun with a capital has a character, so no word that ends is empty. -/
theorem ne_nil_of_mem_wordsOfPiece {mode : Mode} {word cs w : List Char} (hmode : mode = .upper → word ≠ [])
    (h : w ∈ wordsOfPiece mode word cs) : w ≠ [] := by
  fun_induction wordsOfPiece mode word cs with
  | case1 => simp at h
  | case2 => simp_all
  | case3 mode word c next rest _ ih =>
    rcases List.mem_cons.mp h with rfl | h
    · simp
    · exact ih (by simp) h
  | case4 mode word c next rest _ hrun ih =>
    rcases List.mem_cons.mp h with rfl | h
    · exact hmode hrun.1
    · exact ih (by simp) h
  | case5 mode word c next rest _ _ ih => exact ih (fun _ => by simp) h

theorem ne_nil_of_mem_cut {name w : List Char} (h : w ∈ cut name) : w ≠ [] := by
  obtain ⟨piece, -, hw⟩ := List.mem_flatMap.mp h
  exact ne_nil_of_mem_wordsOfPiece (by simp) hw

theorem lowerWord_ne_nil_of_mem_cut {name w : List Char} (h : w ∈ cut name) : lowerWord w ≠ [] := by
  obtain ⟨c, hc⟩ := List.exists_mem_of_ne_nil w (ne_nil_of_mem_cut h)
  obtain ⟨d, hd, -⟩ := exists_isAlphanumeric_lowerWord hc (isAlphanumeric_of_mem_cut h hc)
  exact List.ne_nil_of_mem hd

/-- The words between the underscores of the snake text. -/
def snakeWords (name : List Char) : List (List Char) :=
  ((snakeCase name).splitOn '_').filter fun w => !w.isEmpty

/-- The snake text divides into the words that it was made of. -/
theorem snakeWords_eq (name : List Char) : snakeWords name = (cut name).map lowerWord := by
  have hsplit : ∀ w ∈ (cut name).map lowerWord, '_' ∉ w ∧ w ≠ [] := by
    intro w hw
    obtain ⟨w, hcut, rfl⟩ := List.mem_map.mp hw
    exact ⟨underscore_notMem_lowerWord
      (underscore_notMem_of_isAlphanumeric fun c hc => isAlphanumeric_of_mem_cut hcut hc),
      lowerWord_ne_nil_of_mem_cut hcut⟩
  rw [snakeWords, snakeCase]
  -- A text without words has one empty part, which is left out.
  by_cases hnone : (cut name).map lowerWord = []
  · rw [hnone]
    rfl
  · rw [List.splitOn_intercalate '_' (fun w hw => (hsplit w hw).1) hnone, List.filter_eq_self]
    intro w hw
    simpa using (hsplit w hw).2

/-! ### Counting off -/

/-- The letters and numbers of a name that are counted off for the word at a position: those that come after as many as
the words before it have, and as many of them as the word has. -/
def countedOff (name : List Char) (position : Nat) : List Char :=
  ((name.filter isAlphanumeric).drop ((snakeWords name).take position).flatten.length).take
    ((snakeWords name).getD position []).length

/-- A word gets its spelling from the letters behind those of the words before it. By induction on the words; the
letters of each word are dropped before the next one has its turn. -/
theorem getElem?_respell {ws : List (List Char)} {letters w : List Char} {k : Nat} (h : ws[k]? = some w) :
    (respell ws letters)[k]? =
      some (if lower ((letters.drop (ws.take k).flatten.length).take w.length) = w then
        (letters.drop (ws.take k).flatten.length).take w.length else w) := by
  induction ws generalizing letters k with
  | nil => simp at h
  | cons v ws ih =>
    rw [respell]
    cases k with
    | zero =>
      obtain rfl : v = w := by simpa using h
      simp
    | succ k =>
      have hdrop : (letters.drop v.length).drop (ws.take k).flatten.length =
          letters.drop ((v :: ws).take (k + 1)).flatten.length := by
        rw [List.drop_drop, List.take_succ_cons, List.flatten_cons, List.length_append]
      rw [List.getElem?_cons_succ, ih h, hdrop]

/-- The words of any name: each is spelled with the letters that are counted off for it, if these are the word in lower
case, and else as it stands in the snake text. -/
theorem getElem?_words {name w : List Char} {k : Nat} (h : (snakeWords name)[k]? = some w) :
    (words name)[k]? = some (if lower (countedOff name k) = w then countedOff name k else w) := by
  have hcounted : (snakeWords name).getD k [] = w := by rw [List.getD_eq_getElem?_getD, h, Option.getD_some]
  rw [words, ← snakeWords_eq, getElem?_respell h, countedOff, hcounted]

/-! ### ASCII names -/

theorem flatten_map_lowerWord {ws : List (List Char)} (h : Ascii ws.flatten) :
    (ws.map lowerWord).flatten = ws.flatten.map Char.toLower := by
  rw [List.map_flatten]
  refine congrArg List.flatten (List.map_congr_left fun w hw => lowerWord_of_ascii ?_)
  exact h.mono fun c hc => List.mem_flatten.mpr ⟨w, hw, hc⟩

/-- The part at a position is what stands behind the parts before it. -/
theorem take_drop_flatten {ws : List (List Char)} {w : List Char} {k : Nat} (h : ws[k]? = some w) :
    (ws.flatten.drop (ws.take k).flatten.length).take w.length = w := by
  obtain ⟨hk, rfl⟩ := List.getElem?_eq_some_iff.mp h
  have hsplit : ws.flatten = (ws.take k).flatten ++ (ws[k] ++ (ws.drop (k + 1)).flatten) := by
    rw [← List.flatten_cons, ← List.drop_eq_getElem_cons hk, ← List.flatten_append, List.take_append_drop]
  rw [hsplit, List.drop_left, List.take_left]

/-- No letter is counted off for a wrong word. -/
theorem countedOff_of_ascii {name w : List Char} (h : Ascii name) {k : Nat} (hw : (cut name)[k]? = some w) :
    countedOff name k = w := by
  have hascii : Ascii (cut name).flatten := by
    rw [flatten_cut]
    exact h.mono (List.filter_subset_self name)
  have hword : Ascii w := hascii.mono fun c hc => List.mem_flatten.mpr ⟨w, List.mem_of_getElem? hw, hc⟩
  have hbefore : ((snakeWords name).take k).flatten.length = ((cut name).take k).flatten.length := by
    have hsub : ((cut name).take k).flatten ⊆ (cut name).flatten := by
      intro c hc
      obtain ⟨v, hv, hc⟩ := List.mem_flatten.mp hc
      exact List.mem_flatten.mpr ⟨v, List.mem_of_mem_take hv, hc⟩
    rw [snakeWords_eq, ← List.map_take, flatten_map_lowerWord (hascii.mono hsub), List.length_map]
  have hlength : ((snakeWords name).getD k []).length = w.length := by
    rw [snakeWords_eq, List.getD_eq_getElem?_getD, List.getElem?_map, hw, Option.map_some, Option.getD_some,
      lowerWord_of_ascii hword, List.length_map]
  rw [countedOff, hbefore, hlength, ← flatten_cut, take_drop_flatten hw]

/-- **The words of an ASCII name are spelled as the name is.** One after the other they are the letters and numbers of
the name, and in lower case, joined by underscores, they are its snake text. The letters that are counted off for a word
of the snake text are this word in lower case, and they are its spelling: the lower-case word is never taken for it. -/
theorem words_spelled_as_written {name : String} (h : Ascii name.toList) :
    (words name.toList).flatten = name.toList.filter isAlphanumeric ∧
      ['_'].intercalate ((words name.toList).map lower) = snakeCase name.toList ∧
      ∀ k w, (snakeWords name.toList)[k]? = some w →
        lower (countedOff name.toList k) = w ∧ (words name.toList)[k]? = some (countedOff name.toList k) := by
  have hlower : ∀ w ∈ cut name.toList, lower w = lowerWord w := by
    intro w hw
    have hascii : Ascii w := fun c hc => toNat_of_isAlphanum (isAlphanum_of_mem_cut h hw hc)
    rw [lower_of_ascii hascii, lowerWord_of_ascii hascii]
  refine ⟨?_, ?_, fun k w hw => ?_⟩
  · rw [words_of_ascii h, flatten_cut]
  · rw [words_of_ascii h, List.map_congr_left hlower, snakeCase]
  · obtain ⟨v, hv, rfl⟩ : ∃ v, (cut name.toList)[k]? = some v ∧ lowerWord v = w := by
      rwa [snakeWords_eq, List.getElem?_map, Option.map_eq_some_iff] at hw
    have hcounted : lower (countedOff name.toList k) = lowerWord v := by
      rw [countedOff_of_ascii h hv, hlower v (List.mem_of_getElem? hv)]
    refine ⟨hcounted, ?_⟩
    rw [getElem?_words hw, if_pos hcounted]

theorem words_spelled_as_written_mixed :
    Ascii "HTTPServer2_userId--x".toList ∧
      (words "HTTPServer2_userId--x".toList).flatten = "HTTPServer2userIdx".toList ∧
      ['_'].intercalate ((words "HTTPServer2_userId--x".toList).map lower) = "http_server2_user_id_x".toList ∧
      (words "HTTPServer2_userId--x".toList)[1]? = some (countedOff "HTTPServer2_userId--x".toList 1) ∧
      countedOff "HTTPServer2_userId--x".toList 1 = "Server2".toList := by
  have hascii : Ascii "HTTPServer2_userId--x".toList := by decide
  obtain ⟨hflatten, hsnake, hwords⟩ := words_spelled_as_written hascii
  refine ⟨hascii, hflatten.trans (by decide +kernel), hsnake.trans (by decide +kernel), ?_, by decide +kernel⟩
  exact (hwords 1 "server2".toList (by decide +kernel)).2

end GoSchema.Name
