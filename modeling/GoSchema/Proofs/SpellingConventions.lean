import GoSchema.Proofs.AsciiNames

/-!
# Spelling conventions

A name of several words is written in one of four ways (`Convention.write`): in small letters or in capitals with
underscores between the words, or with each word but perhaps the first capitalized and nothing between them. Its
identifier does not depend on the choice (`exported_write`): the words follow each other, each in the form that Go style
has for it (`Word.idiomatic`).

With underscores the words are cut as they were written. Without them they need not be: the words `a`, `b`, `cd` are
written `ABCd`, which is cut into `AB` and `Cd`. What is lost is only where capitals that stand alone are divided, and a
run of capitals stays as it is (`flatMap_caseWord_titles`).

## What is proved

* `facts_of_isLower` and `facts_of_isUpper`: all that is used about letters.
* `wordsOfPiece_small_capital`, `wordsOfPiece_run_capital` and their like: how a text is cut, one lemma for each
  way in which letters can follow each other.
* `flatMap_caseWord_titles` and `piecesFrom_intercalate`: names without underscores and names with them.
* `exported_write`: one identifier for all conventions, for every name of at least two words.

Words are small letters of ASCII. With digits the conventions are not told apart by case alone, and a name of one
word has no boundary at which they could differ.
-/

namespace GoSchema.Name

open GoSchema.Text

/-- A text of small letters. -/
def Small (cs : List Char) : Prop := ∀ c ∈ cs, c.isLower = true

instance (cs : List Char) : Decidable (Small cs) := List.decidableBAll _ cs

/-- A word of small letters. -/
structure Word where
  /-- The letters, at least one. -/
  letters : List Char
  ne_nil : letters ≠ []
  small : Small letters

/-- Writes the first letter as a capital. -/
def titled : List Char → List Char
  | [] => []
  | c :: rest => c.toUpper :: rest

namespace Word

/-- The word in capitals. -/
def capitals (w : Word) : List Char := w.letters.map Char.toUpper

/-- The word with a capital first letter. -/
def title (w : Word) : List Char := titled w.letters

/-- The form that Go style has for the word inside an identifier: an initialism is written in capitals. -/
def idiomatic (w : Word) : List Char :=
  if initialisms.contains (String.ofList w.capitals) then w.capitals else w.title

end Word

/-- How the words of a name are put together. -/
inductive Convention where
  /-- `user_account_id` -/
  | snake
  /-- `userAccountId` -/
  | camel
  /-- `UserAccountId` -/
  | upperCamel
  /-- `USER_ACCOUNT_ID` -/
  | screaming
  deriving DecidableEq

/-- The name that is made of the words. -/
def Convention.write : Convention → List Word → List Char
  | .snake, ws => ['_'].intercalate (ws.map Word.letters)
  | .camel, [] => []
  | .camel, w :: ws => w.letters ++ ws.flatMap Word.title
  | .upperCamel, ws => ws.flatMap Word.title
  | .screaming, ws => ['_'].intercalate (ws.map Word.capitals)

/-! ### Letters -/

/-- The facts about a small letter that the cutting and casing of words depend on. -/
theorem facts_of_isLower {c : Char} (h : c.isLower = true) :
    isLowercase c = true ∧ isUppercase c = false ∧ c.isAlphanum = true ∧ c.toUpper.isUpper = true ∧
      c.toLower = c ∧ c.toUpper.toLower = c := by
  have halnum : c.isAlphanum = true := by
    change (c.isUpper || c.isLower || c.isDigit) = true
    simp [h]
  have hc := toNat_of_isAlphanum halnum
  rw [isLowercase_of_ascii hc, isUppercase_of_ascii hc]
  revert h
  exact forall_ascii (P := fun c => c.isLower = true → c.isLower = true ∧ c.isUpper = false ∧ c.isAlphanum = true ∧
    c.toUpper.isUpper = true ∧ c.toLower = c ∧ c.toUpper.toLower = c) (by decide +kernel) hc

/-- The facts about a capital that the cutting and casing of words depend on. -/
theorem facts_of_isUpper {c : Char} (h : c.isUpper = true) :
    isLowercase c = false ∧ isUppercase c = true ∧ c.isAlphanum = true ∧ c.toUpper = c := by
  have halnum : c.isAlphanum = true := by
    change (c.isUpper || c.isLower || c.isDigit) = true
    simp [h]
  have hc := toNat_of_isAlphanum halnum
  rw [isLowercase_of_ascii hc, isUppercase_of_ascii hc]
  revert h
  exact forall_ascii (P := fun c => c.isUpper = true → c.isLower = false ∧ c.isUpper = true ∧ c.isAlphanum = true ∧
    c.toUpper = c) (by decide +kernel) hc

/-- A text of capitals. -/
def Capitals (cs : List Char) : Prop := ∀ c ∈ cs, c.isUpper = true

theorem Small.asciiWord {cs : List Char} (h : Small cs) : AsciiWord cs :=
  fun c hc => (facts_of_isLower (h c hc)).2.2.1

theorem Capitals.asciiWord {cs : List Char} (h : Capitals cs) : AsciiWord cs :=
  fun c hc => (facts_of_isUpper (h c hc)).2.2.1

theorem Capitals.map_toUpper {cs : List Char} (h : Capitals cs) : cs.map Char.toUpper = cs :=
  (List.map_congr_left fun c hc => (facts_of_isUpper (h c hc)).2.2.2).trans (List.map_id' cs)

theorem Small.map_toLower {cs : List Char} (h : Small cs) : cs.map Char.toLower = cs :=
  (List.map_congr_left fun c hc => (facts_of_isLower (h c hc)).2.2.2.2.1).trans (List.map_id' cs)

theorem Small.capitals {cs : List Char} (h : Small cs) : Capitals (cs.map Char.toUpper) := by
  intro d hd
  obtain ⟨c, hc, rfl⟩ := List.mem_map.mp hd
  exact (facts_of_isLower (h c hc)).2.2.2.1

/-! ### Cutting -/

theorem Mode.next_of_isLower (mode : Mode) {c : Char} (h : c.isLower = true) : mode.next c = .lower := by
  rw [Mode.next, if_pos (facts_of_isLower h).1]

theorem Mode.next_of_isUpper (mode : Mode) {c : Char} (h : c.isUpper = true) : mode.next c = .upper := by
  have hfacts := facts_of_isUpper h
  rw [Mode.next, if_neg (by simp [hfacts.1]), if_pos hfacts.2.1]

/-- A word of small letters goes on until its end. -/
theorem wordsOfPiece_small {l : List Char} (h : Small l) (hne : l ≠ []) (mode : Mode) (word : List Char) :
    wordsOfPiece mode word l = [word ++ l] := by
  induction l generalizing mode word with
  | nil => exact absurd rfl hne
  | cons c rest ih =>
    cases rest with
    | nil => rfl
    | cons next rest =>
      have hc := facts_of_isLower (h c List.mem_cons_self)
      have hnext := facts_of_isLower (h next (by simp))
      rw [wordsOfPiece, if_neg (by simp [hnext.2.1]), if_neg (by simp [hc.2.1]),
        ih (fun d hd => h d (List.mem_cons_of_mem c hd)) (by simp)]
      simp

/-- A word of small letters ends before a capital. -/
theorem wordsOfPiece_small_capital {l : List Char} (h : Small l) (hne : l ≠ []) {u : Char} (hu : u.isUpper = true)
    (tail : List Char) (mode : Mode) (word : List Char) :
    wordsOfPiece mode word (l ++ u :: tail) = (word ++ l) :: wordsOfPiece .fresh [] (u :: tail) := by
  induction l generalizing mode word with
  | nil => exact absurd rfl hne
  | cons c rest ih =>
    have hc := h c List.mem_cons_self
    cases rest with
    | nil =>
      rw [List.singleton_append, wordsOfPiece,
        if_pos ⟨Mode.next_of_isLower mode hc, (facts_of_isUpper hu).2.1⟩]
    | cons next rest =>
      have hnext := facts_of_isLower (h next (by simp))
      rw [List.cons_append, List.cons_append, wordsOfPiece, if_neg (by simp [hnext.2.1]),
        if_neg (by simp [(facts_of_isLower hc).2.1]), ← List.cons_append,
        ih (fun d hd => h d (List.mem_cons_of_mem c hd)) (by simp)]
      simp

/-- Before a capital, a capital goes to the run of capitals that is being read. -/
theorem wordsOfPiece_two_capitals {mode : Mode} {word : List Char} {c d : Char} (hc : c.isUpper = true)
    (hd : d.isUpper = true) (rest : List Char) :
    wordsOfPiece mode word (c :: d :: rest) = wordsOfPiece .upper (word ++ [c]) (d :: rest) := by
  have hnext := mode.next_of_isUpper hc
  rw [wordsOfPiece, if_neg (by simp [hnext]), if_neg (by simp [(facts_of_isUpper hd).1]), hnext]

/-- A capital at the beginning is the first letter of a word. -/
theorem wordsOfPiece_capital {c d : Char} (hc : c.isUpper = true) (rest : List Char) :
    wordsOfPiece .fresh [] (c :: d :: rest) = wordsOfPiece .upper [c] (d :: rest) := by
  have hnext := Mode.fresh.next_of_isUpper hc
  rw [wordsOfPiece, if_neg (by simp [hnext]), if_neg (by simp), hnext, List.nil_append]

/-- Before a small letter, a capital ends the run of capitals and begins a word. -/
theorem wordsOfPiece_run_capital {run : List Char} {c d : Char} (hc : c.isUpper = true) (hd : d.isLower = true)
    (rest : List Char) :
    wordsOfPiece .upper run (c :: d :: rest) = run :: wordsOfPiece .fresh [c] (d :: rest) := by
  have hnext := Mode.upper.next_of_isUpper hc
  rw [wordsOfPiece, if_neg (by simp [hnext]),
    if_pos ⟨rfl, (facts_of_isUpper hc).2.1, (facts_of_isLower hd).1⟩]

/-- A run of capitals is one word. -/
theorem wordsOfPiece_capitals {l : List Char} (h : Capitals l) (hne : l ≠ []) (mode : Mode) (word : List Char) :
    wordsOfPiece mode word l = [word ++ l] := by
  induction l generalizing mode word with
  | nil => exact absurd rfl hne
  | cons c rest ih =>
    cases rest with
    | nil => rfl
    | cons next rest =>
      have hnext := facts_of_isUpper (h next (by simp))
      rw [wordsOfPiece, if_neg (by simp [Mode.next_of_isUpper mode (h c List.mem_cons_self)]),
        if_neg (by simp [hnext.1]), ih (fun d hd => h d (List.mem_cons_of_mem c hd)) (by simp)]
      simp

theorem piecesFrom_append {word : List Char} (h : AsciiWord word) (piece rest : List Char) :
    piecesFrom piece (word ++ rest) = piecesFrom (piece ++ word) rest := by
  induction word generalizing piece with
  | nil => simp
  | cons c word ih =>
    rw [List.cons_append, piecesFrom, if_pos (h.isAlphanumeric List.mem_cons_self),
      ih fun d hd => h d (List.mem_cons_of_mem c hd)]
    simp

theorem cut_of_asciiWord {word : List Char} (h : AsciiWord word) : cut word = wordsOfPiece .fresh [] word := by
  have hpieces : piecesFrom [] word = [word] := by simpa [piecesFrom] using piecesFrom_append h [] []
  rw [cut, hpieces, List.flatMap_singleton]

/-- Words joined by underscores are the pieces of the whole. -/
theorem piecesFrom_intercalate {ws : List (List Char)} (h : ∀ w ∈ ws, AsciiWord w) (hne : ws ≠ []) :
    piecesFrom [] (['_'].intercalate ws) = ws := by
  induction ws with
  | nil => exact absurd rfl hne
  | cons w ws ih =>
    have hw := h w List.mem_cons_self
    cases ws with
    | nil => simpa [piecesFrom] using piecesFrom_append hw [] []
    | cons w' ws =>
      have hunderscore : isAlphanumeric '_' = false := by decide
      rw [List.intercalate_cons_cons, List.append_assoc, piecesFrom_append hw, List.singleton_append, piecesFrom,
        if_neg (by simp [hunderscore]), ih (fun v hv => h v (List.mem_cons_of_mem w hv)) (by simp)]
      simp

/-! ### Casing -/

theorem upperCamelCase_of_single {word : List Char} (h : AsciiWord word)
    (hsingle : wordsOfPiece .fresh [] word = [word]) : upperCamelCase word = capitalize word := by
  rw [upperCamelCase, cut_of_asciiWord h, hsingle, List.flatMap_singleton]

/-- Capitals stay as they are. -/
theorem caseWord_of_capitals {run : List Char} (h : Capitals run) : caseWord true run = run := by
  unfold caseWord
  dsimp only
  rw [h.map_toUpper]
  split_ifs with hinitialism hrun
  · rfl
  · rfl
  · -- A text of capitals that is no run has at most one letter.
    rcases run with _ | ⟨c, _ | ⟨d, rest⟩⟩
    · rfl
    · have hsingle : wordsOfPiece .fresh [] [c] = [[c]] := rfl
      rw [upperCamelCase_of_single h.asciiWord hsingle, capitalize_of_ascii h.asciiWord.ascii,
        (facts_of_isUpper (h c List.mem_cons_self)).2.2.2]
      rfl
    · have hupper : (c :: d :: rest).any isUppercase = true :=
        List.any_eq_true.mpr ⟨c, List.mem_cons_self, (facts_of_isUpper (h c List.mem_cons_self)).2.1⟩
      have hlower : (c :: d :: rest).any isLowercase = false :=
        List.any_eq_false.mpr fun e he => by simp [(facts_of_isUpper (h e he)).1]
      simp [isUpperRun, hupper, hlower] at hrun

namespace Word

variable (w : Word)

theorem exists_letters : ∃ c rest, w.letters = c :: rest ∧ c.isLower = true ∧ Small rest := by
  obtain ⟨c, rest, heq⟩ := List.exists_cons_of_ne_nil w.ne_nil
  have hsmall := w.small
  rw [heq] at hsmall
  exact ⟨c, rest, heq, hsmall c List.mem_cons_self, fun d hd => hsmall d (List.mem_cons_of_mem c hd)⟩

theorem exists_title : ∃ c rest, w.title = c :: rest ∧ c.isUpper = true ∧ Small rest := by
  obtain ⟨c, rest, heq, hc, hrest⟩ := w.exists_letters
  exact ⟨c.toUpper, rest, by rw [title, heq, titled], (facts_of_isLower hc).2.2.2.1, hrest⟩

theorem capitals_ne_nil : w.capitals ≠ [] := by simpa [capitals] using w.ne_nil

/-- A text that is the word but for the case of its letters, and is not cut. -/
structure Spelling (text : List Char) : Prop where
  asciiWord : AsciiWord text
  single : wordsOfPiece .fresh [] text = [text]
  lowered : text.map Char.toLower = w.letters
  raised : text.map Char.toUpper = w.capitals

variable {w}

theorem Spelling.upperCamelCase {text : List Char} (h : w.Spelling text) : upperCamelCase text = w.title := by
  obtain ⟨c, rest, hletters, -, -⟩ := w.exists_letters
  have hlowered := h.lowered
  have hraised := h.raised
  have hascii := h.asciiWord.ascii
  rw [upperCamelCase_of_single h.asciiWord h.single]
  rw [capitals, hletters] at hraised
  rw [hletters] at hlowered
  obtain ⟨d, tail, rfl, -, htail⟩ := List.map_eq_cons_iff.mp hlowered
  rw [capitalize_of_ascii hascii, htail, title, hletters, titled, (List.cons.inj hraised).1]

theorem Spelling.exists_mem {text : List Char} (h : w.Spelling text) :
    ∃ c ∈ text, isAlphanumeric c = true := by
  have hne : text ≠ [] := by
    rintro rfl
    exact w.ne_nil h.lowered.symm
  obtain ⟨c, hc⟩ := List.exists_mem_of_ne_nil _ hne
  exact ⟨c, hc, h.asciiWord.isAlphanumeric hc⟩

/-- A spelling that is not kept as a run of capitals gets the idiomatic form. -/
theorem Spelling.caseWord {text : List Char} (h : w.Spelling text) {keepRuns : Bool}
    (hrun : (keepRuns && isUpperRun text) = false) : caseWord keepRuns text = w.idiomatic := by
  unfold Name.caseWord idiomatic
  dsimp only
  rw [h.raised, h.upperCamelCase, hrun]
  rfl

variable (w)

theorem spelling_letters : w.Spelling w.letters where
  asciiWord := w.small.asciiWord
  single := wordsOfPiece_small w.small w.ne_nil .fresh []
  lowered := w.small.map_toLower
  raised := rfl

theorem spelling_capitals : w.Spelling w.capitals where
  asciiWord := w.small.capitals.asciiWord
  single := wordsOfPiece_capitals w.small.capitals w.capitals_ne_nil .fresh []
  lowered := by
    have hback : ∀ c ∈ w.letters, (Char.toLower ∘ Char.toUpper) c = c :=
      fun c hc => (facts_of_isLower (w.small c hc)).2.2.2.2.2
    rw [capitals, List.map_map, List.map_congr_left hback, List.map_id']
  raised := w.small.capitals.map_toUpper

theorem spelling_title : w.Spelling w.title := by
  obtain ⟨c, rest, hletters, hc, hrest⟩ := w.exists_letters
  have htitle : w.title = c.toUpper :: rest := by rw [title, hletters, titled]
  obtain ⟨-, -, -, hupper, -, hback⟩ := facts_of_isLower hc
  obtain ⟨-, -, halnum, hsame⟩ := facts_of_isUpper hupper
  rw [htitle]
  refine ⟨List.forall_mem_cons.mpr ⟨halnum, hrest.asciiWord⟩, ?_, ?_, ?_⟩
  · cases rest with
    | nil => rfl
    | cons d rest =>
      rw [wordsOfPiece_capital hupper, wordsOfPiece_small hrest (by simp)]
      rfl
  · rw [List.map_cons, hback, hrest.map_toLower, hletters]
  · rw [List.map_cons, hsame, capitals, hletters, List.map_cons]

theorem caseWord_letters : caseWord true w.letters = w.idiomatic := by
  refine w.spelling_letters.caseWord ?_
  have hupper : w.letters.any isUppercase = false :=
    List.any_eq_false.mpr fun c hc => by simp [(facts_of_isLower (w.small c hc)).2.1]
  simp [isUpperRun, hupper]

theorem caseWord_capitals : caseWord false w.capitals = w.idiomatic := w.spelling_capitals.caseWord rfl

theorem caseWord_title : caseWord true w.title = w.idiomatic := by
  refine w.spelling_title.caseWord ?_
  obtain ⟨c, rest, htitle, -, hrest⟩ := w.exists_title
  rw [htitle]
  -- A single letter is too short for a run, and behind it the letters are small.
  cases rest with
  | nil => rfl
  | cons d rest => simp [isUpperRun, (facts_of_isLower (hrest d List.mem_cons_self)).1]

theorem idiomatic_of_title {c : Char} (h : w.title = [c]) : w.idiomatic = [c] := by
  obtain ⟨d, rest, htitle, hd, -⟩ := w.exists_title
  obtain ⟨rfl, -⟩ := List.cons.inj (h.symm.trans htitle)
  rw [← w.caseWord_title, h]
  exact caseWord_of_capitals (by simpa [Capitals] using hd)

end Word

/-! ### Names without underscores -/

/-- Small letters and titles behind them: the word that is being read ends with the letters. -/
theorem flatMap_caseWord_small {l : List Char} (hl : Small l) (hne : l ≠ []) (mode : Mode) (word : List Char)
    {ws : List Word} (ih : ws ≠ [] →
      (wordsOfPiece .fresh [] (ws.flatMap Word.title)).flatMap (caseWord true) = ws.flatMap Word.idiomatic) :
    (wordsOfPiece mode word (l ++ ws.flatMap Word.title)).flatMap (caseWord true) =
      caseWord true (word ++ l) ++ ws.flatMap Word.idiomatic := by
  cases ws with
  | nil => simp [wordsOfPiece_small hl hne]
  | cons w ws =>
    obtain ⟨u, rest, htitle, hu, -⟩ := w.exists_title
    have hih := ih (by simp)
    rw [List.flatMap_cons, htitle, List.cons_append] at hih ⊢
    rw [wordsOfPiece_small_capital hl hne hu, List.flatMap_cons, hih]

/-- Titles are cut so that only capitals that stand alone come together, with each other and with the capitals `run`
that were read before, and these stay as they are. -/
theorem flatMap_caseWord_titles {ws : List Word} (hne : ws ≠ []) {mode : Mode} {run : List Char}
    (hmode : mode = .fresh ∧ run = [] ∨ mode = .upper) (hrun : Capitals run) :
    (wordsOfPiece mode run (ws.flatMap Word.title)).flatMap (caseWord true) = run ++ ws.flatMap Word.idiomatic := by
  induction ws generalizing mode run with
  | nil => exact absurd rfl hne
  | cons w ws ih =>
    obtain ⟨c, l, htitle, hc, hl⟩ := w.exists_title
    rw [List.flatMap_cons, List.flatMap_cons, htitle]
    cases l with
    | nil =>
      have hrun' : Capitals (run ++ [c]) := List.forall_mem_append.mpr ⟨hrun, by simpa using hc⟩
      rw [w.idiomatic_of_title htitle]
      cases ws with
      | nil =>
        have hlast : wordsOfPiece mode run [c] = [run ++ [c]] := rfl
        simp [hlast, caseWord_of_capitals hrun']
      | cons w' ws =>
        obtain ⟨d, l', htitle', hd, -⟩ := w'.exists_title
        have htitles : (w' :: ws).flatMap Word.title = d :: (l' ++ ws.flatMap Word.title) := by
          rw [List.flatMap_cons, htitle', List.cons_append]
        have hih := ih (by simp) (.inr rfl) hrun'
        rw [htitles] at hih ⊢
        rw [List.singleton_append, wordsOfPiece_two_capitals hc hd, hih, List.append_assoc]
    | cons d l =>
      have hrest : ws ≠ [] → (wordsOfPiece .fresh [] (ws.flatMap Word.title)).flatMap (caseWord true) =
          ws.flatMap Word.idiomatic := fun hws => ih hws (.inl ⟨rfl, rfl⟩) (by simp [Capitals])
      have hword (mode : Mode) := flatMap_caseWord_small hl (by simp) mode [c] hrest
      simp only [List.singleton_append, ← htitle, w.caseWord_title] at hword
      rw [List.cons_append] at hword ⊢
      rcases hmode with ⟨rfl, rfl⟩ | rfl
      · rw [List.cons_append, wordsOfPiece_capital hc, hword, List.nil_append]
      · rw [List.cons_append, wordsOfPiece_run_capital hc (hl d List.mem_cons_self), List.flatMap_cons, hword,
          caseWord_of_capitals hrun]

/-! ### Names with underscores -/

theorem mem_intercalate {w : List Char} {ws : List (List Char)} {c : Char} :
    c ∈ ['_'].intercalate (w :: ws) ↔ c = '_' ∧ ws ≠ [] ∨ c ∈ (w :: ws).flatten := by
  induction ws generalizing w with
  | nil => simp
  | cons w' ws ih =>
    rw [List.intercalate_cons_cons, List.mem_append, List.mem_append, ih]
    simp only [List.flatten_cons, List.mem_singleton, List.mem_append, ne_eq, reduceCtorEq, not_false_eq_true,
      and_true]
    tauto

/-! ### All conventions -/

/-- In an ASCII name the words are cased as they are cut. -/
theorem exportedChars_eq_flatMap_cut {name : List Char} (h : Ascii name) {c : Char} (hc : c ∈ name)
    (halnum : isAlphanumeric c = true) :
    exportedChars name = (cut name).flatMap (caseWord (!isScreaming name)) := by
  rw [(exportedChars_eq hc halnum).1, words_of_ascii h]

/-- Spellings that are joined by underscores are cased one by one. -/
theorem exportedChars_joined {spell : Word → List Char} (hspell : ∀ w : Word, w.Spelling (spell w)) {ws : List Word}
    (hne : ws ≠ []) (keepRuns : Bool)
    (hruns : isScreaming (['_'].intercalate (ws.map spell)) = !keepRuns)
    (hcase : ∀ w : Word, caseWord keepRuns (spell w) = w.idiomatic) :
    exportedChars (['_'].intercalate (ws.map spell)) = ws.flatMap Word.idiomatic := by
  have hwords : ∀ text ∈ ws.map spell, AsciiWord text := by
    simpa using fun w _ => (hspell w).asciiWord
  obtain ⟨w, rest, rfl⟩ := List.exists_cons_of_ne_nil hne
  have hascii : Ascii (['_'].intercalate ((w :: rest).map spell)) := by
    intro c hc
    rcases mem_intercalate.mp hc with ⟨rfl, -⟩ | hc
    · decide
    · obtain ⟨text, htext, hc⟩ := List.mem_flatten.mp hc
      exact (hwords text htext).ascii c hc
  have hcut : cut (['_'].intercalate ((w :: rest).map spell)) = (w :: rest).map spell := by
    rw [cut, piecesFrom_intercalate hwords (by simp), List.flatMap_map, List.map_eq_flatMap]
    exact List.flatMap_congr fun v _ => (hspell v).single
  obtain ⟨c, hc, halnum⟩ := (hspell w).exists_mem
  have hmem : c ∈ ['_'].intercalate ((w :: rest).map spell) :=
    mem_intercalate.mpr (.inr (List.mem_append_left _ hc))
  rw [exportedChars_eq_flatMap_cut hascii hmem halnum, hcut, hruns, Bool.not_not, List.flatMap_map]
  exact List.flatMap_congr fun v _ => hcase v

theorem isScreaming_capitals {ws : List Word} (h : 2 ≤ ws.length) :
    isScreaming (['_'].intercalate (ws.map Word.capitals)) = true := by
  rcases ws with _ | ⟨w, ws⟩
  · simp at h
  have hunderscore : '_' ∈ ['_'].intercalate ((w :: ws).map Word.capitals) := by
    refine mem_intercalate.mpr (.inl ⟨rfl, ?_⟩)
    rintro hnil
    simp [List.map_eq_nil_iff.mp hnil] at h
  have hlower : (['_'].intercalate ((w :: ws).map Word.capitals)).any isLowercase = false := by
    refine List.any_eq_false.mpr fun c hc => ?_
    rcases mem_intercalate.mp hc with ⟨rfl, -⟩ | hc
    · decide
    · obtain ⟨text, htext, hc⟩ := List.mem_flatten.mp hc
      rw [← List.map_cons] at htext
      obtain ⟨v, -, rfl⟩ := List.mem_map.mp htext
      simp [(facts_of_isUpper (v.small.capitals c hc)).1]
  rw [isScreaming, List.contains_iff_mem.mpr hunderscore, hlower]
  rfl

theorem isScreaming_letters {ws : List Word} (hne : ws ≠ []) :
    isScreaming (['_'].intercalate (ws.map Word.letters)) = false := by
  obtain ⟨w, ws, rfl⟩ := List.exists_cons_of_ne_nil hne
  obtain ⟨c, hc⟩ := List.exists_mem_of_ne_nil _ w.ne_nil
  have hlower : (['_'].intercalate ((w :: ws).map Word.letters)).any isLowercase = true :=
    List.any_eq_true.mpr ⟨c, mem_intercalate.mpr (.inr (List.mem_append_left _ hc)),
      (facts_of_isLower (w.small c hc)).1⟩
  rw [isScreaming, hlower, Bool.not_true, Bool.and_false]

/-- A name without underscores is cut as one piece, and runs of capitals in it are kept. -/
theorem exportedChars_of_asciiWord {name : List Char} (h : AsciiWord name) (hne : name ≠ []) :
    exportedChars name = (wordsOfPiece .fresh [] name).flatMap (caseWord true) := by
  obtain ⟨c, hc⟩ := List.exists_mem_of_ne_nil _ hne
  have hscreaming : isScreaming name = false := by
    have hunderscore : '_' ∉ name := fun hmem => absurd (h '_' hmem) (by decide)
    simp [isScreaming, hunderscore]
  rw [exportedChars_eq_flatMap_cut h.ascii hc (h.isAlphanumeric hc), cut_of_asciiWord h, hscreaming]
  rfl

theorem asciiWord_titles (ws : List Word) : AsciiWord (ws.flatMap Word.title) := by
  intro c hc
  obtain ⟨w, -, hc⟩ := List.mem_flatMap.mp hc
  exact w.spelling_title.asciiWord c hc

/-- **One identifier for all conventions.** A name of at least two words has the identifier made of the idiomatic forms
of its words, in whichever convention it is written. -/
theorem exported_write (convention : Convention) {ws : List Word} (h : 2 ≤ ws.length) :
    exported (String.ofList (convention.write ws)) = String.ofList (ws.flatMap Word.idiomatic) := by
  have hne : ws ≠ [] := List.ne_nil_of_length_pos (by omega)
  rw [exported, String.toList_ofList]
  congr 1
  cases convention with
  | snake => exact exportedChars_joined Word.spelling_letters hne true (isScreaming_letters hne) Word.caseWord_letters
  | screaming =>
    exact exportedChars_joined Word.spelling_capitals hne false (isScreaming_capitals h) Word.caseWord_capitals
  | upperCamel =>
    rw [Convention.write, exportedChars_of_asciiWord (asciiWord_titles ws) ?_,
      flatMap_caseWord_titles hne (.inl ⟨rfl, rfl⟩) (by simp [Capitals]), List.nil_append]
    obtain ⟨w, rest, rfl⟩ := List.exists_cons_of_ne_nil hne
    obtain ⟨c, l, htitle, -, -⟩ := w.exists_title
    simp [htitle]
  | camel =>
    obtain ⟨w, rest, rfl⟩ := List.exists_cons_of_ne_nil hne
    have hword : AsciiWord (w.letters ++ rest.flatMap Word.title) :=
      List.forall_mem_append.mpr ⟨w.spelling_letters.asciiWord, asciiWord_titles rest⟩
    have hrest (hne : rest ≠ []) : (wordsOfPiece .fresh [] (rest.flatMap Word.title)).flatMap (caseWord true) =
        rest.flatMap Word.idiomatic := flatMap_caseWord_titles hne (.inl ⟨rfl, rfl⟩) (by simp [Capitals])
    rw [Convention.write, exportedChars_of_asciiWord hword (by simp [w.ne_nil]),
      flatMap_caseWord_small w.small w.ne_nil .fresh [] hrest, List.nil_append, w.caseWord_letters, List.flatMap_cons]

/-- The words of a name with single letters and with an initialism. -/
def idsWords : List Word :=
  [⟨['x'], by decide, by decide⟩, ⟨['y'], by decide, by decide⟩, ⟨['i', 'd', 's'], by decide, by decide⟩,
    ⟨['i', 'd'], by decide, by decide⟩]

theorem exported_write_ids :
    exported "x_y_ids_id" = "XYIdsID" ∧ exported "X_Y_IDS_ID" = "XYIdsID" ∧ exported "XYIdsId" = "XYIdsID" ∧
      exported "xYIdsId" = "XYIdsID" := by
  have hlength : 2 ≤ idsWords.length := by decide
  have hids : String.ofList (idsWords.flatMap Word.idiomatic) = "XYIdsID" := by decide +kernel
  have hwritten {text : String} (convention : Convention) (h : String.ofList (convention.write idsWords) = text) :
      exported text = "XYIdsID" := by
    rw [← h, exported_write convention hlength, hids]
  exact ⟨hwritten .snake (by decide +kernel), hwritten .screaming (by decide +kernel),
    hwritten .upperCamel (by decide +kernel), hwritten .camel (by decide +kernel)⟩

end GoSchema.Name
