import GoSchema.Go.Tag
import GoSchema.Proofs.Escapes
import GoSchema.Proofs.Except

/-!
# The grammar of struct tags

A tag is a sequence of pairs `key:"value"` with blanks before, between and after them. Reading a text gives pairs
exactly if the text is a tag of these pairs (`parseTag_eq_ok_iff`). No blank is needed between two pairs, since the
quote at the end of a value separates them; and a key ends at its colon, so a text is a tag of one sequence of pairs
only.

Written again, pairs are read back exactly if their keys and values are ones of the grammar
(`parseTag_tagText_iff`). Pairs that were read are of this kind, so reading and writing them any number of times changes
nothing more (`parseTag_stable`).

## What is proved

* `isTag_of_readTag` and `IsTag.readTag_eq`: what is read is a tag, and a tag is read, each by induction along the
  text.
* `parseTag_eq_ok_iff`: both for every text.
* `isRegular_of_parseTag` and `parseTag_tagText_iff`: which pairs can be written and read again.
* `parseTag_stable`: one reading brings a tag into a form that further rounds keep.

The grammar is the one of this library's annotation. What is reported for a text that is no tag is not treated,
beyond that no pairs are given.
-/

namespace GoSchema.Go

/-! ### The grammar -/

/-- A key: one or more characters above the blank other than the colon, the quote and the delete character. -/
def IsKey (cs : List Char) : Prop := cs ≠ [] ∧ ∀ c ∈ cs, ' ' < c ∧ c ≠ ':' ∧ c ≠ '"' ∧ c ≠ '\x7f'

/-- A value: plain characters and pairs of a backslash and a character, without backquotes. -/
def IsValue (cs : List Char) : Prop := EscapedText (· ≠ '\x60') cs

/-- Pairs, each with any number of blanks behind it. -/
inductive IsPairs : List Char → List TagPair → Prop where
  | nil : IsPairs [] []
  | cons {key value rest : List Char} {pairs : List TagPair} (hkey : IsKey key) (hvalue : IsValue value) (n : Nat)
      (h : IsPairs rest pairs) :
    IsPairs (key ++ ':' :: '"' :: (value ++ '"' :: (List.replicate n ' ' ++ rest)))
      (⟨String.ofList key, String.ofList value⟩ :: pairs)

/-- The text is a tag of these pairs: blanks, then the pairs. -/
def IsTag (cs : List Char) (pairs : List TagPair) : Prop :=
  ∃ n rest, cs = List.replicate n ' ' ++ rest ∧ IsPairs rest pairs

/-! ### Keys and values -/

theorem isKeyChar_iff {c : Char} : isKeyChar c = true ↔ ' ' < c ∧ c ≠ ':' ∧ c ≠ '"' ∧ c ≠ '\x7f' := by
  simp [isKeyChar, and_assoc]

theorem IsKey.takeWhile {key : List Char} (h : IsKey key) (rest : List Char) :
    (key ++ ':' :: rest).takeWhile isKeyChar = key := by
  rw [List.takeWhile_append_of_pos fun c hc => isKeyChar_iff.mpr (h.2 c hc), List.takeWhile_cons_of_neg (by decide),
    List.append_nil]

theorem IsKey.dropWhile {key : List Char} (h : IsKey key) (rest : List Char) :
    (key ++ ':' :: rest).dropWhile isKeyChar = ':' :: rest := by
  rw [List.dropWhile_append_of_pos fun c hc => isKeyChar_iff.mpr (h.2 c hc), List.dropWhile_cons_of_neg (by decide)]

/-- A key begins with no blank. -/
theorem IsKey.exists_head {key : List Char} (h : IsKey key) : ∃ c cs, key = c :: cs ∧ (c == ' ') = false := by
  cases key with
  | nil => exact absurd rfl h.1
  | cons c cs =>
    refine ⟨c, cs, rfl, ?_⟩
    have hlt := (h.2 c List.mem_cons_self).1
    exact beq_false_of_ne fun hc => absurd (hc ▸ hlt) (by decide)

/-- One more character before a value that is read. -/
theorem readTagValue_map {escaped : Bool} {c : Char} {cs value rest : List Char} :
    ((readTagValue escaped cs).map fun r => (c :: r.1, r.2)) = .ok (value, rest) ↔
      ∃ tail, value = c :: tail ∧ readTagValue escaped cs = .ok (tail, rest) := by
  rw [Except.map_eq_ok]
  constructor
  · rintro ⟨⟨tail, rest'⟩, hread, heq⟩
    obtain ⟨rfl, rfl⟩ := Prod.mk.inj heq
    exact ⟨tail, rfl, hread⟩
  · rintro ⟨tail, rfl, hread⟩
    exact ⟨(tail, rest), hread, rfl⟩

theorem IsValue.read {value : List Char} (h : IsValue value) (rest : List Char) :
    readTagValue false (value ++ '"' :: rest) = .ok (value, rest) := by
  induction h with
  | nil => rfl
  | plain hback hquote hslash _ ih =>
    rw [List.cons_append, readTagValue, if_neg (by simp [hslash]), if_neg (by simp [hquote]), if_neg hback, ih]
    rfl
  | pair hback _ ih =>
    rw [List.cons_append, List.cons_append, readTagValue, if_pos (by simp), readTagValue, if_neg (by simp),
      if_neg (by simp), if_neg hback, ih]
    rfl

/-- What is read is a value and ends before a quote. Behind a backslash, it is the rest of a value that begins with
the backslash. -/
theorem isValue_of_read {escaped : Bool} {cs value rest : List Char}
    (h : readTagValue escaped cs = .ok (value, rest)) :
    cs = value ++ '"' :: rest ∧ IsValue ((if escaped then ['\\'] else []) ++ value) := by
  -- The flag changes from character to character, so the induction is for both of its values.
  induction cs generalizing escaped value with
  | nil => cases h
  | cons c cs ih =>
    rw [readTagValue] at h
    split_ifs at h with hslash hquote hback
    · obtain ⟨rfl, rfl⟩ := hslash
      obtain ⟨tail, rfl, hread⟩ := readTagValue_map.mp h
      obtain ⟨rfl, hvalue⟩ := ih hread
      exact ⟨rfl, hvalue⟩
    · obtain ⟨rfl, rfl⟩ := hquote
      cases h
      exact ⟨rfl, .nil⟩
    · obtain ⟨tail, rfl, hread⟩ := readTagValue_map.mp h
      obtain ⟨rfl, hvalue⟩ := ih hread
      refine ⟨rfl, ?_⟩
      cases escaped with
      | true => exact .pair hback hvalue
      | false => exact .plain hback (by simpa using hquote) (by simpa using hslash) hvalue

/-! ### Reading a tag -/

theorem dropWhile_blanks (n : Nat) (cs : List Char) :
    (List.replicate n ' ' ++ cs).dropWhile (· == ' ') = cs.dropWhile (· == ' ') :=
  List.dropWhile_append_of_pos fun c hc => by simp [(List.mem_replicate.mp hc).2]

theorem eq_blanks_append (cs : List Char) : ∃ n, cs = List.replicate n ' ' ++ cs.dropWhile (· == ' ') := by
  refine ⟨(cs.takeWhile (· == ' ')).length, ?_⟩
  have hblanks : cs.takeWhile (· == ' ') = List.replicate (cs.takeWhile (· == ' ')).length ' ' :=
    List.eq_replicate_of_mem fun c hc => by simpa using List.mem_takeWhile_imp hc
  rw [← hblanks, List.takeWhile_append_dropWhile]

theorem readTag_nil {cs : List Char} (h : cs.dropWhile (· == ' ') = []) : readTag cs = .ok [] := by
  rw [readTag]
  split
  · rfl
  · next heq => rw [h] at heq; cases heq

/-- A pair is read, and then what follows it. -/
theorem readTag_pair {cs key value after : List Char} (hkey : IsKey key) (hvalue : IsValue value)
    (h : cs.dropWhile (· == ' ') = key ++ ':' :: '"' :: (value ++ '"' :: after)) :
    readTag cs = (readTag after).map (⟨String.ofList key, String.ofList value⟩ :: ·) := by
  rw [readTag]
  split
  · next heq =>
    rw [h] at heq
    simp at heq
  · next c rest heq =>
    rw [h] at heq
    rw [← heq, hkey.takeWhile, if_neg (by simpa using hkey.1)]
    split
    · next body hbody =>
      rw [hkey.dropWhile] at hbody
      obtain rfl : value ++ '"' :: after = body := by simpa using hbody
      have hread := hvalue.read after
      split
      · next heq => rw [hread] at heq; cases heq
      · next heq => rw [hread] at heq; cases heq
      · next heq =>
        rw [hread] at heq
        cases heq
        rfl
    · next hnone => exact absurd (hkey.dropWhile _) (hnone _)

/-- What is read is a tag. -/
theorem isTag_of_readTag {cs : List Char} {pairs : List TagPair} (h : readTag cs = .ok pairs) : IsTag cs pairs := by
  fun_induction readTag cs generalizing pairs
  case case1 cs hrest =>
    obtain ⟨n, hcs⟩ := eq_blanks_append cs
    cases h
    exact ⟨n, [], hrest ▸ hcs, .nil⟩
  case case5 cs c rest hrest key hsome body hbody value after hread ih =>
    obtain ⟨tail, htail, rfl⟩ := Except.map_eq_ok.mp h
    obtain ⟨rfl, hvalue⟩ := isValue_of_read hread
    obtain ⟨n, hcs⟩ := eq_blanks_append cs
    obtain ⟨m, rest', rfl, hpairs⟩ := ih htail
    have hkey : IsKey key := ⟨by simpa using hsome, fun c hc => isKeyChar_iff.mp (List.mem_takeWhile_imp hc)⟩
    refine ⟨n, _, ?_, .cons hkey (show IsValue value from hvalue) m hpairs⟩
    rw [← hbody, List.takeWhile_append_dropWhile, ← hrest, ← hcs]
  -- In all other cases the reader stops with an error.
  all_goals cases h

/-- A tag is read. -/
theorem IsTag.readTag_eq {cs : List Char} {pairs : List TagPair} (h : IsTag cs pairs) : readTag cs = .ok pairs := by
  obtain ⟨n, rest, rfl, h⟩ := h
  induction h generalizing n with
  | nil => exact readTag_nil (dropWhile_blanks n [])
  | cons hkey hvalue m _ ih =>
    have hrest := dropWhile_blanks n
    obtain ⟨c, cs, rfl, hc⟩ := hkey.exists_head
    rw [readTag_pair hkey hvalue (by rw [hrest, List.cons_append, List.dropWhile_cons_of_neg (by simp [hc])]), ih]
    rfl

/-- A text is read as these pairs exactly if it is a tag of them. -/
theorem parseTag_eq_ok_iff (text : String) (pairs : List TagPair) :
    parseTag text = .ok pairs ↔ IsTag text.toList pairs :=
  ⟨isTag_of_readTag, IsTag.readTag_eq⟩

/-! ### Tags that are written -/

/-- A pair that the grammar has. -/
def TagPair.IsRegular (p : TagPair) : Prop := IsKey p.key.toList ∧ IsValue p.value.toList

theorem IsPairs.isRegular {cs : List Char} {pairs : List TagPair} (h : IsPairs cs pairs) :
    ∀ p ∈ pairs, p.IsRegular := by
  induction h with
  | nil => simp
  | cons hkey hvalue _ _ ih =>
    refine List.forall_mem_cons.mpr ⟨⟨?_, ?_⟩, ih⟩
    · rwa [String.toList_ofList]
    · rwa [String.toList_ofList]

/-- Only pairs of the grammar are read. -/
theorem isRegular_of_parseTag {text : String} {pairs : List TagPair} (h : parseTag text = .ok pairs) :
    ∀ p ∈ pairs, p.IsRegular := by
  obtain ⟨_, _, -, hpairs⟩ := isTag_of_readTag h
  exact hpairs.isRegular

theorem toList_tagText_cons_cons (p q : TagPair) (pairs : List TagPair) :
    (tagText (p :: q :: pairs)).toList = p.text.toList ++ ' ' :: (tagText (q :: pairs)).toList := by
  simp [tagText, String.toList_intercalate]

theorem toList_tagPair_text (p : TagPair) :
    p.text.toList = p.key.toList ++ ':' :: '"' :: (p.value.toList ++ ['"']) := by
  simp [TagPair.text]

/-- The text of regular pairs is a tag of them. -/
theorem isPairs_tagText {pairs : List TagPair} (h : ∀ p ∈ pairs, p.IsRegular) :
    IsPairs (tagText pairs).toList pairs := by
  induction pairs with
  | nil => exact .nil
  | cons p pairs ih =>
    obtain ⟨⟨hkey, hvalue⟩, hpairs⟩ := List.forall_mem_cons.mp h
    have hp (n : Nat) {rest : List Char} (hrest : IsPairs rest pairs) :
        IsPairs (p.text.toList ++ (List.replicate n ' ' ++ rest)) (p :: pairs) := by
      have hcons := IsPairs.cons hkey hvalue n hrest
      simpa [toList_tagPair_text, String.ofList_toList] using hcons
    -- One blank separates two pairs, and none follows the last.
    cases pairs with
    | nil => simpa [tagText] using hp 0 .nil
    | cons q pairs =>
      rw [toList_tagText_cons_cons]
      exact hp 1 (ih hpairs)

/-- Pairs that are written and read again are the same exactly if all of them are regular. -/
theorem parseTag_tagText_iff {pairs : List TagPair} :
    parseTag (tagText pairs) = .ok pairs ↔ ∀ p ∈ pairs, p.IsRegular := by
  refine ⟨isRegular_of_parseTag, fun h => ?_⟩
  exact IsTag.readTag_eq ⟨0, _, rfl, isPairs_tagText h⟩

/-- The text of pairs that were read. However many blanks stood between the pairs, and whatever the values hide behind
backslashes, the pairs are read from it again. So it stands for all texts with these pairs: two texts have the same
pairs exactly if their pairs are written alike. -/
theorem parseTag_stable {text : String} {pairs : List TagPair} (h : parseTag text = .ok pairs) :
    parseTag (tagText pairs) = .ok pairs ∧
      ∀ other others, parseTag other = .ok others → (tagText others = tagText pairs ↔ others = pairs) := by
  have hread : parseTag (tagText pairs) = .ok pairs := parseTag_tagText_iff.mpr (isRegular_of_parseTag h)
  refine ⟨hread, fun other others hother => ⟨fun heq => ?_, congrArg tagText⟩⟩
  have hreadOther : parseTag (tagText others) = .ok others :=
    parseTag_tagText_iff.mpr (isRegular_of_parseTag hother)
  exact Except.ok.inj (hreadOther.symm.trans (heq ▸ hread))

/-- Pairs without a blank and with many blanks between them, and values with a quote and a backslash. -/
theorem parseTag_stable_crowded :
    parseTag "  a:\"x\\\"y\"b.c:\"\\\\\"   c:\"\" " = .ok [⟨"a", "x\\\"y"⟩, ⟨"b.c", "\\\\"⟩, ⟨"c", ""⟩] ∧
      parseTag "a:\"x\\\"y\" b.c:\"\\\\\" c:\"\"" = .ok [⟨"a", "x\\\"y"⟩, ⟨"b.c", "\\\\"⟩, ⟨"c", ""⟩] := by
  have hread : parseTag "  a:\"x\\\"y\"b.c:\"\\\\\"   c:\"\" " =
      .ok [⟨"a", "x\\\"y"⟩, ⟨"b.c", "\\\\"⟩, ⟨"c", ""⟩] := by decide +kernel
  exact ⟨hread, (parseTag_stable hread).1⟩

end GoSchema.Go
