import GoSchema.Generate.Directive
import GoSchema.Proofs.TagGrammar
import Mathlib.Data.List.Nodup

/-!
# The tags of fields

The tag of a field is put together from the pair for `json` and from the pairs of an annotation. The pairs are
merged: each key stands once, in the order of the first appearances, with the last value that it is given
(`IsMerge`).

The pairs of the annotation were read, so their values are regular. The label in the pair for `json` is any text, and
it is not escaped; and keys may hold backquotes. So the tag reads back as the merged pairs exactly if the annotation
gives another value for `json` or the label has neither a backquote nor a quote without a backslash of its own, and
backquotes in a label or in a key end the tag too early (`structTag_reads_back`).

## What is proved

* `IsMerge.run` and `IsMerge.mem_iff`: merging pairs one after the other gives the last value of each key, and the
  order of the first appearances.
* `IsMerge.backquote_notMem_iff`: where a backquote in the merged text comes from.
* `structTag_reads_back`: the tag of a field is the text of its merged pairs between backquotes, and both
  conditions under which it is read back are exact.
* `structTag_ends_early`: a backquote in a key or in a label ends the tag, and a quote in a label its value.

The reader is the one for tags of this library (`parseTag`), whose grammar has a module of its own. How the library
of Go reads the tags of a struct is not modelled.
-/

namespace GoSchema

namespace Go

/-! ### Merging -/

/-- The pairs that come of a sequence of pairs, where a later pair overrides the earlier ones with its key. -/
structure IsMerge (given merged : List TagPair) : Prop where
  /-- The keys stand in the order of their first appearances. -/
  keys : merged.map TagPair.key = (given.map TagPair.key).eraseDups
  /-- Each key stands once. -/
  once : (merged.map TagPair.key).Nodup
  /-- A pair is the last one with its key. -/
  last : ∀ p ∈ merged, (given.filter fun q => q.key = p.key).getLast? = some p

theorem isMerge_singleton (p : TagPair) : IsMerge [p] [p] where
  keys := rfl
  once := List.nodup_singleton _
  last := by simp

theorem eraseDups_concat {α : Type} [DecidableEq α] (as : List α) (a : α) :
    (as ++ [a]).eraseDups = if a ∈ as then as.eraseDups else as.eraseDups ++ [a] := by
  rw [List.eraseDups_append, List.removeAll]
  by_cases h : a ∈ as <;> simp [h, List.eraseDups_cons]

theorem keys_mergePair (p : TagPair) (pairs : List TagPair) :
    (mergePair p pairs).map TagPair.key =
      if p.key ∈ pairs.map TagPair.key then pairs.map TagPair.key else pairs.map TagPair.key ++ [p.key] := by
  induction pairs with
  | nil => rfl
  | cons q pairs ih =>
    rw [mergePair]
    by_cases hkey : q.key = p.key
    · simp [hkey]
    · rw [if_neg hkey, List.map_cons, ih, List.map_cons]
      simp only [List.mem_cons, Ne.symm hkey, false_or]
      split_ifs <;> rfl

/-- Merging a pair takes the place of the one with its key. -/
theorem mem_mergePair {p q : TagPair} {pairs : List TagPair} (honce : (pairs.map TagPair.key).Nodup)
    (h : q ∈ mergePair p pairs) : q = p ∨ q ∈ pairs ∧ q.key ≠ p.key := by
  induction pairs with
  | nil => exact .inl (List.mem_singleton.mp h)
  | cons first pairs ih =>
    obtain ⟨hfirst, honce⟩ := List.nodup_cons.mp honce
    rw [mergePair] at h
    split_ifs at h with hkey
    · -- The rest stays as it is, and since keys stand once, none of it has this key.
      rcases List.mem_cons.mp h with rfl | h
      · exact .inl (congrArg (TagPair.mk · p.value) hkey)
      · refine .inr ⟨List.mem_cons_of_mem _ h, fun heq => hfirst ?_⟩
        exact List.mem_map.mpr ⟨q, h, heq.trans hkey.symm⟩
    · rcases List.mem_cons.mp h with rfl | h
      · exact .inr ⟨List.mem_cons_self, hkey⟩
      · exact (ih honce h).imp_right fun ⟨hmem, hne⟩ => ⟨List.mem_cons_of_mem _ hmem, hne⟩

namespace IsMerge

variable {given merged extra : List TagPair} {p : TagPair}

theorem mem_keys (h : IsMerge given merged) {key : String} :
    key ∈ merged.map TagPair.key ↔ key ∈ given.map TagPair.key := by
  rw [h.keys, List.mem_eraseDups]

/-- One more pair is merged. -/
theorem step (h : IsMerge given merged) (p : TagPair) : IsMerge (given ++ [p]) (mergePair p merged) where
  keys := by
    rw [keys_mergePair, List.map_append, List.map_singleton, eraseDups_concat, ← h.keys]
    exact if_congr h.mem_keys rfl rfl
  once := by
    rw [keys_mergePair]
    split_ifs with hkey
    · exact h.once
    · exact List.nodup_append.mpr ⟨h.once, List.nodup_singleton _, by simpa using hkey⟩
  last := by
    intro q hq
    rw [List.filter_append]
    rcases mem_mergePair h.once hq with rfl | ⟨hmem, hne⟩
    · simp
    · simpa [Ne.symm hne] using h.last q hmem

/-- All further pairs are merged. -/
theorem run (h : IsMerge given merged) (extra : List TagPair) : IsMerge (given ++ extra) (mergePairs merged extra) := by
  induction extra generalizing given merged with
  | nil => simpa [mergePairs] using h
  | cons p extra ih => simpa [mergePairs] using ih (h.step p)

/-- The merged pairs are the last ones of their keys. -/
theorem mem_iff (h : IsMerge given merged) :
    p ∈ merged ↔ (given.filter fun q => q.key = p.key).getLast? = some p := by
  refine ⟨h.last p, fun hlast => ?_⟩
  have hgiven : p ∈ given := (List.mem_filter.mp (List.mem_of_getLast? hlast)).1
  obtain ⟨q, hq, hkey⟩ := List.mem_map.mp (h.mem_keys.mpr (List.mem_map_of_mem hgiven))
  have hq' := h.last q hq
  rw [hkey, hlast] at hq'
  exact Option.some.inj hq' ▸ hq

/-- The first pair stays as it is if no further one has its key. -/
theorem mem_cons_iff {first : TagPair} (h : IsMerge (first :: extra) merged) :
    p ∈ merged ↔ (extra.filter fun q => q.key = p.key).getLast? = some p ∨
      p = first ∧ first.key ∉ extra.map TagPair.key := by
  rw [h.mem_iff, List.filter_cons]
  by_cases hkey : first.key = p.key
  · rw [if_pos (by simpa using hkey), List.getLast?_cons, hkey]
    cases hlast : (extra.filter fun q => q.key = p.key).getLast? with
    | none =>
      have hnone : p.key ∉ extra.map TagPair.key := by
        simpa [List.getLast?_eq_none_iff, List.filter_eq_nil_iff] using hlast
      simp [hnone, eq_comm]
    | some q =>
      have hq := List.mem_filter.mp (List.mem_of_getLast? hlast)
      have hsome : p.key ∈ extra.map TagPair.key := List.mem_map.mpr ⟨q, hq.1, by simpa using hq.2⟩
      simp [hsome]
  · rw [if_neg (by simpa using hkey)]
    have hne : p ≠ first := fun heq => hkey (heq ▸ rfl)
    simp [hne]

/-- What holds of the further pairs holds of all merged ones exactly if it holds of the first, or the first is
overridden. -/
theorem forall_mem_iff {first : TagPair} (h : IsMerge (first :: extra) merged) {P : TagPair → Prop}
    (hextra : ∀ p ∈ extra, P p) :
    (∀ p ∈ merged, P p) ↔ first.key ∈ extra.map TagPair.key ∨ P first := by
  constructor
  · intro hall
    by_cases hkey : first.key ∈ extra.map TagPair.key
    · exact .inl hkey
    · exact .inr (hall first (h.mem_cons_iff.mpr (.inr ⟨rfl, hkey⟩)))
  · intro hfirst p hp
    rcases h.mem_cons_iff.mp hp with hlast | ⟨rfl, hkey⟩
    · exact hextra p (List.mem_filter.mp (List.mem_of_getLast? hlast)).1
    · exact hfirst.resolve_left hkey

end IsMerge

/-! ### The pair for `json` -/

/-- A text is a value if it has no backquote, its quotes are escaped, and it ends with a plain character. -/
theorem isValue_append_iff {text tail : List Char} {c : Char} (hc : c ≠ '\\') (hquote : '"' ∉ tail ++ [c])
    (hback : '\x60' ∉ tail ++ [c]) :
    IsValue (text ++ (tail ++ [c])) ↔ '\x60' ∉ text ∧ QuotesEscaped text := by
  -- A backslash at the end of the text takes the first character of the tail, which does no harm.
  have hend : slashes (text ++ (tail ++ [c])) = 0 := by
    rw [← List.append_assoc]
    exact slashes_append_plain hc _
  have hchars : (∀ d ∈ text ++ (tail ++ [c]), d ≠ '\x60') ↔ '\x60' ∉ text := by
    constructor
    · exact fun h hmem => h _ (List.mem_append_left _ hmem) rfl
    · rintro h d hd rfl
      exact (List.mem_append.mp hd).elim h hback
  rw [IsValue, escapedText_iff (by decide), quotesEscaped_append hquote, hend, hchars]
  simp

theorem toList_value_jsonPair (label : String) (required : Bool) :
    ∃ tail c, (jsonPair label required).value.toList = label.toList ++ (tail ++ [c]) ∧ c ≠ '\\' ∧
      '"' ∉ tail ++ [c] ∧ '\x60' ∉ tail ++ [c] := by
  cases required with
  | true => exact ⟨",require".toList, 'd', by simp [jsonPair], by decide, by decide, by decide⟩
  | false => exact ⟨",omitempt".toList, 'y', by simp [jsonPair], by decide, by decide, by decide⟩

theorem isRegular_jsonPair_iff {label : String} {required : Bool} :
    (jsonPair label required).IsRegular ↔ '\x60' ∉ label.toList ∧ QuotesEscaped label.toList := by
  obtain ⟨tail, c, hvalue, hc, hquote, hback⟩ := toList_value_jsonPair label required
  have hkey : IsKey (jsonPair label required).key.toList := by simp [IsKey, jsonPair]
  rw [TagPair.IsRegular, hvalue, isValue_append_iff hc hquote hback]
  exact and_iff_right hkey

theorem backquote_notMem_jsonPair_iff {label : String} {required : Bool} :
    '\x60' ∉ (jsonPair label required).value.toList ↔ '\x60' ∉ label.toList := by
  obtain ⟨tail, c, hvalue, -, -, hback⟩ := toList_value_jsonPair label required
  rw [hvalue, List.mem_append, not_or]
  exact and_iff_left hback

/-! ### Backquotes -/

theorem mem_tagText_iff {c : Char} (hc : c ≠ ' ') {pairs : List TagPair} :
    c ∈ (tagText pairs).toList ↔ ∃ p ∈ pairs, c ∈ p.text.toList := by
  induction pairs with
  | nil => simp [tagText]
  | cons p pairs ih =>
    cases pairs with
    | nil => simp [tagText]
    | cons q pairs => rw [toList_tagText_cons_cons, List.mem_append, List.mem_cons, ih]; simp [hc]

theorem backquote_notMem_text_iff {p : TagPair} :
    '\x60' ∉ p.text.toList ↔ '\x60' ∉ p.key.toList ∧ '\x60' ∉ p.value.toList := by
  rw [toList_tagPair_text]
  simp

theorem TagPair.IsRegular.backquote_notMem_value {p : TagPair} (h : p.IsRegular) : '\x60' ∉ p.value.toList :=
  fun hmem => ((escapedText_iff (by decide)).mp h.2).1 _ hmem rfl

/-- The text of merged pairs has a backquote only from a key, or from the value of a first pair that is not
overridden. -/
theorem IsMerge.backquote_notMem_iff {first : TagPair} {extra merged : List TagPair}
    (h : IsMerge (first :: extra) merged) (hextra : ∀ p ∈ extra, p.IsRegular) :
    '\x60' ∉ (tagText merged).toList ↔ (∀ p ∈ first :: extra, '\x60' ∉ p.key.toList) ∧
      (first.key ∈ extra.map TagPair.key ∨ '\x60' ∉ first.value.toList) := by
  have hvalues := h.forall_mem_iff fun p hp => (hextra p hp).backquote_notMem_value
  have hkeys : (∀ p ∈ merged, '\x60' ∉ p.key.toList) ↔ ∀ p ∈ first :: extra, '\x60' ∉ p.key.toList := by
    have hkey (key : String) : (key ∈ merged.map TagPair.key → '\x60' ∉ key.toList) ↔
        (key ∈ (first :: extra).map TagPair.key → '\x60' ∉ key.toList) := imp_congr_left h.mem_keys
    simpa using forall_congr' hkey
  rw [mem_tagText_iff (by decide), ← hvalues, ← hkeys, not_exists, ← forall₂_and]
  simp only [not_and, backquote_notMem_text_iff]

end Go

open Go

/-! ### Tags -/

/-- A field without the annotation has the tag of one with the empty annotation. -/
theorem structTag_eq_ok_iff {label : String} {required : Bool} {annotations : Annotations} {site : Site} {t : String} :
    structTag label required annotations site = .ok t ↔
      ∃ extra, parseTag ((annotations.get? tagKey).getD "") = .ok extra ∧
        rawTag (mergePairs [jsonPair label required] extra) = t := by
  have hempty : parseTag "" = .ok [] := readTag_nil rfl
  rw [structTag]
  cases annotations.get? tagKey with
  | none => simp [hempty, mergePairs]
  | some text =>
    dsimp only [Option.getD_some]
    cases parseTag text <;> simp

/-- The tag of a field holds the text of the merged pairs between backquotes. The text is read as these pairs exactly
if the label is not used or could stand in a tag as it is, and it has no backquote exactly if there is none in the keys
and in a label that is used. -/
theorem structTag_reads_back {label : String} {required : Bool} {annotations : Annotations} {site : Site} {t : String}
    (h : structTag label required annotations site = .ok t) :
    ∃ extra pairs, parseTag ((annotations.get? tagKey).getD "") = .ok extra ∧
      IsMerge (jsonPair label required :: extra) pairs ∧ t = "\x60" ++ tagText pairs ++ "\x60" ∧
      (parseTag (tagText pairs) = .ok pairs ↔
        "json" ∈ extra.map TagPair.key ∨ '\x60' ∉ label.toList ∧ QuotesEscaped label.toList) ∧
      ('\x60' ∉ (tagText pairs).toList ↔ (∀ p ∈ extra, '\x60' ∉ p.key.toList) ∧
        ("json" ∈ extra.map TagPair.key ∨ '\x60' ∉ label.toList)) := by
  obtain ⟨extra, hextra, rfl⟩ := structTag_eq_ok_iff.mp h
  have hmerge := (isMerge_singleton (jsonPair label required)).run extra
  have hregular := isRegular_of_parseTag hextra
  refine ⟨extra, _, hextra, hmerge, rfl, ?_, ?_⟩
  · rw [parseTag_tagText_iff, hmerge.forall_mem_iff hregular, isRegular_jsonPair_iff]
    rfl
  · rw [hmerge.backquote_notMem_iff hregular, List.forall_mem_cons, backquote_notMem_jsonPair_iff]
    exact and_congr_left' (and_iff_right (show '\x60' ∉ "json".toList by decide))

/-- The site of a field. -/
def userName : Site := ⟨"field name of User", "user.thrift"⟩

theorem body_of_quoted {body body' : String} (h : "\x60" ++ body ++ "\x60" = "\x60" ++ body' ++ "\x60") :
    body = body' := (String.append_right_inj _).mp ((String.append_left_inj _).mp h)

/-- A label that could not stand in a tag is no harm where the annotation gives another value. -/
theorem structTag_reads_back_overridden :
    ∃ t, structTag "log\"in" true (.ofList [(tagKey, "db:\"user\" json:\"login\"db:\"a\\\"b\"")]) userName = .ok t ∧
      ∃ pairs, parseTag "json:\"login\" db:\"a\\\"b\"" = .ok pairs ∧
        IsMerge [⟨"json", "log\"in,required"⟩, ⟨"db", "user"⟩, ⟨"json", "login"⟩, ⟨"db", "a\\\"b"⟩] pairs := by
  obtain ⟨t, h, htext⟩ : ∃ t,
      structTag "log\"in" true (.ofList [(tagKey, "db:\"user\" json:\"login\"db:\"a\\\"b\"")]) userName = .ok t ∧
        t = "\x60" ++ "json:\"login\" db:\"a\\\"b\"" ++ "\x60" := Except.exists_ok_of_decide (by decide +kernel)
  obtain ⟨extra, pairs, hextra, hmerge, hbody, hread, -⟩ := structTag_reads_back h
  rw [← body_of_quoted (htext.symm.trans hbody)] at hread
  obtain rfl : [⟨"db", "user"⟩, ⟨"json", "login"⟩, ⟨"db", "a\\\"b"⟩] = extra := by
    refine Except.ok.inj (Eq.trans ?_ hextra)
    decide +kernel
  exact ⟨t, h, pairs, hread.mpr (.inl (by decide)), hmerge⟩

/-- A backquote in a key or in a label ends the tag too early, and a quote in a label the value. -/
theorem structTag_ends_early :
    (∃ t, structTag "a" false (.ofList [(tagKey, "b\x60c:\"d\"")]) userName = .ok t ∧
      ∀ body, t = "\x60" ++ body ++ "\x60" → '\x60' ∈ body.toList) ∧
    (∃ t, structTag "a\x60b" false .empty userName = .ok t ∧
      ∀ body, t = "\x60" ++ body ++ "\x60" → '\x60' ∈ body.toList) ∧
    ∃ t, structTag "a\"b" false .empty userName = .ok t ∧
      ∀ body, t = "\x60" ++ body ++ "\x60" → ∀ pairs, parseTag body ≠ .ok pairs := by
  obtain ⟨t₁, h₁, htext₁⟩ : ∃ t, structTag "a" false (.ofList [(tagKey, "b\x60c:\"d\"")]) userName = .ok t ∧
      t = "\x60" ++ "json:\"a,omitempty\" b\x60c:\"d\"" ++ "\x60" := Except.exists_ok_of_decide (by decide +kernel)
  refine ⟨⟨t₁, h₁, fun body hbody => ?_⟩, ⟨_, rfl, fun body hbody => ?_⟩, ⟨_, rfl, fun body hbody pairs hread => ?_⟩⟩
  · obtain rfl := body_of_quoted (htext₁.symm.trans hbody)
    decide
  · obtain rfl := body_of_quoted hbody
    decide
  · obtain rfl := body_of_quoted hbody
    have hfails : (parseTag (tagText [jsonPair "a\"b" false])).toOption = none := by decide +kernel
    rw [hread] at hfails
    cases hfails

end GoSchema
