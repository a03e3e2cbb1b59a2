import GoSchema.Text.Display

/-!
# Struct tags

The text of a Go struct tag is a sequence of pairs `key:"value"`, with any number of blanks before,
between and after them. A key is a nonempty run of characters above the blank other than the colon, the
quote and the delete character. Inside a value a backslash takes the following character with it, and
the first other quote ends the value; a value keeps its backslashes. A backquote can stand in no value,
because the whole tag is written between backquotes.
-/

namespace GoSchema.Go

/-- One pair of a struct tag. -/
structure TagPair where
  key : String
  /-- The value as it stands between the quotes. -/
  value : String
  deriving DecidableEq

/-- What is wrong with the text of a tag. -/
inductive TagError where
  /-- No key stands at the beginning of this rest. -/
  | noKey (rest : String)
  /-- The key is not followed by a colon and a quote. -/
  | noValue (key : String)
  /-- A value holds a backquote. -/
  | backquote
  /-- The value of the key has no end. -/
  | unterminated (key : String)
  deriving DecidableEq

/-- The text of a fault. -/
def TagError.message : TagError → String
  | .noKey rest => "expected a tag key at " ++ Text.display rest
  | .noValue key => "tag key " ++ key ++ " must be followed by :\""
  | .backquote => "tag text may not contain a backquote"
  | .unterminated key => "unterminated value for tag key " ++ key

/-- A character that a key may hold. -/
def isKeyChar (c : Char) : Bool :=
  ' ' < c && c != ':' && c != '"' && c != '\x7f'

/-- Why a value cannot be read. -/
inductive ValueFault where
  | backquote
  | unterminated
  deriving DecidableEq

/-- Reads a value up to its closing quote; gives the value and what follows the quote. `escaped` says
whether a backslash stands before the text. -/
def readTagValue (escaped : Bool) : List Char → Except ValueFault (List Char × List Char)
  | [] => .error .unterminated
  | c :: cs =>
    if c = '\\' ∧ escaped = false then (readTagValue true cs).map fun r => (c :: r.1, r.2)
    else if c = '"' ∧ escaped = false then .ok ([], cs)
    else if c = '\x60' then .error .backquote
    else (readTagValue false cs).map fun r => (c :: r.1, r.2)

theorem length_of_readTagValue {escaped : Bool} {cs value rest : List Char}
    (h : readTagValue escaped cs = .ok (value, rest)) : rest.length < cs.length := by
  induction cs generalizing escaped value rest with
  | nil => simp [readTagValue] at h
  | cons c cs ih =>
    have step : ∀ b, ((readTagValue b cs).map fun r => (c :: r.1, r.2)) = .ok (value, rest) →
        rest.length < (c :: cs).length := by
      intro b hb
      cases hr : readTagValue b cs with
      | error e => rw [hr] at hb; simp [Except.map] at hb
      | ok r =>
        rw [hr] at hb
        simp only [Except.map, Except.ok.injEq, Prod.mk.injEq] at hb
        have := ih hr
        rw [← hb.2, List.length_cons]
        omega
    unfold readTagValue at h
    split at h
    · exact step _ h
    split at h
    · simp only [Except.ok.injEq, Prod.mk.injEq] at h
      rw [← h.2, List.length_cons]
      omega
    split at h
    · simp at h
    · exact step _ h

/-- The pairs of a tag text, over characters. -/
def readTag (cs : List Char) : Except TagError (List TagPair) :=
  match _hrest : cs.dropWhile (· == ' ') with
  | [] => .ok []
  | c :: rest =>
    let key := (c :: rest).takeWhile isKeyChar
    if key.isEmpty then .error (.noKey (String.ofList (c :: rest)))
    else
      match _hbody : (c :: rest).dropWhile isKeyChar with
      | ':' :: '"' :: body =>
        match _hvalue : readTagValue false body with
        | .error .backquote => .error .backquote
        | .error .unterminated => .error (.unterminated (String.ofList key))
        | .ok (value, after) =>
          (readTag after).map (⟨String.ofList key, String.ofList value⟩ :: ·)
      | _ => .error (.noValue (String.ofList key))
termination_by cs.length
decreasing_by
  have h₁ := length_of_readTagValue _hvalue
  have h₂ := (List.dropWhile_sublist isKeyChar (l := c :: rest)).length_le
  have h₃ := (List.dropWhile_sublist (· == ' ') (l := cs)).length_le
  rw [_hbody] at h₂
  rw [_hrest] at h₃
  simp only [List.length_cons] at h₂ h₃
  omega

/-- The pairs of a tag text. -/
def parseTag (text : String) : Except TagError (List TagPair) := readTag text.toList

/-- The text of a pair. -/
def TagPair.text (p : TagPair) : String := p.key ++ ":\"" ++ p.value ++ "\""

/-- The text of a sequence of pairs, separated by single blanks. -/
def tagText (pairs : List TagPair) : String := " ".intercalate (pairs.map TagPair.text)

/-- Gives the value of `pair` to the first pair with its key, or adds it at the end. -/
def mergePair (pair : TagPair) : List TagPair → List TagPair
  | [] => [pair]
  | p :: ps => if p.key = pair.key then ⟨p.key, pair.value⟩ :: ps else p :: mergePair pair ps

/-- Merges further pairs, in order, over the given ones. -/
def mergePairs (pairs extra : List TagPair) : List TagPair :=
  extra.foldl (fun ps p => mergePair p ps) pairs

/-- The `json` pair that every field has. -/
def jsonPair (label : String) (required : Bool) : TagPair :=
  ⟨"json", label ++ if required then ",required" else ",omitempty"⟩

/-- A tag as it stands in the source of a struct. -/
def rawTag (pairs : List TagPair) : String := "\x60" ++ tagText pairs ++ "\x60"

end GoSchema.Go
