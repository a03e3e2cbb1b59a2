import GoSchema.Document.Yaml.Progress

/-!
# The structure of YAML documents

The grammar of documents over tokens. A node that is left out counts as an empty plain scalar. A text holds
one document; a text without tokens holds an empty one.
-/

namespace GoSchema.Yaml

/-- A node with its tag. -/
def withTag (tag : Option Tag) (node : Node) : Node :=
  match tag with
  | some t => .tagged t node
  | none => node

namespace Grammar

/-! ### What is left out -/

/-- A block entry is left out before this token. -/
def endsEntry : Token → Bool
  | .blockEntry | .blockEnd => true
  | _ => false

/-- An entry of a sequence at the column of its parent is left out before this token. -/
def endsIndentlessEntry : Token → Bool
  | .blockEntry | .key | .value | .blockEnd => true
  | _ => false

/-- A key or value of a block mapping is left out before this token. -/
def endsBlockPart : Token → Bool
  | .key | .value | .blockEnd => true
  | _ => false

/-- The key of an item of a sequence in brackets is left out before this token, which goes with it. -/
def endsItemKey : Token → Bool
  | .value | .flowEntry | .flowSequenceEnd => true
  | _ => false

/-- A key of a mapping in brackets is left out before this token. -/
def endsFlowKey : Token → Bool
  | .value | .flowEntry | .flowMappingEnd => true
  | _ => false

/-- A value inside brackets is left out before this token. -/
def endsFlowValue : Token → Bool
  | .flowEntry | .flowSequenceEnd | .flowMappingEnd => true
  | _ => false

/-- The document is left out before this token. -/
def endsDocument : Token → Bool
  | .directive _ | .documentStart | .documentEnd | .streamEnd => true
  | _ => false

/-- The end of a sequence in brackets. -/
def closesSequence : Token → Bool
  | .flowSequenceEnd => true
  | _ => false

/-- The end of a mapping in brackets. -/
def closesMapping : Token → Bool
  | .flowMappingEnd => true
  | _ => false

/-- Reads a closing bracket if one is here, and tells so. -/
def flowCloses (closes : Token → Bool) : Grammar Bool := do
  if closes (← peek) then
    skip
    return true
  else return false

/-- Reads the comma before an element inside brackets, which the first one does not have, or the closing
bracket. Tells whether it was the bracket. -/
def flowEnds (closes : Token → Bool) (first : Bool) : Grammar Bool := do
  if ← flowCloses closes then return true
  else if first then return false
  else
    match ← peek with
    | .flowEntry => do
      skip
      flowCloses closes
    | _ => refuse

/-! ### Nodes -/

mutual

/-- Reads a node. `block` allows collections without brackets, and `indentless` a sequence at the column of
the mapping that it stands in. -/
def node : (fuel : Nat) → (block indentless : Bool) → Grammar Node
  | 0, _, _ => refuse
  | fuel + 1, block, indentless => do
    match ← peek with
    | .named name => do
      skip
      named name
    | _ => do
      let (name, written) ← properties
      let token ← peek
      let tag ← meaning written
      match token with
      | .scalar node => do
        let place ← beginNode name
        skip
        endNode place (withTag tag node)
      | .flowSequenceStart => do
        let place ← beginNode name
        skip
        endNode place (withTag tag (.seq (← flowItems fuel true)))
      | .flowMappingStart => do
        let place ← beginNode name
        skip
        endNode place (withTag tag (.map (← flowEntries fuel true)))
      | token =>
        if indentless && token matches .blockEntry then do
          let place ← beginNode name
          endNode place (withTag tag (.seq (← indentlessItems fuel)))
        else if block && token matches .blockSequenceStart then do
          let place ← beginNode name
          skip
          endNode place (withTag tag (.seq (← blockItems fuel)))
        else if block && token matches .blockMappingStart then do
          let place ← beginNode name
          skip
          endNode place (withTag tag (.map (← blockEntries fuel)))
        else if name.isSome || tag.isSome then do
          let place ← beginNode name
          endNode place (withTag tag absent)
        else refuse

/-- Reads the items of a block sequence up to its end. -/
def blockItems : (fuel : Nat) → Grammar (List Node)
  | 0 => refuse
  | fuel + 1 => do
    match ← peek with
    | .blockEntry => do
      skip
      let item ← if endsEntry (← peek) then pure absent else node fuel true false
      return item :: (← blockItems fuel)
    | .blockEnd => do
      skip
      return []
    | _ => refuse

/-- Reads the items of a sequence at the column of its parent. -/
def indentlessItems : (fuel : Nat) → Grammar (List Node)
  | 0 => refuse
  | fuel + 1 => do
    match ← peek with
    | .blockEntry => do
      skip
      let item ← if endsIndentlessEntry (← peek) then pure absent else node fuel true false
      return item :: (← indentlessItems fuel)
    | _ => return []

/-- Reads a key or value of a block mapping, behind its indicator. -/
def blockPart : (fuel : Nat) → Grammar Node
  | 0 => refuse
  | fuel + 1 => do if endsBlockPart (← peek) then return absent else node fuel true true

/-- Reads the entries of a block mapping up to its end. -/
def blockEntries : (fuel : Nat) → Grammar (List (Node × Node))
  | 0 => refuse
  | fuel + 1 => do
    match ← peek with
    | .key => do
      skip
      let key ← blockPart fuel
      let value ←
        match ← peek with
        | .value => do
          skip
          blockPart fuel
        | _ => pure absent
      return (key, value) :: (← blockEntries fuel)
    | .blockEnd => do
      skip
      return []
    | _ => refuse

/-- Reads the items of a sequence in brackets; `first` tells that none was read yet. A key makes an item a
mapping of one entry. -/
def flowItems : (fuel : Nat) → (first : Bool) → Grammar (List Node)
  | 0, _ => refuse
  | fuel + 1, first => do
    if ← flowEnds closesSequence first then return []
    match ← peek with
    | .key => do
      skip
      let key ←
        if endsItemKey (← peek) then do
          skip
          pure absent
        else node fuel false false
      let value ← flowValue fuel
      return .map [(key, value)] :: (← flowItems fuel false)
    | _ => do
      let item ← node fuel false false
      return item :: (← flowItems fuel false)

/-- Reads the value of an entry in brackets. -/
def flowValue : (fuel : Nat) → Grammar Node
  | 0 => refuse
  | fuel + 1 => do
    match ← peek with
    | .value => do
      skip
      if endsFlowValue (← peek) then return absent else node fuel false false
    | _ => return absent

/-- Reads the entries of a mapping in brackets; `first` tells that none was read yet. -/
def flowEntries : (fuel : Nat) → (first : Bool) → Grammar (List (Node × Node))
  | 0, _ => refuse
  | fuel + 1, first => do
    if ← flowEnds closesMapping first then return []
    match ← peek with
    | .key => do
      skip
      let key ← if endsFlowKey (← peek) then pure absent else node fuel false false
      let value ← flowValue fuel
      return (key, value) :: (← flowEntries fuel false)
    | _ => do
      let key ← node fuel false false
      return (key, absent) :: (← flowEntries fuel false)

end

/-! ### Documents -/

/-- Reads the directives before a document; `versioned` tells that a version was among them. A handle is explained
once at most. -/
def directives : (fuel : Nat) → (versioned : Bool) → Grammar Unit
  | 0, _ => refuse
  | fuel + 1, versioned => do
    match ← peek with
    | .directive (.version major minor) => do
      if versioned || major ≠ 1 || (minor ≠ 1 && minor ≠ 2) then refuse
      skip
      directives fuel true
    | .directive (.handle handle start) => do
      let p ← get
      if (p.handles.lookup handle).isSome then refuse
      set { p with handles := p.handles ++ [(handle, start)] }
      skip
      directives fuel versioned
    | _ => return ()

/-- Goes behind marks that end a document. -/
def skipEnds : (fuel : Nat) → Grammar Unit
  | 0 => refuse
  | fuel + 1 => do
    match ← peek with
    | .documentEnd => do
      skip
      skipEnds fuel
    | _ => return ()

/-- Reads a document that begins with a mark, and the directives before it. -/
def markedDocument (fuel : Nat) : Grammar Node := do
  directives fuel false
  modify fun p => { p with handles := p.handles ++ defaultHandles }
  match ← peek with
  | .documentStart => do
    skip
    if endsDocument (← peek) then return absent else node fuel true false
  | _ => refuse

/-- Reads a document that begins without a mark. -/
def bareDocument (fuel : Nat) : Grammar Node := do
  modify fun p => { p with handles := defaultHandles }
  node fuel true false

/-- Reads a document; there is none at the end of the text. Only the first document may begin without a
mark, and marks that end a document may stand only behind one. -/
def document (fuel : Nat) (first : Bool) : Grammar (Option Node) := do
  if !first then skipEnds fuel
  match ← peek with
  | .streamEnd => return none
  | token => do
    let root ← if first && !endsDocument token then bareDocument fuel else markedDocument fuel
    if (← peek) matches .documentEnd then skip
    return some root

end Grammar

/-- A document in a text. -/
structure Document where
  root : Node
  /-- The nodes to which links lead, by their numbers. -/
  targets : List (Nat × Node)
  /-- The text ends behind the document; otherwise this is what is wrong with the rest. -/
  rest : Except ReadError Unit

/-- Reads the document in a text. Every second call of the grammar takes a token. -/
def Document.ofText (text : String) : Except ReadError Document := do
  let ts := tokensOf text
  let fuel := 2 * ts.list.length + 2
  let (root, p) ← (Grammar.document fuel true).run (.start ts.list (ts.fault.getD .malformed))
  match root with
  | none => return ⟨absent, [], .ok ()⟩
  | some root =>
    let rest :=
      match (Grammar.document fuel false).run (.start p.tokens p.fault) with
      | .ok (none, _) => .ok ()
      | .ok (some _, _) => .error .malformed
      | .error fault => .error fault
    return ⟨root, p.targets, rest⟩

end GoSchema.Yaml
