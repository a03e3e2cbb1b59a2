import GoSchema.Document.Yaml.Scalar
import GoSchema.Document.Yaml.Tag

/-!
# YAML tokens

The text is cut into tokens. Outside brackets the structure of a document is given by columns: a new
collection begins where the column grows, and collections end where it falls back. What stands before a
colon is a key; since this is known only at the colon, the scanner remembers where a key may have begun and
puts the tokens there afterwards. Such a key stands on one line and has at most 1024 bytes.

Where the text has a fault, the tokens before it are still given, but not those of a key that has not been
decided.
-/

namespace GoSchema.Yaml

/-- The tokens of a document. -/
inductive Token where
  | documentStart
  | documentEnd
  | streamEnd
  | blockSequenceStart
  | blockMappingStart
  | blockEnd
  | flowSequenceStart
  | flowSequenceEnd
  | flowMappingStart
  | flowMappingEnd
  | blockEntry
  | flowEntry
  | key
  | value
  | directive (directive : Directive)
  /-- A name for the node that follows. -/
  | anchor (name : String)
  /-- The node that has the name. -/
  | named (name : String)
  | tag (tag : WrittenTag)
  | scalar (node : Node)

/-- A place where a key may have begun. -/
structure KeyStart where
  /-- Something other than a key would be an error here. -/
  required : Bool
  /-- The number of tokens before the key. -/
  tokens : Nat
  index : Nat
  line : Nat
  column : Nat

/-- The state of the scanner. -/
structure Scanner where
  /-- The number of characters of the text. -/
  size : Nat
  cursor : Cursor
  /-- The tokens so far, the latest first. -/
  tokens : List Token
  /-- The number of tokens so far. -/
  count : Nat
  /-- The number of brackets that are open. -/
  flow : Nat
  /-- The column of the innermost collection outside brackets; -1 when there is none. -/
  indent : Int
  /-- The columns of the collections around it, from the inside out. -/
  indents : List Int
  /-- A key may begin here. -/
  keyAllowed : Bool
  /-- Where a key may have begun, at this depth of brackets. -/
  keyStart : Option KeyStart
  /-- Where keys may have begun outside, from the inside out. -/
  outerKeys : List (Option KeyStart)

namespace Scanner

/-- The scanner at the beginning of a text. -/
def start (cs : List Char) : Scanner := ⟨cs.length, .start cs, [], 0, 0, -1, [], true, none, []⟩

/-- Adds a token. -/
def emit (s : Scanner) (t : Token) : Scanner :=
  { s with tokens := t :: s.tokens, count := s.count + 1 }

/-- Puts a token behind the first `n` ones. -/
def insert (s : Scanner) (n : Nat) (t : Token) : Scanner :=
  { s with tokens := s.tokens.insertIdx (s.count - n) t, count := s.count + 1 }

/-- Goes `n` characters further on. -/
def advance (s : Scanner) (n : Nat) : Scanner := { s with cursor := s.cursor.skipMany n }

/-- Goes to the next token, over blanks, comments and line breaks. A tab does not count as a blank where
a key may begin. A byte order mark at the beginning of a line is passed. -/
def skipToToken : (fuel : Nat) → Scanner → Scanner
  | 0, s => s
  | fuel + 1, s =>
    let tabs := s.flow ≠ 0 || !s.keyAllowed
    let c := s.cursor
    let c := if c.column = 0 && c.at? byteOrderMark then c.skip else c
    let c := (c.skipWhile fun ch => ch = ' ' || (tabs && ch = '\t')).skipComment
    if c.head?.any isBreak then
      skipToToken fuel { s with cursor := c.skip, keyAllowed := s.keyAllowed || s.flow = 0 }
    else { s with cursor := c }

/-- A key that has begun here can no longer end. -/
def isStale (s : Scanner) (k : KeyStart) : Bool :=
  k.line < s.cursor.line || k.index + 1024 < s.cursor.index

/-- Gives up places where keys may have begun; nothing when one of them is required. -/
def dropKey? (stale : KeyStart → Bool) : Option KeyStart → Option (Option KeyStart)
  | none => some none
  | some k => if stale k then (if k.required then none else some none) else some (some k)

/-- Gives up all places where keys have begun that can no longer end. -/
def dropStale? (s : Scanner) : Option Scanner := do
  let keyStart ← dropKey? s.isStale s.keyStart
  let outerKeys ← s.outerKeys.mapM (dropKey? s.isStale)
  return { s with keyStart, outerKeys }

/-- Gives up the place where a key may have begun. -/
def removeKey? (s : Scanner) : Option Scanner := do
  return { s with keyStart := ← dropKey? (fun _ => true) s.keyStart }

/-- Remembers that a key may begin here. -/
def saveKey? (s : Scanner) : Option Scanner :=
  if s.keyAllowed then do
    let s ← s.removeKey?
    let c := s.cursor
    let required := s.flow = 0 && s.indent = c.column
    return { s with keyStart := some ⟨required, s.count, c.index, c.line, c.column⟩ }
  else some s

/-- Ends the collections, of which there are at most `fuel`, that lie further in than `column`. -/
def unroll (column : Int) : (fuel : Nat) → Scanner → Scanner
  | 0, s => s
  | fuel + 1, s =>
    if s.flow = 0 && column < s.indent then
      match s.indents with
      | [] => unroll column fuel { s.emit .blockEnd with indent := -1 }
      | outer :: indents => unroll column fuel { s.emit .blockEnd with indent := outer, indents }
    else s

/-- Ends the collections that lie further in than `column`. -/
def unrollTo (s : Scanner) (column : Int) : Scanner := unroll column (s.indents.length + 1) s

/-- Begins a collection at `column`, behind the first `n` tokens, if it lies further in. -/
def roll (s : Scanner) (column n : Nat) (t : Token) : Scanner :=
  if s.flow = 0 && s.indent < column then
    { s.insert n t with indent := column, indents := s.indent :: s.indents }
  else s

/-- The end of the text. -/
def streamEnd? (s : Scanner) : Option Scanner := do
  let s ← (s.unrollTo (-1)).removeKey?
  return s.emit .streamEnd

/-- A mark between documents. -/
def documentMark? (s : Scanner) (t : Token) : Option Scanner := do
  let s ← (s.unrollTo (-1)).removeKey?
  return { (s.advance 3).emit t with keyAllowed := false }

/-- An opening bracket. -/
def openFlow? (s : Scanner) (t : Token) : Option Scanner := do
  let s ← s.saveKey?
  return { (s.advance 1).emit t with
    flow := s.flow + 1, keyAllowed := true, keyStart := none, outerKeys := s.keyStart :: s.outerKeys }

/-- A closing bracket. -/
def closeFlow? (s : Scanner) (t : Token) : Option Scanner := do
  let s ← s.removeKey?
  let s := { (s.advance 1).emit t with keyAllowed := false }
  match s.outerKeys with
  | [] => return s
  | keyStart :: outerKeys => return { s with flow := s.flow - 1, keyStart, outerKeys }

/-- A comma inside brackets. -/
def flowEntry? (s : Scanner) : Option Scanner := do
  let s ← s.removeKey?
  return { (s.advance 1).emit .flowEntry with keyAllowed := true }

/-- A dash. -/
def blockEntry? (s : Scanner) : Option Scanner := do
  if s.flow = 0 && !s.keyAllowed then none
  let s ← (s.roll s.cursor.column s.count .blockSequenceStart).removeKey?
  return { (s.advance 1).emit .blockEntry with keyAllowed := true }

/-- A question mark before a key. -/
def key? (s : Scanner) : Option Scanner := do
  if s.flow = 0 && !s.keyAllowed then none
  let s ← (s.roll s.cursor.column s.count .blockMappingStart).removeKey?
  return { (s.advance 1).emit .key with keyAllowed := s.flow = 0 }

/-- A colon: what began where a key may have begun was one. -/
def value? (s : Scanner) : Option Scanner :=
  match s.keyStart with
  | some k =>
    let s := (s.insert k.tokens .key).roll k.column k.tokens .blockMappingStart
    some { (s.advance 1).emit .value with keyStart := none, keyAllowed := false }
  | none => do
    if s.flow = 0 && !s.keyAllowed then none
    let s := s.roll s.cursor.column s.count .blockMappingStart
    return { (s.advance 1).emit .value with keyAllowed := s.flow = 0 }

/-- A directive. -/
def directive? (s : Scanner) : Option Scanner := do
  let s ← (s.unrollTo (-1)).removeKey?
  let (directive, c) ← directiveAt? s.cursor.skip
  return { s.emit (.directive directive) with cursor := c, keyAllowed := false }

/-- A name behind its indicator. -/
def name? (s : Scanner) (token : String → Token) : Option Scanner := do
  let s ← s.saveKey?
  let (name, c) := s.cursor.skip.takeWhile isWordChar
  let ended := c.spaceAt 0 || c.head?.any fun ch => "?:,]\x7d%@\x60".contains ch
  if name.isEmpty || !ended then none
  else return { s.emit (token (String.ofList name)) with cursor := c, keyAllowed := false }

/-- A tag. -/
def tag? (s : Scanner) : Option Scanner := do
  let s ← s.saveKey?
  let (tag, c) ← tagAt? s.cursor
  if c.spaceAt 0 || (s.flow ≠ 0 && c.at? ',') then
    return { s.emit (.tag tag) with cursor := c, keyAllowed := false }
  else none

/-- A block of lines. -/
def blockScalar (s : Scanner) (folded : Bool) : Except ReadError Scanner := do
  let s ← orMalformed s.removeKey?
  let c := s.cursor.skip
  let (text, c) ← block folded s.indent (s.size + 2) c
  let node := if folded then .quoted text else .literal text
  return { s.emit (.scalar node) with cursor := c, keyAllowed := true }

/-- A scalar in quotes. -/
def quotedScalar (s : Scanner) (double : Bool) : Except ReadError Scanner := do
  let s ← orMalformed s.saveKey?
  let c := s.cursor.skip
  let read := if double then doubleQuoted else singleQuoted
  let (text, c) ← read (s.size + 1) c .empty
  return { s.emit (.scalar (.quoted text)) with cursor := c, keyAllowed := false }

/-- A plain scalar. -/
def plainScalar (s : Scanner) : Except ReadError Scanner := do
  let s ← orMalformed s.saveKey?
  let r ← plain (s.flow ≠ 0) (s.indent + 1) (s.size + 1) s.cursor .empty
  return { s.emit (.scalar (.plain r.text)) with cursor := r.cursor, keyAllowed := r.newLine }

/-- The characters that cannot begin a plain scalar. -/
def isIndicator (c : Char) : Bool := "-?:,[]\x7b\x7d#&*!|>\x27\"%@\x60".contains c

/-- A plain scalar can begin here. -/
def plainBegins (s : Scanner) (ch : Char) : Bool :=
  let c := s.cursor
  !(isBlank ch || isIndicator ch)
    || (ch = '-' && !c.rest[1]?.any isBlank)
    || (s.flow = 0 && (ch = '?' || ch = ':') && !c.spaceAt 1)

/-- Reads the next token at the position of the scanner, where `ch` stands. -/
def token (s : Scanner) (ch : Char) : Except ReadError Scanner :=
  let c := s.cursor
  let opens := s.flow ≠ 0 || c.spaceAt 1
  if c.column = 0 && ch = '%' then orMalformed s.directive?
  else if c.atMark '-' then orMalformed (s.documentMark? .documentStart)
  else if c.atMark '.' then orMalformed (s.documentMark? .documentEnd)
  else if ch = '[' then orMalformed (s.openFlow? .flowSequenceStart)
  else if ch = '\x7b' then orMalformed (s.openFlow? .flowMappingStart)
  else if ch = ']' then orMalformed (s.closeFlow? .flowSequenceEnd)
  else if ch = '\x7d' then orMalformed (s.closeFlow? .flowMappingEnd)
  else if ch = ',' then orMalformed s.flowEntry?
  else if ch = '-' && c.spaceAt 1 then orMalformed s.blockEntry?
  else if ch = '?' && opens then orMalformed s.key?
  else if ch = ':' && opens then orMalformed s.value?
  else if ch = '*' then orMalformed (s.name? .named)
  else if ch = '&' then orMalformed (s.name? .anchor)
  else if ch = '!' then orMalformed s.tag?
  else if ch = '|' && s.flow = 0 then s.blockScalar false
  else if ch = '>' && s.flow = 0 then s.blockScalar true
  else if ch = '\x27' then s.quotedScalar false
  else if ch = '"' then s.quotedScalar true
  else if s.plainBegins ch then s.plainScalar
  else .error .malformed

/-- Goes to the next token and reads it. -/
def step (s : Scanner) : Except ReadError Scanner := do
  let s ← orMalformed (skipToToken (s.size + 1) s).dropStale?
  let s := s.unrollTo s.cursor.column
  match s.cursor.head? with
  | none => orMalformed s.streamEnd?
  | some ch => s.token ch

/-- The tokens so far that are not part of a key that may still begin. -/
def decided (s : Scanner) : List Token :=
  let open? (key : Option KeyStart) : Option Nat := (key.filter fun k => !s.isStale k).map (·.tokens)
  let count := ((s.keyStart :: s.outerKeys).filterMap open?).foldl min s.count
  s.tokens.reverse.take count

/-- The last token has been read. -/
def isDone (s : Scanner) : Bool :=
  match s.tokens with
  | .streamEnd :: _ => true
  | _ => false

end Scanner

/-- The tokens of a text up to its first fault, and the fault if there is one. -/
structure Tokens where
  list : List Token
  fault : Option ReadError

/-- Reads tokens up to the end of the text. -/
def Scanner.run : (fuel : Nat) → Scanner → Tokens
  | 0, s => ⟨s.decided, some .malformed⟩
  | fuel + 1, s =>
    match s.step with
    | .error fault => ⟨s.decided, some fault⟩
    | .ok next => if next.isDone then ⟨next.tokens.reverse, none⟩ else run fuel next

/-- The tokens of a text; there are none when it holds a character that is not allowed. Every step of the
scanner but the last takes a character. -/
def tokensOf (text : String) : Tokens :=
  let cs := text.toList
  let cs := if cs.head? = some byteOrderMark then cs.drop 1 else cs
  if cs.all isAllowed then Scanner.run (cs.length + 1) (.start cs) else ⟨[], some .malformed⟩

end GoSchema.Yaml
