import GoSchema.Document.Json
import GoSchema.Document.Yaml.Buffer
import GoSchema.Document.Yaml.Cursor

/-!
# YAML scalars

The three ways to write a scalar: plain, in single or double quotes, and as a block of lines. In plain and
quoted scalars a line break counts as a space, and further breaks behind it are kept. In a block the
lines are kept as they are, or folded into one another.
-/

namespace GoSchema.Yaml

/-- What has been read of a scalar: its text, and the blanks and line breaks since, the latest first. -/
structure Folding where
  text : Buffer
  /-- The blanks behind the text, if the line has not ended. -/
  blanks : List Char
  /-- The line breaks behind the text. -/
  breaks : List Char
  /-- The line was ended by an escape, which counts as nothing. -/
  escaped : Bool

namespace Folding

/-- Nothing has been read. -/
def empty : Folding := ⟨.empty, [], [], false⟩

/-- The line has ended since the text. -/
def isNewLine (f : Folding) : Bool := f.escaped || !f.breaks.isEmpty

/-- Something has been read since the text. -/
def isPending (f : Folding) : Bool := f.isNewLine || !f.blanks.isEmpty

/-- A blank; blanks at the beginning of a line do not count. -/
def blank (f : Folding) (c : Char) : Folding :=
  if f.isNewLine then f else { f with blanks := c :: f.blanks }

/-- A line break; blanks before it do not count. -/
def lineBreak (f : Folding) (c : Char) : Folding :=
  { f with blanks := [], breaks := breakChar c :: f.breaks }

/-- The text with what stands for the blanks and line breaks since. -/
def settledText (f : Folding) : Except ReadError Buffer :=
  if f.escaped then f.text.join f.breaks.reverse
  else
    match f.breaks.reverse with
    | [] => f.text.join f.blanks.reverse
    | ['\n'] => .ok (f.text.push ' ')
    | '\n' :: more => f.text.join more
    | more => f.text.join more

/-- The text with what has been read since. -/
def settle (f : Folding) : Except ReadError Folding := do return ⟨← f.settledText, [], [], false⟩

/-- A character of the text. -/
def push (f : Folding) (c : Char) : Except ReadError Folding := do
  return ⟨(← f.settledText).push c, [], [], false⟩

end Folding

/-- The characters that structure a document inside brackets. -/
def isFlowIndicator (c : Char) : Bool := c = ',' || c = '[' || c = ']' || c = '\x7b' || c = '\x7d'

/-! ### Plain scalars -/

/-- A plain scalar that has been read: its text, the position behind it, and whether the line has ended
since its text. -/
structure Scanned where
  text : String
  cursor : Cursor
  newLine : Bool

/-- Reads a plain scalar. `flow` tells that it stands inside brackets; otherwise its lines begin at column
`indent` or further on. -/
def plain (flow : Bool) (indent : Int) : (fuel : Nat) → Cursor → Folding → Except ReadError Scanned
  | 0, _, _ => .error .malformed
  | fuel + 1, c, f =>
    let done := .ok ⟨f.text.text, c, f.isNewLine⟩
    match c.rest with
    | [] => done
    | ch :: rest =>
      if isBlank ch then
        if f.isNewLine && c.column < indent && ch = '\t' then .error .malformed
        else plain flow indent fuel c.skip (f.blank ch)
      else if isBreak ch then plain flow indent fuel c.skip (f.lineBreak ch)
      else if f.isPending && (ch = '#' || (!flow && c.column < indent)) then done
      else if c.atDocumentMark then done
      else if flow && ch = ':' && rest.head?.any (fun n => isFlowIndicator n || n = '?') then
        .error .malformed
      else if (ch = ':' && c.spaceAt 1) || (flow && isFlowIndicator ch) then done
      else do plain flow indent fuel c.skip (← f.push ch)

/-! ### Quoted scalars -/

/-- The character of an escape of one letter. -/
def escape? : Char → Option Char
  | '0' => some '\x00'
  | 'a' => some '\x07'
  | 'b' => some '\x08'
  | 't' => some '\t'
  | '\t' => some '\t'
  | 'n' => some '\n'
  | 'v' => some '\x0b'
  | 'f' => some '\x0c'
  | 'r' => some '\r'
  | 'e' => some '\x1b'
  | ' ' => some ' '
  | '"' => some '"'
  | '/' => some '/'
  | '\\' => some '\\'
  | 'N' => some nextLine
  | '_' => some (Char.ofNat 0xA0)
  | 'L' => some lineSeparator
  | 'P' => some paragraphSeparator
  | _ => none

/-- The number of hexadecimal digits behind the letter of an escape. -/
def escapeWidth : Char → Nat
  | 'x' => 2
  | 'u' => 4
  | 'U' => 8
  | _ => 0

/-- The character with the number that hexadecimal digits write. -/
def hexChar? (digits : List Char) : Option Char := do
  let n ← digits.foldlM (fun n d => do return 16 * n + (← Json.hexValue? d)) 0
  if n < 0xD800 ∨ (0xDFFF < n ∧ n ≤ 0x10FFFF) then some (Char.ofNat n) else none

/-- An escape behind its backslash: its character and its length. -/
def escapeAt? : List Char → Option (Char × Nat)
  | [] => none
  | e :: rest =>
    let width := escapeWidth e
    if width = 0 then (escape? e).map (·, 1)
    else if rest.length < width then none
    else (hexChar? (rest.take width)).map (·, width + 1)

/-- Reads a scalar in single quotes, behind the opening one. -/
def singleQuoted : (fuel : Nat) → Cursor → Folding → Except ReadError (String × Cursor)
  | 0, _, _ => .error .malformed
  | fuel + 1, c, f =>
    match c.rest with
    | [] => do
      let _ ← f.settle
      .error .malformed
    | ch :: rest =>
      if isBlank ch then singleQuoted fuel c.skip (f.blank ch)
      else if isBreak ch then singleQuoted fuel c.skip (f.lineBreak ch)
      else do
        let f ← f.settle
        if c.atDocumentMark then .error .malformed
        else if ch = '\x27' then
          if rest.head? = some '\x27' then do singleQuoted fuel (c.skipMany 2) (← f.push ch)
          else return (f.text.text, c.skip)
        else do singleQuoted fuel c.skip (← f.push ch)

/-- Reads a scalar in double quotes, behind the opening one. -/
def doubleQuoted : (fuel : Nat) → Cursor → Folding → Except ReadError (String × Cursor)
  | 0, _, _ => .error .malformed
  | fuel + 1, c, f =>
    match c.rest with
    | [] => do
      let _ ← f.settle
      .error .malformed
    | ch :: rest =>
      if isBlank ch then doubleQuoted fuel c.skip (f.blank ch)
      else if isBreak ch then doubleQuoted fuel c.skip (f.lineBreak ch)
      else do
        let f ← f.settle
        if c.atDocumentMark then .error .malformed
        else if ch = '"' then return (f.text.text, c.skip)
        else if ch = '\\' then
          if rest.head?.any isBreak then doubleQuoted fuel (c.skipMany 2) { f with escaped := true }
          else do
            let (e, length) ← orMalformed (escapeAt? rest)
            doubleQuoted fuel (c.skipMany (length + 1)) (← f.push e)
        else do doubleQuoted fuel c.skip (← f.push ch)

/-! ### Block scalars -/

/-- What happens to the line breaks at the end of a block. -/
inductive Chomping where
  /-- All are dropped. -/
  | strip
  /-- The first is kept. -/
  | clip
  /-- All are kept. -/
  | keep
  deriving DecidableEq

/-- The header of a block: chomping, and how far it is indented if that is given. -/
structure BlockHeader where
  chomping : Chomping
  increment : Option Nat

/-- The chomping indicators. -/
def chomping? : Char → Option Chomping
  | '+' => some .keep
  | '-' => some .strip
  | _ => none

/-- The digit of an indentation indicator. -/
def increment? (c : Char) : Option Nat :=
  if '0' ≤ c ∧ c ≤ '9' then some (Decimal.digitValue c) else none

/-- Reads the indicators of a block: chomping and indentation in either order. -/
def blockHeader (c : Cursor) : BlockHeader × Cursor :=
  match c.head?.bind chomping? with
  | some chomping =>
    let c := c.skip
    match c.head?.bind increment? with
    | some n => (⟨chomping, some n⟩, c.skip)
    | none => (⟨chomping, none⟩, c)
  | none =>
    match c.head?.bind increment? with
    | some n =>
      let c := c.skip
      match c.head?.bind chomping? with
      | some chomping => (⟨chomping, some n⟩, c.skip)
      | none => (⟨.clip, some n⟩, c)
    | none => (⟨.clip, none⟩, c)

/-- Reads the indentation and the empty lines before a line of a block. `indent` is its column, or 0
while it is not known; then `widest` is the widest indentation met. Gives the breaks of the empty lines. -/
def blockBreaks? (indent : Nat) :
    (fuel : Nat) → Cursor → (widest : Nat) → (breaks : List Char) → Option (List Char × Nat × Cursor)
  | 0, _, _, _ => none
  | fuel + 1, c, widest, breaks =>
    let line := if indent = 0 then c.rest else c.rest.take (indent - c.column)
    let spaces := line.takeWhile (· = ' ')
    let c := c.skipMany spaces.length
    let widest := max widest c.column
    match c.rest with
    | [] => some (breaks, widest, c)
    | ch :: _ =>
      if (indent = 0 || c.column < indent) && ch = '\t' then none
      else if isBreak ch then blockBreaks? indent fuel c.skip widest (breaks ++ [breakChar ch])
      else some (breaks, widest, c)

/-- What has been read of a block: its text, the break behind its last line and those of the empty lines
after it, and whether its last line began with a blank. -/
structure Block where
  text : Buffer
  ending : List Char
  breaks : List Char
  indented : Bool

/-- The text up to a line that follows. When `folded`, a single line break between two lines that do not begin
with a blank counts as a space. -/
def Block.continued (b : Block) (folded indented : Bool) : Except ReadError Buffer :=
  if folded && b.ending = ['\n'] && !b.indented && !indented then
    if b.breaks.isEmpty then .ok (b.text.push ' ') else b.text.join b.breaks
  else b.text.join (b.ending ++ b.breaks)

/-- Reads the lines of a block that begin at column `indent`. -/
def blockLines (folded : Bool) (indent : Nat) :
    (fuel : Nat) → Cursor → Block → Except ReadError (Block × Cursor)
  | 0, _, _ => .error .malformed
  | fuel + 1, c, b =>
    match c.rest with
    | [] => .ok (b, c)
    | ch :: _ =>
      if c.column ≠ indent then .ok (b, c)
      else do
        let indented := isBlank ch
        let text ← b.continued folded indented
        let (line, c) := c.takeWhile fun ch => !isBreak ch
        let ending := c.head?.toList.map breakChar
        let (breaks, _, c) ← orMalformed (blockBreaks? indent fuel c.skip 0 [])
        blockLines folded indent fuel c ⟨line.foldl Buffer.push text, ending, breaks, indented⟩

/-- The text of a block. -/
def Block.result (b : Block) : Chomping → Except ReadError Buffer
  | .strip => .ok b.text
  | .clip => b.text.join b.ending
  | .keep => b.text.join (b.ending ++ b.breaks)

/-- Reads a block behind its indicator; `parent` is the column of what it stands in. -/
def block (folded : Bool) (parent : Int) (fuel : Nat) (c : Cursor) :
    Except ReadError (String × Cursor) := do
  let (header, c) := blockHeader c
  if header.increment = some 0 then .error .malformed
  let c ← orMalformed c.lineEnd?
  let given := header.increment.map fun n => if 0 ≤ parent then parent.toNat + n else n
  let (breaks, widest, c) ← orMalformed (blockBreaks? (given.getD 0) fuel c.skip 0 [])
  let indent := given.getD (max (max widest (parent + 1).toNat) 1)
  let (b, c) ← blockLines folded indent fuel c ⟨.empty, [], breaks, false⟩
  return ((← b.result header.chomping).text, c)

end GoSchema.Yaml
