import GoSchema.Document.Json
import GoSchema.Document.Node
import GoSchema.Document.Yaml.Cursor

/-!
# YAML tags

A tag is a name for the kind of a node. It is written in full between angle brackets, or as a handle that stands
for its beginning and the rest of it. A directive before a document says what a handle stands for. Tags are
made of bytes: a byte may be written as a percent sign and two digits, and a zero byte ends the tag.
-/

namespace GoSchema.Yaml

/-- The characters of the part of a tag behind its handle. -/
def isTagChar (c : Char) : Bool := isWordChar c || ";/?:@&=+$.%!~*\x27()".contains c

/-- The characters of a tag that is written in full. -/
def isFullTagChar (c : Char) : Bool := isTagChar c || c = ',' || c = '[' || c = ']'

/-- The number of bytes of a character in UTF-8, by the first of them. -/
def sequenceLength? (byte : Nat) : Option Nat :=
  if byte < 0x80 then some 1
  else if byte < 0xC0 then none
  else if byte < 0xE0 then some 2
  else if byte < 0xF0 then some 3
  else if byte < 0xF8 then some 4
  else none

/-- The bytes that a part of a tag writes. Of a character of which some bytes are still to come, which are
`missing`, all are written with percent signs. -/
def tagBytes? : (missing : Nat) → List Char → Option (List UInt8)
  | 0, [] => some []
  | _ + 1, [] => none
  | missing, '%' :: a :: b :: rest => do
    let byte := 16 * (← Json.hexValue? a) + (← Json.hexValue? b)
    let missing ←
      match missing with
      | 0 => (sequenceLength? byte).map (· - 1)
      | missing + 1 => if 0x80 ≤ byte ∧ byte < 0xC0 then some missing else none
    return .ofNat byte :: (← tagBytes? missing rest)
  | 0, c :: rest => if c = '%' then none else (tagBytes? 0 rest).map (.ofNat c.toNat :: ·)
  | _ + 1, _ :: _ => none

/-- Bytes up to the first zero. -/
def untilZero (bytes : List UInt8) : List UInt8 := bytes.takeWhile (· ≠ 0)

/-- The bytes of a text. -/
def bytesOf (s : String) : List UInt8 := s.toUTF8.toList

/-- The beginning of the tags that YAML itself defines. -/
def standardTag : String := "tag:yaml.org,2002:"

/-- What handles stand for where no directive says anything else. -/
def defaultHandles : List (String × List UInt8) := [("!", bytesOf "!"), ("!!", bytesOf standardTag)]

/-- What a tag says. A tag of the document's own begins with an exclamation mark, and is a text. -/
def tagOfBytes (bytes : List UInt8) : Tag :=
  if bytes = bytesOf (standardTag ++ "bool") then .bool
  else if bytes = bytesOf (standardTag ++ "int") then .integer
  else if bytes = bytesOf (standardTag ++ "float") then .double
  else if bytes = bytesOf (standardTag ++ "null") then .null
  else if bytes.head? = some 33 && (String.fromUTF8? (ByteArray.mk bytes.toArray)).isSome then .own
  else .other

/-- A tag as it is written: a handle, which is empty where the rest is all of the tag, and the rest. -/
structure WrittenTag where
  handle : String
  rest : List UInt8

/-- What a written tag says, with handles for `handles`; nothing when its handle is not among them. -/
def WrittenTag.tag? (t : WrittenTag) (handles : List (String × List UInt8)) : Option Tag :=
  if t.handle.isEmpty then some (tagOfBytes t.rest)
  else (handles.lookup t.handle).map fun start => tagOfBytes (start ++ t.rest)

/-- Reads a handle: letters between exclamation marks, of which the second may be missing. -/
def handleAt? (c : Cursor) : Option (String × Cursor) :=
  if c.at? '!' then
    let (word, c) := c.skip.takeWhile isWordChar
    if c.at? '!' then some (String.ofList ('!' :: word ++ ['!']), c.skip)
    else some (String.ofList ('!' :: word), c)
  else none

/-- A handle that ends with an exclamation mark of its own. -/
def isClosed (handle : String) : Bool := handle ≠ "!" && handle.endsWith "!"

/-- Reads a part of a tag, which is made of the characters in `p`. -/
def tagPartAt? (p : Char → Bool) (c : Cursor) : Option (List UInt8 × Cursor) := do
  let (part, c) := c.takeWhile p
  return (untilZero (← tagBytes? 0 part), c)

/-- Reads a part of a tag that is not empty. -/
def tagNameAt? (p : Char → Bool) (c : Cursor) : Option (List UInt8 × Cursor) :=
  if c.head?.any p then tagPartAt? p c else none

/-- Reads a tag. A single exclamation mark is a tag by itself. -/
def tagAt? (c : Cursor) : Option (WrittenTag × Cursor) := do
  if c.rest[1]? = some '<' then
    let (rest, c) ← tagNameAt? isFullTagChar (c.skipMany 2)
    if c.at? '>' then return (⟨"", rest⟩, c.skip) else none
  else
    let (handle, c) ← handleAt? c
    if isClosed handle then
      let (rest, c) ← tagNameAt? isTagChar c
      return (⟨handle, rest⟩, c)
    else
      let (part, c) ← tagPartAt? isTagChar c
      let rest := (bytesOf handle).drop 1 ++ part
      return (if rest.isEmpty then ⟨"", bytesOf "!"⟩ else ⟨"!", rest⟩, c)

/-! ### Directives -/

/-- A directive before a document. -/
inductive Directive where
  /-- The version of YAML. -/
  | version (major minor : Nat)
  /-- What a handle stands for. -/
  | handle (handle : String) (start : List UInt8)

/-- Reads a number of at most nine digits. -/
def versionNumberAt? (c : Cursor) : Option (Nat × Cursor) :=
  let (digits, c) := c.takeWhile Char.isDigit
  if digits.isEmpty || 9 < digits.length then none else some (Decimal.readDigits digits, c)

/-- Reads a version: two numbers with a point between them. -/
def versionAt? (c : Cursor) : Option (Directive × Cursor) := do
  let (major, c) ← versionNumberAt? c.skipBlanks
  if !c.at? '.' then none
  let (minor, c) ← versionNumberAt? c.skip
  return (.version major minor, c)

/-- Reads what a handle stands for. -/
def handleMeaningAt? (c : Cursor) : Option (Directive × Cursor) := do
  let (handle, c) ← handleAt? c.skipBlanks
  if handle ≠ "!" && !isClosed handle then none
  if !c.head?.any isBlank then none
  let (start, c) ← tagNameAt? isFullTagChar c.skipBlanks
  if c.spaceAt 0 then return (.handle handle start, c) else none

/-- Reads a directive behind its percent sign, with the rest of its line. -/
def directiveAt? (c : Cursor) : Option (Directive × Cursor) := do
  let (name, c) := c.takeWhile isWordChar
  if !c.spaceAt 0 then none
  let (directive, c) ←
    match String.ofList name with
    | "YAML" => versionAt? c
    | "TAG" => handleMeaningAt? c
    | _ => none
  return (directive, (← c.lineEnd?).skip)

end GoSchema.Yaml
