/-!
# Positions in a YAML text

The text is walked through character by character, with the line and column of the position. A line
ends with a line feed, a carriage return, both in a row, or one of three other break characters; all
but the last two count as a line feed.
-/

namespace GoSchema.Yaml

/-- The character NEXT LINE. -/
def nextLine : Char := Char.ofNat 0x85

/-- The character LINE SEPARATOR. -/
def lineSeparator : Char := Char.ofNat 0x2028

/-- The character PARAGRAPH SEPARATOR. -/
def paragraphSeparator : Char := Char.ofNat 0x2029

/-- The character that may mark the byte order at the beginning of a text. -/
def byteOrderMark : Char := Char.ofNat 0xFEFF

/-- Characters that may stand in a text. -/
def isAllowed (c : Char) : Bool :=
  let n := c.toNat
  n = 9 || n = 10 || n = 13 || (32 ≤ n && n ≤ 126) || n = 0x85 || (0xA0 ≤ n && n ≤ 0xFFFD) || 0x10000 ≤ n

/-- A line ends here. -/
def isBreak (c : Char) : Bool :=
  c = '\n' || c = '\r' || c = nextLine || c = lineSeparator || c = paragraphSeparator

/-- What a line break counts as. -/
def breakChar (c : Char) : Char := if c = lineSeparator ∨ c = paragraphSeparator then c else '\n'

/-- A space or tab. -/
def isBlank (c : Char) : Bool := c = ' ' || c = '\t'

/-- A letter, a digit, a dash or an underscore. -/
def isWordChar (c : Char) : Bool := c.isAlphanum || c = '-' || c = '_'

/-- A position in a text. -/
structure Cursor where
  /-- The characters from here on. -/
  rest : List Char
  /-- The number of bytes before. -/
  index : Nat
  line : Nat
  column : Nat

namespace Cursor

/-- The beginning of a text. -/
def start (cs : List Char) : Cursor := ⟨cs, 0, 0, 0⟩

/-- The character here. -/
def head? (c : Cursor) : Option Char := c.rest.head?

/-- The position behind the character here. A carriage return and the line feed behind it are passed
together. -/
def skip (c : Cursor) : Cursor :=
  match c.rest with
  | [] => c
  | '\r' :: '\n' :: rest => ⟨rest, c.index + 2, c.line + 1, 0⟩
  | ch :: rest =>
    if isBreak ch then ⟨rest, c.index + ch.utf8Size, c.line + 1, 0⟩
    else ⟨rest, c.index + ch.utf8Size, c.line, c.column + 1⟩

/-- The position `n` characters further on. -/
def skipMany : Nat → Cursor → Cursor
  | 0, c => c
  | n + 1, c => skipMany n c.skip

/-- The characters from here on that satisfy `p`, and the position behind them. -/
def takeWhile (p : Char → Bool) (c : Cursor) : List Char × Cursor :=
  let taken := c.rest.takeWhile p
  (taken, c.skipMany taken.length)

/-- The position behind the characters that satisfy `p`. -/
def skipWhile (p : Char → Bool) (c : Cursor) : Cursor := (c.takeWhile p).2

/-- The position behind blanks. -/
def skipBlanks (c : Cursor) : Cursor := c.skipWhile isBlank

/-- Here is `ch`. -/
def at? (c : Cursor) (ch : Char) : Bool := c.head? == some ch

/-- The text ends `n` characters further on, or a blank or the end of the line is there. -/
def spaceAt (c : Cursor) (n : Nat) : Bool :=
  match c.rest[n]? with
  | none => true
  | some ch => isBlank ch || isBreak ch

/-- Here is a line break or the end of the text. -/
def atLineEnd (c : Cursor) : Bool :=
  match c.head? with
  | none => true
  | some ch => isBreak ch

/-- The position behind a comment, if one begins here. -/
def skipComment (c : Cursor) : Cursor :=
  if c.at? '#' then c.skipWhile fun ch => !isBreak ch else c

/-- The end of the line, with only blanks and a comment before it. -/
def lineEnd? (c : Cursor) : Option Cursor :=
  let c := c.skipBlanks.skipComment
  if c.atLineEnd then some c else none

/-- Here is a line that begins with three times `ch` and no more. -/
def atMark (c : Cursor) (ch : Char) : Bool :=
  c.column = 0 && c.rest.take 3 == [ch, ch, ch] && c.spaceAt 3

/-- Here is a mark between documents. -/
def atDocumentMark (c : Cursor) : Bool := c.atMark '-' || c.atMark '.'

end Cursor

end GoSchema.Yaml
