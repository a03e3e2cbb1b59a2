/-!
# Lines of Go code

Generated code is a list of lines, each with the depth to which it is indented. Blocks are put together
from lines, and the text is written last, with one tab for each level.

`quote` writes a text as an interpreted string literal of Go. Quotes, backslashes, line ends and tabs
have escapes of two characters, every other control character is written by two hexadecimal digits,
and all else stands for itself.
-/

namespace GoSchema.Go

/-- A line of code. A line without text is blank and is not indented. -/
structure Line where
  /-- The number of tabs before the text. -/
  depth : Nat
  text : String
  deriving DecidableEq

/-- A piece of Go source. -/
abbrev Code := List Line

/-- A line at the outer level. -/
def line (text : String) : Code := [⟨0, text⟩]

/-- Lines at the outer level. -/
def lines (texts : List String) : Code := texts.map fun t => ⟨0, t⟩

/-- A blank line. -/
def blank : Code := [⟨0, ""⟩]

/-- The code one level further in. -/
def indent (code : Code) : Code := code.map fun l => ⟨l.depth + 1, l.text⟩

/-- A text between braces. -/
def braced (text : String) : String := "\x7b" ++ text ++ "\x7d"

/-- A block: `head {`, the body one level further in, and `}`. -/
def block (head : String) (body : Code) : Code :=
  line (head ++ " \x7b") ++ indent body ++ line "\x7d"

/-- A parenthesized group of declarations. -/
def group (keyword : String) (body : Code) : Code :=
  line (keyword ++ " (") ++ indent body ++ line ")"

/-- A function or method with this signature, followed by a blank line. -/
def func (signature : String) (body : Code) : Code :=
  block ("func " ++ signature) body ++ blank

/-- A conditional statement. -/
def ifThen (condition : String) (body : Code) : Code := block ("if " ++ condition) body

/-- A loop. -/
def forLoop (clause : String) (body : Code) : Code := block ("for " ++ clause) body

/-- A branch of a switch. -/
def caseOf (label : String) (body : Code) : Code := line (label ++ ":") ++ indent body

/-- A switch; its branches stand at the level of the switch itself. -/
def switch (subject : String) (branches : Code) : Code :=
  line ("switch " ++ subject ++ " \x7b") ++ branches ++ line "\x7d"

/-- Returns the error when there is one. -/
def returnError (results : String) : Code := ifThen "err != nil" (line ("return " ++ results))

/-- Pads a text on the right to a number of characters. -/
def padRight (width : Nat) (text : String) : String :=
  text ++ String.ofList (List.replicate (width - text.length) ' ')

/-- The width of a column: the greatest number of bytes of its texts. -/
def columnWidth (texts : List String) : Nat := (texts.map String.utf8ByteSize).foldl max 0

/-- The text of a line. -/
def Line.render (l : Line) : String :=
  if l.text.isEmpty then "\n"
  else String.ofList (List.replicate l.depth '\t') ++ l.text ++ "\n"

/-- The text of a piece of code. -/
def render (code : Code) : String := String.join (code.map Line.render)

/-- One character inside a string literal. -/
def quoteChar (c : Char) : List Char :=
  match c with
  | '"' => ['\\', '"']
  | '\\' => ['\\', '\\']
  | '\n' => ['\\', 'n']
  | '\r' => ['\\', 'r']
  | '\t' => ['\\', 't']
  | c =>
    if c.toNat < 0x20 ∨ c.toNat = 0x7f then
      ['\\', 'x', Nat.digitChar (c.toNat / 16), Nat.digitChar (c.toNat % 16)]
    else [c]

/-- A string literal, over characters. -/
def quoteChars (cs : List Char) : List Char :=
  '"' :: (cs.flatMap quoteChar ++ ['"'])

/-- The Go string literal of a text. -/
def quote (s : String) : String := String.ofList (quoteChars s.toList)

end GoSchema.Go
