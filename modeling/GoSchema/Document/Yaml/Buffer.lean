import GoSchema.Document.Node

/-!
# Room for scalars

A scalar is gathered in a buffer with a limited room. The room doubles when a character comes and at most five
bytes are free. Blanks and line breaks inside a scalar are held back until it is known that they belong to it;
they are then added as a whole, and must fit into the room that is free.
-/

namespace GoSchema.Yaml

/-- The number of bytes of a text. -/
def byteLength (cs : List Char) : Nat := cs.foldr (fun c n => c.utf8Size + n) 0

/-- A text that is gathered. -/
structure Buffer where
  /-- The characters so far, the latest first. -/
  reversed : List Char
  /-- The number of their bytes. -/
  length : Nat
  /-- The room for them. -/
  capacity : Nat

namespace Buffer

/-- Nothing has been gathered. -/
def empty : Buffer := ⟨[], 0, 16⟩

/-- Adds a character. -/
def push (b : Buffer) (c : Char) : Buffer :=
  ⟨c :: b.reversed, b.length + c.utf8Size, if b.capacity ≤ b.length + 5 then 2 * b.capacity else b.capacity⟩

/-- Adds what has been held back. -/
def join (b : Buffer) (cs : List Char) : Except ReadError Buffer :=
  if cs.isEmpty then .ok b
  else if b.capacity ≤ b.length + byteLength cs then .error .overflow
  else .ok ⟨cs.reverse ++ b.reversed, b.length + byteLength cs, b.capacity⟩

/-- The text that has been gathered. -/
def text (b : Buffer) : String := String.ofList b.reversed.reverse

end Buffer

end GoSchema.Yaml
