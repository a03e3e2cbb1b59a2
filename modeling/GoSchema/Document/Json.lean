import GoSchema.Decimal.Reading
import GoSchema.Document.Node

/-!
# JSON

Reading and writing documents in JSON. Numbers and the literals `true`, `false` and `null` are plain
scalars, strings are quoted ones. A string with an escape that names half of a surrogate pair is no
text; it becomes a plain scalar without meaning, which can be skipped but not read.
-/

namespace GoSchema.Json

/-- The blanks between tokens. -/
def isBlank (c : Char) : Bool := c = ' ' || c = '\n' || c = '\t' || c = '\r'

/-- Drops blanks. -/
def skipBlank (cs : List Char) : List Char := cs.dropWhile isBlank

/-! ### Strings -/

/-- A part of a string: a character, or a UTF-16 unit given by an escape. -/
inductive Piece where
  | char (c : Char)
  | unit (u : Nat)

/-- The value of a hexadecimal digit. -/
def hexValue? (c : Char) : Option Nat :=
  if '0' ≤ c ∧ c ≤ '9' then some (c.toNat - 48)
  else if 'a' ≤ c ∧ c ≤ 'f' then some (c.toNat - 87)
  else if 'A' ≤ c ∧ c ≤ 'F' then some (c.toNat - 55)
  else none

/-- The number written by four hexadecimal digits. -/
def unit? (a b c d : Char) : Option Nat := do
  return 4096 * (← hexValue? a) + 256 * (← hexValue? b) + 16 * (← hexValue? c) + (← hexValue? d)

/-- The character of a one-letter escape. -/
def escape? : Char → Option Char
  | '"' => some '"'
  | '\\' => some '\\'
  | '/' => some '/'
  | 'b' => some '\x08'
  | 'f' => some '\x0c'
  | 'n' => some '\n'
  | 'r' => some '\r'
  | 't' => some '\t'
  | _ => none

/-- The pieces of a string up to its closing quote, and the rest. -/
def pieces? : List Char → Option (List Piece × List Char)
  | [] => none
  | '"' :: rest => some ([], rest)
  | '\\' :: 'u' :: a :: b :: c :: d :: rest => do
    let u ← unit? a b c d
    let (pieces, rest) ← pieces? rest
    return (.unit u :: pieces, rest)
  | '\\' :: e :: rest => do
    let c ← escape? e
    let (pieces, rest) ← pieces? rest
    return (.char c :: pieces, rest)
  | c :: rest =>
    if c.toNat < 32 ∨ c = '\\' then none
    else do
      let (pieces, rest) ← pieces? rest
      return (.char c :: pieces, rest)

/-- The characters of a string; nothing when half of a surrogate pair stands alone. -/
def chars? : List Piece → Option (List Char)
  | [] => some []
  | .char c :: ps => (chars? ps).map (c :: ·)
  | .unit hi :: .unit lo :: ps =>
    if 0xD800 ≤ hi ∧ hi < 0xDC00 then
      if 0xDC00 ≤ lo ∧ lo < 0xE000 then
        (chars? ps).map (Char.ofNat (0x10000 + (hi - 0xD800) * 0x400 + (lo - 0xDC00)) :: ·)
      else none
    else if 0xDC00 ≤ hi ∧ hi < 0xE000 then none
    else (chars? (.unit lo :: ps)).map (Char.ofNat hi :: ·)
  | .unit u :: ps =>
    if 0xD800 ≤ u ∧ u < 0xE000 then none else (chars? ps).map (Char.ofNat u :: ·)

/-- The scalar of a string. -/
def stringNode (pieces : List Piece) : Node :=
  match chars? pieces with
  | some cs => .quoted (String.ofList cs)
  | none => .plain ""

/-! ### Numbers and literals -/

/-- A number as it is written. -/
structure Number where
  negative : Bool
  /-- The digits and the exponent. -/
  numeral : Decimal.Numeral
  /-- Written without fraction and exponent. -/
  isWhole : Bool

/-- The exponent of a number, after its mark. -/
def exponent? (cs : List Char) : Option Int :=
  let (sign, digits) : Int × List Char :=
    match cs with
    | '+' :: ds => (1, ds)
    | '-' :: ds => (-1, ds)
    | ds => (1, ds)
  if digits.isEmpty || !digits.all Char.isDigit then none
  else some (sign * Decimal.readDigits digits)

/-- What follows the integer part of a number: a fraction and an exponent. -/
def tail? (cs : List Char) : Option (List Char × Option Int) := do
  let (fraction, rest) ←
    match cs with
    | '.' :: ds =>
      let digits := ds.takeWhile Char.isDigit
      if digits.isEmpty then none else some (digits, ds.dropWhile Char.isDigit)
    | rest => some ([], rest)
  match rest with
  | [] => return (fraction, none)
  | e :: rest => if e = 'e' ∨ e = 'E' then return (fraction, some (← exponent? rest)) else none

/-- Reads a number. The integer part has no leading zeros. -/
def number? (text : String) : Option Number := do
  let (negative, cs) :=
    match text.toList with
    | '-' :: cs => (true, cs)
    | cs => (false, cs)
  let whole := cs.takeWhile Char.isDigit
  if whole.isEmpty || (whole.head? = some '0' && whole.length ≠ 1) then none
  let rest := cs.dropWhile Char.isDigit
  let (fraction, exponent) ← tail? rest
  return ⟨negative, ⟨whole, fraction, exponent.getD 0⟩, rest.isEmpty⟩

/-- The characters of which numbers and literals are made. -/
def isScalarChar (c : Char) : Bool :=
  c.isAlphanum || c = '+' || c = '-' || c = '.'

/-- A number or literal. -/
def isScalar (text : String) : Bool :=
  text = "true" || text = "false" || text = "null" || (number? text).isSome

/-! ### Documents -/

mutual

/-- Reads a document at the beginning of a text. -/
def node? : (fuel : Nat) → List Char → Option (Node × List Char)
  | 0, _ => none
  | fuel + 1, cs =>
    match skipBlank cs with
    | '[' :: cs =>
      match skipBlank cs with
      | ']' :: rest => some (.seq [], rest)
      | cs => do
        let (items, rest) ← items? fuel cs
        return (.seq items, rest)
    | '\x7b' :: cs =>
      match skipBlank cs with
      | '\x7d' :: rest => some (.map [], rest)
      | cs => do
        let (entries, rest) ← entries? fuel cs
        return (.map entries, rest)
    | '"' :: cs => do
      let (pieces, rest) ← pieces? cs
      return (stringNode pieces, rest)
    | cs =>
      let text := String.ofList (cs.takeWhile isScalarChar)
      if isScalar text then some (.plain text, cs.dropWhile isScalarChar) else none

/-- Reads the items of a sequence up to its closing bracket. -/
def items? : (fuel : Nat) → List Char → Option (List Node × List Char)
  | 0, _ => none
  | fuel + 1, cs => do
    let (item, rest) ← node? fuel cs
    match skipBlank rest with
    | ',' :: rest =>
      let (items, rest) ← items? fuel rest
      return (item :: items, rest)
    | ']' :: rest => return ([item], rest)
    | _ => none

/-- Reads the entries of a map up to its closing brace. -/
def entries? : (fuel : Nat) → List Char → Option (List (Node × Node) × List Char)
  | 0, _ => none
  | fuel + 1, cs =>
    match skipBlank cs with
    | '"' :: cs => do
      let (pieces, rest) ← pieces? cs
      match skipBlank rest with
      | ':' :: rest => do
        let (value, rest) ← node? fuel rest
        let entry := (stringNode pieces, value)
        match skipBlank rest with
        | ',' :: rest =>
          let (entries, rest) ← entries? fuel rest
          return (entry :: entries, rest)
        | '\x7d' :: rest => return ([entry], rest)
        | _ => none
      | _ => none
    | _ => none

end

/-- Reads a text that holds one document. Every second call of the reader takes a character, so twice the
length of the text bounds the calls. -/
def read? (text : String) : Option Node := do
  let cs := text.toList
  let (node, rest) ← node? (2 * cs.length + 1) cs
  if (skipBlank rest).isEmpty then some node else none

/-! ### The dialect -/

/-- An integer: written without fraction and exponent, not as a negative zero, and of at most 64
bits. -/
def integer? (text : String) : Option Int := do
  let n ← number? text
  if !n.isWhole then none
  let magnitude := Decimal.readDigits n.numeral.whole
  if n.negative then
    if magnitude = 0 ∨ 1 <<< 63 < magnitude then none else some (-magnitude)
  else if magnitude ≤ Decimal.greatestWord then some magnitude
  else none

/-- An integer that is not negative. -/
def natural? (text : String) : Option Nat :=
  (integer? text).bind fun n => if 0 ≤ n then some n.toNat else none

/-- A double: an integer of 64 bits as itself, anything else by the stepwise rule. -/
def double? (text : String) : Option Double :=
  match integer? text with
  | some n => some (.ofInt n)
  | none => (number? text).bind fun n => Decimal.stepwise n.negative n.numeral

/-- The rules of JSON. A document holds no links. -/
def dialect : Dialect Option where
  target node := some node
  text?
    | .quoted s => some s
    | _ => none
  integer?
    | .plain s => integer? s
    | _ => none
  natural?
    | .plain s => natural? s
    | _ => none
  double?
    | .plain s => double? s
    | _ => none
  bool?
    | .plain s => if s = "true" then some true else if s = "false" then some false else none
    | _ => none
  presence?
    | .plain s => some (s ≠ "null")
    | _ => some true
  isVoid _ := false
  choice?
    | .quoted s => some (.name s)
    | .map [(key, content)] => some (.entry key content)
    | _ => none
  nullContent := true
  positional := true
  positionalContent := true
  levels := 127

/-- The rules for a document that is part of a larger one. Here the content of an alternative is never
written as a sequence. -/
def partDialect : Dialect Option := { dialect with positionalContent := false }

/-! ### Writing -/

/-- A character inside a string. -/
def encodeChar (c : Char) : List Char :=
  if c = '"' then ['\\', '"']
  else if c = '\\' then ['\\', '\\']
  else if c = '\n' then ['\\', 'n']
  else if c = '\r' then ['\\', 'r']
  else if c = '\t' then ['\\', 't']
  else if c = '\x08' then ['\\', 'b']
  else if c = '\x0c' then ['\\', 'f']
  else if c.toNat < 32 then ['\\', 'u', '0', '0', Nat.digitChar (c.toNat / 16), Nat.digitChar (c.toNat % 16)]
  else [c]

/-- A string in quotes. -/
def encode (s : String) : String :=
  "\"" ++ String.ofList (s.toList.flatMap encodeChar) ++ "\""

mutual

/-- The text of a document. Tags are left out, and a link has no form of its own. -/
def write : Node → String
  | .plain text => text
  | .quoted text | .literal text => encode text
  | .seq items => "[" ++ ",".intercalate (writeItems items) ++ "]"
  | .map entries => "\x7b" ++ ",".intercalate (writeEntries entries) ++ "\x7d"
  | .tagged _ node => write node
  | .link _ => "null"

/-- The texts of the items of a sequence. -/
def writeItems : List Node → List String
  | [] => []
  | n :: ns => write n :: writeItems ns

/-- The texts of the entries of a map. -/
def writeEntries : List (Node × Node) → List String
  | [] => []
  | (k, v) :: es => (write k ++ ":" ++ write v) :: writeEntries es

end

end GoSchema.Json
