import GoSchema.Document.Yaml.Tree

/-!
# The meaning of YAML scalars

What a scalar is depends on what is expected: any scalar can be read as a text, and only a plain one as a
number or truth value, unless its tag says what it is. An empty plain scalar stands for an empty collection
and for an absent value. Links are followed where they are read, at most a hundred times for every step in
which the document is told.
-/

namespace GoSchema.Yaml

/-- Drops a plus sign. -/
def unsigned (cs : List Char) : List Char :=
  match cs with
  | '+' :: cs => cs
  | cs => cs

/-- The value of a digit of a base. -/
def digit? (base : Nat) (c : Char) : Option Nat := (Json.hexValue? c).filter (· < base)

/-- The number written by the digits of a base. -/
def digits? (base : Nat) (cs : List Char) : Option Nat :=
  if cs.isEmpty then none else cs.foldlM (fun n c => do return base * n + (← digit? base c)) 0

/-- A decimal number: a leading zero is refused where more digits follow. -/
def decimal? (cs : List Char) : Option Nat :=
  if cs.head? = some '0' && cs.length ≠ 1 then none else digits? 10 cs

/-- The magnitude of an integer: decimal, or in the base that is marked. -/
def magnitude? : List Char → Option Nat
  | '0' :: 'x' :: cs => digits? 16 cs
  | '0' :: 'o' :: cs => digits? 8 cs
  | '0' :: 'b' :: cs => digits? 2 cs
  | cs => decimal? cs

/-- A natural number of at most 64 bits. -/
def natural? (text : String) : Option Nat :=
  (magnitude? (unsigned text.toList)).filter (· < UInt64.size)

/-- An integer of at most 64 bits. -/
def integer? (text : String) : Option Int :=
  match text.toList with
  | '-' :: cs => ((magnitude? cs).filter (· ≤ 1 <<< 63)).map fun n => -(n : Int)
  | _ => (natural? text).map fun n => (n : Int)

/-- The digits of a number behind its sign: at least one, with a point anywhere among them. -/
def numeral? (cs : List Char) : Option Decimal.Numeral := do
  let whole := cs.takeWhile Char.isDigit
  let rest := cs.dropWhile Char.isDigit
  let (fraction, rest) :=
    match rest with
    | '.' :: rest => (rest.takeWhile Char.isDigit, rest.dropWhile Char.isDigit)
    | rest => ([], rest)
  if whole.isEmpty && fraction.isEmpty then none
  match rest with
  | [] => return ⟨whole, fraction, 0⟩
  | e :: rest =>
    if e = 'e' ∨ e = 'E' then return ⟨whole, fraction, ← Json.exponent? rest⟩ else none

/-- A double that is written with digits; one that is out of range is refused. -/
def finite? (cs : List Char) : Option Double := do
  let (negative, cs) :=
    match cs with
    | '-' :: cs => (true, cs)
    | cs => (false, cs)
  let d := Decimal.nearest negative (← numeral? cs)
  if d.isFinite then some d else none

/-- A double: a number, an infinity, or no number. -/
def double? (text : String) : Option Double :=
  if ["-.inf", "-.Inf", "-.INF"].contains text then some (.infinity true)
  else if [".nan", ".NaN", ".NAN"].contains text then some .nan
  else
    let cs := unsigned text.toList
    if [".inf", ".Inf", ".INF"].contains (String.ofList cs) then some (.infinity false)
    else if text.toList.head? = some '+' && cs.head? = some '-' then none
    else finite? cs

/-- A truth value. -/
def bool? (text : String) : Option Bool :=
  if ["true", "True", "TRUE"].contains text then some true
  else if ["false", "False", "FALSE"].contains text then some false
  else none

/-- The spellings of null. -/
def isNull (text : String) : Bool := ["null", "Null", "NULL", "~"].contains text

/-- The text of a scalar. -/
def scalarText? (node : Node) : Option String :=
  match node.untagged with
  | .plain s | .quoted s | .literal s => some s
  | _ => none

/-- The text of a scalar that can be a number or truth value: a plain one, or a block of kept lines with
the tag for it. -/
def valueText? (tag : Tag) (node : Node) : Option String :=
  match node.untagged with
  | .plain s => some s
  | .literal s => if node.tag? = some tag then some s else none
  | _ => none

/-- Whether a value is there. A plain scalar that spells null stands for none, if it has no other tag; one
with the tag for null has to spell it. -/
def presence? : Node → Option Bool
  | .plain s => some !(s.isEmpty || isNull s)
  | .tagged .null (.plain s) => if isNull s then some false else none
  | _ => some true

/-- An empty plain scalar. -/
def isVoid (node : Node) : Bool :=
  match node.untagged with
  | .plain s => s.isEmpty
  | _ => false

/-- An alternative. Its name is a text, so that no tag may say that it is something else. -/
def choice? (node : Node) : Option Choice :=
  match node.tag?, node.untagged with
  | some .own, _ => none
  | _, .map [(key, content)] => some (.entry key content)
  | none, node | some .other, node => (scalarText? node).map .name
  | _, _ => none

/-- Reading in which links may be followed a number of times. -/
abbrev Following := StateT Nat Option

namespace Document

/-- The node that is meant. -/
def target (doc : Document) : Node → Following Node
  | .link number => do
    match ← get with
    | 0 => failure
    | left + 1 => do
      set left
      liftM (doc.targets.lookup number)
  | node => return node

/-- The rules of YAML. -/
def dialect (doc : Document) : Dialect Following where
  target := doc.target
  text? := scalarText?
  integer? node := (valueText? .integer node).bind integer?
  natural? node := (valueText? .integer node).bind natural?
  double? node := (valueText? .double node).bind double?
  bool? node := (valueText? .bool node).bind bool?
  presence?
  isVoid
  choice?
  nullContent := false
  positional := false
  positionalContent := false
  levels := 128

/-- Reads a document by the rules of YAML. What is behind the document matters last. -/
def decode {α : Type} (doc : Document) (read : Dialect Following → Node → Following α) :
    Except ReadError α := do
  let (a, _) ← orMalformed ((read doc.dialect doc.root).run (100 * doc.root.steps))
  doc.rest
  return a

end Document

end GoSchema.Yaml
