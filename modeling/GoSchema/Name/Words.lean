import GoSchema.Text.Alphanumeric
import GoSchema.Text.Lowering

/-!
# The words of a name

A name is cut into words in two stages. Characters that are neither letters nor numbers divide it
into pieces; inside a piece a word ends where the letters change from lower to upper case
(`userId`), and before the last capital of a run that a small letter follows (`HTTPServer`).

`words` gives the words in the spelling of the name. Their number and their lengths are those of the
lower-case words; where lowering changed a length, so that the letters of the name no longer match a
word, the lower-case word itself is taken.
-/

namespace GoSchema.Name

open GoSchema.Text

/-- What the letters read so far say about the word they belong to. -/
inductive Mode where
  /-- Nothing yet: the word has just begun, or has no cased letter. -/
  | fresh
  /-- The last cased letter was small. -/
  | lower
  /-- The last cased letter was a capital. -/
  | upper
  deriving DecidableEq

/-- The mode after the character `c`. -/
def Mode.next (m : Mode) (c : Char) : Mode :=
  if isLowercase c then .lower else if isUppercase c then .upper else m

/-- The words of a piece, where `word` holds the characters of the current word already read. -/
def wordsOfPiece (mode : Mode) (word : List Char) : List Char → List (List Char)
  | [] => []
  | [c] => [word ++ [c]]
  | c :: next :: rest =>
    if mode.next c = .lower ∧ isUppercase next then
      (word ++ [c]) :: wordsOfPiece .fresh [] (next :: rest)
    else if mode = .upper ∧ isUppercase c ∧ isLowercase next then
      word :: wordsOfPiece .fresh [c] (next :: rest)
    else wordsOfPiece (mode.next c) (word ++ [c]) (next :: rest)

/-- The pieces between the characters that are neither letters nor numbers, where `piece` holds the
characters of the current piece already read. -/
def piecesFrom (piece : List Char) : List Char → List (List Char)
  | [] => [piece]
  | c :: rest =>
    if isAlphanumeric c then piecesFrom (piece ++ [c]) rest else piece :: piecesFrom [] rest

/-- The words of a name as they are cut, in the spelling of the name. -/
def cut (name : List Char) : List (List Char) :=
  (piecesFrom [] name).flatMap (wordsOfPiece .fresh [])

/-- A word in lower case; a capital sigma at its end becomes the final sigma. -/
def lowerWord : List Char → List Char
  | [] => []
  | ['Σ'] => ['ς']
  | c :: rest => lowerChar c ++ lowerWord rest

/-- A word with its first letter in upper case and the others in lower case. -/
def capitalize : List Char → List Char
  | [] => []
  | c :: rest => upperChar c ++ lowerWord rest

/-- The words of a name in lower case, joined by underscores. -/
def snakeCase (name : List Char) : List Char :=
  ['_'].intercalate ((cut name).map lowerWord)

/-- The words of a name, each capitalized, with nothing between them. -/
def upperCamelCase (name : List Char) : List Char :=
  (cut name).flatMap capitalize

/-- Gives each of the lower-case words the next letters of the name as its spelling, as long as they
are letters of that word. -/
def respell : List (List Char) → List Char → List (List Char)
  | [], _ => []
  | w :: ws, letters =>
    let spelling := letters.take w.length
    (if lower spelling = w then spelling else w) :: respell ws (letters.drop w.length)

/-- The words of a name in the spelling of the name. -/
def words (name : List Char) : List (List Char) :=
  respell ((cut name).map lowerWord) (name.filter isAlphanumeric)

end GoSchema.Name
