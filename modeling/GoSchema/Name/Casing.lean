import GoSchema.Name.Words

/-!
# Go spellings of schema names

`exported` turns a schema name into an exported Go identifier: `user_id` and `userId` both become
`UserID`. Common initialisms are written in capitals, and a run of capitals such as `KV` is kept,
unless the whole name is written in capitals with underscores. `unexported` gives the spelling of a
local variable or parameter, whose first word is in lower case. A name without letters and numbers
is left as it is.

The keywords and the predeclared identifiers of Go are reserved: no generated declaration may take one of
them, and none may be given by hand.
-/

namespace GoSchema.Name

open GoSchema.Text

/-- Words that Go style writes in capitals throughout. -/
def initialisms : List String :=
  ["ACL", "API", "ASCII", "CPU", "CSS", "DNS", "EOF", "GUID", "HTML", "HTTP", "HTTPS", "ID",
   "IP", "JSON", "LHS", "QPS", "RAM", "RHS", "RPC", "SLA", "SMTP", "SQL", "SSH", "TCP", "TLS",
   "TTL", "UDP", "UI", "UID", "UUID", "URI", "URL", "UTF8", "VM", "XML", "XMPP", "XSRF", "XSS"]

/-- A name such as `MAX_RETRIES`, whose words are to be recased one by one. -/
def isScreaming (name : List Char) : Bool :=
  name.contains '_' && !name.any isLowercase

/-- A word of at least two characters with a capital and no small letter. -/
def isUpperRun (word : List Char) : Bool :=
  decide (1 < word.length) && word.any isUppercase && !word.any isLowercase

/-- A word inside an identifier; `keepRuns` says whether a run of capitals stays as it is. -/
def caseWord (keepRuns : Bool) (word : List Char) : List Char :=
  let capitals := word.map Char.toUpper
  if initialisms.contains (String.ofList capitals) then capitals
  else if keepRuns && isUpperRun word then word
  else upperCamelCase word

/-- The exported identifier of a name, over characters. -/
def exportedChars (name : List Char) : List Char :=
  let cased := (words name).flatMap (caseWord (!isScreaming name))
  if cased.isEmpty then name else cased

/-- The identifier of a local variable, over characters. -/
def unexportedChars (name : List Char) : List Char :=
  match words name with
  | [] => name
  | first :: rest => lower first ++ rest.flatMap (caseWord (!isScreaming name))

/-- The exported Go identifier of a schema name. -/
def exported (name : String) : String := String.ofList (exportedChars name.toList)

/-- The Go identifier of a schema name used for a local variable or a parameter. -/
def unexported (name : String) : String := String.ofList (unexportedChars name.toList)

/-- An ASCII capital followed by ASCII letters and digits: the form that an identifier given by
hand must have. -/
def isExported (ident : String) : Bool :=
  match ident.toList with
  | [] => false
  | c :: rest => c.isUpper && rest.all Char.isAlphanum

/-- The keywords and predeclared identifiers of Go. -/
def reservedNames : List String :=
  ["break", "case", "chan", "const", "continue", "default", "defer", "else", "fallthrough", "for",
   "func", "go", "goto", "if", "import", "interface", "map", "package", "range", "return",
   "select", "struct", "switch", "type", "var", "any", "append", "bool", "byte", "cap", "clear",
   "close", "comparable", "complex", "complex64", "complex128", "copy", "delete", "error",
   "false", "float32", "float64", "imag", "int", "int8", "int16", "int32", "int64", "iota", "len",
   "make", "max", "min", "new", "nil", "panic", "print", "println", "real", "recover", "rune",
   "string", "true", "uint", "uint8", "uint16", "uint32", "uint64", "uintptr"]

/-- `name` is a keyword or a predeclared identifier of Go. -/
def isReserved (name : String) : Bool := reservedNames.contains name

end GoSchema.Name
