import GoSchema.Name.Casing
import GoSchema.Text.Display

/-!
# Namespaces

A namespace is a chain of scopes, the innermost first. It hands out identifiers that collide neither
with a name held by one of its scopes nor with a reserved word of Go. All operations act on the
innermost scope; an inner scope sees what the outer ones hold, and they do not see what it holds.

A scope also remembers the names it made up for each base name, oldest first, so that they can be
gone through in turn.
-/

namespace GoSchema.Name

/-- The names held by one scope, and the names made up for each base, oldest first. -/
structure Scope where
  /-- The names held. -/
  taken : List String
  /-- Base name and the names made up for it. -/
  generated : List (String × List String)
  deriving DecidableEq

/-- A scope that holds nothing. -/
def Scope.empty : Scope := ⟨[], []⟩

/-- A chain of scopes. -/
structure Namespace where
  /-- The innermost scope. -/
  inner : Scope
  /-- The enclosing scopes, from the inside out. -/
  outer : List Scope
  deriving DecidableEq

/-- Why a namespace refuses a request. -/
inductive NameError where
  /-- The name is held already, or reserved. -/
  | taken (name : String)
  /-- No name made up for this base is held. -/
  | notGenerated (base : String)
  deriving DecidableEq

/-- The text of a refusal. -/
def NameError.message : NameError → String
  | .taken name => "name " ++ Text.display name ++ " is already taken"
  | .notGenerated base => "no names have been generated for " ++ Text.display base

/-- The initializer of a package: Go allows any number of functions of this name in a file. -/
def initHook : String := "init"

namespace Namespace

/-- A namespace of one scope that holds nothing. -/
def empty : Namespace := ⟨.empty, []⟩

/-- The scopes of a namespace, the innermost first. -/
def scopes (ns : Namespace) : List Scope := ns.inner :: ns.outer

/-- All names held along the chain. -/
def held (ns : Namespace) : List String := ns.scopes.flatMap Scope.taken

/-- `name` is held along the chain or reserved by the language. -/
def isTaken (ns : Namespace) (name : String) : Bool :=
  isReserved name || ns.scopes.any (·.taken.contains name)

/-- The innermost scope comes to hold `name`. -/
def hold (ns : Namespace) (name : String) : Namespace :=
  { ns with inner := { ns.inner with taken := name :: ns.inner.taken } }

/-- Holds `name`, unless it is taken. The initializer may be asked for any number of times and is
never held. -/
def reserve (ns : Namespace) (name : String) : Except NameError Namespace :=
  if name = initHook then .ok ns
  else if ns.isTaken name then .error (.taken name)
  else .ok (ns.hold name)

/-- The first of `base` followed by `k`, `k + 1`, … that is not taken, out of `tries + 1`. -/
def firstFree (taken : String → Bool) (base : String) : (tries k : Nat) → String
  | 0, k => base ++ toString k
  | tries + 1, k =>
    if taken (base ++ toString k) then firstFree taken base tries (k + 1) else base ++ toString k

/-- `base` if it is free, else `base` followed by the smallest number from 2 on that makes it free.
There are no more taken names than reserved and held ones, so the search finds a free one. -/
def freshName (ns : Namespace) (base : String) : String :=
  if ns.isTaken base then
    firstFree ns.isTaken base (reservedNames.length + ns.held.length) 2
  else base

/-- Adds `name` behind the names made up for `base`. -/
def enqueue (base name : String) : List (String × List String) → List (String × List String)
  | [] => [(base, [name])]
  | (b, names) :: rest =>
    if b = base then (b, names ++ [name]) :: rest else (b, names) :: enqueue base name rest

/-- Holds a fresh name made up for `base`, and gives it. -/
def newName (ns : Namespace) (base : String) : String × Namespace :=
  let name := ns.freshName base
  let ns := ns.hold name
  (name, { ns with inner := { ns.inner with generated := enqueue base name ns.inner.generated } })

/-- The innermost scope gives up `name`; what the outer scopes hold stays. -/
def forget (ns : Namespace) (name : String) : Namespace :=
  { ns with
    inner :=
      ⟨ns.inner.taken.filter (· != name),
       ns.inner.generated.map fun g => (g.1, g.2.filter (· != name))⟩ }

/-- Takes the first name of `base` and puts it behind the others. -/
def rotateQueue (base : String) :
    List (String × List String) → Option (String × List (String × List String))
  | [] => none
  | (b, names) :: rest =>
    if b = base then
      match names with
      | [] => none
      | name :: names => some (name, (b, names ++ [name]) :: rest)
    else (rotateQueue base rest).map fun r => (r.1, (b, names) :: r.2)

/-- The oldest name made up for `base` that the innermost scope still holds. It moves behind the
others, so that the following calls go through all of them. -/
def rotate (ns : Namespace) (base : String) : Except NameError (String × Namespace) :=
  match rotateQueue base ns.inner.generated with
  | some (name, generated) => .ok (name, { ns with inner := { ns.inner with generated } })
  | none => .error (.notGenerated base)

/-- A new scope inside the innermost one. -/
def enter (ns : Namespace) : Namespace := ⟨.empty, ns.inner :: ns.outer⟩

/-- Drops the innermost scope; the outermost one stays. -/
def leave (ns : Namespace) : Namespace :=
  match ns.outer with
  | [] => ns
  | scope :: rest => ⟨scope, rest⟩

/-- One request to a namespace. -/
inductive Step where
  | reserve (name : String)
  | newName (base : String)
  | forget (name : String)
  | rotate (base : String)
  | isTaken (name : String)
  | enter
  | leave
  deriving DecidableEq

/-- What a namespace answers to a request. -/
inductive Answer where
  | done
  | name (name : String)
  | holds (taken : Bool)
  | refused (error : NameError)
  deriving DecidableEq

/-- Serves one request. -/
def step (ns : Namespace) : Step → Answer × Namespace
  | .reserve name =>
    match ns.reserve name with
    | .ok ns => (.done, ns)
    | .error error => (.refused error, ns)
  | .newName base => let (name, ns) := ns.newName base; (.name name, ns)
  | .forget name => (.done, ns.forget name)
  | .rotate base =>
    match ns.rotate base with
    | .ok (name, ns) => (.name name, ns)
    | .error error => (.refused error, ns)
  | .isTaken name => (.holds (ns.isTaken name), ns)
  | .enter => (.done, ns.enter)
  | .leave => (.done, ns.leave)

/-- Serves requests in order. -/
def run (ns : Namespace) : List Step → List Answer × Namespace
  | [] => ([], ns)
  | s :: steps =>
    let (answer, ns) := ns.step s
    let (answers, ns) := ns.run steps
    (answer :: answers, ns)

end Namespace

end GoSchema.Name
