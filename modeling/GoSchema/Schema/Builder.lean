import GoSchema.Schema.Check

/-!
# Building programs

A program is built up call by call. Every call that adds an entity gives a reference to it. The fields of a
struct can be set after the struct was declared, so that structs can refer to each other. Calls that change
an entity fail, and change nothing, when there is no such entity.
-/

namespace GoSchema

/-- A program under construction. -/
structure Builder where
  program : Program

/-- A function that answers. -/
def Function.answering (name : String) (arguments : List Field) (returns : Option Ty)
    (exceptions : List Field) : Function :=
  ⟨name, arguments, some ⟨returns, exceptions⟩, false, .empty⟩

/-- A function that does not answer. -/
def Function.silent (name : String) (arguments : List Field) : Function :=
  ⟨name, arguments, none, true, .empty⟩

/-- The reference to the last of `n` entries that a list has after one was added at position `n`. -/
def Ref.ofPosition {a : Arena} (n : Nat) : Ref a := ⟨UInt32.ofNat n⟩

/-- Changes the element at a position. -/
def modifyAt? {α : Type} (xs : List α) (i : Nat) (f : α → Option α) : Option (List α) := do
  let x ← xs[i]?
  return xs.set i (← f x)

namespace Builder

/-- The beginning: a program without entities. -/
def empty : Builder := ⟨.empty⟩

/-- A request to a builder. -/
inductive Call where
  | addFile (path importPath package : String)
  | declareStruct (file : Ref .file) (name : String) (kind : StructKind)
  | addStruct (file : Ref .file) (name : String) (kind : StructKind) (fields : List Field)
  | setFields (ref : Ref .struct) (fields : List Field)
  | allowEmpty (ref : Ref .struct)
  | annotateStruct (ref : Ref .struct) (key value : String)
  | addEnum (file : Ref .file) (name : String) (items : List (String × Int32))
  | annotateItem (ref : Ref .enum) (item : Nat) (key value : String)
  | addTypedef (file : Ref .file) (name : String) (target : Ty)
  | addConstant (file : Ref .file) (name : String) (type : Ty) (value : Value)
  | addService (file : Ref .file) (name : String) (parent : Option (Ref .service))
      (functions : List Function)

/-- What a builder answers. -/
inductive Answer where
  /-- The reference to a new entity. -/
  | added (arena : Arena) (ref : Ref arena)
  /-- An entity was changed. -/
  | changed
  deriving DecidableEq

/-- Adds a file. -/
def addFile (b : Builder) (f : File) : Answer × Builder :=
  (.added .file (.ofPosition b.program.files.length),
   ⟨{ b.program with files := b.program.files ++ [f] }⟩)

/-- Adds a constant. -/
def addConstant (b : Builder) (c : Constant) : Answer × Builder :=
  (.added .constant (.ofPosition b.program.constants.length),
   ⟨{ b.program with constants := b.program.constants ++ [c] }⟩)

/-- Adds an enum. -/
def addEnum (b : Builder) (e : Enum) : Answer × Builder :=
  (.added .enum (.ofPosition b.program.enums.length),
   ⟨{ b.program with enums := b.program.enums ++ [e] }⟩)

/-- Adds a struct. -/
def addStruct (b : Builder) (s : Struct) : Answer × Builder :=
  (.added .struct (.ofPosition b.program.structs.length),
   ⟨{ b.program with structs := b.program.structs ++ [s] }⟩)

/-- Adds a typedef. -/
def addTypedef (b : Builder) (t : Typedef) : Answer × Builder :=
  (.added .typedef (.ofPosition b.program.typedefs.length),
   ⟨{ b.program with typedefs := b.program.typedefs ++ [t] }⟩)

/-- Adds a service. -/
def addService (b : Builder) (s : Service) : Answer × Builder :=
  (.added .service (.ofPosition b.program.services.length),
   ⟨{ b.program with services := b.program.services ++ [s] }⟩)

/-- Changes a struct. -/
def modifyStruct? (b : Builder) (r : Ref .struct) (f : Struct → Struct) : Option (Answer × Builder) := do
  let structs ← modifyAt? b.program.structs r.toNat fun s => some (f s)
  return (.changed, ⟨{ b.program with structs }⟩)

/-- Changes an item of an enum. -/
def modifyItem? (b : Builder) (r : Ref .enum) (item : Nat) (f : EnumItem → EnumItem) :
    Option (Answer × Builder) := do
  let enums ← modifyAt? b.program.enums r.toNat fun e => do
    return { e with items := ← modifyAt? e.items item fun i => some (f i) }
  return (.changed, ⟨{ b.program with enums }⟩)

/-- Serves a request; nothing when it names an entity that is not there. -/
def call? (b : Builder) : Call → Option (Answer × Builder)
  | .addFile path importPath package => some (b.addFile ⟨path, importPath, package⟩)
  | .declareStruct file name kind => some (b.addStruct ⟨name, file, kind, [], false, .empty⟩)
  | .addStruct file name kind fields => some (b.addStruct ⟨name, file, kind, fields, false, .empty⟩)
  | .setFields r fields => b.modifyStruct? r fun s => { s with fields }
  | .allowEmpty r => b.modifyStruct? r fun s => { s with allowEmpty := true }
  | .annotateStruct r key value =>
    b.modifyStruct? r fun s => { s with annotations := s.annotations.insert key value }
  | .addEnum file name items =>
    some (b.addEnum ⟨name, file, items.map fun i => ⟨i.1, i.2, .empty⟩, .empty⟩)
  | .annotateItem r item key value =>
    b.modifyItem? r item fun i => { i with annotations := i.annotations.insert key value }
  | .addTypedef file name target => some (b.addTypedef ⟨name, file, target, .empty⟩)
  | .addConstant file name type value => some (b.addConstant ⟨name, file, type, value, .empty⟩)
  | .addService file name parent functions =>
    some (b.addService ⟨name, file, parent, functions, .empty⟩)

/-- The finished program, if it is sound. -/
def build (b : Builder) : Except GraphError Program := do
  b.program.check
  return b.program

end Builder

end GoSchema
