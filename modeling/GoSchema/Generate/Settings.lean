import GoSchema.Document.Yaml.Dialect
import GoSchema.Generate.Env
import GoSchema.Schema.Writing

/-!
# Option files

Generation options are read from a document in which every key may be missing.
-/

namespace GoSchema

/-- The keys of an option file. -/
def Options.keys : List String :=
  ["no-zap", "wire-import", "zapcore-import", "multierr-import", "generator-name"]

/-- Reads generation options. -/
def Dialect.options {m : Type → Type} [Monad m] [MonadLiftT Option m] (d : Dialect m) (node : Node) :
    m Options := do
  let (fields, _) ← d.record Options.keys d.levels node
  let o := Options.default
  let noZap ← defaulted fields "no-zap" o.noZap d.bool
  let wireImport ← defaulted fields "wire-import" o.wireImport d.text
  let zapcoreImport ← defaulted fields "zapcore-import" o.zapcoreImport d.text
  let multierrImport ← defaulted fields "multierr-import" o.multierrImport d.text
  let generatorName ← defaulted fields "generator-name" o.generatorName d.text
  return ⟨noZap, wireImport, zapcoreImport, multierrImport, generatorName⟩

/-- The generation options in an option file. -/
def Options.ofText (text : String) : Except ReadError Options := do
  (← Yaml.Document.ofText text).decode Dialect.options

/-- The document of generation options. -/
def Options.node (o : Options) : Node :=
  .map [entry "no-zap" (.ofBool o.noZap), entry "wire-import" (.quoted o.wireImport),
    entry "zapcore-import" (.quoted o.zapcoreImport),
    entry "multierr-import" (.quoted o.multierrImport),
    entry "generator-name" (.quoted o.generatorName)]

end GoSchema
