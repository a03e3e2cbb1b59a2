import GoSchema.Command.Memory
import GoSchema.Generate.Settings
import GoSchema.Generate.Source
import GoSchema.Main
import GoSchema.Proofs.ArgumentNumbers
import GoSchema.Proofs.BuilderHistory
import GoSchema.Proofs.BuiltOnce
import GoSchema.Proofs.ConstantKeywords
import GoSchema.Proofs.CycleSearch
import GoSchema.Proofs.EnumText
import GoSchema.Proofs.Failure
import GoSchema.Proofs.FieldTags
import GoSchema.Proofs.FreshNames
import GoSchema.Proofs.FunctionHelpers
import GoSchema.Proofs.HelperTypes
import GoSchema.Proofs.ImportAliases
import GoSchema.Proofs.ImportLines
import GoSchema.Proofs.LiteralKeys
import GoSchema.Proofs.LocalNames
import GoSchema.Proofs.LoggedTypes
import GoSchema.Proofs.MemberNames
import GoSchema.Proofs.NameRotation
import GoSchema.Proofs.NamespaceHistory
import GoSchema.Proofs.PackageConflicts
import GoSchema.Proofs.PackageScope
import GoSchema.Proofs.ProgramText
import GoSchema.Proofs.QuietRuns
import GoSchema.Proofs.References
import GoSchema.Proofs.RootTypes
import GoSchema.Proofs.SetForms
import GoSchema.Proofs.SharedPackage
import GoSchema.Proofs.SharedSymbols
import GoSchema.Proofs.Soundness
import GoSchema.Proofs.SpellingConventions
import GoSchema.Proofs.StableRendering
import GoSchema.Proofs.UnkeyedEquality
import GoSchema.Proofs.UsedImports
import GoSchema.Proofs.WordSpelling
import GoSchema.Schema.Builder
