import ReleaseNames.Decimal
import ReleaseNames.Error
import ReleaseNames.Expression.Compile
import ReleaseNames.Expression.Lexer
import ReleaseNames.Expression.Section
import ReleaseNames.FileSystem
import ReleaseNames.Generator
import ReleaseNames.Json
import ReleaseNames.Library
import ReleaseNames.Payload
import ReleaseNames.Payload.Record
import ReleaseNames.Program
import ReleaseNames.Proofs.Acceptance
import ReleaseNames.Proofs.Alignment
import ReleaseNames.Proofs.Arguments
import ReleaseNames.Proofs.Blame
import ReleaseNames.Proofs.Compact
import ReleaseNames.Proofs.Effect
import ReleaseNames.Proofs.EmptyNames
import ReleaseNames.Proofs.ErrorPosition
import ReleaseNames.Proofs.EverySeed
import ReleaseNames.Proofs.Failure
import ReleaseNames.Proofs.FolderName
import ReleaseNames.Proofs.Folding
import ReleaseNames.Proofs.Grammar
import ReleaseNames.Proofs.Home
import ReleaseNames.Proofs.Isolation
import ReleaseNames.Proofs.JsonReading
import ReleaseNames.Proofs.KeptCharacters
import ReleaseNames.Proofs.Language
import ReleaseNames.Proofs.LegacyChains
import ReleaseNames.Proofs.LegacyNames
import ReleaseNames.Proofs.LegacyTitle
import ReleaseNames.Proofs.Lexeme
import ReleaseNames.Proofs.MarkerUse
import ReleaseNames.Proofs.MergedNumbers
import ReleaseNames.Proofs.Options
import ReleaseNames.Proofs.Outcome
import ReleaseNames.Proofs.Overflow
import ReleaseNames.Proofs.PayloadReading
import ReleaseNames.Proofs.Pieces
import ReleaseNames.Proofs.Prefixing
import ReleaseNames.Proofs.Printing
import ReleaseNames.Proofs.Reach
import ReleaseNames.Proofs.Reading
import ReleaseNames.Proofs.Relabelling
import ReleaseNames.Proofs.RenderedNotes
import ReleaseNames.Proofs.RepeatedFileName
import ReleaseNames.Proofs.RepeatedFolding
import ReleaseNames.Proofs.RepeatedRules
import ReleaseNames.Proofs.Resolution
import ReleaseNames.Proofs.SafeFileName
import ReleaseNames.Proofs.Safety
import ReleaseNames.Proofs.SameHomes
import ReleaseNames.Proofs.SectionOrder
import ReleaseNames.Proofs.SectionTexts
import ReleaseNames.Proofs.ShortNames
import ReleaseNames.Proofs.SlotOrder
import ReleaseNames.Proofs.Slug
import ReleaseNames.Proofs.SpelledQualifier
import ReleaseNames.Proofs.Spelling
import ReleaseNames.Proofs.Substitution
import ReleaseNames.Proofs.Tiling
import ReleaseNames.Proofs.TitleSeparator
import ReleaseNames.Proofs.WaysToSeries
import ReleaseNames.Proofs.WellFormed
import ReleaseNames.Proofs.Wording
import ReleaseNames.Proofs.Writing
import ReleaseNames.Proofs.WrittenDefaults
import ReleaseNames.Request
import ReleaseNames.Rule
import ReleaseNames.Rule.Call
import ReleaseNames.Settings
import ReleaseNames.Text.Character
import ReleaseNames.Text.Decomposition
import ReleaseNames.Text.DecompositionTable
import ReleaseNames.Text.SafeName
import ReleaseNames.Text.Utf8
import ReleaseNames.Text.Words
import ReleaseNames.Toml.Document
import ReleaseNames.Toml.Scalar
import ReleaseNames.Toml.Text
import ReleaseNames.Transform
import ReleaseNames.Transform.Names
import ReleaseNames.Transform.Notes
import ReleaseNames.Transform.Stage
import ReleaseNames.Value
import ReleaseNames.VolumeNumber
