import ClientGen.Codec.GoTemplates
import ClientGen.Codec.Stub
import ClientGen.CommandLine
import ClientGen.Main
import ClientGen.Proofs.Comments
import ClientGen.Proofs.Emission
import ClientGen.Proofs.FieldTypes
import ClientGen.Wire.Encoding
import ClientGen.Wire.Spelling
import ClientGen.Proofs.PathSyntax
import ClientGen.Proofs.PathTemplates
import ClientGen.Proofs.GoTypes
import ClientGen.Proofs.Groups
import ClientGen.Proofs.TypeNames
import ClientGen.Proofs.PathFormats
import ClientGen.Proofs.RequestFields
import ClientGen.Proofs.Links
import ClientGen.Proofs.Walks
import ClientGen.Proofs.Selection
import ClientGen.Proofs.Relinking
import ClientGen.Proofs.Nesting
import ClientGen.Proofs.Packages
import ClientGen.Proofs.TimeNames
import ClientGen.Proofs.TimeImports
import ClientGen.Proofs.PathNames
import ClientGen.Proofs.Places
import ClientGen.Proofs.Subtrees
import ClientGen.Proofs.Visits
import ClientGen.Proofs.Mirroring
import ClientGen.Proofs.Aborting
import ClientGen.Proofs.Replays
import ClientGen.Proofs.Utf8Texts
import ClientGen.Proofs.QuotedStrings
import ClientGen.Proofs.SavedDocuments
import ClientGen.Proofs.Safeguards
import ClientGen.Proofs.WireTokens
import ClientGen.Proofs.MessageReading
import ClientGen.Proofs.DescriptorReading
import ClientGen.Proofs.DescriptorWriting
import ClientGen.Proofs.DescriptorRoundTrip
import ClientGen.Proofs.CanonicalPaths
import ClientGen.Proofs.CommentLines
import ClientGen.Proofs.Attaching
import ClientGen.Proofs.CompilationSteps
import ClientGen.Proofs.Assembling
import ClientGen.Proofs.StrayLinks
import ClientGen.Proofs.TypeGaps
import ClientGen.Proofs.StandIns
import ClientGen.Proofs.AsciiText
import ClientGen.Proofs.Records
import ClientGen.Proofs.Refusals
import ClientGen.Proofs.FieldNames
import ClientGen.Proofs.SnakeNames
import ClientGen.Proofs.Constants
import ClientGen.Proofs.Splitting
import ClientGen.Proofs.RepeatedConversions
import ClientGen.Proofs.SnakeShortcut
