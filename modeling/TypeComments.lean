import TypeComments.Command.Encoding
import TypeComments.Command.Options
import TypeComments.Command.Path
import TypeComments.Command.Run
import TypeComments.Command.Store
import TypeComments.Cursor
import TypeComments.Cursor.Item
import TypeComments.Docstring.Clean
import TypeComments.Docstring.Entry
import TypeComments.Docstring.Format
import TypeComments.Docstring.Notice
import TypeComments.Docstring.Partition
import TypeComments.Docstring.Reader
import TypeComments.Docstring.Rest
import TypeComments.Docstring.Section
import TypeComments.Docstring.TypeText
import TypeComments.Main
import TypeComments.Markup.Body
import TypeComments.Markup.Build
import TypeComments.Markup.Document
import TypeComments.Markup.Enumerator
import TypeComments.Markup.Inline
import TypeComments.Markup.Line
import TypeComments.Markup.Marker
import TypeComments.Markup.Node
import TypeComments.Markup.Punctuation
import TypeComments.Package
import TypeComments.Proofs.Adjacency
import TypeComments.Proofs.Alternatives
import TypeComments.Proofs.CastEntries
import TypeComments.Proofs.CommentsOnly
import TypeComments.Proofs.Concatenation
import TypeComments.Proofs.CursorAhead
import TypeComments.Proofs.Derivations
import TypeComments.Proofs.DocstringLines
import TypeComments.Proofs.DocumentedTypes
import TypeComments.Proofs.EnclosedTypes
import TypeComments.Proofs.FieldLines
import TypeComments.Proofs.FieldPieces
import TypeComments.Proofs.FieldTypes
import TypeComments.Proofs.FlatSections
import TypeComments.Proofs.FunctionComments
import TypeComments.Proofs.FunctionTokens
import TypeComments.Proofs.Headings
import TypeComments.Proofs.IndentedText
import TypeComments.Proofs.Lexemes
import TypeComments.Proofs.LowerCase
import TypeComments.Proofs.NoticeLines
import TypeComments.Proofs.Outcomes
import TypeComments.Proofs.Outline
import TypeComments.Proofs.OutlineRun
import TypeComments.Proofs.ReaderRun
import TypeComments.Proofs.Reading
import TypeComments.Proofs.Rescan
import TypeComments.Proofs.ScanLines
import TypeComments.Proofs.ScanRun
import TypeComments.Proofs.ScanText
import TypeComments.Proofs.SignatureRendering
import TypeComments.Proofs.SignatureSections
import TypeComments.Proofs.TextEnds
import TypeComments.Proofs.TextLines
import TypeComments.Proofs.TextPieces
import TypeComments.Proofs.TokenLines
import TypeComments.Proofs.VisitOrder
import TypeComments.Proofs.WordReplacement
import TypeComments.Settings.Arguments
import TypeComments.Settings.Config
import TypeComments.Settings.Declare
import TypeComments.Settings.Help
import TypeComments.Settings.Ini
import TypeComments.Settings.Number
import TypeComments.Settings.Value
import TypeComments.Signature.Comment
import TypeComments.Signature.Convert
import TypeComments.Source.Function
import TypeComments.Source.Grammar
import TypeComments.Source.Lexeme
import TypeComments.Source.Literal
import TypeComments.Source.Module
import TypeComments.Source.Token
import TypeComments.Source.Token.Scan
import TypeComments.Source.Tree
import TypeComments.Source.Tree.Build
import TypeComments.Text.Blank
import TypeComments.Text.Case
import TypeComments.Text.CharName
import TypeComments.Text.Diff
import TypeComments.Text.Digit
import TypeComments.Text.Lines
import TypeComments.Text.Printable
import TypeComments.Text.Quoted
import TypeComments.Text.Ranges
import TypeComments.Text.Width
import TypeComments.Text.Word
import TypeComments.Workload
import TypeComments.Proofs.FormatGuess
import TypeComments.Proofs.CursorCalls
import TypeComments.Proofs.Rereading
import TypeComments.Proofs.RepeatedConversion
import TypeComments.Proofs.KeptComments
import TypeComments.Proofs.OutputPaths
import TypeComments.Proofs.SignatureEntries
import TypeComments.Proofs.GivenOptions
import TypeComments.Proofs.SettingsPrecedence
import TypeComments.Proofs.SettingsFile
import TypeComments.Proofs.ConfiguredTypes
import TypeComments.Proofs.FoundSections
import TypeComments.Proofs.BlankLines
import TypeComments.Proofs.FieldBlocks
import TypeComments.Proofs.DescribedFields
import TypeComments.Proofs.CollectedFields
import TypeComments.Proofs.TracedFields
import TypeComments.Proofs.FunctionBodies
import TypeComments.Proofs.ConversionFaults
import TypeComments.Proofs.StarredParameters
import TypeComments.Proofs.SimultaneousReplacement
import TypeComments.Proofs.CrossReferences
