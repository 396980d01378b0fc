import QueryTyping.Catalog
import QueryTyping.Catalog.Snapshot
import QueryTyping.CommandLine.Invocation
import QueryTyping.CommandLine.Options
import QueryTyping.CommandLine.Run
import QueryTyping.Connection
import QueryTyping.Connection.Client
import QueryTyping.Connection.Recording
import QueryTyping.Connection.Script
import QueryTyping.ConnectionUrl
import QueryTyping.ConnectionUrl.Address
import QueryTyping.Datum
import QueryTyping.Failure
import QueryTyping.FilePath
import QueryTyping.FilePath.Problem
import QueryTyping.FileTree
import QueryTyping.FileTree.Sources
import QueryTyping.FileTree.Text
import QueryTyping.Generation
import QueryTyping.Glob
import QueryTyping.Glob.Pattern
import QueryTyping.Gzip
import QueryTyping.Gzip.BitSource
import QueryTyping.Gzip.Code
import QueryTyping.Gzip.Inflate
import QueryTyping.Gzip.Problem
import QueryTyping.Inference
import QueryTyping.Json.Access
import QueryTyping.Json.Parser
import QueryTyping.Json.Printer
import QueryTyping.Json.Value
import QueryTyping.Main
import QueryTyping.Manifest
import QueryTyping.Nullability
import QueryTyping.Number.Double
import QueryTyping.Number.Numeral
import QueryTyping.Proofs.Admission
import QueryTyping.Proofs.AnchoredGlobs
import QueryTyping.Proofs.AnnotationLines
import QueryTyping.Proofs.BlockNesting
import QueryTyping.Proofs.Cancellation
import QueryTyping.Proofs.ChainResolution
import QueryTyping.Proofs.ClientContract
import QueryTyping.Proofs.ClientRefinement
import QueryTyping.Proofs.CommentBlocks
import QueryTyping.Proofs.Concatenation
import QueryTyping.Proofs.ConfigLoading
import QueryTyping.Proofs.ConfigTables
import QueryTyping.Proofs.ConfiguredCalls
import QueryTyping.Proofs.ConnectionTrace
import QueryTyping.Proofs.Conversation
import QueryTyping.Proofs.CsvReading
import QueryTyping.Proofs.CteScope
import QueryTyping.Proofs.Denotation
import QueryTyping.Proofs.DescriptionMatch
import QueryTyping.Proofs.DirectoryWalks
import QueryTyping.Proofs.EmptyStatements
import QueryTyping.Proofs.FailureNames
import QueryTyping.Proofs.FaultLines
import QueryTyping.Proofs.FileScan
import QueryTyping.Proofs.FixedAnswers
import QueryTyping.Proofs.FixedOutcomes
import QueryTyping.Proofs.Footing
import QueryTyping.Proofs.FromList
import QueryTyping.Proofs.GenerateStatus
import QueryTyping.Proofs.GroupingSets
import QueryTyping.Proofs.Independence
import QueryTyping.Proofs.InferenceProtocol
import QueryTyping.Proofs.InferenceRun
import QueryTyping.Proofs.InferenceSteps
import QueryTyping.Proofs.JoinedRows
import QueryTyping.Proofs.JsonGrammar
import QueryTyping.Proofs.JsonLayouts
import QueryTyping.Proofs.KeepGoing
import QueryTyping.Proofs.LexemeForm
import QueryTyping.Proofs.LiteralText
import QueryTyping.Proofs.Lockstep
import QueryTyping.Proofs.LowerCase
import QueryTyping.Proofs.ManifestFiles
import QueryTyping.Proofs.ManifestRoundTrip
import QueryTyping.Proofs.MaskedSettings
import QueryTyping.Proofs.MaskedUrls
import QueryTyping.Proofs.NeverNull
import QueryTyping.Proofs.OpaqueTokens
import QueryTyping.Proofs.ParameterNumbers
import QueryTyping.Proofs.PasswordSecrecy
import QueryTyping.Proofs.PathTexts
import QueryTyping.Proofs.PercentCoding
import QueryTyping.Proofs.PlaceholderReading
import QueryTyping.Proofs.PlainRuns
import QueryTyping.Proofs.PortAgreement
import QueryTyping.Proofs.PortNumerals
import QueryTyping.Proofs.PortPlaces
import QueryTyping.Proofs.PostgresRegions
import QueryTyping.Proofs.PostgresTokens
import QueryTyping.Proofs.Printing
import QueryTyping.Proofs.ProfileEdits
import QueryTyping.Proofs.ProtectedText
import QueryTyping.Proofs.Relocation
import QueryTyping.Proofs.Rereading
import QueryTyping.Proofs.Resolution
import QueryTyping.Proofs.ResolvingFailures
import QueryTyping.Proofs.ReturnedRows
import QueryTyping.Proofs.SchemaRollback
import QueryTyping.Proofs.SearchPathQuoting
import QueryTyping.Proofs.Segmentation
import QueryTyping.Proofs.ServedCatalog
import QueryTyping.Proofs.SetOperations
import QueryTyping.Proofs.SettingLabels
import QueryTyping.Proofs.SettingLayers
import QueryTyping.Proofs.SettingStack
import QueryTyping.Proofs.StatementLexemes
import QueryTyping.Proofs.SteadySession
import QueryTyping.Proofs.TableLayout
import QueryTyping.Proofs.TableReport
import QueryTyping.Proofs.TokenEnds
import QueryTyping.Proofs.TypeMemo
import QueryTyping.Proofs.UrlAnatomy
import QueryTyping.Proofs.UrlFrames
import QueryTyping.Proofs.Verdict
import QueryTyping.Proofs.WeakerEvidence
import QueryTyping.Proofs.WriteLast
import QueryTyping.Proofs.WrittenUrls
import QueryTyping.QueryFile
import QueryTyping.QueryFile.Annotation
import QueryTyping.QueryFile.Lexeme
import QueryTyping.QueryFile.Query
import QueryTyping.QueryFile.Statement
import QueryTyping.QueryShape
import QueryTyping.QueryShape.Reduction
import QueryTyping.Report
import QueryTyping.Report.Csv
import QueryTyping.Report.Rows
import QueryTyping.Report.Table
import QueryTyping.Settings.Config
import QueryTyping.Settings.Connection
import QueryTyping.Settings.File
import QueryTyping.Settings.Pages
import QueryTyping.Settings.Resolution
import QueryTyping.Settings.SearchPath
import QueryTyping.Sql.Calls
import QueryTyping.Sql.Clauses
import QueryTyping.Sql.Combined
import QueryTyping.Sql.Lexer
import QueryTyping.Sql.Names
import QueryTyping.Sql.Operators
import QueryTyping.Sql.Reader
import QueryTyping.Sql.Sources
import QueryTyping.Sql.Statements
import QueryTyping.Sql.Token
import QueryTyping.Sql.Tree
import QueryTyping.Sql.Values
import QueryTyping.Terminal.Escape
import QueryTyping.Terminal.Markup
import QueryTyping.Terminal.Picture
import QueryTyping.Terminal.PictureNames
import QueryTyping.Terminal.Style
import QueryTyping.Terminal.StyledText
import QueryTyping.Terminal.Table
import QueryTyping.Text.Alphanumeric
import QueryTyping.Text.Blank
import QueryTyping.Text.CellWidth
import QueryTyping.Text.Digit
import QueryTyping.Text.LowerCase
import QueryTyping.Text.Percent
import QueryTyping.Text.Printable
import QueryTyping.Text.Quoted
import QueryTyping.Text.RangeTable
import QueryTyping.Text.Utf8
import QueryTyping.Toml.Document
import QueryTyping.Toml.Parser
import QueryTyping.Toml.Scalar
import QueryTyping.TypeDescriptor
import QueryTyping.TypeDescriptor.Builtin
import QueryTyping.TypeDescriptor.Resolver
import QueryTyping.TypedQuery
import QueryTyping.TypedQuery.Json
import QueryTyping.TypedQuery.Model
import QueryTyping.Validation
import QueryTyping.Violation
