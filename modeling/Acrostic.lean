import Acrostic.CommandLine.Execution
import Acrostic.Corpus.File
import Acrostic.Dictionary.File
import Acrostic.Main
import Acrostic.Output.Partitions
import Acrostic.Rule
import Acrostic.Run.Batch
import Acrostic.Proofs.Storage.Store
import Acrostic.Proofs.Storage.Growth
import Acrostic.Proofs.Output.Writer
import Acrostic.Proofs.Storage.Path
import Acrostic.Proofs.Corpus.Reader
import Acrostic.Proofs.Corpus.Decoding
import Acrostic.Proofs.Corpus.Utf8.Text
import Acrostic.Proofs.Corpus.Utf16.Ends
import Acrostic.Proofs.Corpus.Utf16.Text
import Acrostic.Proofs.Corpus.Windows1252
import Acrostic.Proofs.Corpus.Slices
import Acrostic.Proofs.Corpus.Detection
import Acrostic.Proofs.Run.Apply
import Acrostic.Proofs.Output.Partitions
import Acrostic.Proofs.Storage.Places
import Acrostic.Proofs.Output.Sequence
import Acrostic.Proofs.Report.Statistics
import Acrostic.Proofs.Run.Counting
import Acrostic.Proofs.Run.Tally
import Acrostic.Proofs.Run.Batch
import Acrostic.Proofs.Unicode.Ascii
import Acrostic.Proofs.Unicode.Normal
import Acrostic.Proofs.Unicode.Hangul
import Acrostic.Proofs.Charset.AsciiPart
import Acrostic.Proofs.Charset.Normalize
import Acrostic.Proofs.Unicode.Word.Boundary
import Acrostic.Proofs.Token
import Acrostic.Proofs.Rule
import Acrostic.Proofs.Run.Numbering
import Acrostic.Proofs.Run.Signals
import Acrostic.Proofs.Run.Refusal
import Acrostic.Proofs.Text.Words
import Acrostic.Proofs.Token.Words
import Acrostic.Proofs.Dictionary
import Acrostic.Proofs.Length
import Acrostic.Proofs.Rule.Letters
import Acrostic.Proofs.Rule.Spacing
import Acrostic.Proofs.Run.Reopened
import Acrostic.Proofs.CommandLine.Execution
import Acrostic.Proofs.Picker
import Acrostic.Proofs.Rule.Steps
import Acrostic.Proofs.Token.Letters
import Acrostic.Proofs.Rule.Lowercase
import Acrostic.Proofs.Text.Decimal
import Acrostic.Proofs.Unicode.Alphabetic
import Acrostic.Proofs.Ordinal
import Acrostic.Proofs.Rule.Config
import Acrostic.Proofs.Corpus.Tiles
import Acrostic.Proofs.Corpus.Chunks
import Acrostic.Proofs.Unicode.Casing
import Acrostic.Proofs.Dictionary.Match
import Acrostic.Proofs.Dictionary.Cut
import Acrostic.Proofs.Rule.Replace
import Acrostic.Proofs.Ordinal.Spelling
import Acrostic.Proofs.Ordinal.Listing
import Acrostic.Proofs.Picker.Selection
import Acrostic.Proofs.Picker.Mirror
import Acrostic.Proofs.Charset.Alphabet
import Acrostic.Proofs.Text.Lines
import Acrostic.Proofs.Dictionary.Format
import Acrostic.Proofs.Stride.Composition
import Acrostic.Proofs.Unicode.Uppercase
import Acrostic.Proofs.CommandLine.Size
import Acrostic.Proofs.Report.Rounding
import Acrostic.Proofs.Report.Duration
import Acrostic.Proofs.Report.Number
import Acrostic.Proofs.Storage.Descent
import Acrostic.Proofs.Run.Collection
import Acrostic.Proofs.CommandLine.Collection
