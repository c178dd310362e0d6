import Stylebook.Assoc
import Stylebook.Base64
import Stylebook.Catalog
import Stylebook.Command
import Stylebook.CommandLine
import Stylebook.Corpus
import Stylebook.Cursor
import Stylebook.Diagnostic
import Stylebook.Discovery
import Stylebook.Disk
import Stylebook.Extraction
import Stylebook.Failure
import Stylebook.IgnorePattern
import Stylebook.Item.Basic
import Stylebook.Item.Reader
import Stylebook.Item.Record
import Stylebook.Json.Printer
import Stylebook.Json.Reader
import Stylebook.Launcher
import Stylebook.Linking
import Stylebook.Log
import Stylebook.Main
import Stylebook.Moment
import Stylebook.Number.Binary64
import Stylebook.Number.Decimal
import Stylebook.Number.Integer
import Stylebook.Number.Shortest
import Stylebook.Output
import Stylebook.ParseError
import Stylebook.Passage
import Stylebook.Path
import Stylebook.Proofs.Catalog.Sections
import Stylebook.Proofs.Corpus.Pool
import Stylebook.Proofs.Corpus.Shares
import Stylebook.Proofs.Cursor.Operations
import Stylebook.Proofs.Discovery.Files
import Stylebook.Proofs.Discovery.Walk
import Stylebook.Proofs.Disk.Replacing
import Stylebook.Proofs.Disk.Written
import Stylebook.Proofs.Extraction.Conservation
import Stylebook.Proofs.Extraction.Independence
import Stylebook.Proofs.Extraction.Run
import Stylebook.Proofs.Item.Captured
import Stylebook.Proofs.Item.Decoding
import Stylebook.Proofs.Item.Faults
import Stylebook.Proofs.Item.Groups
import Stylebook.Proofs.Item.Merge
import Stylebook.Proofs.Item.Note
import Stylebook.Proofs.Item.Rest
import Stylebook.Proofs.Item.Types
import Stylebook.Proofs.Item.Written
import Stylebook.Proofs.Json.Grammar
import Stylebook.Proofs.Json.Reading
import Stylebook.Proofs.Json.Writing
import Stylebook.Proofs.Linking.Commuting
import Stylebook.Proofs.Linking.Diagnostics
import Stylebook.Proofs.Linking.Inverse
import Stylebook.Proofs.Linking.Passes
import Stylebook.Proofs.Linking.Permutation
import Stylebook.Proofs.Linking.Shadowed
import Stylebook.Proofs.Output.ReadBack
import Stylebook.Proofs.Passage.Append
import Stylebook.Proofs.Passage.Blocks
import Stylebook.Proofs.Passage.Segments
import Stylebook.Proofs.Passage.Steps
import Stylebook.Proofs.Passage.Subsequence
import Stylebook.Proofs.Path.Normal
import Stylebook.Proofs.Setting.Canonical
import Stylebook.Proofs.Setting.Equal
import Stylebook.Proofs.Setting.Texts
import Stylebook.Proofs.Settings.Fingerprint
import Stylebook.Proofs.Settings.Grouping
import Stylebook.Proofs.Settings.Overlay
import Stylebook.Proofs.Source.ErrorLines
import Stylebook.Proofs.Source.ErrorPlaces
import Stylebook.Proofs.Source.Loops
import Stylebook.Proofs.Source.RoundTrip
import Stylebook.Proofs.Source.Styles
import Stylebook.Proofs.Store.Index
import Stylebook.Proofs.Store.Operations
import Stylebook.Proofs.Text.Bytes
import Stylebook.Proofs.Text.Collapsed
import Stylebook.Proofs.Text.Cuts
import Stylebook.Proofs.Text.Order
import Stylebook.Proofs.Url.Grammar
import Stylebook.Report
import Stylebook.Setting.Basic
import Stylebook.Setting.Order
import Stylebook.Setting.Record
import Stylebook.Setting.Shown
import Stylebook.Settings.Basic
import Stylebook.Settings.Merge
import Stylebook.Sha256
import Stylebook.Source
import Stylebook.Store
import Stylebook.Text.Blank
import Stylebook.Text.Cased
import Stylebook.Text.Digits
import Stylebook.Text.Hex
import Stylebook.Text.Lines
import Stylebook.Text.LowerCase
import Stylebook.Text.Order
import Stylebook.Text.Printable
import Stylebook.Text.Quoted
import Stylebook.Text.Utf8
import Stylebook.Tree
import Stylebook.TypeName
import Stylebook.Url
import Stylebook.Value
import Stylebook.Yaml.Document
import Stylebook.Yaml.Node
import Stylebook.Yaml.Printer
import Stylebook.Yaml.Scalar
import Stylebook.Yaml.Token
