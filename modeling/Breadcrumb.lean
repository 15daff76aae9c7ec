import Breadcrumb.Assembly
import Breadcrumb.CommandLine.Page
import Breadcrumb.CommandLine.Request
import Breadcrumb.CommandLine.Screen
import Breadcrumb.CommandLine.Session
import Breadcrumb.CommandLine.Switch
import Breadcrumb.Failure
import Breadcrumb.FileTree
import Breadcrumb.Json.Printer
import Breadcrumb.Json.Reader
import Breadcrumb.Language.Grammar
import Breadcrumb.Language.Marker
import Breadcrumb.Language.Registry
import Breadcrumb.Log
import Breadcrumb.Main
import Breadcrumb.Number.Binary64
import Breadcrumb.Number.Quantity
import Breadcrumb.Outcome
import Breadcrumb.Packing.Chunk
import Breadcrumb.Packing.Packer
import Breadcrumb.Packing.Reading
import Breadcrumb.Path
import Breadcrumb.Proofs.CommandLine.ManyFiles
import Breadcrumb.Proofs.Outcome.Agreement
import Breadcrumb.Proofs.Packing.Blank
import Breadcrumb.Proofs.Packing.Discarded
import Breadcrumb.Proofs.Packing.Interrupted
import Breadcrumb.Proofs.Packing.Outlived
import Breadcrumb.Proofs.Report.Lossless
import Breadcrumb.Proofs.Scope.Branches
import Breadcrumb.Proofs.Scope.Loop
import Breadcrumb.Proofs.Scope.Shadowed
import Breadcrumb.Proofs.Scope.Signature
import Breadcrumb.Proofs.Settings.Setting
import Breadcrumb.Report.Listing
import Breadcrumb.Report.Record
import Breadcrumb.Scope
import Breadcrumb.Settings.Basic
import Breadcrumb.Settings.Cascade
import Breadcrumb.Settings.Location
import Breadcrumb.Settings.Text
import Breadcrumb.Text.Blank
import Breadcrumb.Text.Decimal
import Breadcrumb.Text.Hexadecimal
import Breadcrumb.Text.Lines
import Breadcrumb.Text.Printable
import Breadcrumb.Text.Quoted
import Breadcrumb.Text.Search
import Breadcrumb.Text.Similarity
import Breadcrumb.Text.Utf16
import Breadcrumb.Text.Utf8
import Breadcrumb.Text.Wrapped
import Breadcrumb.Tokens.Encoding
import Breadcrumb.Tokens.Meter
import Breadcrumb.Toml.Document
import Breadcrumb.Toml.Reader
import Breadcrumb.Toml.Scan
import Breadcrumb.Toml.Writer
import Breadcrumb.Tree
import Breadcrumb.Value
import Breadcrumb.Proofs.Settings.Precedence
import Breadcrumb.Proofs.Settings.Positive
import Breadcrumb.Proofs.Text.Utf8
import Breadcrumb.Proofs.Toml.Written
import Breadcrumb.Proofs.Settings.Written
import Breadcrumb.Proofs.Language.Objects
import Breadcrumb.Proofs.Tokens.Loading
