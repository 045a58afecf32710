import ApexOutline.Annotations
import ApexOutline.Batch
import ApexOutline.Collect
import ApexOutline.CommandLine
import ApexOutline.Context
import ApexOutline.Declaration
import ApexOutline.Digest
import ApexOutline.DocComment
import ApexOutline.FileTree.Basic
import ApexOutline.FileTree.Walk
import ApexOutline.Json.Basic
import ApexOutline.Json.Codec
import ApexOutline.Json.Record
import ApexOutline.Keyword
import ApexOutline.Main
import ApexOutline.Outline.Basic
import ApexOutline.Outline.State
import ApexOutline.Path
import ApexOutline.Problem
import ApexOutline.Program
import ApexOutline.Proofs.Annotations
import ApexOutline.Proofs.Text.Words
import ApexOutline.Report
import ApexOutline.Run
import ApexOutline.Scope
import ApexOutline.Settings
import ApexOutline.Settings.Load
import ApexOutline.Tally
import ApexOutline.Text.Alphabetic
import ApexOutline.Text.Basic
import ApexOutline.Text.Blank
import ApexOutline.Text.Cased
import ApexOutline.Text.Cursor
import ApexOutline.Text.Digits
import ApexOutline.Text.Fixed
import ApexOutline.Text.Folding
import ApexOutline.Text.Lowercase
import ApexOutline.Text.Mark
import ApexOutline.Text.Number
import ApexOutline.Text.Recent
import ApexOutline.Text.Table
import ApexOutline.Text.Url
import ApexOutline.Text.Utf8
import ApexOutline.Text.Word
import ApexOutline.Toml.Document
import ApexOutline.Toml.Node
import ApexOutline.Toml.Scalar
import ApexOutline.Toml.Settings
import ApexOutline.TypeHeader
import ApexOutline.Yaml.Cursor
import ApexOutline.Yaml.Document
import ApexOutline.Yaml.Node
import ApexOutline.Yaml.Scalar
import ApexOutline.Yaml.Settings
import ApexOutline.Yaml.Token
import ApexOutline.Proofs.TypeHeader
import ApexOutline.Proofs.Outline.Reading
import ApexOutline.Proofs.Outline.Nesting
import ApexOutline.Proofs.Outline.ScopeFilter
import ApexOutline.Proofs.Outline.DocAbove
import ApexOutline.Proofs.Text.AsciiCase
import ApexOutline.Proofs.Outline.AsciiCase
import ApexOutline.Proofs.Declaration
import ApexOutline.Proofs.Outline.Accounting
import ApexOutline.Proofs.Outline.Parents
import ApexOutline.Proofs.Text.Lowercase
import ApexOutline.Proofs.Opening
import ApexOutline.Proofs.Cut
import ApexOutline.Proofs.Outline.Alike
import ApexOutline.Proofs.Outline.TrailingComment
import ApexOutline.Proofs.Outline.Literals
import ApexOutline.Proofs.FileTree
import ApexOutline.Proofs.Outline.Layout
import ApexOutline.Proofs.Run.Accounts
import ApexOutline.Proofs.Run.Inputs
import ApexOutline.Proofs.Run.Merging
import ApexOutline.Proofs.Outline.Append
import ApexOutline.Proofs.Json.Codec
import ApexOutline.Proofs.Members
import ApexOutline.Proofs.Text.Marks
import ApexOutline.Proofs.Outline.DocRoundTrip
import ApexOutline.Proofs.Outline.BehindComment
import ApexOutline.Proofs.Collect
import ApexOutline.Proofs.ImplicitPrivate
import ApexOutline.Proofs.LeadingAnnotations
import ApexOutline.Proofs.HeaderGrammar
import ApexOutline.Proofs.ScopePrecedence
import ApexOutline.Proofs.Outline.OwnLine
import ApexOutline.Proofs.Text.Url
import ApexOutline.Proofs.Recognition
import ApexOutline.Proofs.ListedScopes
import ApexOutline.Proofs.Text.Utf8
import ApexOutline.Proofs.Run.ContentHash
import ApexOutline.Proofs.Text.Cursor
import ApexOutline.Proofs.Outline.OpenTypes
import ApexOutline.Proofs.Outline.WithoutScopes
