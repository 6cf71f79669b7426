import PageLayout.Text.CodeRange
import PageLayout.Text.Blank
import PageLayout.Text.Uppercase
import PageLayout.Text.Cased
import PageLayout.Text.Lowercase
import PageLayout.Text.Word
import PageLayout.Decimal.Binary64
import PageLayout.Decimal.Shortest
import PageLayout.Assoc
import PageLayout.Json.Value
import PageLayout.Json.Compact
import PageLayout.Json.Reader
import PageLayout.Style.Declarations
import PageLayout.Block.Basic
import PageLayout.Export.Layout
import PageLayout.Page.Document
import PageLayout.Page.MetadataJson
import PageLayout.Toml.Reader
import PageLayout.Url.Host
import PageLayout.Url.Reader
import PageLayout.ReferencePage
import PageLayout.File.Tree
import PageLayout.Config
import PageLayout.Fixture.Run
import PageLayout.CommandLine.Command
import PageLayout.Program
import PageLayout.Main
import PageLayout.Proofs.Assoc
import PageLayout.Proofs.Style.Brackets
import PageLayout.Proofs.Markup.Entities
import PageLayout.Proofs.Markup.TreeReader
import PageLayout.Proofs.Markup.Pieces
import PageLayout.Proofs.Page.Classes
import PageLayout.Proofs.Page.ReadBack
import PageLayout.Proofs.Page.Unseen
import PageLayout.Proofs.ReferencePage.OfDocument
import PageLayout.Proofs.Export.Repair
import PageLayout.Proofs.Export.Writing
import PageLayout.Proofs.Export.OfText
import PageLayout.Proofs.File.Writing
import PageLayout.Proofs.Program.Build
import PageLayout.Proofs.CommandLine.BuildLine
import PageLayout.Proofs.Fixture.Verdict
import PageLayout.Proofs.Markup.Comment
import PageLayout.Proofs.ReferencePage.Comments
import PageLayout.Proofs.ReferencePage.ClassLists
import PageLayout.Proofs.Page.Attributes
import PageLayout.Proofs.Export.Distinct
import PageLayout.Proofs.Markup.StartTag
import PageLayout.Proofs.ReferencePage.TagByTag
import PageLayout.Proofs.FirstOccurrences
import PageLayout.Proofs.Markup.Joined
import PageLayout.Proofs.ReferencePage.Joined
import PageLayout.Proofs.Config.Sources
import PageLayout.Proofs.Fixture.Splitting
import PageLayout.Proofs.Fixture.Requests
import PageLayout.Proofs.Text.Order
import PageLayout.Proofs.File.Below
import PageLayout.Proofs.Fixture.Selection
import PageLayout.Proofs.Text.Tags
import PageLayout.Proofs.Text.Position
import PageLayout.Proofs.Markup.OnePass
import PageLayout.Proofs.Export.Reports
import PageLayout.Proofs.Page.Title
import PageLayout.Proofs.Markup.Edits
import PageLayout.Proofs.Style.CssNames
import PageLayout.Proofs.Style.Edits
