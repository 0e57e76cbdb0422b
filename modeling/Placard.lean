import Placard.Document.Source
import Placard.Document.Written
import Placard.Host.Source
import Placard.Host.Written
import Placard.Render.Session
import Placard.Settings.Logging
import Placard.Settings.Reading
import Placard.Tag.Html
import Placard.Proofs.Document.Node
import Placard.Proofs.Html.Spelling
import Placard.Proofs.Markdown.BlockVocabulary
import Placard.Proofs.Markdown.InlineVocabulary
import Placard.Proofs.Markdown.Markup
import Placard.Proofs.Markdown.MarkupScan
import Placard.Proofs.Markdown.FragmentVocabulary
import Placard.Proofs.Render.Issue
import Placard.Proofs.Render.Wiring
import Placard.Proofs.Render.WiredAction
import Placard.Proofs.Render.WiredGroup
import Placard.Proofs.Render.WiredContent
import Placard.Proofs.Render.WiredInput
import Placard.Proofs.Render.WiredTree
import Placard.Proofs.Render.Alike
import Placard.Proofs.Render.AlikeNode
import Placard.Proofs.Render.Renaming
import Placard.Proofs.Render.Height
import Placard.Proofs.Document.Passive
import Placard.Proofs.Render.Passive
import Placard.Proofs.Render.Still
import Placard.Proofs.Render.Visible
import Placard.Proofs.Render.Landmark
import Placard.Proofs.Render.MirrorGroup
import Placard.Proofs.Render.MirrorContent
import Placard.Proofs.Render.MirrorTree
import Placard.Proofs.Document.Prune
import Placard.Proofs.Render.Shed
import Placard.Proofs.Render.ShedNode
import Placard.Proofs.Render.ShedCard
import Placard.Proofs.Number.Rounding
import Placard.Proofs.Number.Value
import Placard.Proofs.Document.Loaded
import Placard.Proofs.Render.Success
import Placard.Proofs.Render.Failure
import Placard.Proofs.Record.Halted
import Placard.Proofs.Document.Role
import Placard.Proofs.Data.Orderly
import Placard.Proofs.Document.Place
import Placard.Proofs.Document.Interruption
import Placard.Proofs.Document.Stranger
import Placard.Proofs.Document.Warning
import Placard.Proofs.Render.Presence
import Placard.Proofs.Render.Quiet
import Placard.Proofs.Render.Link
import Placard.Proofs.Render.LinkGroup
import Placard.Proofs.Render.LinkTree
import Placard.Proofs.Render.Stray
import Placard.Proofs.Render.History
import Placard.Proofs.Css.Declaration
import Placard.Proofs.Render.Styled
import Placard.Proofs.Host.Part
import Placard.Proofs.Host.Partial
import Placard.Proofs.Host.Loading
import Placard.Proofs.Render.Arrangement
import Placard.Proofs.Render.ActionStrip
import Placard.Proofs.Render.Stacking
import Placard.Proofs.Render.ColumnRow
import Placard.Proofs.Document.Locality
import Placard.Proofs.Document.Insertion
import Placard.Proofs.Document.Placeholder
import Placard.Proofs.Markdown.Outline
import Placard.Proofs.Render.Paragraph
import Placard.Proofs.Text.Blank
import Placard.Proofs.Time.Call
import Placard.Proofs.Time.Expansion
import Placard.Proofs.Time.Twice
import Placard.Proofs.Time.Words
import Placard.Proofs.Render.Choice
import Placard.Proofs.Json.Quoted
import Placard.Proofs.Number.Nearest
import Placard.Proofs.Number.Shortest
import Placard.Proofs.Json.Decimal
import Placard.Proofs.Json.Double
import Placard.Proofs.Json.Compact
import Placard.Proofs.Json.RoundTrip
import Placard.Proofs.Render.Payload
import Placard.Proofs.Render.Address
import Placard.Proofs.Document.Padding
import Placard.Proofs.Document.Report
import Placard.Proofs.Text.Case
import Placard.Proofs.Host.Color
import Placard.Proofs.Render.Heedless
import Placard.Proofs.Render.Version
import Placard.Proofs.Settings.Entries
import Placard.Proofs.Settings.Extensions
import Placard.Proofs.Url.Scheme
import Placard.Proofs.Render.Supply
import Placard.Proofs.Tag.Building
