import DocBrowser.Main
import DocBrowser.Value.Plain
import DocBrowser.Proofs.Text.Bytes
import DocBrowser.Proofs.Number.Rounding
import DocBrowser.Proofs.Calendar.Timestamp
import DocBrowser.Proofs.ExtendedJson.Characters
import DocBrowser.Proofs.ExtendedJson.KeyOrder
import DocBrowser.Proofs.ExtendedJson.RoundTrip
import DocBrowser.Proofs.Query.RoundTrip
import DocBrowser.Proofs.Store.File
import DocBrowser.Proofs.ExtendedJson.Readable
import DocBrowser.Proofs.Json.Members
import DocBrowser.Proofs.Navigator.Breaks
import DocBrowser.Proofs.Navigator.Copy
import DocBrowser.Proofs.Query.Closed
import DocBrowser.Proofs.Editing.Unchanged
import DocBrowser.Proofs.Store.OrderedMap
import DocBrowser.Proofs.Navigator.Cursor
import DocBrowser.Proofs.Query.StrictJson
import DocBrowser.Proofs.Editing.Kept
import DocBrowser.Proofs.History
import DocBrowser.Proofs.Viewer.Source
import DocBrowser.Proofs.Query.Saved
import DocBrowser.Proofs.Store.SortKeys
import DocBrowser.Proofs.Store.Sorting
import DocBrowser.Proofs.Store.Loading
import DocBrowser.Proofs.Store.SortOrder
import DocBrowser.Proofs.Store.Answers
import DocBrowser.Proofs.Store.Queries
import DocBrowser.Proofs.Store.Layouts
import DocBrowser.Proofs.Filter.Expansions
import DocBrowser.Proofs.Filter.Reordered
import DocBrowser.Proofs.Filter.Widths
import DocBrowser.Proofs.Store.Agreement
import DocBrowser.Proofs.Store.Leaves
import DocBrowser.Proofs.Store.Pages
import DocBrowser.Proofs.Editing.Served
import DocBrowser.Proofs.Editing.Identity
import DocBrowser.Proofs.Query.Patterns
import DocBrowser.Proofs.Query.Constructors
import DocBrowser.Proofs.Navigator.Lossless
import DocBrowser.Proofs.Navigator.Movement
import DocBrowser.Proofs.Navigator.Painting
import DocBrowser.Proofs.ExtendedJson.Canonical
import DocBrowser.Proofs.Query.NativePatterns
import DocBrowser.Proofs.Calendar.Written
import DocBrowser.Proofs.Navigator.Tidied
import DocBrowser.Proofs.Json.Indented
import DocBrowser.Proofs.Settings
import DocBrowser.Proofs.External.Editor
import DocBrowser.Proofs.Store.FreshIds
