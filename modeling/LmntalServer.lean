import LmntalServer.CommandLine.Reader
import LmntalServer.CommandLine.Settings
import LmntalServer.File.Tree
import LmntalServer.Json.Reader
import LmntalServer.Library.Load
import LmntalServer.Main
import LmntalServer.Rpc.Server
import LmntalServer.Session.Description
import LmntalServer.SessionLog
import LmntalServer.Uri.Reader
import LmntalServer.Text.CharTable
import LmntalServer.Text.CombiningClass
import LmntalServer.Text.Direction
import LmntalServer.Text.Joining
import LmntalServer.Domain.Mapping
import LmntalServer.Text.Composition
import LmntalServer.Domain.Punycode
import LmntalServer.Text.Composed
import LmntalServer.Domain.Basic
import LmntalServer.Address.Ipv4
import LmntalServer.Address.Ipv6
import LmntalServer.Rpc.Shape.Basic
import LmntalServer.Rpc.Shape.Decode
import LmntalServer.Rpc.Shape.Client
import LmntalServer.Proofs.Session.Contents
import LmntalServer.Proofs.Session.Freshness
import LmntalServer.Proofs.Session.Isolation
import LmntalServer.Proofs.Session.Versions
import LmntalServer.Proofs.Text.Offset
import LmntalServer.Proofs.Buffer.Basic
import LmntalServer.Proofs.Buffer.Refinement
import LmntalServer.Proofs.Symbol.Lookup
import LmntalServer.Proofs.Session.Focus
import LmntalServer.Proofs.Symbol.Grammar
import LmntalServer.Proofs.Symbol.Leftmost
import LmntalServer.Proofs.Text.LineBreaks
import LmntalServer.Proofs.Text.ByteOrder
import LmntalServer.Proofs.Completion.Tokens
import LmntalServer.Proofs.Endings.Contents
import LmntalServer.Proofs.Hover.Head
import LmntalServer.Proofs.Symbol.Scan
import LmntalServer.Proofs.Endings.Independence
import LmntalServer.Proofs.Text.LineStarts
import LmntalServer.Proofs.Edit.Batch
import LmntalServer.Proofs.Position.RoundTrip
import LmntalServer.Proofs.Word.Touching
import LmntalServer.Proofs.Symbol.Nested
import LmntalServer.Proofs.Word.Range
import LmntalServer.Proofs.Completion.Occurrences
import LmntalServer.Proofs.Json.Reading
import LmntalServer.Proofs.Library.Acceptance
import LmntalServer.Proofs.Symbol.Prefix
import LmntalServer.Proofs.Completion.Segments
import LmntalServer.Proofs.Position.Columns
import LmntalServer.Proofs.CommandLine.Options
import LmntalServer.Proofs.SessionLog.Expiry
import LmntalServer.Proofs.Position.Order
import LmntalServer.Proofs.Edit.Bounds
import LmntalServer.Proofs.Unbounded.Basic
import LmntalServer.Proofs.Unbounded.Session
