import PerlSymbols.Index.Polling
import PerlSymbols.Session
import PerlSymbols.Proofs.Session.Requests
import PerlSymbols.Proofs.Waiting.GivingUp
import PerlSymbols.Proofs.Waiting.Readiness
import PerlSymbols.Proofs.Waiting.Strategies
import PerlSymbols.Proofs.Waiting.Separation
import PerlSymbols.Proofs.Settings.Precedence
import PerlSymbols.Proofs.Settings.Failures
import PerlSymbols.Proofs.Document.EmptyBuckets
import PerlSymbols.Proofs.Log.Outputs
import PerlSymbols.Proofs.Session.Correlation
import PerlSymbols.Proofs.Session.Showing
import PerlSymbols.Proofs.Lookup.Nearest
import PerlSymbols.Proofs.Cursor.Chains
import PerlSymbols.Proofs.Cursor.Arrows
import PerlSymbols.Proofs.Cursor.Sigils
import PerlSymbols.Proofs.Cursor.Segments
import PerlSymbols.Proofs.Lookup.Calls
import PerlSymbols.Proofs.Lookup.Soundness
import PerlSymbols.Proofs.Document.Later
import PerlSymbols.Proofs.Hover.Signatures
import PerlSymbols.Proofs.Hover.Callables
import PerlSymbols.Proofs.Hover.Mishaps
import PerlSymbols.Proofs.Text.Utf8
import PerlSymbols.Proofs.Uri.Parts
import PerlSymbols.Proofs.Uri.Escapes
import PerlSymbols.Proofs.Waiting.Polls
import PerlSymbols.Proofs.Document.Outlines
import PerlSymbols.Proofs.Settings.Paths
import PerlSymbols.Proofs.Settings.Window
import PerlSymbols.Proofs.Settings.Rechecking
import PerlSymbols.Proofs.Element.Reloading
import PerlSymbols.Proofs.Document.Buckets
