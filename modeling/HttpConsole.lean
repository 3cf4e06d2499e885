import HttpConsole.Console.Circuit
import HttpConsole.Console.Desk
import HttpConsole.Exchange.Dispatch
import HttpConsole.Screen.Layout
import HttpConsole.Proofs.Text.Utf8
import HttpConsole.Proofs.Text.Ascii
import HttpConsole.Proofs.Text.WellFormed
import HttpConsole.Proofs.Text.OneLine
import HttpConsole.Proofs.Text.Cells
import HttpConsole.Proofs.Storage.DraftFile
import HttpConsole.Proofs.Request.Reading
import HttpConsole.Proofs.Request.Tiling
import HttpConsole.Proofs.Request.Grammar
import HttpConsole.Proofs.Request.Continuation
import HttpConsole.Proofs.Request.ErrorPlace
import HttpConsole.Proofs.Request.Spacing
import HttpConsole.Proofs.Request.Writable
import HttpConsole.Proofs.Console.Editing
import HttpConsole.Proofs.Console.VerticalMoves
import HttpConsole.Proofs.Console.Turns
import HttpConsole.Proofs.Console.Viewing
import HttpConsole.Proofs.Console.ResultMoves
import HttpConsole.Proofs.Url.Reading
import HttpConsole.Proofs.Url.Scheme
import HttpConsole.Proofs.Url.Completion
import HttpConsole.Proofs.Url.OneLine
import HttpConsole.Proofs.Http.HeaderGroups
import HttpConsole.Proofs.Http.CanonicalName
import HttpConsole.Proofs.Http.ResponseHead
import HttpConsole.Proofs.Http.Body
import HttpConsole.Proofs.Http.Head
import HttpConsole.Proofs.Exchange.Building
import HttpConsole.Proofs.Exchange.HostOverride
import HttpConsole.Proofs.Exchange.Destination
import HttpConsole.Proofs.Exchange.Standard
import HttpConsole.Proofs.Exchange.Crowded
import HttpConsole.Proofs.Exchange.Journey
import HttpConsole.Proofs.Exchange.Ledger
import HttpConsole.Proofs.Exchange.Certificates
import HttpConsole.Proofs.Exchange.Separation
import HttpConsole.Proofs.Exchange.Layout
import HttpConsole.Proofs.Console.Routing
import HttpConsole.Proofs.Console.LatestRequest
import HttpConsole.Proofs.Console.SessionTrace
import HttpConsole.Proofs.Console.Ending
import HttpConsole.Proofs.Console.Independence
import HttpConsole.Proofs.Console.Showing
import HttpConsole.Proofs.Screen.ResultLayout
import HttpConsole.Proofs.Screen.DraftCursor
import HttpConsole.Proofs.Screen.CursorCells
import HttpConsole.Proofs.Screen.DraftShare
