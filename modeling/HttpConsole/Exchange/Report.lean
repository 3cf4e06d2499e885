/-!
# Reports

What a reader gets to see of one request: the request as it was sent and the response to it.
-/

set_option autoImplicit false

namespace HttpConsole.Exchange

structure Report where
  /-- The method and the URL, then the headers in the order in which they are sent. -/
  requestLines : List String
  /-- The status line, then the headers in sorted order. -/
  responseLines : List String
  body : String
deriving DecidableEq, Repr

/-- A report as one list: request lines, a blank line, response lines, a blank line, and the body
as a single last entry. -/
def Report.toLines (report : Report) : List String :=
  report.requestLines ++ [""] ++ report.responseLines ++ [""] ++ [report.body]

end HttpConsole.Exchange
