import LedgerClient.Json.Printer

/-! # Requests on the socket

A request is a JSON object with a method, parameters and an id of the client's
choice, by which the answer is known.
-/

namespace LedgerClient

/-- A request as it is sent. -/
structure SocketRequest where
  method : String
  params : List Json
  id : UInt64

namespace SocketRequest

/-- A request whose last parameter is an object of settings, unless there are
none. -/
def ofSettings (method : String) (params : List Json) (settings : List (String × Json))
    (id : UInt64) : SocketRequest :=
  ⟨method, if settings.isEmpty then params else params ++ [.object settings], id⟩

/-- The text of a request, with a text for its id. -/
def renderAs (idText : String) (request : SocketRequest) : String :=
  "\x7b\"jsonrpc\":\"2.0\",\"method\":" ++ Json.quote request.method ++ ",\"params\":" ++
    Json.render (.array request.params) ++ ",\"id\":" ++ idText ++ "\x7d"

/-- The text of a request. -/
def render (request : SocketRequest) : String := request.renderAs (toString request.id)

end SocketRequest

end LedgerClient
