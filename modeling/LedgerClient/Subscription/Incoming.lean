import LedgerClient.Subscription.Client

/-! # What comes from the server

A server sends texts, bytes and the control frames of the connection. Texts and bytes are
read alike. A ping is answered below the client, which does nothing about it: it is no pong.
-/

namespace LedgerClient

/-- A frame from the server. -/
inductive Incoming where
  | text (text : String)
  | binary (bytes : List UInt8)
  | ping
  | pong
  | close

/-- What comes to a client: a frame from the server, or something else that happens. -/
inductive Occurrence (α : Type) where
  | incoming (frame : Incoming)
  | other (event : ClientEvent α)

variable {α : Type}

/-- What an occurrence is to a client, unless it is nothing. -/
def Occurrence.event? : Occurrence α → Option (ClientEvent α)
  | .incoming (.text text) => some (.frame (Utf8.encode text))
  | .incoming (.binary bytes) => some (.frame bytes)
  | .incoming .ping => none
  | .incoming .pong => some .pong
  | .incoming .close => some .closed
  | .other event => some event

namespace Client

/-- What an occurrence leads to. -/
def meet (client : Client α) (occurrence : Occurrence α) : Reaction α :=
  match occurrence.event? with
  | some event => client.react event
  | none => ⟨.done, [], client⟩

/-- A client after some occurrences. -/
def attend (client : Client α) (schedule : List (Occurrence α)) : Client α :=
  schedule.foldl (fun client occurrence => (client.meet occurrence).client) client

end Client

end LedgerClient
