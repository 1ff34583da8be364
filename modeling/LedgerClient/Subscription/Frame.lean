import LedgerClient.Json.Printer
import LedgerClient.Json.Shape

/-! # Frames from the server

A frame is an object of which four fields matter. All four are read before any is
used, so a field of the wrong shape makes the whole frame unreadable. Then the
first of these that holds says what the frame is: it has an error; it has an id; its
parameters name a subscription.
-/

namespace LedgerClient

/-- What a frame says. -/
inductive Frame where
  /-- The answer to a request. -/
  | response (id : UInt64) (result : Json)
  /-- A failure, of a request if it names one. -/
  | failure (id : Option UInt64) (code : Int) (message : String)
  /-- A value for a subscription, named by the server's id. -/
  | notification (subscription : UInt64) (result : Json)
  /-- Anything else. -/
  | other

/-- The parameters of a notification. -/
structure FrameParams where
  result : Json
  subscription : Option Json

/-- The four fields that matter. -/
structure FrameFields where
  id : Option Json
  result : Option Json
  error : Option Json
  params : Option FrameParams

namespace Frame

variable {τ ν : Type} [Json.Meaning τ ν]

/-- The parameters of a notification; the result may be left out. -/
def paramsShape : Json.Shape τ ν FrameParams := fun depth tree => do
  let fields ← Json.Fields.ofTree ["result", "subscription"] depth tree
  let result ← fields.withDefault "result" .null .value
  return ⟨result, ← fields.optional "subscription" .value⟩

/-- The fields of a frame, each of which may be left out. -/
def fieldsShape : Json.Shape τ ν FrameFields := fun depth tree => do
  let fields ← Json.Fields.ofTree ["id", "result", "error", "params"] depth tree
  let id ← fields.withDefault "id" none (.optional .value)
  let result ← fields.withDefault "result" none (.optional .value)
  let error ← fields.withDefault "error" none (.optional .value)
  return ⟨id, result, error, ← fields.withDefault "params" none (.optional paramsShape)⟩

/-- The code of a failure that is not described in the usual way. -/
def unknownCode : Int := -32000

/-- The code and the message of a failure; the message may be left out. -/
def failureShape : Json.Shape τ ν (Int × String) := fun depth tree => do
  let fields ← Json.Fields.ofTree ["code", "message"] depth tree
  let code ← fields.required "code" (.integer (-2 ^ 63) (2 ^ 63 - 1))
  return (code, ← fields.withDefault "message" "" .text)

/-- The failure that an error describes, or the error's own text. -/
def ofError (id : Option UInt64) (error : Json) : Frame :=
  match Json.decodeWith failureShape error with
  | .ok (code, message) => .failure id code message
  | .error _ => .failure id unknownCode error.render

/-- What the fields of a frame say. -/
def ofFields (fields : FrameFields) : Frame :=
  let id := fields.id.bind Json.asWord?
  match fields.error, id, fields.params with
  | some error, id, _ => ofError id error
  | none, some id, _ => .response id (fields.result.getD .null)
  | none, none, some params =>
    match params.subscription.bind Json.asWord? with
    | some subscription => .notification subscription params.result
    | none => .other
  | none, none, none => .other

/-- The frame that a byte list spells. -/
def parse (bytes : List UInt8) : Except Json.Fault Frame :=
  (Json.parseWith fieldsShape bytes).map ofFields

end Frame

end LedgerClient
