import VariantStore.Body.Payload
import VariantStore.Message.Headers
import VariantStore.Message.Status

/-!
# Responses

A response is a status, header fields and perhaps a payload. Copies of a response share the stream
of its payload.
-/

namespace VariantStore

/-- An answer to a request. -/
structure Response where
  status : Status := .ok
  headers : Headers := {}
  payload : Option Payload := none
deriving DecidableEq

namespace Response

/-- Adds a header field. -/
def withHeader (r : Response) (name value : String) : Response :=
  { r with headers := r.headers.append name value }

/-- Replaces the payload, or takes it off. -/
def withPayload (r : Response) (payload : Option Payload) : Response :=
  { r with payload := payload }

/-- A text as payload. -/
def withText (r : Response) (text : String) : Response :=
  r.withPayload (some (.buffered textMime (Text.utf8 text)))

/-- Bytes as payload. -/
def withBytes (r : Response) (content : Bytes) : Response :=
  r.withPayload (some (.buffered defaultMime content))

end Response

end VariantStore
