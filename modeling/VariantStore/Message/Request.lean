import VariantStore.Message.Headers
import VariantStore.Uri.Resource

/-!
# Requests

A store needs two things of a request: which resource it asks for, and its header fields. The URI is
read once, when the request is made.
-/

namespace VariantStore

/-- A request for a resource. -/
structure Request where
  uri : Uri
  headers : Headers := {}
deriving DecidableEq

namespace Request

/-- A request without header fields. The URI has to be absolute and hierarchical. -/
def ofUri (text : String) : Except UriError Request := do
  let uri ← Uri.ofText text
  if uri.isHierarchical then return { uri := uri } else throw (.notHierarchical text)

/-- Adds a header field. -/
def withHeader (r : Request) (name value : String) : Request :=
  { r with headers := r.headers.append name value }

/-- The resource that is asked for. -/
def resource (r : Request) : ResourceId := ResourceId.ofUri r.uri

end Request

end VariantStore
