import ApiBalancer.Event
import ApiBalancer.ProxyDocument

/-!
# Renderers

A renderer turns a set of backends into the document that is put into the balancer's container.
`Renderer.proxy` writes the proxy's document; balancers work with any other one as well.
-/

namespace ApiBalancer

/-- How the document of a set of backends is made, and where it goes. -/
structure Renderer where
  path : String
  render : BackendSet → DocumentOptions → Except InvalidBackend ByteArray
  /-- What is reported of a document that was made. -/
  events : BackendSet → ByteArray → List Event := fun _ _ => []

def Renderer.proxy : Renderer where
  path := ProxyDocument.path
  render backends options := (ProxyDocument.write backends options).map String.toUTF8
  events backends document := [.documentWritten backends.size document.size]

end ApiBalancer
