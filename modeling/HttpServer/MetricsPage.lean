import HttpServer.Bytes.Utf8
import HttpServer.Connection

/-!
# The page of the metrics

Who asks for the metrics gets the value of every series that something has touched, whatever path
the request names.
-/

namespace HttpServer.MetricsPage

/-- The text of the page: a line for each series. -/
def text (registry : Registry) : String :=
  String.join (registry.render.map fun line => line ++ "\n")

def pipeline (registry : Registry) : Pipeline where
  execute context := .ok (some (Response.text .ok (Utf8.encode (text registry))), context)

def service (registry : Registry) : Service where
  pipeline := pipeline registry

end HttpServer.MetricsPage
