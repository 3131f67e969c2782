import NamedSql.About
import NamedSql.Json
/-!
What the web service says about itself: a machine-readable description of its endpoints, and a page
that shows it.
-/
namespace NamedSql.Http

/-- A method on a path, the statuses it may be answered with and the parameters it takes. -/
structure Endpoint where
  path : String
  method : String
  statuses : List Nat
  parameters : List String
deriving DecidableEq, Repr

/-- A description of a web service. -/
structure Description where
  title : String
  summary : String
  version : String
  endpoints : List Endpoint
  /-- The names of the kinds of values in bodies. -/
  schemas : List String
deriving DecidableEq, Repr

namespace Description

/-- The description of this service. -/
def service : Description where
  title := About.title ++ " API"
  summary := "Configured SQL operations over HTTP"
  version := About.version
  endpoints :=
    [⟨"/api/v1/health", "get", [200, 503], []⟩,
      ⟨"/api/v1/operations", "get", [200], []⟩,
      ⟨"/api/v1/operations/\x7bname\x7d", "get", [200, 404, 405, 500],
        ["count", "filterBy", "filterOp", "filterValue", "filterValueB", "name", "startIndex"]⟩,
      ⟨"/api/v1/operations/\x7bname\x7d", "post", [200, 400, 404, 405, 500], ["name"]⟩]
  schemas :=
    ["HealthResponse", "OperationKind", "OperationSummary", "ResultEnvelope", "StatementOutcome"]

/-- An endpoint as a member of the object of its path. -/
def endpointMember (endpoint : Endpoint) : String × Json :=
  (endpoint.method, .object
    [("parameters", .list (endpoint.parameters.map fun name => .object [("name", .text name)])),
      ("responses", .object
        (endpoint.statuses.map fun status => (toString status, .object [])))])

/-- The endpoints of a path, each under its method. -/
def pathMember (d : Description) (path : String) : String × Json :=
  (path, .object ((d.endpoints.filter (·.path = path)).map endpointMember))

/-- The description as a document. -/
def document (d : Description) : Json :=
  .object
    [("openapi", .text "3.1.0"),
      ("info", .object
        [("title", .text d.title), ("description", .text d.summary),
          ("version", .text d.version)]),
      ("paths", .object ((d.endpoints.map Endpoint.path).eraseDups.map d.pathMember)),
      ("components", .object
        [("schemas", .object (d.schemas.map fun name => (name, .object [])))])]

/-- The page that shows the description. -/
def page : String :=
  "\n".intercalate
    ["<!DOCTYPE html>",
      "<html lang=\"en\">",
      "<head>",
      "    <meta charset=\"UTF-8\">",
      "    <meta name=\"viewport\" content=\"width=device-width, initial-scale=1.0\">",
      "    <title>SqlGate API</title>",
      "    <link rel=\"stylesheet\" href=\"https://unpkg.com/swagger-ui-dist@5/swagger-ui.css\">",
      "</head>",
      "<body>",
      "    <div id=\"swagger-ui\"></div>",
      "    <script src=\"https://unpkg.com/swagger-ui-dist@5/swagger-ui-bundle.js\"></script>",
      "    <script>",
      "        SwaggerUIBundle(\x7b",
      "            url: '/api/openapi.json',",
      "            dom_id: '#swagger-ui',",
      "        \x7d);",
      "    </script>",
      "</body>",
      "</html>"]

end Description

end NamedSql.Http
