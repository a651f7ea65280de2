import PathRouter.Http.Method
import PathRouter.Route.Error
/-!
# Failures of handlers

What a handler can answer in place of a finished response, and what starting a service can fail with.  A failure has a
wording and a status of its own.
-/
namespace PathRouter

inductive ServiceError where
  | route (e : RouteError)
  | handler (message : String)
  | badRequest (message : String)
  | notFound (message : String)
  | internal (message : String)
  | io (message : String)
  | logging (message : String)
deriving Repr, DecidableEq

namespace ServiceError

def message : ServiceError → String
  | .route e => "Route error: " ++ e.text
  | .handler m => "Handler error: " ++ m
  | .badRequest m => "Bad Request: " ++ m
  | .notFound m => "Not Found: " ++ m
  | .internal m => "Internal server error: " ++ m
  | .io m => "IO error: " ++ m
  | .logging m => "Logging initialization failed: " ++ m

/-- The status that tells the failure. -/
def status : ServiceError → Status
  | .badRequest _ => .badRequest
  | .notFound _ => .notFound
  | _ => .internalServerError

end ServiceError
end PathRouter
