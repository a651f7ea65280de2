import PathRouter.Route.Matcher
import PathRouter.Http.Response
import PathRouter.Service.Error
/-!
# Route tables

A table lists, for each method, the routes of that method in order of registration.  A request goes to the first route
that matches, however specific later ones may be.
-/
namespace PathRouter

/-- How a handler ended: the response it left, and its failure if it failed. -/
structure HandlerResult where
  response : Response
  failure : Option ServiceError := none
deriving DecidableEq

abbrev Handler := Request → Response → HandlerResult

/-- A value that is made once and used in several places, with the number of its making. -/
structure Shared (α : Type u) where
  id : Nat
  value : α
deriving DecidableEq

/-- A route of a table.  `registration` is the number of the registration it comes from. -/
structure RouteEntry where
  registration : Nat
  matcher : Shared Matcher
  handler : Handler

/-- The text of the route as it was registered. -/
def RouteEntry.source (e : RouteEntry) : String :=
  e.matcher.value.pattern.source

/-- The routes of each method, in order of registration.  A method that none was registered for has none. -/
structure RouteTable where
  routes : Method → List RouteEntry := fun _ => []

namespace RouteTable

/-- Adds a route at the end of those of its method. -/
def push (t : RouteTable) (m : Method) (e : RouteEntry) : RouteTable :=
  ⟨fun m' => if m' = m then t.routes m ++ [e] else t.routes m'⟩

/-- The routes of a method, in order of registration. -/
def routesFor (t : RouteTable) (m : Method) : List RouteEntry :=
  t.routes m

/-- The number of routes of all methods together. -/
def size (t : RouteTable) : Nat :=
  Method.all.foldl (fun n m => n + (t.routes m).length) 0

def isEmpty (t : RouteTable) : Bool :=
  t.size == 0

/-- The first route for the method that matches the path, with what its groups took. -/
def resolve (t : RouteTable) (method path : String) : Option (RouteEntry × ParsedRoute) :=
  match Method.ofText? method with
  | none => none
  | some m => (t.routesFor m).findSome? (fun e => (e.matcher.value.matchPath path).map (fun r => (e, r)))

end RouteTable
end PathRouter
