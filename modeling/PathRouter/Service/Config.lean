import PathRouter.Service.Dispatch
import PathRouter.Route.Factory
/-!
# Services

A service is configured by registering routes, installing middleware and setting the fallback; `build` then makes its
dispatcher.  Every route text is made into a matcher once, and all registrations of the same text and kind share it.
-/
namespace PathRouter

/-- The text of a route and how it is to be read. -/
inductive RouteSource where
  | path (text : String)
  | regex (text : String)
deriving Repr, DecidableEq

/-- Has a factory make the matcher of a route text. -/
def RouteFactory.make (f : RouteFactory) : RouteSource → RouteFactory × Except RouteError Matcher
  | .path text => f.create text
  | .regex text => f.createFromPattern text

/-- A registration of one handler for one route text and some methods. -/
structure Registration where
  methods : List Method
  source : RouteSource
  handler : Handler

/-- A route still without its matcher, for one method. -/
structure PendingRoute where
  registration : Nat
  method : Method
  source : RouteSource
  handler : Handler

structure Service where
  factory : RouteFactory := {}
  registrations : List Registration := []
  pipeline : Pipeline := {}
  notFound : Option Handler := none
  notFoundPage : Option String := none

namespace Service

def register (s : Service) (methods : List Method) (source : RouteSource) (handler : Handler) : Service :=
  { s with registrations := s.registrations ++ [⟨methods, source, handler⟩] }

/-- Registers a declared path for one method. -/
def on (s : Service) (m : Method) (path : String) (handler : Handler) : Service :=
  s.register [m] (.path path) handler

/-- Registers a declared path for every method. -/
def onAll (s : Service) (path : String) (handler : Handler) : Service :=
  s.register Method.all (.path path) handler

/-- Registers a regular expression for one method. -/
def onRegex (s : Service) (m : Method) (pattern : String) (handler : Handler) : Service :=
  s.register [m] (.regex pattern) handler

/-- Registers a regular expression for every method. -/
def onAllRegex (s : Service) (pattern : String) (handler : Handler) : Service :=
  s.register Method.all (.regex pattern) handler

def install (s : Service) (m : Middleware) : Service :=
  { s with pipeline := s.pipeline.install m }

/-- Sets the handler of requests without a route, which goes before any page. -/
def setNotFound (s : Service) (handler : Handler) : Service :=
  { s with notFound := some handler }

/-- Sets the page of requests without a route. -/
def setNotFoundPage (s : Service) (page : String) : Service :=
  { s with notFoundPage := some page }

/-- The routes of all registrations, one for each method, in order. -/
def pending (s : Service) : List PendingRoute :=
  s.registrations.zipIdx.flatMap (fun (r, i) => r.methods.map (fun m => ⟨i, m, r.source, r.handler⟩))

def routeCount (s : Service) : Nat :=
  s.pending.length

/-- What a build has made: each matcher under its text, in the order of making, and the factory that made them. -/
structure Workshop where
  factory : RouteFactory
  made : List (RouteSource × Shared Matcher) := []

/-- The matcher of a text: the one made before, or a new one. -/
def Workshop.share (w : Workshop) (source : RouteSource) : Except RouteError (Shared Matcher × Workshop) :=
  match w.made.lookup source with
  | some m => .ok (m, w)
  | none =>
    match w.factory.make source with
    | (_, .error e) => .error e
    | (factory, .ok m) =>
      let m := ⟨w.made.length, m⟩
      .ok (m, ⟨factory, w.made ++ [(source, m)]⟩)

/-- Makes the routes in order and adds them to a table; stops at the first that cannot be made. -/
def buildTable (w : Workshop) (table : RouteTable) : List PendingRoute → Except RouteError RouteTable
  | [] => .ok table
  | r :: rest =>
    match w.share r.source with
    | .error e => .error e
    | .ok (m, w) => buildTable w (table.push r.method ⟨r.registration, m, r.handler⟩) rest

/-- The fallback: the handler if one is set, else the page, else the default page. -/
def fallback (s : Service) : Fallback :=
  match s.notFound, s.notFoundPage with
  | some h, _ => .handler h
  | none, some page => .page page
  | none, none => .page defaultPage

/-- The dispatcher of a service, or the report of the first route that cannot be made. -/
def build (s : Service) : Except RouteError Dispatcher :=
  match buildTable ⟨s.factory, []⟩ {} s.pending with
  | .error e => .error e
  | .ok table => .ok ⟨table, s.pipeline, s.fallback⟩

end Service
end PathRouter
