import PathRouter.Service.RouteTable
import PathRouter.Service.Middleware
import PathRouter.Text.Replace
/-!
# Dispatch

A dispatcher takes one request to its end: it finds the route, runs the first stage of middleware, one handler and the
second stage, and gives the response to the transport.  Dispatch never fails.  A request without a route goes to the
fallback, and a failure of a handler becomes the response.

Each part of a dispatch, a stage, a handler or the transport, adds what it does to the acts before it (`Acting`).
`Dispatcher.dispatch` gives the whole run as a value: all acts, in order, and a summary.
-/
namespace PathRouter

/-! ## The fallback -/

/-- Stands for the path in a not-found page. -/
def pagePlaceholder : String := "$\x7bpage\x7d"

/-- The not-found page of a service that sets none. -/
def defaultPage : String :=
  "<html> <head>   <title>404 Unknown Page</title></head><body>   <h1>404 Page Not Found</h1>   " ++
  "<p><b>Requested:</b> " ++ pagePlaceholder ++ "</p></body></html>\n\n"

def renderPage (page path : String) : String :=
  String.ofList (Text.replaceAll pagePlaceholder.toList path.toList page.toList)

/-- What answers a request without a route: a handler, or a page. -/
inductive Fallback where
  | handler (h : Handler)
  | page (text : String)

def Fallback.run : Fallback → Handler
  | .handler h, req, resp => h req resp
  | .page text, req, resp => ⟨(resp.setStatus .notFound).writeHtml (renderPage text req.path), none⟩

/-! ## Runs -/

inductive DispatchState where
  | received | matched | unmatched | preMiddleware | handled | postMiddleware | finalized
deriving Repr, DecidableEq

namespace DispatchState

def all : List DispatchState :=
  [.received, .matched, .unmatched, .preMiddleware, .handled, .postMiddleware, .finalized]

def code : DispatchState → String
  | .received => "RECEIVED"
  | .matched => "MATCHED"
  | .unmatched => "UNMATCHED"
  | .preMiddleware => "PRE_MIDDLEWARE"
  | .handled => "HANDLED"
  | .postMiddleware => "POST_MIDDLEWARE"
  | .finalized => "FINALIZED"

def label : DispatchState → String
  | .received => "Received"
  | .matched => "Matched"
  | .unmatched => "Unmatched"
  | .preMiddleware => "PreMiddleware"
  | .handled => "Handled"
  | .postMiddleware => "PostMiddleware"
  | .finalized => "Finalized"

end DispatchState

/-- Which handler ran: that of a registration, the service's own fallback, or the not-found page. -/
inductive HandlerName where
  | registered (registration : Nat)
  | notFound
  | page
deriving Repr, DecidableEq

/-- What happens during a dispatch.  Entries and handlers are noted with what they were given. -/
inductive Event where
  | state (s : DispatchState)
  | middleware (stage : Stage) (visit : Visit)
  | handler (name : HandlerName) (request : Request) (response : Response)
deriving DecidableEq

/-- What a dispatch does: its events, the questions to entries, and the calls to the transport. -/
inductive Act where
  | event (e : Event)
  | question (stage : Stage) (q : Question)
  | call (c : SinkCall)
deriving DecidableEq

/-- What a stage does: it asks all its entries and then runs some. -/
def StageRun.acts (stage : Stage) (r : StageRun) : List Act :=
  r.questions.map (.question stage) ++ r.visits.map (fun v => .event (.middleware stage v))

/-- A part of a dispatch, which adds what it does to the acts before it. -/
abbrev Acting := StateM (List Act)

def note (acts : List Act) : Acting Unit :=
  modify (· ++ acts)

/-- Comes to a state. -/
def reach (s : DispatchState) : Acting Unit :=
  note [.event (.state s)]

/-- Gives the response to the transport. -/
def Response.writeTo (r : Response) : Acting Unit :=
  note (r.calls.map .call)

/-- Runs a stage and gives the request and response it leaves. -/
def Pipeline.perform (p : Pipeline) (s : Stage) (req : Request) (resp : Response) : Acting (Request × Response) := do
  let run := p.runStage s req resp
  note (run.acts s)
  return (run.request, run.response)

structure Outcome where
  route : Option String
  status : UInt16
  requestId : String
deriving Repr, DecidableEq

def Outcome.matched (o : Outcome) : Bool :=
  o.route.isSome

structure Run where
  acts : List Act
  outcome : Outcome
deriving DecidableEq

def Act.event? : Act → Option Event
  | .event e => some e
  | _ => none

def Act.call? : Act → Option SinkCall
  | .call c => some c
  | _ => none

def Event.state? : Event → Option DispatchState
  | .state s => some s
  | _ => none

def Run.events (r : Run) : List Event :=
  r.acts.filterMap Act.event?

def Run.calls (r : Run) : List SinkCall :=
  r.acts.filterMap Act.call?

def Run.states (r : Run) : List DispatchState :=
  r.events.filterMap Event.state?

/-! ## Dispatchers -/

structure Dispatcher where
  table : RouteTable
  pipeline : Pipeline
  fallback : Fallback

/-- The parameters of a request: those of the query and, for a posted body that is text, those of the body. -/
def Incoming.params (inc : Incoming) : Params :=
  let fromQuery := (splitUrl inc.url).2.elim ∅ Params.parse
  if Method.ofText? inc.method = some .post ∧ inc.body ≠ [] then
    match Text.ofBytes? inc.body with
    | some form => Params.parseInto form fromQuery
    | none => fromQuery
  else fromQuery

/-- The request as the first stage gets it. -/
def Incoming.toRequest (inc : Incoming) (requestId : String) (parsed : Option ParsedRoute) : Request where
  method := inc.method
  path := (splitUrl inc.url).1
  url := inc.url
  headers := inc.headers
  body := inc.body
  urlParams := parsed.elim ∅ (·.urlParams)
  splat := parsed.elim [] (·.splat)
  params := inc.params
  requestId := requestId

/-- The response that a handler's end stands for: a failure sets the status and, where no body was written, tells
itself in the body. -/
def HandlerResult.settle (r : HandlerResult) : Response :=
  match r.failure with
  | none => r.response
  | some e =>
    let resp := r.response.setStatus e.status
    if resp.hasBody then resp else resp.writeText e.message

namespace Dispatcher

def handlerFor (d : Dispatcher) (found : Option (RouteEntry × ParsedRoute)) : HandlerName × Handler :=
  match found with
  | some (e, _) => (.registered e.registration, e.handler)
  | none =>
    match d.fallback with
    | .handler _ => (.notFound, d.fallback.run)
    | .page _ => (.page, d.fallback.run)

/-- Runs the handler of a request and gives the response that its end stands for. -/
def answer (d : Dispatcher) (found : Option (RouteEntry × ParsedRoute)) (req : Request) (resp : Response) :
    Acting Response := do
  let (name, handler) := d.handlerFor found
  note [.event (.handler name req resp)]
  return (handler req resp).settle

/-- Takes a request to its end and gives the summary. -/
def process (d : Dispatcher) (requestId : String) (inc : Incoming) : Acting Outcome := do
  reach .received
  let found := d.table.resolve inc.method (splitUrl inc.url).1
  reach (if found.isSome then .matched else .unmatched)
  reach .preMiddleware
  let (req, resp) ← d.pipeline.perform .before (inc.toRequest requestId (found.map (·.2))) {}
  let resp ← d.answer found req resp
  reach .handled
  reach .postMiddleware
  let (_, resp) ← d.pipeline.perform .after req resp
  resp.writeTo
  reach .finalized
  return ⟨found.map (fun f => f.1.source), resp.status, requestId⟩

/-- The run of a request, from its first act on. -/
def dispatch (d : Dispatcher) (requestId : String) (inc : Incoming) : Run :=
  let (outcome, acts) := (d.process requestId inc).run []
  { acts, outcome }

end Dispatcher
end PathRouter
