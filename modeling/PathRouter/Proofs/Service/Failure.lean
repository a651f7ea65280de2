import PathRouter.Proofs.Service.Routing
/-!
# When a handler fails

A failure sets the status, and it speaks in the body only where none was written; all else that was written stays
(`KeepsWritten`).  Nothing of it reaches back: the first stage, the request and the route are those of a handler that
leaves the same response and does not fail (`failure_keeps_written`).

The text of a failure is written like any other text, so a content type that was set for another body is kept for it
(`failure_labelled_iff`).
-/
namespace PathRouter

/-! ## Handlers that carry on -/

/-- The handler that leaves the same response and does not fail. -/
def carryOn (h : Handler) : Handler := fun req resp => ⟨(h req resp).response, none⟩

def RouteEntry.mapHandler (f : Handler → Handler) (e : RouteEntry) : RouteEntry :=
  { e with handler := f e.handler }

def RouteTable.mapHandlers (f : Handler → Handler) (t : RouteTable) : RouteTable :=
  ⟨fun m => (t.routes m).map (RouteEntry.mapHandler f)⟩

/-- A page is no handler, and it cannot fail. -/
def Fallback.mapHandler (f : Handler → Handler) : Fallback → Fallback
  | .handler h => .handler (f h)
  | .page text => .page text

namespace Dispatcher

def mapHandlers (f : Handler → Handler) (d : Dispatcher) : Dispatcher :=
  { d with table := d.table.mapHandlers f, fallback := d.fallback.mapHandler f }

variable (d : Dispatcher) (f : Handler → Handler) (requestId : String) (inc : Incoming)

theorem found_mapHandlers : (d.mapHandlers f).found inc = (d.found inc).map (fun r => (r.1.mapHandler f, r.2)) := by
  unfold found RouteTable.resolve
  cases Method.ofText? inc.method with
  | none => rfl
  | some m =>
    have hroutes : (d.mapHandlers f).table.routesFor m = (d.table.routesFor m).map (RouteEntry.mapHandler f) := rfl
    simp only [hroutes, List.findSome?_map, List.map_findSome?]
    refine congrArg (List.findSome? · _) (funext fun e => ?_)
    simp [Function.comp_def, RouteEntry.mapHandler]

theorem firstStage_mapHandlers : (d.mapHandlers f).firstStage requestId inc = d.firstStage requestId inc := by
  unfold firstStage
  rw [found_mapHandlers, Option.map_map]
  rfl

theorem route_mapHandlers :
    ((d.mapHandlers f).dispatch requestId inc).outcome.route = (d.dispatch requestId inc).outcome.route := by
  rw [route_dispatch, route_dispatch, found_mapHandlers, Option.map_map]
  rfl

theorem handlerOf_carryOn (req : Request) (resp : Response) :
    (d.mapHandlers carryOn).handlerOf inc req resp = ⟨(d.handlerOf inc req resp).response, none⟩ := by
  unfold handlerOf handlerFor
  rw [found_mapHandlers]
  cases d.found inc with
  | some r => rfl
  | none => cases hfallback : d.fallback <;> simp [mapHandlers, Fallback.mapHandler, hfallback, Fallback.run, carryOn]

end Dispatcher

/-! ## Responses of failures -/

/-- **What a failure keeps** of the response that was left, as it enters the second stage. -/
structure KeepsWritten (e : ServiceError) (left entered : Response) : Prop where
  status : entered.status = e.status.code
  written : ∀ bytes, left.body = some bytes → entered.body = some bytes ∧ entered.headers = left.headers
  unwritten : left.body = none → entered.body = some (Text.toBytes e.message)
  header : ∀ key, key ≠ "Content-Type" → entered.headers.get? key = left.headers.get? key
  contentType : ∀ value, left.headers.get? "Content-Type" = some value →
    entered.headers.get? "Content-Type" = some value

namespace HandlerResult

variable {r : HandlerResult} {e : ServiceError}

theorem settle_written (h : r.failure = some e) {bytes : List UInt8} (hbody : r.response.body = some bytes) :
    r.settle = r.response.setStatus e.status := by
  have hhas : (r.response.setStatus e.status).hasBody = true := congrArg Option.isSome hbody
  simp [settle, h, hhas]

theorem settle_unwritten (h : r.failure = some e) (hbody : r.response.body = none) :
    r.settle = (r.response.setStatus e.status).writeText e.message := by
  have hhas : (r.response.setStatus e.status).hasBody = false := congrArg Option.isSome hbody
  simp [settle, h, hhas]

/-- The headers that enter the second stage. -/
theorem get?_settle (h : r.failure = some e) (key : String) : r.settle.headers.get? key =
    if r.response.body = none ∧ key = "Content-Type" then some ((r.response.headers.get? key).getD "text/plain")
    else r.response.headers.get? key := by
  cases hbody : r.response.body with
  | some bytes =>
    rw [settle_written h hbody]
    simp [Response.setStatus, Response.setStatusCode]
  | none =>
    have hheaders := Response.get?_writeTextAs (r.response.setStatus e.status) e.message "text/plain" key
    rw [settle_unwritten h hbody, Response.writeText, hheaders]
    simp [Response.setStatus, Response.setStatusCode]

theorem keepsWritten_settle (h : r.failure = some e) : KeepsWritten e r.response r.settle where
  status := by
    cases hbody : r.response.body with
    | some bytes =>
      rw [settle_written h hbody]
      rfl
    | none =>
      rw [settle_unwritten h hbody]
      rfl
  written bytes hbody := by
    rw [settle_written h hbody]
    exact ⟨hbody, rfl⟩
  unwritten hbody := by
    rw [settle_unwritten h hbody]
    rfl
  header key hkey := by
    rw [get?_settle h]
    simp [hkey]
  contentType value hvalue := by
    rw [get?_settle h, hvalue]
    simp

end HandlerResult

namespace Dispatcher

/-- **A handler fails**: it is the one that answers the request, and given `req` and `resp` it leaves `left` and reports
`e`. -/
def Fails (d : Dispatcher) (requestId : String) (inc : Incoming) (req : Request) (resp left : Response)
    (e : ServiceError) : Prop :=
  ∃ name handler, d.Answers (d.found inc) name handler ∧
    .event (.handler name req resp) ∈ (d.dispatch requestId inc).acts ∧ handler req resp = ⟨left, some e⟩

variable {d : Dispatcher} {requestId : String} {inc : Incoming} {req : Request} {resp left : Response} {e : ServiceError}

theorem fails_iff : d.Fails requestId inc req resp left e ↔ req = (d.firstStage requestId inc).request ∧
    resp = (d.firstStage requestId inc).response ∧ d.handlerOf inc req resp = ⟨left, some e⟩ := by
  constructor
  · rintro ⟨name, handler, hanswers, hmem, hfails⟩
    obtain ⟨-, hreq, hresp⟩ := (d.handler_mem_dispatch_iff requestId inc).1 hmem
    obtain rfl := d.eq_handlerOf inc hanswers
    exact ⟨hreq, hresp, hfails⟩
  · rintro ⟨hreq, hresp, hfails⟩
    exact ⟨_, _, d.answers_handlerFor (d.found inc), (d.handler_mem_dispatch_iff requestId inc).2 ⟨rfl, hreq, hresp⟩, hfails⟩

theorem ends_of_fails (h : d.Fails requestId inc req resp left e) :
    d.pipeline.Ends (d.dispatch requestId inc) req (HandlerResult.settle ⟨left, some e⟩) := by
  obtain ⟨rfl, rfl, hfails⟩ := fails_iff.1 h
  have hends := d.ends_dispatch requestId inc
  rwa [hfails] at hends

theorem ends_of_carryOn (h : d.Fails requestId inc req resp left e) :
    d.pipeline.Ends ((d.mapHandlers carryOn).dispatch requestId inc) req left := by
  obtain ⟨rfl, rfl, hfails⟩ := fails_iff.1 h
  have hends := (d.mapHandlers carryOn).ends_dispatch requestId inc
  rw [firstStage_mapHandlers, handlerOf_carryOn, hfails] at hends
  exact hends

/-- **A failure keeps what was written.**  Let the handler of a dispatch fail.  The second stage begins with the request
that the handler was given and with a response that tells the failure and keeps what was left of the response, and all
its entries are asked about these.  If the handler left the same response without failing, the first stage, the request
and the route would be the same, and the second stage would begin with that response. -/
theorem failure_keeps_written (h : d.Fails requestId inc req resp left e) :
    let run := d.dispatch requestId inc
    let calm := (d.mapHandlers carryOn).dispatch requestId inc
    ∃ first entered, d.pipeline.Begins run first req resp ∧ d.pipeline.Ends run req entered ∧
      KeepsWritten e left entered ∧
      (∀ q, .question .after q ∈ run.acts → q.about.request = req ∧ q.about.response = entered) ∧
      d.pipeline.Begins calm first req resp ∧ calm.ofStage .before = run.ofStage .before ∧
      d.pipeline.Ends calm req left ∧
      calm.outcome.matched = run.outcome.matched ∧ calm.outcome.route = run.outcome.route := by
  intro run calm
  obtain ⟨hreq, hresp, -⟩ := fails_iff.1 h
  have hends := ends_of_fails h
  have hroute : calm.outcome.route = run.outcome.route := d.route_mapHandlers carryOn requestId inc
  have hbegins : (d.mapHandlers carryOn).pipeline.Begins calm (inc.toRequest requestId ((d.found inc).map (·.2))) req
      resp := by
    refine (begins_dispatch_iff _ requestId inc).2 ⟨?_, ?_, ?_⟩
    · rw [found_mapHandlers, Option.map_map]
      rfl
    · rw [firstStage_mapHandlers, hreq]
    · rw [firstStage_mapHandlers, hresp]
  have hstage : calm.ofStage .before = run.ofStage .before := by
    rw [ofStage_before_dispatch, ofStage_before_dispatch, firstStage_mapHandlers]
  exact ⟨_, _, (d.begins_dispatch_iff requestId inc).2 ⟨rfl, hreq, hresp⟩, hends,
    HandlerResult.keepsWritten_settle (r := ⟨left, some e⟩) rfl, fun q hq => hends.asked hq, hbegins, hstage,
    ends_of_carryOn h, congrArg Option.isSome hroute, hroute⟩

theorem fails_user {handler : Handler} (htable : d.table = userRoute handler)
    (hget : Method.ofText? inc.method = some .get) (hpath : (splitUrl inc.url).1 = "/7/x")
    (hfails : handler (d.firstStage requestId inc).request (d.firstStage requestId inc).response = ⟨left, some e⟩) :
    d.Fails requestId inc (d.firstStage requestId inc).request (d.firstStage requestId inc).response left e := by
  refine fails_iff.2 ⟨rfl, rfl, ?_⟩
  unfold handlerOf
  rw [found_user d inc htable hget hpath]
  exact hfails

/-- Leaves an empty body and a status, and fails. -/
def emptyUsers : Dispatcher where
  table := userRoute (fun _ resp => ⟨(resp.setHeader "X-Id" "7").writeBytes [], some (.badRequest "no name")⟩)
  pipeline := Pipeline.install {} disguise
  fallback := .page defaultPage

theorem failure_keeps_empty_body : ∃ req resp left e, emptyUsers.Fails "a" askedUser req resp left e ∧
    left.body = some [] ∧ left.status = 201 ∧
    ∃ entered, emptyUsers.pipeline.Ends (emptyUsers.dispatch "a" askedUser) req entered ∧ entered.status = 400 ∧
      entered.body = some [] ∧ entered.headers.get? "X-Id" = some "7" := by
  have hfails : emptyUsers.Fails "a" askedUser _ _ ⟨201, Dict.ofList [("X-Id", "7")], some []⟩ _ :=
    fails_user rfl (by decide) (by decide) rfl
  obtain ⟨first, entered, -, hends, hkeeps, -⟩ := failure_keeps_written hfails
  obtain ⟨hbody, hheaders⟩ := hkeeps.written [] rfl
  refine ⟨_, _, _, _, hfails, rfl, rfl, entered, hends, hkeeps.status, hbody, ?_⟩
  rw [hheaders]
  rfl

/-! ## The label of the text -/

/-- **When the text of a failure is labelled as plain text.**  Let the handler of a dispatch fail where nobody wrote a body.
Then the second stage begins with the text of the failure as the body.  Its content type is that of plain text exactly if
none was set, or this one was; otherwise it is the one that was set. -/
theorem failure_labelled_iff (h : d.Fails requestId inc req resp left e) (hbody : left.body = none) :
    ∃ entered, d.pipeline.Ends (d.dispatch requestId inc) req entered ∧
      entered.body = some (Text.toBytes e.message) ∧
      (entered.header? "Content-Type" = some "text/plain" ↔
        ∀ value, left.header? "Content-Type" = some value → value = "text/plain") ∧
      ∀ value, left.header? "Content-Type" = some value → entered.header? "Content-Type" = some value := by
  have hkeeps := HandlerResult.keepsWritten_settle (r := ⟨left, some e⟩) rfl
  have htype := HandlerResult.get?_settle (r := ⟨left, some e⟩) rfl "Content-Type"
  rw [if_pos ⟨hbody, rfl⟩] at htype
  refine ⟨_, ends_of_fails h, hkeeps.unwritten hbody, ?_, hkeeps.contentType⟩
  unfold Response.header?
  rw [htype]
  cases left.headers.get? "Content-Type" <;> simp

theorem failure_labelled_plain : ∃ req resp left e, disguisedUsers.Fails "b" sentUser req resp left e ∧
    left.body = none ∧
    ∃ entered, disguisedUsers.pipeline.Ends (disguisedUsers.dispatch "b" sentUser) req entered ∧
      entered.body = some (Text.toBytes "Internal server error: no users") ∧
      entered.header? "Content-Type" = some "text/plain" := by
  have hfails : disguisedUsers.Fails "b" sentUser _ _ ⟨201, ∅, none⟩ _ := fails_user rfl (by decide) (by decide) rfl
  obtain ⟨entered, hends, hbody, hplain, -⟩ := failure_labelled_iff hfails rfl
  exact ⟨_, _, _, _, hfails, rfl, entered, hends, hbody, hplain.2 nofun⟩

/-- Means to answer with a document, and fails before it writes one.  An entry looks at the response afterwards. -/
def documentUsers : Dispatcher where
  table := userRoute (fun _ resp => ⟨resp.setHeader "Content-Type" "application/json", some (.handler "broken")⟩)
  pipeline := Pipeline.install {} ⟨.after, .always, fun req resp => (req, resp)⟩
  fallback := .page defaultPage

/-- The text of a failure under the label of a document that was never written. -/
theorem failure_labelled_json : ∃ req resp left e, documentUsers.Fails "a" askedUser req resp left e ∧
    left.body = none ∧
    ∀ entered, documentUsers.pipeline.Ends (documentUsers.dispatch "a" askedUser) req entered →
      entered.body = some (Text.toBytes "Handler error: broken") ∧
      entered.header? "Content-Type" = some "application/json" := by
  have hfails : documentUsers.Fails "a" askedUser _ _
      ⟨200, Dict.ofList [("Content-Type", "application/json")], none⟩ _ :=
    fails_user rfl (by decide) (by decide) rfl
  refine ⟨_, _, _, _, hfails, rfl, fun entered hends => ?_⟩
  have hi : (⟨0, ⟨.after, .always, fun req resp => (req, resp)⟩⟩ : Installed) ∈
      documentUsers.pipeline.after := List.mem_singleton_self _
  obtain rfl := (ends_of_fails hfails).unique hi hends
  exact ⟨rfl, by decide +kernel⟩

end Dispatcher
end PathRouter
