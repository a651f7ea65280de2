import PathRouter.Service.Dispatch
/-!
# What one dispatch does

A dispatch runs to its end whatever its handlers and entries do.  Specification of a stage first (`Pipeline.StageRuns`):
all entries are asked about one request and response, then those that said yes run once each, every one on what the one
before left (`Pipeline.Threads`).  Then the acts of a dispatch, which its parts add one after the other (`acts_dispatch`).

The main statement is `dispatch_runs_once`: one handler, once, between the two stages, and then the response goes to the
transport.
-/
namespace PathRouter

namespace Pipeline

/-- **Entries run one after the other**: each once, on the request and response that the one before left. -/
inductive Threads : List Installed → Request → Response → List Visit → Request → Response → Prop
  | done {req : Request} {resp : Response} : Threads [] req resp [] req resp
  | step {i : Installed} {rest : List Installed} {vs : List Visit} {req req' req'' : Request}
      {resp resp' resp'' : Response} : i.entry.apply req resp = (req', resp') →
      Threads rest req' resp' vs req'' resp'' →
      Threads (i :: rest) req resp (⟨i.number, req, resp⟩ :: vs) req'' resp''

/-- **A stage**, as the acts that belong to it: every entry that is installed for it is asked about `req` and `resp`,
before any of them runs, and those that answer yes run in order and leave `req'` and `resp'`. -/
def StageRuns (is : List Installed) (s : Stage) (req : Request) (resp : Response) (acts : List Act) (req' : Request)
    (resp' : Response) : Prop :=
  ∃ vs, acts = is.map (fun i => .question s ⟨⟨i.number, req, resp⟩, i.entry.applies req resp⟩) ++
      vs.map (fun v => .event (.middleware s v)) ∧
    Threads (is.filter (fun i => i.entry.applies req resp)) req resp vs req' resp'

theorem threads_runEntries : ∀ (is : List Installed) (req : Request) (resp : Response),
    Threads is req resp (runEntries req resp is).1 (runEntries req resp is).2.1 (runEntries req resp is).2.2
  | [], _, _ => .done
  | _ :: is, _, _ => .step rfl (threads_runEntries is _ _)

/-- The first entry that runs gets what the stage was given. -/
theorem Threads.head {is : List Installed} {req req' : Request} {resp resp' : Response} {vs : List Visit}
    (h : Threads is req resp vs req' resp') : ∀ v ∈ vs.head?, v.request = req ∧ v.response = resp := by
  cases h with
  | done => intro v hv; cases hv
  | step _ _ =>
    intro v hv
    cases hv
    exact ⟨rfl, rfl⟩

theorem stageRuns_runStage (p : Pipeline) (s : Stage) (req : Request) (resp : Response) :
    StageRuns (p.entries s) s req resp ((p.runStage s req resp).acts s) (p.runStage s req resp).request
      (p.runStage s req resp).response := by
  refine ⟨(p.runStage s req resp).visits, ?_, threads_runEntries _ req resp⟩
  show (p.ask s req resp).map _ ++ _ = _
  rw [ask, List.map_map]
  rfl

end Pipeline

namespace Act

def stage? : Act → Option Stage
  | .question s _ | .event (.middleware s _) => some s
  | _ => none

def isHandler : Act → Bool
  | .event (.handler _ _ _) => true
  | _ => false

end Act

/-- The acts of a run that belong to a stage. -/
def Run.ofStage (r : Run) (s : Stage) : List Act :=
  r.acts.filter (fun a => a.stage? == some s)

def Event.visit? (s : Stage) : Event → Option Visit
  | .middleware s' v => if s' = s then some v else none
  | _ => none

def Run.visits (r : Run) (s : Stage) : List Visit :=
  r.events.filterMap (Event.visit? s)

theorem stage?_of_mem_acts {s : Stage} {r : StageRun} {a : Act} (h : a ∈ r.acts s) : a.stage? = some s := by
  rcases List.mem_append.1 h with h | h
  · obtain ⟨q, -, rfl⟩ := List.mem_map.1 h
    rfl
  · obtain ⟨v, -, rfl⟩ := List.mem_map.1 h
    rfl

theorem isHandler_of_stage? {s : Stage} {a : Act} (h : a.stage? = some s) : a.isHandler = false := by
  unfold Act.stage? at h
  split at h
  · rfl
  · rfl
  · cases h

namespace StageRun

theorem filter_acts (r : StageRun) (s : Stage) : (r.acts s).filter (fun a => a.stage? == some s) = r.acts s :=
  List.filter_eq_self.2 (fun _ ha => by rw [stage?_of_mem_acts ha]; exact beq_self_eq_true _)

theorem filter_acts_of_ne (r : StageRun) {s s' : Stage} (h : s ≠ s') :
    (r.acts s).filter (fun a => a.stage? == some s') = [] :=
  List.filter_eq_nil_iff.2 (fun _ ha => by rw [stage?_of_mem_acts ha]; simpa using h)

theorem event?_acts (r : StageRun) (s : Stage) : (r.acts s).filterMap Act.event? = r.visits.map (.middleware s) := by
  have hquestions : r.questions.filterMap (Act.event? ∘ .question s) = [] :=
    List.filterMap_eq_nil_iff.2 (fun _ _ => rfl)
  rw [acts, List.filterMap_append, List.filterMap_map, List.filterMap_map, hquestions, List.nil_append]
  exact congrFun List.filterMap_eq_map r.visits

theorem call?_acts (r : StageRun) (s : Stage) : (r.acts s).filterMap Act.call? = [] := by
  refine List.filterMap_eq_nil_iff.2 (fun a ha => ?_)
  have hstage := stage?_of_mem_acts ha
  cases a with
  | call c => cases hstage
  | _ => rfl

end StageRun

theorem event?_calls (cs : List SinkCall) : (cs.map Act.call).filterMap Act.event? = [] := by
  rw [List.filterMap_map]
  exact List.filterMap_eq_nil_iff.2 (fun _ _ => rfl)

theorem call?_calls (cs : List SinkCall) : (cs.map Act.call).filterMap Act.call? = cs := by
  rw [List.filterMap_map]
  exact List.filterMap_some

theorem state?_visits (s : Stage) (vs : List Visit) : (vs.map (Event.middleware s)).filterMap Event.state? = [] := by
  rw [List.filterMap_map]
  exact List.filterMap_eq_nil_iff.2 (fun _ _ => rfl)

theorem visit?_visits (s s' : Stage) (vs : List Visit) :
    (vs.map (Event.middleware s)).filterMap (Event.visit? s') = if s = s' then vs else [] := by
  rw [List.filterMap_map]
  split
  · rename_i h
    subst h
    have hsome : Event.visit? s ∘ Event.middleware s = some := funext (fun v => if_pos rfl)
    rw [hsome, List.filterMap_some]
  · rename_i h
    exact List.filterMap_eq_nil_iff.2 (fun _ _ => if_neg h)

/-! ## The parts of a dispatch -/

theorem run_reach (s : DispatchState) (acts : List Act) :
    (reach s).run acts = pure ((), acts ++ [.event (.state s)]) := rfl

theorem Response.run_writeTo (r : Response) (acts : List Act) :
    r.writeTo.run acts = pure ((), acts ++ r.calls.map .call) := rfl

theorem Pipeline.run_perform (p : Pipeline) (s : Stage) (req : Request) (resp : Response) (acts : List Act) :
    (p.perform s req resp).run acts =
      pure (((p.runStage s req resp).request, (p.runStage s req resp).response),
        acts ++ (p.runStage s req resp).acts s) := rfl

namespace Dispatcher

variable (d : Dispatcher) (requestId : String) (inc : Incoming)

/-- The route of a request. -/
def found : Option (RouteEntry × ParsedRoute) :=
  d.table.resolve inc.method (splitUrl inc.url).1

/-- The handler of a request. -/
def handlerOf : Handler :=
  (d.handlerFor (d.found inc)).2

/-- How the first stage goes. -/
def firstStage : StageRun :=
  d.pipeline.runStage .before (inc.toRequest requestId ((d.found inc).map (·.2))) {}

/-- How the second stage goes. -/
def secondStage : StageRun :=
  d.pipeline.runStage .after (d.firstStage requestId inc).request
    (d.handlerOf inc (d.firstStage requestId inc).request (d.firstStage requestId inc).response).settle

def actsBefore : List Act :=
  .event (.state .received) :: .event (.state (if (d.found inc).isSome then .matched else .unmatched)) ::
    .event (.state .preMiddleware) :: (d.firstStage requestId inc).acts .before

def handlerAct : Act :=
  .event (.handler (d.handlerFor (d.found inc)).1 (d.firstStage requestId inc).request
    (d.firstStage requestId inc).response)

def actsAfter : List Act :=
  .event (.state .handled) :: .event (.state .postMiddleware) :: ((d.secondStage requestId inc).acts .after ++
    ((d.secondStage requestId inc).response.calls.map Act.call ++ [.event (.state .finalized)]))

theorem run_answer (found : Option (RouteEntry × ParsedRoute)) (req : Request) (resp : Response) (acts : List Act) :
    (d.answer found req resp).run acts = pure (((d.handlerFor found).2 req resp).settle,
      acts ++ [.event (.handler (d.handlerFor found).1 req resp)]) := rfl

/-- **The acts of a dispatch**, as its parts add them one after the other. -/
theorem acts_dispatch : (d.dispatch requestId inc).acts =
    d.actsBefore requestId inc ++ d.handlerAct requestId inc :: d.actsAfter requestId inc := by
  -- The parts are run one by one; each hands the acts so far to the next.
  simp only [dispatch, process, StateT.run_bind, StateT.run_pure, run_reach, Pipeline.run_perform, run_answer,
    Response.run_writeTo, pure_bind]
  simp only [actsBefore, handlerAct, actsAfter, firstStage, secondStage, handlerOf, found, List.append_assoc,
    List.cons_append, List.nil_append]
  rfl

/-- Before the handler no other one runs, and nothing of the second stage. -/
theorem of_mem_actsBefore {a : Act} (h : a ∈ d.actsBefore requestId inc) :
    a.isHandler = false ∧ a.stage? ≠ some .after := by
  simp only [actsBefore, List.mem_cons] at h
  rcases h with rfl | rfl | rfl | h
  · exact ⟨rfl, nofun⟩
  · exact ⟨rfl, nofun⟩
  · exact ⟨rfl, nofun⟩
  · have hs := stage?_of_mem_acts h
    exact ⟨isHandler_of_stage? hs, by rw [hs]; decide⟩

theorem of_mem_actsAfter {a : Act} (h : a ∈ d.actsAfter requestId inc) :
    a.isHandler = false ∧ a.stage? ≠ some .before := by
  simp only [actsAfter, List.mem_cons, List.mem_append, List.not_mem_nil, or_false] at h
  rcases h with rfl | rfl | h | h | rfl
  · exact ⟨rfl, nofun⟩
  · exact ⟨rfl, nofun⟩
  · have hs := stage?_of_mem_acts h
    exact ⟨isHandler_of_stage? hs, by rw [hs]; decide⟩
  · obtain ⟨c, -, rfl⟩ := List.mem_map.1 h
    exact ⟨rfl, nofun⟩
  · exact ⟨rfl, nofun⟩

theorem ofStage_before_dispatch :
    (d.dispatch requestId inc).ofStage .before = (d.firstStage requestId inc).acts .before := by
  have hpost := (d.secondStage requestId inc).filter_acts_of_ne (show Stage.after ≠ .before by decide)
  simp only [Run.ofStage, acts_dispatch, actsBefore, handlerAct, actsAfter, List.filter_append, List.filter_cons,
    StageRun.filter_acts, hpost, List.filter_map]
  simp [Act.stage?, Function.comp_def]

theorem ofStage_after_dispatch :
    (d.dispatch requestId inc).ofStage .after = (d.secondStage requestId inc).acts .after := by
  have hpre := (d.firstStage requestId inc).filter_acts_of_ne (show Stage.before ≠ .after by decide)
  simp only [Run.ofStage, acts_dispatch, actsBefore, handlerAct, actsAfter, List.filter_append, List.filter_cons,
    StageRun.filter_acts, hpre, List.filter_map]
  simp [Act.stage?, Function.comp_def]

theorem events_dispatch : (d.dispatch requestId inc).events =
    .state .received :: .state (if (d.found inc).isSome then .matched else .unmatched) :: .state .preMiddleware ::
      ((d.firstStage requestId inc).visits.map (Event.middleware .before) ++
        .handler (d.handlerFor (d.found inc)).1 (d.firstStage requestId inc).request
          (d.firstStage requestId inc).response :: .state .handled :: .state .postMiddleware ::
          ((d.secondStage requestId inc).visits.map (Event.middleware .after) ++ [.state .finalized])) := by
  simp only [Run.events, acts_dispatch, actsBefore, handlerAct, actsAfter, List.filterMap_append, List.filterMap_cons,
    List.filterMap_nil, Act.event?, StageRun.event?_acts, event?_calls, List.cons_append, List.nil_append]

theorem calls_dispatch : (d.dispatch requestId inc).calls = (d.secondStage requestId inc).response.calls := by
  simp only [Run.calls, acts_dispatch, actsBefore, handlerAct, actsAfter, List.filterMap_append, List.filterMap_cons,
    List.filterMap_nil, Act.call?, StageRun.call?_acts, call?_calls, List.append_nil, List.nil_append]

theorem states_dispatch : (d.dispatch requestId inc).states =
    [.received, if (d.found inc).isSome then .matched else .unmatched, .preMiddleware, .handled, .postMiddleware,
      .finalized] := by
  simp only [Run.states, events_dispatch, List.filterMap_append, List.filterMap_cons, List.filterMap_nil, Event.state?,
    state?_visits, List.nil_append]

theorem visits_after_dispatch :
    (d.dispatch requestId inc).visits .after = (d.secondStage requestId inc).visits := by
  simp only [Run.visits, events_dispatch, List.filterMap_append, List.filterMap_cons, List.filterMap_nil, Event.visit?,
    visit?_visits, if_true, List.append_nil, List.nil_append, reduceCtorEq, if_false]

theorem handler_mem_dispatch_iff {name : HandlerName} {req : Request} {resp : Response} :
    .event (.handler name req resp) ∈ (d.dispatch requestId inc).acts ↔ name = (d.handlerFor (d.found inc)).1 ∧
      req = (d.firstStage requestId inc).request ∧ resp = (d.firstStage requestId inc).response := by
  have hbefore : Act.event (.handler name req resp) ∉ d.actsBefore requestId inc := fun h =>
    Bool.noConfusion (d.of_mem_actsBefore requestId inc h).1
  have hafter : Act.event (.handler name req resp) ∉ d.actsAfter requestId inc := fun h =>
    Bool.noConfusion (d.of_mem_actsAfter requestId inc h).1
  rw [acts_dispatch, List.mem_append, List.mem_cons, handlerAct]
  simp [hbefore, hafter]

/-! ## The whole run -/

/-- **Who answers**: the handler of the route that was found, or else the fallback. -/
def Answers (d : Dispatcher) (found : Option (RouteEntry × ParsedRoute)) (name : HandlerName) (handler : Handler) :
    Prop :=
  match found with
  | some (e, _) => name = .registered e.registration ∧ handler = e.handler
  | none => (name = .notFound ∨ name = .page) ∧ handler = d.fallback.run

theorem answers_handlerFor (found : Option (RouteEntry × ParsedRoute)) :
    d.Answers found (d.handlerFor found).1 (d.handlerFor found).2 := by
  unfold handlerFor Answers
  cases found with
  | some f => exact ⟨rfl, rfl⟩
  | none => cases hf : d.fallback <;> simp

/-- **Dispatch runs to its end, once.**  Whatever the table, the entries and the handlers, one handler runs, and once:
that of the route that the method and the path resolve to, or else the fallback.  Before it stand all acts of the first
stage and after it, from the first question on, all acts of the second.  The second stage starts with the request that
the first one left, which is also what the handler saw, and with the response that the handler's end stands for.  The
states follow each other in one order, the transport is given one head, one body and the end, and the summary tells what
was resolved and sent. -/
theorem dispatch_runs_once (d : Dispatcher) (requestId : String) (inc : Incoming) :
    let found := d.table.resolve inc.method (splitUrl inc.url).1
    let run := d.dispatch requestId inc
    ∃ (name : HandlerName) (handler : Handler) (req last : Request) (resp final : Response) (before after : List Act),
      d.Answers found name handler ∧
      run.acts = before ++ .event (.handler name req resp) :: after ∧
      (∀ a ∈ before, a.isHandler = false ∧ a.stage? ≠ some .after) ∧
      (∀ a ∈ after, a.isHandler = false ∧ a.stage? ≠ some .before) ∧
      Pipeline.StageRuns d.pipeline.before .before (inc.toRequest requestId (found.map (·.2))) {} (run.ofStage .before)
        req resp ∧
      Pipeline.StageRuns d.pipeline.after .after req (handler req resp).settle (run.ofStage .after) last final ∧
      (∀ v ∈ (run.visits .after).head?, v.request = req) ∧
      run.states = [.received, if found.isSome then .matched else .unmatched, .preMiddleware, .handled, .postMiddleware,
        .finalized] ∧
      run.calls = [.head run.outcome.status final.finalHeaders, .body final.content, .finish] ∧
      (run.outcome.matched = true ↔ found.isSome = true) ∧ run.outcome.route = found.map (·.1.source) := by
  intro found run
  let pre := d.firstStage requestId inc
  let post := d.secondStage requestId inc
  refine ⟨(d.handlerFor found).1, (d.handlerFor found).2, pre.request, post.request, pre.response, post.response,
    d.actsBefore requestId inc, d.actsAfter requestId inc, d.answers_handlerFor found, d.acts_dispatch requestId inc,
    fun _ ha => d.of_mem_actsBefore requestId inc ha, fun _ ha => d.of_mem_actsAfter requestId inc ha, ?first, ?second,
    ?head, d.states_dispatch requestId inc, d.calls_dispatch requestId inc, Iff.of_eq ?matched, rfl⟩
  case first =>
    rw [ofStage_before_dispatch]
    exact d.pipeline.stageRuns_runStage .before _ _
  case second =>
    rw [ofStage_after_dispatch]
    exact d.pipeline.stageRuns_runStage .after _ _
  case head =>
    rw [visits_after_dispatch]
    exact fun v hv => ((Pipeline.threads_runEntries _ _ _).head v hv).1
  case matched =>
    show (Option.isSome (found.map _) = true) = _
    rw [Option.isSome_map]

end Dispatcher
end PathRouter
