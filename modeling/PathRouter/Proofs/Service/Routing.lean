import Mathlib
import PathRouter.Proofs.Service.Stages
/-!
# What routing hangs on

The route of a request is settled before anything else runs.  It hangs on the routes of the table, on the method that the
name of the method stands for, and on the target up to its first question mark (`resolve_matchers`, `splitUrl_fst`).  So
two dispatches that have these in common report the same route and hand the texts of the same groups to the first stage,
whatever their handlers, entries, headers and bodies are (`routed_alike`).
-/
namespace PathRouter

theorem splitUrl_fst (url : String) : (splitUrl url).1 = String.ofList (url.toList.takeWhile (· != '?')) := by
  unfold splitUrl cutAt
  rw [List.span_eq_takeWhile_dropWhile]
  cases url.toList.dropWhile (· != '?') <;> rfl

namespace RouteTable

/-- The routes of each method without their handlers. -/
def matchers (t : RouteTable) (m : Method) : List Matcher :=
  (t.routesFor m).map (·.matcher.value)

/-- The first route that matches a path, and what its groups took. -/
def firstRoute (ms : List Matcher) (path : String) : Option (Matcher × ParsedRoute) :=
  ms.findSome? (fun m => (m.matchPath path).map (fun parsed => (m, parsed)))

/-- **A request resolves without its handler**: to the first of the routes. -/
theorem resolve_matchers (t : RouteTable) (method path : String) :
    (t.resolve method path).map (fun f => (f.1.matcher.value, f.2)) =
      (Method.ofText? method).bind (fun m => firstRoute (t.matchers m) path) := by
  unfold resolve
  cases Method.ofText? method with
  | none => rfl
  | some m =>
    simp only [Option.bind_some, firstRoute, matchers, List.findSome?_map, List.map_findSome?]
    refine congrArg (List.findSome? · _) (funext fun e => ?_)
    simp [Function.comp_def]

theorem resolve_congr {t t' : RouteTable} {method method' path : String} (hroutes : t.matchers = t'.matchers)
    (hmethod : Method.ofText? method = Method.ofText? method') :
    (t.resolve method path).map (fun f => (f.1.matcher.value, f.2)) =
      (t'.resolve method' path).map (fun f => (f.1.matcher.value, f.2)) := by
  rw [resolve_matchers, resolve_matchers, hroutes, hmethod]

end RouteTable

namespace Dispatcher

theorem route_dispatch (d : Dispatcher) (requestId : String) (inc : Incoming) :
    (d.dispatch requestId inc).outcome.route = (d.found inc).map (fun f => f.1.source) := rfl

/-- **Routing hangs on method and path.**  Take two dispatchers whose tables have the same routes, and two requests whose
methods have names of the same method, or of none, and whose targets are the same up to the first question mark.  Then
both are matched or neither is, by the same route, and their first stages are handed the same texts of its groups, or
none where there is no route. -/
theorem routed_alike (d d' : Dispatcher) (requestId requestId' : String) (inc inc' : Incoming)
    (hroutes : d.table.matchers = d'.table.matchers) (hmethod : Method.ofText? inc.method = Method.ofText? inc'.method)
    (hpath : inc.url.toList.takeWhile (· != '?') = inc'.url.toList.takeWhile (· != '?')) :
    let run := d.dispatch requestId inc
    let run' := d'.dispatch requestId' inc'
    run.outcome.matched = run'.outcome.matched ∧ run.outcome.route = run'.outcome.route ∧
    (∃ first req resp, d.pipeline.Begins run first req resp) ∧
    (∃ first' req' resp', d'.pipeline.Begins run' first' req' resp') ∧
    ∀ first req resp, d.pipeline.Begins run first req resp →
      ∀ first' req' resp', d'.pipeline.Begins run' first' req' resp' →
        first.urlParams = first'.urlParams ∧ first.splat = first'.splat ∧
        (run.outcome.matched = false → first.urlParams = ∅ ∧ first.splat = []) := by
  intro run run'
  have hfound : (d.found inc).map (fun f => (f.1.matcher.value, f.2)) =
      (d'.found inc').map (fun f => (f.1.matcher.value, f.2)) := by
    have hsplit : (splitUrl inc.url).1 = (splitUrl inc'.url).1 := by rw [splitUrl_fst, splitUrl_fst, hpath]
    unfold found
    rw [hsplit]
    exact RouteTable.resolve_congr hroutes hmethod
  have hparsed : (d.found inc).map (·.2) = (d'.found inc').map (·.2) := by
    have h := congrArg (Option.map Prod.snd) hfound
    simpa [Function.comp_def] using h
  have hroute : run.outcome.route = run'.outcome.route := by
    have h := congrArg (Option.map (fun f => f.1.pattern.source)) hfound
    simpa [Function.comp_def, run, run', route_dispatch, RouteEntry.source] using h
  have hmatched : run.outcome.matched = run'.outcome.matched := congrArg Option.isSome hroute
  refine ⟨hmatched, hroute, ⟨_, _, _, (d.begins_dispatch_iff requestId inc).2 ⟨rfl, rfl, rfl⟩⟩,
    ⟨_, _, _, (d'.begins_dispatch_iff requestId' inc').2 ⟨rfl, rfl, rfl⟩⟩, ?_⟩
  intro first req resp hbegins first' req' resp' hbegins'
  obtain ⟨rfl, -, -⟩ := (d.begins_dispatch_iff requestId inc).1 hbegins
  obtain ⟨rfl, -, -⟩ := (d'.begins_dispatch_iff requestId' inc').1 hbegins'
  rw [← hparsed]
  refine ⟨rfl, rfl, fun hunmatched => ?_⟩
  have hnone : d.found inc = none := by
    have h : ((d.found inc).map (fun f => f.1.source)).isSome = false := hunmatched
    simpa using h
  rw [hnone]
  exact ⟨rfl, rfl⟩

/-- A route with a group that has a name and one that has none. -/
def userMatcher : Matcher :=
  let regex : Regex := .cat (.assert .textStart) (.cat (.one (.single '/'))
    (.cat (.group 1 (some "id") (.plus (.one (.range '0' '9')) true)) (.cat (.one (.single '/'))
      (.cat (.group 2 none (.star (.one (.range 'a' 'z')) true)) (.assert .textEnd)))))
  ⟨.regex "/(?<id>[0-9]+)/([a-z]*)",
    ⟨"^(?:/(?<id>[0-9]+)/([a-z]*))$", regex, regex.groupNames, regex.program.toArray⟩⟩

def userRoute (handler : Handler) : RouteTable :=
  RouteTable.push {} .get ⟨0, ⟨0, userMatcher⟩, handler⟩

def userParsed : ParsedRoute := ⟨Dict.ofList [("id", "7")], ["x"], ["/7/x", "7", "x"]⟩

theorem found_user (d : Dispatcher) (inc : Incoming) {handler : Handler} (htable : d.table = userRoute handler)
    (hget : Method.ofText? inc.method = some .get) (hpath : (splitUrl inc.url).1 = "/7/x") :
    d.found inc = some (⟨0, ⟨0, userMatcher⟩, handler⟩, userParsed) := by
  have hmatch : userMatcher.matchPath "/7/x" = some userParsed := by cbv
  simp [found, RouteTable.resolve, htable, hpath, hget, userRoute, RouteTable.routesFor, RouteTable.push, hmatch]

def plainUsers : Dispatcher where
  table := userRoute (fun _ resp => ⟨resp.writeText "found", none⟩)
  pipeline := {}
  fallback := .page defaultPage

/-- Forgets what routing found and passes the request off as another one. -/
def disguise : Middleware where
  stage := .before
  applies := .always
  apply req resp := ({ req with method := "DELETE", path := "/", urlParams := ∅, splat := [] }, resp.setStatus .created)

def disguisedUsers : Dispatcher where
  table := userRoute (fun _ resp => ⟨resp, some (.internal "no users")⟩)
  pipeline := Pipeline.install {} disguise
  fallback := .handler (fun _ resp => ⟨resp, none⟩)

def askedUser : Incoming := { method := "get", url := "/7/x?sort=asc" }

def sentUser : Incoming := { method := "GET", url := "/7/x", headers := Dict.ofList [("X-Id", "8")], body := [56] }

theorem routed_alike_disguised : (Matcher.ofRegex "/(?<id>[0-9]+)/([a-z]*)").toOption = some userMatcher ∧
    plainUsers.table.matchers = disguisedUsers.table.matchers ∧
    (disguisedUsers.dispatch "b" sentUser).outcome.route = some "/(?<id>[0-9]+)/([a-z]*)" ∧
    ∀ first req resp, disguisedUsers.pipeline.Begins (disguisedUsers.dispatch "b" sentUser) first req resp →
      first.urlParams = Dict.ofList [("id", "7")] ∧ first.splat = ["x"] := by
  have hfound := found_user plainUsers askedUser rfl (by decide) (by decide)
  have hroutes : plainUsers.table.matchers = disguisedUsers.table.matchers := funext fun m => by cases m <;> rfl
  obtain ⟨-, hroute, ⟨first, req, resp, hbegins⟩, -, hsame⟩ :=
    routed_alike plainUsers disguisedUsers "a" "b" askedUser sentUser hroutes (by decide) (by decide)
  refine ⟨by decide +kernel, hroutes, ?_, fun first' req' resp' hbegins' => ?_⟩
  · rw [← hroute, route_dispatch, hfound]
    rfl
  · obtain ⟨hparams, hsplat, -⟩ := hsame first req resp hbegins first' req' resp' hbegins'
    obtain ⟨rfl, -, -⟩ := (plainUsers.begins_dispatch_iff "a" askedUser).1 hbegins
    rw [← hparams, ← hsplat, hfound]
    exact ⟨rfl, rfl⟩

end Dispatcher
end PathRouter
