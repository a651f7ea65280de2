import PathRouter.Proofs.Http.Edits
import PathRouter.Proofs.Service.Build
import PathRouter.Proofs.Service.Stages
import PathRouter.Proofs.Text.Filling
import PathRouter.Settings.Load
/-!
# Requests without a route

A service is set up by calls and by settings that are put to use, in any order.  Settings amount to a call that sets their
page, so what counts in the end is the last page and the last handler (`ofSteps_eq_ofCalls`, `fallback_ofCalls`).

The main statement is `unmatched_answered`: a request without a route gets the page with its holes filled, in one go, or
else it goes to the handler, and then no page makes any difference.
-/
namespace PathRouter

/-- **The page for a path** has the path in every hole, and the path is not read for holes of its own. -/
theorem filled_page_iff {page path text : String} :
    Text.Filled pagePlaceholder.toList path.toList page.toList text.toList ↔ text = renderPage page path := by
  have hplaceholder : pagePlaceholder.toList = '$' :: ['\x7b', 'p', 'a', 'g', 'e', '\x7d'] := by decide +kernel
  have hborder : Text.Unbordered pagePlaceholder.toList := by
    rw [hplaceholder]
    exact Text.unbordered_cons (by decide)
  rw [Text.filled_iff (by simp [hplaceholder]) hborder, renderPage, ← String.toList_inj, String.toList_ofList]

/-! ## Setting up -/

/-- The page that settings name: the page itself, or else the text of its file. -/
def Settings.namedPage? (s : Settings) (files : Snapshot) : Option String :=
  s.router.notFoundTemplate.or
    (s.router.notFoundTemplateFile.bind (fun path => (files.readText (.ofText path)).toOption))

theorem Settings.namedPage?_of_ok {s : Settings} {files : Snapshot} {page : Option String}
    (h : s.notFoundPage files = .ok page) : s.namedPage? files = page := by
  unfold notFoundPage at h
  unfold namedPage?
  split at h
  · rename_i hpage
    rw [hpage]
    exact Except.ok.inj h
  · rename_i hpage hfile
    rw [hpage, hfile]
    exact Except.ok.inj h
  · rename_i hpage hfile
    rw [hpage, hfile, Option.none_or, Option.bind_some]
    split at h
    · cases h
    · rename_i htext
      rw [htext]
      exact Except.ok.inj h

/-- A step in setting up a service: a call, or settings that are put to use. -/
inductive SetupStep where
  | call (c : BuilderCall)
  | settings (s : Settings) (files : Snapshot)

namespace SetupStep

def apply (s : Service) : SetupStep → Except SettingsError Service
  | .call c => .ok (c.apply s)
  | .settings chosen files => chosen.apply files s

/-- The call that a step amounts to, if it does anything. -/
def call? : SetupStep → Option BuilderCall
  | .call c => some c
  | .settings chosen files => (chosen.namedPage? files).map .setNotFoundPage

end SetupStep

/-- The service that the steps set up, unless settings among them cannot be put to use. -/
def Service.ofSteps (steps : List SetupStep) : Except SettingsError Service :=
  steps.foldlM SetupStep.apply {}

namespace BuilderCall

def page? : BuilderCall → Option String
  | .setNotFoundPage page => some page
  | _ => none

def handler? : BuilderCall → Option Handler
  | .setNotFound h => some h
  | _ => none

/-- The page that is left by calls, which is the default page where none is set. -/
def lastPage (calls : List BuilderCall) : String :=
  (calls.filterMap page?).getLast?.getD defaultPage

/-- The handler that is left by calls. -/
def lastHandler? (calls : List BuilderCall) : Option Handler :=
  (calls.filterMap handler?).getLast?

/-- The calls that set no page. -/
def withoutPages (calls : List BuilderCall) : List BuilderCall :=
  calls.filter (fun c => c.page?.isNone)

variable (s : Service) (c : BuilderCall)

theorem notFoundPage_apply : (c.apply s).notFoundPage = c.page?.or s.notFoundPage := by
  cases c with
  | register c => cases c <;> rfl
  | _ => rfl

theorem notFound_apply : (c.apply s).notFound = c.handler?.or s.notFound := by
  cases c with
  | register c => cases c <;> rfl
  | _ => rfl

/-- A call does the same to a service with another page, unless it sets the page. -/
theorem apply_clearPage : { c.apply s with notFoundPage := none } =
    if c.page?.isNone then c.apply { s with notFoundPage := none } else { s with notFoundPage := none } := by
  cases c with
  | register c => cases c <;> rfl
  | _ => rfl

end BuilderCall

namespace Service

open BuilderCall (lastPage lastHandler? withoutPages)

theorem apply_step_ok {st : SetupStep} {s s' : Service} (h : st.apply s = .ok s') :
    s' = st.call?.elim s (BuilderCall.apply s) := by
  cases st with
  | call c => exact (Except.ok.inj h).symm
  | settings chosen files =>
    have happly : (chosen.notFoundPage files).map (fun page => page.elim s s.setNotFoundPage) = .ok s' := h
    cases hpage : chosen.notFoundPage files with
    | error e =>
      rw [hpage] at happly
      cases happly
    | ok page =>
      rw [hpage] at happly
      rw [SetupStep.call?, Settings.namedPage?_of_ok hpage, ← Except.ok.inj happly]
      cases page <;> rfl

theorem foldlM_apply_ok : ∀ {steps : List SetupStep} {s s' : Service}, steps.foldlM SetupStep.apply s = .ok s' →
    s' = (steps.filterMap SetupStep.call?).foldl BuilderCall.apply s
  | [], _, _, h => (Except.ok.inj h).symm
  | st :: steps, s, s', h => by
    obtain ⟨s₁, hst, hrest⟩ := foldlM_cons_eq_ok.1 h
    rw [foldlM_apply_ok hrest, apply_step_ok hst, List.filterMap_cons]
    cases st.call? <;> rfl

/-- **Settings are one more call**, wherever they stand among the steps. -/
theorem ofSteps_eq_ofCalls {steps : List SetupStep} {s : Service} (h : ofSteps steps = .ok s) :
    s = ofCalls (steps.filterMap SetupStep.call?) :=
  foldlM_apply_ok h

theorem fallback_ofCalls (calls : List BuilderCall) : (ofCalls calls).fallback =
    match lastHandler? calls with
    | some h => .handler h
    | none => .page (lastPage calls) := by
  have hhandler := foldl_last Service.notFound BuilderCall.handler? BuilderCall.notFound_apply calls {}
  have hpage := foldl_last Service.notFoundPage BuilderCall.page? BuilderCall.notFoundPage_apply calls {}
  rw [Option.or_none] at hhandler hpage
  unfold fallback ofCalls lastHandler? lastPage
  rw [hhandler, hpage]
  cases (calls.filterMap BuilderCall.handler?).getLast? with
  | some h => rfl
  | none => cases (calls.filterMap BuilderCall.page?).getLast? <;> rfl

theorem foldl_clearPage : ∀ (calls : List BuilderCall) (s : Service),
    { calls.foldl BuilderCall.apply s with notFoundPage := none } =
      (withoutPages calls).foldl BuilderCall.apply { s with notFoundPage := none }
  | [], _ => rfl
  | c :: calls, s => by
    rw [List.foldl_cons, foldl_clearPage calls, BuilderCall.apply_clearPage, withoutPages, withoutPages,
      List.filter_cons]
    split <;> rfl

theorem build_clearPage {s : Service} (h : s.notFound.isSome = true) :
    Service.build { s with notFoundPage := none } = s.build := by
  obtain ⟨handler, hhandler⟩ := Option.isSome_iff_exists.1 h
  simp only [build, pending, fallback, hhandler]

/-- **A handler makes pages idle**: a service with one is built as if no page had been set. -/
theorem build_withoutPages {calls : List BuilderCall} {h : Handler} (hlast : lastHandler? calls = some h) :
    (ofCalls calls).build = (ofCalls (withoutPages calls)).build := by
  have hhandler := foldl_last Service.notFound BuilderCall.handler? BuilderCall.notFound_apply calls {}
  rw [Option.or_none] at hhandler
  have hset : (ofCalls calls).notFound = some h := hhandler.trans hlast
  rw [← build_clearPage (Option.isSome_iff_exists.2 ⟨h, hset⟩)]
  exact congrArg build (foldl_clearPage calls {})

theorem parts_of_build {s : Service} {d : Dispatcher} (h : s.build = .ok d) :
    d.pipeline = s.pipeline ∧ d.fallback = s.fallback := by
  unfold build at h
  split at h
  · cases h
  · obtain rfl := Except.ok.inj h
    exact ⟨rfl, rfl⟩

end Service

/-! ## Answering -/

namespace Dispatcher

variable {d : Dispatcher} {inc : Incoming}

theorem handlerFor_page {page : String} (hfallback : d.fallback = .page page) :
    d.handlerFor none = (.page, Fallback.run (.page page)) := by
  simp [handlerFor, hfallback]

theorem handlerFor_handler {h : Handler} (hfallback : d.fallback = .handler h) :
    d.handlerFor none = (.notFound, h) := by
  simp only [handlerFor, hfallback]
  rfl

/-- **A request without a route.**  Take any steps that set up a service, and a request without a route in what is built.
Its first stage begins without texts of groups.  Without a handler among the steps the page is given, the last that was
set or else the default: the second stage begins with status 404 and with the one text that has the path, as the first
stage left it, in every hole of the page.  With a handler among the steps the last one is given the request, and the
dispatcher is the same that the steps without pages would make. -/
theorem unmatched_answered {steps : List SetupStep} {s : Service} (hsteps : Service.ofSteps steps = .ok s)
    (hbuild : s.build = .ok d) (hnone : d.table.resolve inc.method (splitUrl inc.url).1 = none) (requestId : String) :
    let calls := steps.filterMap SetupStep.call?
    let run := d.dispatch requestId inc
    ∃ first req resp entered, d.pipeline.Begins run first req resp ∧ first.urlParams = ∅ ∧ first.splat = [] ∧
      d.pipeline.Ends run req entered ∧
      (∀ q, .question .after q ∈ run.acts → q.about.request = req ∧ q.about.response = entered) ∧
      (BuilderCall.lastHandler? calls = none →
        (∀ name req' resp', .event (.handler name req' resp') ∈ run.acts ↔ name = .page ∧ req' = req ∧ resp' = resp) ∧
        entered.status = 404 ∧
        ∃ text, entered.body = some (Text.toBytes text) ∧ ∀ t : String,
          Text.Filled pagePlaceholder.toList req.path.toList (BuilderCall.lastPage calls).toList t.toList ↔ t = text) ∧
      (∀ h, BuilderCall.lastHandler? calls = some h →
        (∀ name req' resp', .event (.handler name req' resp') ∈ run.acts ↔
          name = .notFound ∧ req' = req ∧ resp' = resp) ∧
        entered = (h req resp).settle ∧ s.build = (Service.ofCalls (BuilderCall.withoutPages calls)).build) := by
  intro calls run
  have hfallback : d.fallback = _ := (Service.parts_of_build hbuild).2.trans
    ((congrArg Service.fallback (Service.ofSteps_eq_ofCalls hsteps)).trans (Service.fallback_ofCalls calls))
  have hfound : d.found inc = none := hnone
  have hends := d.ends_dispatch requestId inc
  have hhandler : ∀ name req resp, .event (.handler name req resp) ∈ run.acts ↔ name = (d.handlerFor none).1 ∧
      req = (d.firstStage requestId inc).request ∧ resp = (d.firstStage requestId inc).response := fun _ _ _ => by
    rw [← hfound]
    exact d.handler_mem_dispatch_iff requestId inc
  unfold handlerOf at hends
  rw [hfound] at hends
  refine ⟨_, _, _, _, (d.begins_dispatch_iff requestId inc).2 ⟨rfl, rfl, rfl⟩, ?_, ?_, hends,
    fun q hq => hends.asked hq, fun hpage => ?_, fun h hlast => ?_⟩
  · rw [hfound]
    rfl
  · rw [hfound]
    rfl
  · rw [hpage] at hfallback
    rw [handlerFor_page hfallback] at hhandler ⊢
    exact ⟨hhandler, rfl, _, rfl, fun _ => filled_page_iff⟩
  · rw [hlast] at hfallback
    rw [handlerFor_handler hfallback] at hhandler ⊢
    refine ⟨hhandler, rfl, ?_⟩
    rw [Service.ofSteps_eq_ofCalls hsteps]
    exact Service.build_withoutPages hlast

/-- Leads requests to a path that looks like a hole, with a response that is already there. -/
def stray : Middleware where
  stage := .before
  applies := .always
  apply req resp := ({ req with path := "/$\x7bpage\x7d" }, (resp.setStatus .created).writeText "here")

/-- The page is set by a call and then by settings. -/
def straySteps : List SetupStep :=
  [.call (.setNotFoundPage "gone"), .call (.register (.on .post "/gone" (fun _ resp => ⟨resp, none⟩))),
    .settings { router := { notFoundTemplate := some "$\x7bpage\x7d $$\x7bpage\x7d\x7d $\x7bpag" } } {},
    .call (.install stray)]

def strayRequest : Incoming := { method := "get", url := "/gone?page" }

theorem unmatched_stray : ∃ s d, Service.ofSteps straySteps = .ok s ∧ s.build = .ok d ∧
    d.table.resolve strayRequest.method (splitUrl strayRequest.url).1 = none ∧
    ∃ req entered, d.pipeline.Ends (d.dispatch "a" strayRequest) req entered ∧ req.path = "/$\x7bpage\x7d" ∧
      entered.status = 404 ∧
      entered.body = some (Text.toBytes "/$\x7bpage\x7d $/$\x7bpage\x7d\x7d $\x7bpag") := by
  let s := Service.ofCalls (straySteps.filterMap SetupStep.call?)
  have hsteps : Service.ofSteps straySteps = .ok s := rfl
  cases hbuild : s.build with
  | error e =>
    have hok : s.build.toOption.isSome = true := by decide +kernel
    rw [hbuild] at hok
    cases hok
  | ok d =>
    have hnone : d.table.resolve strayRequest.method (splitUrl strayRequest.url).1 = none := by
      have hresolve : s.build.toOption.map (fun d =>
          (d.table.resolve strayRequest.method (splitUrl strayRequest.url).1).isNone) = some true := by decide +kernel
      rw [hbuild] at hresolve
      exact Option.isNone_iff_eq_none.1 (Option.some.inj hresolve)
    obtain ⟨first, req, resp, entered, hbegins, -, -, hends, -, hpage, -⟩ :=
      unmatched_answered hsteps hbuild hnone "a"
    obtain ⟨-, hstatus, text, hbody, hfilled⟩ := hpage rfl
    have hpath : req.path = "/$\x7bpage\x7d" := by
      obtain ⟨-, rfl, -⟩ := (d.begins_dispatch_iff "a" strayRequest).1 hbegins
      have hfound : d.found strayRequest = none := hnone
      rw [firstStage, hfound, (Service.parts_of_build hbuild).1]
      rfl
    have htext : "/$\x7bpage\x7d $/$\x7bpage\x7d\x7d $\x7bpag" = text := by
      rw [← hfilled, hpath, filled_page_iff]
      decide +kernel
    exact ⟨s, d, hsteps, hbuild, hnone, req, entered, hends, hpath, hstatus, htext ▸ hbody⟩

end Dispatcher
end PathRouter
