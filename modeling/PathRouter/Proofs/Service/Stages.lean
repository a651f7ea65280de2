import PathRouter.Proofs.Service.Dispatch
/-!
# Where stages begin and end

The acts of a stage, together with what it leaves, tell what it was given (`StageRuns.given_unique`).  So a run tells the
request that it began with, what its handler was given, and the response that its second stage began with (`Begins`,
`Ends`).  These are found here in the acts of a dispatch (`begins_dispatch_iff`, `ends_dispatch`), once for all that is said
of them.
-/
namespace PathRouter

namespace Pipeline

variable {p : Pipeline} {is : List Installed} {s : Stage} {req req' : Request} {resp resp' : Response} {acts : List Act}

theorem StageRuns.asked (h : StageRuns is s req resp acts req' resp') {q : Question} (hq : .question s q ∈ acts) :
    q.about.request = req ∧ q.about.response = resp := by
  obtain ⟨vs, hacts, -⟩ := h
  rw [hacts] at hq
  rcases List.mem_append.1 hq with hq | hq
  · obtain ⟨i, -, heq⟩ := List.mem_map.1 hq
    simp only [Act.question.injEq, true_and] at heq
    rw [← heq]
    exact ⟨rfl, rfl⟩
  · obtain ⟨v, -, heq⟩ := List.mem_map.1 hq
    cases heq

theorem StageRuns.given_of_mem {i : Installed} (hi : i ∈ is) {req₁ req₁' : Request} {resp₁ resp₁' : Response}
    (h : StageRuns is s req resp acts req' resp') (h₁ : StageRuns is s req₁ resp₁ acts req₁' resp₁') :
    req₁ = req ∧ resp₁ = resp := by
  have hasked : .question s ⟨⟨i.number, req₁, resp₁⟩, i.entry.applies req₁ resp₁⟩ ∈ acts := by
    obtain ⟨vs₁, hacts₁, -⟩ := h₁
    rw [hacts₁]
    exact List.mem_append_left _ (List.mem_map_of_mem hi)
  exact h.asked hasked

theorem StageRuns.given_unique {req₁ : Request} {resp₁ : Response} (h : StageRuns is s req resp acts req' resp')
    (h₁ : StageRuns is s req₁ resp₁ acts req' resp') : req₁ = req ∧ resp₁ = resp := by
  cases is with
  | nil =>
    -- Nobody is asked, but what was given is left as it is.
    obtain ⟨vs, -, hthreads⟩ := h
    obtain ⟨vs₁, -, hthreads₁⟩ := h₁
    cases hthreads
    cases hthreads₁
    exact ⟨rfl, rfl⟩
  | cons i is => exact h.given_of_mem List.mem_cons_self h₁

/-- **What a run begins with**: the first stage is given `first` and leaves `req` and `resp`, which the handler is given. -/
def Begins (p : Pipeline) (run : Run) (first req : Request) (resp : Response) : Prop :=
  StageRuns p.before .before first {} (run.ofStage .before) req resp ∧ ∃ name, .event (.handler name req resp) ∈ run.acts

/-- **What a run ends with**: the second stage is given `req` and `entered`, and the response that it leaves goes to the
transport. -/
def Ends (p : Pipeline) (run : Run) (req : Request) (entered : Response) : Prop :=
  ∃ last final, StageRuns p.after .after req entered (run.ofStage .after) last final ∧ run.calls = final.calls

theorem Ends.unique {run : Run} {entered entered₁ : Response} {i : Installed} (hi : i ∈ p.after)
    (h : p.Ends run req entered) (h₁ : p.Ends run req entered₁) : entered₁ = entered := by
  obtain ⟨last, final, hruns, -⟩ := h
  obtain ⟨last₁, final₁, hruns₁, -⟩ := h₁
  exact (hruns.given_of_mem hi hruns₁).2

theorem Ends.asked {run : Run} {entered : Response} (h : p.Ends run req entered) {q : Question}
    (hq : .question .after q ∈ run.acts) : q.about.request = req ∧ q.about.response = entered := by
  obtain ⟨last, final, hruns, -⟩ := h
  exact hruns.asked (List.mem_filter.2 ⟨hq, rfl⟩)

end Pipeline

namespace Dispatcher

variable (d : Dispatcher) (requestId : String) (inc : Incoming)

theorem begins_dispatch_iff {first req : Request} {resp : Response} :
    d.pipeline.Begins (d.dispatch requestId inc) first req resp ↔
      first = inc.toRequest requestId ((d.found inc).map (·.2)) ∧ req = (d.firstStage requestId inc).request ∧
        resp = (d.firstStage requestId inc).response := by
  have hruns : Pipeline.StageRuns d.pipeline.before .before (inc.toRequest requestId ((d.found inc).map (·.2))) {}
      ((d.dispatch requestId inc).ofStage .before) (d.firstStage requestId inc).request
      (d.firstStage requestId inc).response := by
    rw [ofStage_before_dispatch]
    exact d.pipeline.stageRuns_runStage .before _ _
  constructor
  · rintro ⟨hfirst, name, hhandler⟩
    obtain ⟨-, hreq, hresp⟩ := (d.handler_mem_dispatch_iff requestId inc).1 hhandler
    rw [hreq, hresp] at hfirst
    exact ⟨(hruns.given_unique hfirst).1, hreq, hresp⟩
  · rintro ⟨rfl, rfl, rfl⟩
    exact ⟨hruns, _, (d.handler_mem_dispatch_iff requestId inc).2 ⟨rfl, rfl, rfl⟩⟩

theorem ends_dispatch : d.pipeline.Ends (d.dispatch requestId inc) (d.firstStage requestId inc).request
    (d.handlerOf inc (d.firstStage requestId inc).request (d.firstStage requestId inc).response).settle := by
  refine ⟨(d.secondStage requestId inc).request, (d.secondStage requestId inc).response, ?_,
    d.calls_dispatch requestId inc⟩
  rw [ofStage_after_dispatch]
  exact d.pipeline.stageRuns_runStage .after _ _

theorem eq_handlerOf {name : HandlerName} {handler : Handler} (h : d.Answers (d.found inc) name handler) :
    handler = d.handlerOf inc := by
  unfold Answers at h
  unfold handlerOf handlerFor
  cases hfound : d.found inc with
  | some f =>
    rw [hfound] at h
    exact h.2
  | none =>
    rw [hfound] at h
    cases hfallback : d.fallback <;> simp [h.2, hfallback]

end Dispatcher
end PathRouter
