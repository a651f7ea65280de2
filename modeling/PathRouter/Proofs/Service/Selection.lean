import Mathlib.Data.List.Basic
import Mathlib.Logic.Function.Conjugate
import PathRouter.Proofs.Service.Dispatch
/-!
# Selection at a stage

A stage asks its entries before it runs any of them.  So which entries run hangs on what was installed for the stage and on
the request and response that it begins with, and not on what the entries do (`ran_runStage`).  What the stage leaves is
made by the selected entries one after the other (`left_runStage`), and where their effects commute no order of
installation can be told from it.  The main statement is `runStage_selects`.
-/
namespace PathRouter

/-- What an entry makes of a request and response. -/
def Middleware.effect (m : Middleware) (x : Request × Response) : Request × Response :=
  m.apply x.1 x.2

namespace Pipeline

def installAll (ms : List Middleware) : Pipeline :=
  ms.foldl install {}

/-- Whether an entry has to run at a stage that begins with `req` and `resp`. -/
def selects (s : Stage) (req : Request) (resp : Response) (m : Middleware) : Bool :=
  m.stage == s && m.applies req resp

/-- The entries that ran, in their order, found by number among all that were installed. -/
def ran (ms : List Middleware) (r : StageRun) : List Middleware :=
  r.visits.filterMap (fun v => ms[v.number]?)

/-! ## Installation -/

theorem size_install (p : Pipeline) (m : Middleware) : (p.install m).size = p.size + 1 := by
  cases hm : m.stage <;> simp [install, size, hm] <;> omega

theorem entries_install (p : Pipeline) (m : Middleware) (s : Stage) :
    (p.install m).entries s = p.entries s ++ if m.stage == s then [⟨p.size, m⟩] else [] := by
  cases hm : m.stage <;> cases s <;> simp [install, entries, hm]

theorem entries_foldl (s : Stage) : ∀ (ms : List Middleware) (p : Pipeline),
    (ms.foldl install p).entries s =
      p.entries s ++ ((ms.zipIdx p.size).filter (fun e => e.1.stage == s)).map (fun e => ⟨e.2, e.1⟩)
  | [], p => by simp
  | m :: ms, p => by
    rw [List.foldl_cons, entries_foldl s ms (p.install m), entries_install, size_install, List.zipIdx_cons,
      List.filter_cons]
    by_cases hm : (m.stage == s) = true <;> simp [hm]

/-- The entries of a stage that are selected, each with its place among all that were installed. -/
theorem applicable_installAll (ms : List Middleware) (s : Stage) (req : Request) (resp : Response) :
    (installAll ms).applicable s req resp =
      (ms.zipIdx.filter (fun e => selects s req resp e.1)).map (fun e => ⟨e.2, e.1⟩) := by
  have hentries : (installAll ms).entries s =
      (ms.zipIdx.filter (fun e => e.1.stage == s)).map (fun e => ⟨e.2, e.1⟩) := by
    rw [installAll, entries_foldl]
    cases s <;> rfl
  rw [applicable, hentries, List.filter_map, List.filter_filter]
  refine congrArg _ (List.filter_congr fun e _ => ?_)
  exact Bool.and_comm _ _

/-! ## Running -/

theorem numbers_runEntries : ∀ (is : List Installed) (req : Request) (resp : Response),
    (runEntries req resp is).1.map Visit.number = is.map Installed.number
  | [], _, _ => rfl
  | i :: is, _, _ => congrArg (i.number :: ·) (numbers_runEntries is _ _)

theorem left_runEntries : ∀ (is : List Installed) (req : Request) (resp : Response),
    (runEntries req resp is).2 = (is.map Installed.entry).foldl (fun x m => m.effect x) (req, resp)
  | [], _, _ => rfl
  | i :: is, req, resp => left_runEntries is (i.entry.apply req resp).1 (i.entry.apply req resp).2

section

variable (ms : List Middleware) (s : Stage) (req : Request) (resp : Response)

theorem numbers_runStage : ((installAll ms).runStage s req resp).visits.map Visit.number =
    (ms.zipIdx.filter (fun e => selects s req resp e.1)).map Prod.snd := by
  have hnumbers := numbers_runEntries ((installAll ms).applicable s req resp) req resp
  rw [applicable_installAll, List.map_map] at hnumbers
  rw [runStage, applicable_installAll]
  exact hnumbers

/-- **Each selected entry runs once**, and no other does. -/
theorem count_runStage (i : Nat) : (((installAll ms).runStage s req resp).visits.map Visit.number).count i =
    if (ms[i]?).any (selects s req resp) then 1 else 0 := by
  rw [numbers_runStage]
  have hnodup : ((ms.zipIdx.filter (fun e => selects s req resp e.1)).map Prod.snd).Nodup := by
    have hall : (ms.zipIdx.map Prod.snd).Nodup := by
      rw [List.zipIdx_map_snd]
      exact List.nodup_range'
    exact hall.sublist (List.filter_sublist.map _)
  have hmem : i ∈ (ms.zipIdx.filter (fun e => selects s req resp e.1)).map Prod.snd ↔
      (ms[i]?).any (selects s req resp) = true := by
    rw [Option.any_eq_true]
    simp [List.mem_zipIdx_iff_getElem?]
  rw [hnodup.count]
  by_cases h : i ∈ (ms.zipIdx.filter (fun e => selects s req resp e.1)).map Prod.snd
  · rw [if_pos h, if_pos (hmem.1 h)]
  · rw [if_neg h, if_neg (mt hmem.2 h)]

theorem filter_zipIdx (p : Middleware → Bool) : (ms.zipIdx.filter (fun e => p e.1)).map Prod.fst = ms.filter p := by
  have h := List.filter_map (f := Prod.fst) (p := p) (l := ms.zipIdx)
  rw [List.zipIdx_map_fst] at h
  exact h.symm

/-- **Selection comes first**: the entries that run are those whose question is answered with yes on what the stage begins
with. -/
theorem ran_runStage : ran ms ((installAll ms).runStage s req resp) = ms.filter (selects s req resp) := by
  have hran : ran ms ((installAll ms).runStage s req resp) =
      (((installAll ms).runStage s req resp).visits.map Visit.number).filterMap (fun i => ms[i]?) := by
    rw [List.filterMap_map]
    rfl
  rw [hran, numbers_runStage, List.filterMap_map, ← filter_zipIdx ms, ← List.filterMap_eq_map]
  refine List.filterMap_congr fun e he => ?_
  exact List.mem_zipIdx_iff_getElem?.1 (List.mem_filter.1 he).1

/-- **What a stage leaves** is made by the entries that ran, one after the other. -/
theorem left_runStage : (((installAll ms).runStage s req resp).request, ((installAll ms).runStage s req resp).response) =
    (ms.filter (selects s req resp)).foldl (fun x m => m.effect x) (req, resp) := by
  have hleft := left_runEntries ((installAll ms).applicable s req resp) req resp
  have hentries : ((installAll ms).applicable s req resp).map Installed.entry = ms.filter (selects s req resp) := by
    rw [applicable_installAll, List.map_map]
    exact filter_zipIdx ms _
  rw [hentries] at hleft
  exact hleft

theorem length_visits : ((installAll ms).runStage s req resp).visits.length = (ms.filter (selects s req resp)).length := by
  have hnumbers := congrArg List.length (numbers_runStage ms s req resp)
  rw [List.length_map, List.length_map] at hnumbers
  rw [hnumbers, ← filter_zipIdx ms, List.length_map]

theorem reported_runStage : ((installAll ms).runStage s req resp).count = (ms.filter (selects s req resp)).length := by
  show ((installAll ms).applicable s req resp).length = _
  rw [applicable_installAll, List.length_map, ← filter_zipIdx ms, List.length_map]

end

theorem filter_selects {ms ms' : List Middleware} {s : Stage} (req : Request) (resp : Response)
    (h : ms'.filter (·.stage == s) = ms.filter (·.stage == s)) :
    ms'.filter (selects s req resp) = ms.filter (selects s req resp) := by
  have hsplit : ∀ l : List Middleware,
      l.filter (selects s req resp) = (l.filter (·.stage == s)).filter (fun m => m.applies req resp) := by
    intro l
    rw [List.filter_filter]
    exact List.filter_congr fun m _ => Bool.and_comm _ _
  rw [hsplit, hsplit, h]

/-- **Effects that commute leave the same** in every order. -/
theorem foldl_effect_perm {ms ms' : List Middleware} (h : ms'.Perm ms)
    (hcommute : ∀ m ∈ ms, ∀ m' ∈ ms, Function.Commute m.effect m'.effect) (x : Request × Response) :
    ms'.foldl (fun x m => m.effect x) x = ms.foldl (fun x m => m.effect x) x := by
  refine h.foldl_eq' (fun m hm m' hm' y => ?_) x
  exact hcommute m' (h.mem_iff.1 hm') m (h.mem_iff.1 hm) y

/-- **Entries have no say in who runs at their stage.**  Of the entries that were installed, those of the stage that answer
yes on the request and response it begins with run, each of them once, and no others; their number is what the stage
reports, and together they make what it leaves.  The entries of the other stage and the places where they stand in between
do not matter.  Any other order of installation has the same entries run, and where the effects of these commute it leaves
the same request and response. -/
theorem runStage_selects (ms : List Middleware) (s : Stage) (req : Request) (resp : Response) :
    let run := (installAll ms).runStage s req resp
    (∀ i, (run.visits.map Visit.number).count i = if (ms[i]?).any (selects s req resp) then 1 else 0) ∧
    ran ms run = ms.filter (selects s req resp) ∧ run.count = (ran ms run).length ∧ run.visits.length = run.count ∧
    (run.request, run.response) = (ran ms run).foldl (fun x m => m.effect x) (req, resp) ∧
    (∀ ms' : List Middleware, ms'.filter (·.stage == s) = ms.filter (·.stage == s) →
      let run' := (installAll ms').runStage s req resp
      ran ms' run' = ran ms run ∧ run'.count = run.count ∧ run'.request = run.request ∧
        run'.response = run.response) ∧
    ∀ ms' : List Middleware, ms'.Perm ms →
      let run' := (installAll ms').runStage s req resp
      (ran ms' run').Perm (ran ms run) ∧ run'.count = run.count ∧
      ((∀ m ∈ ran ms run, ∀ m' ∈ ran ms run, Function.Commute m.effect m'.effect) →
        run'.request = run.request ∧ run'.response = run.response) := by
  intro run
  have hran : ran ms run = ms.filter (selects s req resp) := ran_runStage ms s req resp
  have hleft : (run.request, run.response) = (ms.filter (selects s req resp)).foldl (fun x m => m.effect x) (req, resp) :=
    left_runStage ms s req resp
  have hcount : run.count = (ms.filter (selects s req resp)).length := reported_runStage ms s req resp
  rw [hran]
  refine ⟨count_runStage ms s req resp, rfl, hcount, (length_visits ms s req resp).trans hcount.symm, hleft,
    fun ms' hstage => ?_, fun ms' hperm => ?_⟩
  · have hsame := filter_selects req resp hstage
    have hleft' := left_runStage ms' s req resp
    rw [hsame, ← hleft] at hleft'
    obtain ⟨hreq, hresp⟩ := Prod.mk.inj hleft'
    refine ⟨?_, ?_, hreq, hresp⟩
    · rw [ran_runStage, hsame]
    · rw [reported_runStage, hsame, hcount]
  · have hselected := hperm.filter (selects s req resp)
    refine ⟨?_, ?_, fun hcommute => ?_⟩
    · rw [ran_runStage]
      exact hselected
    · rw [reported_runStage, hselected.length_eq, hcount]
    · have hleft' := left_runStage ms' s req resp
      rw [foldl_effect_perm hselected hcommute, ← hleft] at hleft'
      exact Prod.mk.inj hleft'

/-- Marks a response that has no mark yet. -/
def markSeen : Middleware where
  stage := .after
  applies _ resp := (resp.header? "X-Seen").isNone
  apply req resp := (req, resp.setHeader "X-Seen" "1")

/-- Sets the status of a response that has no mark yet. -/
def refuseUnseen : Middleware where
  stage := .after
  applies _ resp := (resp.header? "X-Seen").isNone
  apply req resp := (req, resp.setStatus .notFound)

/-- Belongs to the other stage. -/
def forgetBody : Middleware where
  stage := .before
  applies := .always
  apply req resp := ({ req with body := [] }, resp)

/-- Both entries run in either order, though the first one to run takes away what the other was asked about. -/
theorem mark_and_refuse :
    let run := (installAll [markSeen, forgetBody, refuseUnseen]).runStage .after (.ofPath "GET" "/") {}
    let run' := (installAll [forgetBody, refuseUnseen, markSeen]).runStage .after (.ofPath "GET" "/") {}
    run.count = 2 ∧ run'.count = 2 ∧ run'.request = run.request ∧ run'.response = run.response := by
  obtain ⟨-, hran, hcount, -, -, -, hperm⟩ :=
    runStage_selects [markSeen, forgetBody, refuseUnseen] .after (.ofPath "GET" "/") {}
  have hselected : [markSeen, forgetBody, refuseUnseen].filter (selects .after (.ofPath "GET" "/") {}) =
      [markSeen, refuseUnseen] := rfl
  have horder : [forgetBody, refuseUnseen, markSeen].Perm [markSeen, forgetBody, refuseUnseen] :=
    @List.perm_append_comm _ [forgetBody, refuseUnseen] [markSeen]
  obtain ⟨-, hsame, hleft⟩ := hperm _ horder
  rw [hran, hselected] at hcount
  refine ⟨hcount, hsame.trans hcount, hleft ?_⟩
  rw [hran, hselected]
  intro m hm m' hm'
  have hmark : Function.Commute markSeen.effect refuseUnseen.effect := fun x => rfl
  simp only [List.mem_cons, List.not_mem_nil, or_false] at hm hm'
  rcases hm with rfl | rfl <;> rcases hm' with rfl | rfl
  · exact .refl _
  · exact hmark
  · exact hmark.symm
  · exact .refl _

end Pipeline
end PathRouter
