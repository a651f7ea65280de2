import Mathlib.Data.List.Nodup
import PathRouter.Proofs.Route.Match
/-!
# What becomes of a declared path

A factory makes a route of every declared path that compiles, unless it is kept from it by the names of variables: the
names of groups are fewer than the names of segments, and no two groups have one name (`Misnamed`).  Nothing else in a
compiled pattern can fail to read, and no compiled pattern is nested too deep.

`create_outcome` says so.
-/
namespace PathRouter.Regex

/-! ## Depth -/

theorem foldl_max_le {n : Nat} : ∀ {ds : List Nat} {m : Nat}, m ≤ n → (∀ d ∈ ds, d ≤ n) → ds.foldl max m ≤ n
  | [], _, hm, _ => hm
  | _ :: _, _, hm, h => by
    obtain ⟨hd, hds⟩ := List.forall_mem_cons.1 h
    rw [List.foldl_cons]
    exact foldl_max_le (Nat.max_le.2 ⟨hm, hd⟩) hds

theorem joinDepth_le {n : Nat} : ∀ {ds : List Nat}, (∀ d ∈ ds, d ≤ n) → joinDepth ds ≤ n + 1
  | [], _ => Nat.zero_le _
  | [_], h => Nat.le_succ_of_le (h _ List.mem_cons_self)
  | _ :: _ :: _, h => Nat.succ_le_succ (foldl_max_le (Nat.zero_le n) h)

theorem depth_beside_le {α β : Type} {join : List α → β} {ps : List (Nested α)} {n : Nat} (h : ∀ p ∈ ps, p.depth ≤ n) :
    (Nested.beside join ps).depth ≤ n + 1 := by
  refine joinDepth_le fun d hd => ?_
  obtain ⟨p, hp, rfl⟩ := List.mem_map.1 hd
  exact h p hp

namespace ReadState

/-- No group is open, no alternative is finished, and nothing lies deep. -/
structure Shallow (st : ReadState) : Prop where
  outer : st.outer = []
  branches : st.branches = []
  parts : ∀ x ∈ st.parts, x.depth ≤ 6

theorem Shallow.add {st : ReadState} (h : st.Shallow) {x : Nested Form} (hx : x.depth ≤ 6) : (st.add x).Shallow :=
  ⟨h.outer, h.branches, List.forall_mem_cons.2 ⟨hx, h.parts⟩⟩

theorem Shallow.addAll {xs : List (Nested Form)} : ∀ {st : ReadState}, st.Shallow → (∀ x ∈ xs, x.depth ≤ 6) →
    (st.addAll xs).Shallow := by
  induction xs with
  | nil => exact fun h _ => h
  | cons x xs ih =>
    intro st h hxs
    obtain ⟨hx, hxs⟩ := List.forall_mem_cons.1 hxs
    exact ih (h.add hx) hxs

theorem Shallow.count {st : ReadState} (h : st.Shallow) (name : Option String) : (st.count name).Shallow :=
  ⟨h.outer, h.branches, h.parts⟩

theorem Shallow.body_eq {st : ReadState} (h : st.Shallow) : st.body = Nested.beside Form.alts [st.current] := by
  rw [body, h.branches]
  rfl

theorem Shallow.body_value {st : ReadState} (h : st.Shallow) : st.body.value = Form.alts [Form.cats st.forms] := by
  rw [h.body_eq, ← current_value]
  rfl

theorem Shallow.depth {st : ReadState} (h : st.Shallow) : st.body.depth ≤ 7 := by
  have hcurrent : st.current.depth ≤ 7 := by
    refine depth_beside_le fun x hx => h.parts x ?_
    rwa [← List.mem_reverse]
  rw [h.body_eq]
  exact hcurrent

/-- **What lies shallow is finished.** -/
theorem Shallow.finish {st : ReadState} (h : st.Shallow) : st.finish = some (Form.alts [Form.cats st.forms]).toRegex := by
  have hdepth : st.body.depth ≤ maxNesting := Nat.le_trans h.depth (by decide)
  unfold ReadState.finish
  rw [h.outer, if_pos (by simpa using hdepth), h.body_value]

end ReadState
end PathRouter.Regex

namespace PathRouter.Segment

open Regex (ReadState Nested)

theorem depth_piece (c : Char) : (piece c).depth ≤ 3 := by
  unfold piece
  split
  · exact Nat.le_refl 3
  · split
    · exact Nat.le_refl 3
    · exact Nat.zero_le 3

theorem depth_wordsBody (ws : List (List Char)) : (wordsBody ws).depth ≤ 5 := by
  refine Regex.depth_beside_le fun x hx => ?_
  obtain ⟨w, -, rfl⟩ := List.mem_map.1 hx
  refine Regex.depth_beside_le fun y hy => ?_
  obtain ⟨c, -, rfl⟩ := List.mem_map.1 hy
  exact depth_piece c

theorem shallow_after {st : ReadState} (h : st.Shallow) (g : Segment) : (after st g).Shallow := by
  have hgroup : ∀ f : Regex.Form → Regex.Form, ((wordsBody g.alternatives).inside f).depth ≤ 6 := fun _ =>
    Nat.succ_le_succ (depth_wordsBody g.alternatives)
  unfold after
  split
  · exact (h.count _).add (hgroup _)
  · split
    · exact h.add (hgroup id)
    · refine h.addAll fun x hx => ?_
      obtain ⟨c, -, rfl⟩ := List.mem_map.1 hx
      exact Nat.le_trans (depth_piece c) (by decide)

/-- **Names that groups can have**: a letter or an underscore, and then letters, numbers and underscores. -/
def LegalName : List Char → Prop
  | [] => False
  | c :: s => (c = '_' ∨ Text.isAlphabetic c = true) ∧ ∀ d ∈ s, d = '_' ∨ Text.isAlphanumeric d = true

theorem spellsName_false_iff : ∀ {s : List Char}, (∀ c ∈ s, isNameChar c = true) →
    (Regex.spellsName false s = true ↔ ∀ d ∈ s, d = '_' ∨ Text.isAlphanumeric d = true)
  | [], _ => by simp [Regex.spellsName]
  | c :: s, h => by
    obtain ⟨hc, hs⟩ := List.forall_mem_cons.1 h
    have hdot : c ≠ '.' := fun e => absurd (e ▸ hc) (by decide)
    have hopen : c ≠ '[' := fun e => absurd (e ▸ hc) (by decide)
    have hclose : c ≠ ']' := fun e => absurd (e ▸ hc) (by decide)
    rw [Regex.spellsName, Bool.and_eq_true, spellsName_false_iff hs, List.forall_mem_cons]
    simp [Regex.isGroupNameChar, hdot, hopen, hclose]

/-- Of the names of segments, those with a dot or a bracket are out of question, so the rule for groups is a short one. -/
theorem isGroupName_iff {n : List Char} (hn : IsName n) : Regex.IsGroupName n ↔ LegalName n := by
  obtain ⟨c, s, rfl⟩ := List.exists_cons_of_ne_nil hn.1
  have hs : ∀ d ∈ s, isNameChar d = true := fun d hd => hn.2 d (List.mem_cons_of_mem c hd)
  rw [Regex.IsGroupName, Regex.spellsName, Bool.and_eq_true, spellsName_false_iff hs, LegalName]
  simp [Regex.isGroupNameChar]

end PathRouter.Segment

namespace PathRouter.Route

open Regex (ReadState)
open Segment (LegalName)

/-! ## Reading what was compiled -/

theorem shallow_afterAll : ∀ {gs : List Segment} {st : ReadState}, st.Shallow → (afterAll st gs).Shallow
  | [], _, h => h
  | g :: gs, st, h => by
    have hslash : (st.add ⟨.literal ['/'], 0⟩).Shallow := h.add (Nat.zero_le 6)
    rw [afterAll]
    exact shallow_afterAll (Segment.shallow_after hslash g)

/-- **The pattern of a path is read** if the names of its variables fit. -/
theorem parse?_pattern_eq_some {gs : List Segment} (hg : ∀ g ∈ gs, g.Proper) (hne : gs ≠ []) (hfit : NamesFit [] gs) :
    ∃ r, Regex.parse? (String.ofList (pattern gs)) = some r := by
  rw [Regex.parse?, String.toList_ofList, pattern_eq hne, ReadState.read_caret rfl]
  have hstart : (({} : ReadState).add ⟨.assert .textStart, 0⟩).Shallow :=
    ReadState.Shallow.add ⟨rfl, rfl, fun _ h => absurd h List.not_mem_nil⟩ (Nat.zero_le 6)
  have hnames : (({} : ReadState).add ⟨.assert .textStart, 0⟩).names = [] := rfl
  have hflags : (({} : ReadState).add ⟨.assert .textStart, 0⟩).flags = {} := rfl
  generalize (({} : ReadState).add ⟨.assert .textStart, 0⟩) = st at hstart hnames hflags
  obtain ⟨-, -, hkeep⟩ := forms_afterAll gs st
  have hdollar : ((afterAll st gs).add ⟨.assert .textEnd, 0⟩).flags = {} := hkeep.trans hflags
  rw [read_slashed hg hflags (by simp) (hnames ▸ hfit), ReadState.read_dollar (hkeep.trans hflags),
    ReadState.read_nil hdollar]
  exact ⟨_, ((shallow_afterAll hstart).add (Nat.zero_le 6)).finish⟩

/-! ## Names -/

/-- The names of the variables of a path, in the order of its segments. -/
def declaredNames (path : List Char) : List (List Char) :=
  (segments path).filterMap (fun s => (Segment.read? s).bind Segment.name)

/-- Some name is none that a group can have, or two variables have one name. -/
def Misnamed (names : List (List Char)) : Prop :=
  (∃ n ∈ names, ¬ LegalName n) ∨ ¬ names.Nodup

theorem declaredNames_eq {path : List Char} {gs : List Segment}
    (h : (segments path).map Segment.read? = gs.map some) : declaredNames path = gs.filterMap Segment.name := by
  have hnames := congrArg (List.filterMap (Option.bind · Segment.name)) h
  rw [List.filterMap_map, List.filterMap_map] at hnames
  exact hnames

theorem variableNames_eq (gs : List Segment) :
    variableNames gs = (gs.filterMap Segment.name).map String.ofList := by
  rw [variableNames, List.map_filterMap]
  rfl

theorem misnamed_iff {gs : List Segment} (hg : ∀ g ∈ gs, g.Proper) :
    Misnamed (gs.filterMap Segment.name) ↔ ¬ NamesFit [] gs := by
  have hinj : Function.Injective String.ofList := fun a b h => by simpa using congrArg String.toList h
  have hlegal : (∀ g ∈ gs, ∀ n ∈ g.name, Regex.IsGroupName n) ↔ ∀ n ∈ gs.filterMap Segment.name, LegalName n := by
    constructor
    · intro h n hn
      obtain ⟨g, hm, hname⟩ := List.mem_filterMap.1 hn
      exact (Segment.isGroupName_iff ((hg g hm).name n hname)).1 (h g hm n hname)
    · intro h g hm n hname
      exact (Segment.isGroupName_iff ((hg g hm).name n hname)).2 (h n (List.mem_filterMap.2 ⟨g, hm, hname⟩))
  rw [namesFit_iff, hlegal, variableNames_eq, List.nodup_map_iff hinj, Misnamed]
  simp only [List.not_mem_nil, not_false_eq_true, implies_true, and_true, not_and_or, not_forall, exists_prop]

/-! ## Creation -/

theorem kind_of_declared_error {path : List Char} {f : RouteFault} (h : declared path = .error f) :
    f.kind ≠ .invalidRegex := by
  unfold declared at h
  split at h
  · obtain rfl := Except.error.inj h
    exact RouteErrorKind.noConfusion
  · split at h
    · obtain rfl := Except.error.inj h
      exact RouteErrorKind.noConfusion
    · split at h
      · obtain rfl := Except.error.inj h
        exact RouteErrorKind.noConfusion
      · cases h

theorem ofPath_of_error {path : String} {f : RouteFault} (h : declared path.toList = .error f) :
    Matcher.ofPath path = .error f := by
  rw [Matcher.ofPath, compile_of_error h]
  rfl

theorem ofPath_of_ok {path : String} {gs : List Segment} (h : declared path.toList = .ok gs) :
    Matcher.ofPath path =
      match Pattern.ofText? (String.ofList (pattern gs)) with
      | some e => .ok ⟨.declared path (String.ofList (pattern gs)), e⟩
      | none => .error (.illFormedCompiled (String.ofList (pattern gs)) path) := by
  rw [Matcher.ofPath, compile_of_ok h]
  rfl

theorem ofPath_of_misnamed {path : String} {gs : List Segment} (h : declared path.toList = .ok gs)
    (hbad : ¬ NamesFit [] gs) :
    Matcher.ofPath path = .error (.illFormedCompiled (String.ofList (pattern gs)) path) := by
  obtain ⟨-, hne, hproper⟩ := segments_of_declared h
  rw [ofPath_of_ok h]
  cases hparse : Regex.parse? (String.ofList (pattern gs)) with
  | some r => exact absurd (parse?_pattern hproper hne hparse).1 hbad
  | none =>
    have hnone : Pattern.ofText? (String.ofList (pattern gs)) = none := by
      rw [Pattern.ofText?, hparse]
      rfl
    rw [hnone]

theorem ofPath_of_namesFit {path : String} {gs : List Segment} (h : declared path.toList = .ok gs)
    (hfit : NamesFit [] gs) : ∃ m, Matcher.ofPath path = .ok m ∧ m.variableNames = variableNames gs := by
  obtain ⟨-, hne, hproper⟩ := segments_of_declared h
  obtain ⟨r, hr⟩ := parse?_pattern_eq_some hproper hne hfit
  have hsome : Pattern.ofText? (String.ofList (pattern gs)) =
      some ⟨String.ofList (pattern gs), r, r.groupNames, r.program.toArray⟩ := by
    rw [Pattern.ofText?, hr]
    rfl
  obtain ⟨-, rfl⟩ := parse?_pattern hproper hne hr
  refine ⟨_, by rw [ofPath_of_ok h, hsome], ?_⟩
  rw [← variableNames_groupNames, ← groupNames_expression]
  rfl

/-- **What becomes of a declared path.**  The pattern that a path was compiled to is refused exactly when the variables of
the path are misnamed.  In every other case the factory reports what the compiler does, or makes a route with the
variables of the path. -/
theorem create_outcome (f : RouteFactory) (path : String) :
    ((∃ e, (f.create path).2 = .error e ∧ e.kind = .invalidRegex) ↔
      (∃ compiled, compile path = .ok compiled) ∧ Misnamed (declaredNames path.toList)) ∧
    ((¬ ∃ e, (f.create path).2 = .error e ∧ e.kind = .invalidRegex) →
      (∃ fault, compile path = .error fault ∧ (f.create path).2 = .error fault.report) ∨
      (∃ compiled m, compile path = .ok compiled ∧ (f.create path).2 = .ok m ∧
        m.variableNames = (declaredNames path.toList).map String.ofList)) := by
  unfold RouteFactory.create
  cases hd : declared path.toList with
  | error fault =>
    have hc := compile_of_error hd
    have hreport : (RouteFactory.record (Matcher.ofPath path)).2 = .error fault.report :=
      RouteFactory.record_eq_error.2 ⟨fault, ofPath_of_error hd, rfl⟩
    rw [hreport]
    refine ⟨iff_of_false ?_ ?_, fun _ => .inl ⟨fault, hc, rfl⟩⟩
    · rintro ⟨e, he, hk⟩
      obtain rfl := Except.error.inj he
      exact kind_of_declared_error hd hk
    · rintro ⟨⟨compiled, hok⟩, -⟩
      rw [hc] at hok
      cases hok
  | ok gs =>
    have hc := compile_of_ok hd
    obtain ⟨hmap, -, hproper⟩ := segments_of_declared hd
    rw [declaredNames_eq hmap, misnamed_iff hproper]
    by_cases hfit : NamesFit [] gs
    · obtain ⟨m, hm, hvars⟩ := ofPath_of_namesFit hd hfit
      rw [RouteFactory.record_eq_ok.2 hm]
      refine ⟨iff_of_false ?_ fun h => h.2 hfit, fun _ => .inr ⟨_, m, hc, rfl, ?_⟩⟩
      · rintro ⟨e, he, -⟩
        cases he
      · rw [hvars, variableNames_eq]
    · have hreport : (RouteFactory.record (Matcher.ofPath path)).2 =
          .error (RouteFault.illFormedCompiled (String.ofList (pattern gs)) path).report :=
        RouteFactory.record_eq_error.2 ⟨_, ofPath_of_misnamed hd hfit, rfl⟩
      rw [hreport]
      have hinvalid : ∃ e, (.error (RouteFault.illFormedCompiled (String.ofList (pattern gs)) path).report :
          Except RouteError Matcher) = .error e ∧ e.kind = .invalidRegex := ⟨_, rfl, rfl⟩
      exact ⟨iff_of_true hinvalid ⟨⟨_, hc⟩, hfit⟩, fun h => absurd hinvalid h⟩

end PathRouter.Route
