import PathRouter.Proofs.Route.Collect
import PathRouter.Proofs.Route.Declared
import PathRouter.Proofs.Route.Grammar
/-!
# What a route takes from a path

The main statement is `match_iff_allowed`: the route of a declared path matches a request path exactly when the request
path is cut, at its slashes, into texts that the segments of the declared path allow one by one.  The groups of the
match are then the whole path and the texts of the segments that are recorded, the parameters are the texts of the
variables, and the splat has the texts of the wildcards without a name.  Neither the pattern that a declared path is
compiled to, nor its program, nor the search shows in this.

In one thing the alternatives are not read to the letter: a run of the same wildcard counts as one, so `++` allows a
single character (`one_plus_for_two`).
-/
namespace PathRouter.Route

open Segment (Allows)

/-! ## Declared paths -/

/-- **What a factory makes of a declared path**: the pattern of its segments, with the expression that this writes. -/
theorem compiled_of_create {f : RouteFactory} {path : String} {m : Matcher} (h : (f.create path).2 = .ok m) :
    ∃ gs, (segments path.toList).map Segment.read? = gs.map some ∧ gs ≠ [] ∧ (∀ g ∈ gs, g.Proper) ∧ NamesFit [] gs ∧
      m = ⟨.declared path (String.ofList (pattern gs)), patternOf (String.ofList (pattern gs)) gs⟩ := by
  obtain ⟨compiled, e, hc, he, rfl⟩ := Matcher.ofPath_eq_ok (RouteFactory.record_eq_ok.1 h)
  cases hgs : declared path.toList with
  | error f =>
    rw [compile, hgs] at hc
    cases hc
  | ok gs =>
    rw [compile, hgs] at hc
    obtain rfl := Except.ok.inj hc
    obtain ⟨hmap, hne, hproper⟩ := segments_of_declared hgs
    obtain ⟨r, hr, rfl⟩ := Option.map_eq_some_iff.1 he
    obtain ⟨hfit, rfl⟩ := parse?_pattern hproper hne hr
    refine ⟨gs, hmap, hne, hproper, hfit, ?_⟩
    rw [patternOf, ← groupNames_expression]
    rfl

theorem matcher_of_create {f : RouteFactory} {path : String} {m : Matcher} (h : (f.create path).2 = .ok m) :
    ∃ gs, (segments path.toList).map Segment.read? = gs.map some ∧ (∀ g ∈ gs, g.Proper) ∧ NamesFit [] gs ∧
      ∃ text, m.expression = patternOf text gs := by
  obtain ⟨gs, hmap, -, hproper, hfit, rfl⟩ := compiled_of_create h
  exact ⟨gs, hmap, hproper, hfit, _, rfl⟩

/-! ## What is collected -/

theorem variableNames_groupNames : ∀ gs : List Segment, (groupNames gs).filterMap id = variableNames gs
  | [] => rfl
  | g :: gs => by
    have ih := variableNames_groupNames gs
    unfold groupNames variableNames at ih ⊢
    by_cases hg : g.captures = true
    · rw [List.filter_cons_of_pos hg, List.map_cons, List.filterMap_cons, List.filterMap_cons, ih]
      rfl
    · rw [List.filter_cons_of_neg hg, List.filterMap_cons_none (Segment.groupName?_eq_none hg), ih]

theorem nodup_spans {gs : List Segment} {ss : List (List Char)} {p : Nat} (hfit : NamesFit [] gs)
    (h : List.Forall₂ Allows gs ss) : ((spans p gs ss).filterMap Prod.fst).Nodup := by
  have heq : (spans p gs ss).filterMap Prod.fst = variableNames gs := by
    rw [← variableNames_groupNames, ← names_spans h, List.filterMap_map]
    rfl
  rw [heq]
  exact (namesFit_iff.1 hfit).2.1

theorem groupName?_eq_some_iff {g : Segment} {k : String} : g.groupName? = some k ↔ g.name = some k.toList := by
  rw [Segment.groupName?, Option.map_eq_some_iff]
  constructor
  · rintro ⟨n, hn, rfl⟩
    rw [hn, String.toList_ofList]
  · intro h
    exact ⟨_, h, String.ofList_toList⟩

/-! ## Matches -/

/-- The path is cut at its slashes into `ss`. -/
def Cut (path : List Char) (ss : List (List Char)) : Prop :=
  path = joined ss ∧ ∀ s ∈ ss, '/' ∉ s

/-- **What a route takes** from a path whose texts are `ss`. -/
structure Taken (gs : List Segment) (path : String) (ss : List (List Char)) (r : ParsedRoute) : Prop where
  /-- The whole path, and the texts of variables and wildcards in their order. -/
  groups : r.groups = path ::
    ((gs.zip ss).filter (fun x => x.1.name.isSome || x.1.hasWildcard)).map (fun x => String.ofList x.2)
  /-- The texts of wildcards without a name in their order. -/
  splat : r.splat =
    ((gs.zip ss).filter (fun x => x.1.name.isNone && x.1.hasWildcard)).map (fun x => String.ofList x.2)
  /-- The texts of variables, and no others. -/
  urlParams : ∀ k v, r.urlParams.get? k = some v ↔ ∃ x ∈ gs.zip ss, x.1.name = some k.toList ∧ v = String.ofList x.2

theorem slash_notMem_of_glob {w s : List Char} (h : Segment.Glob w s) (hw : ∀ c ∈ w, isSpecChar c = true) :
    '/' ∉ s := by
  have hname : ∀ {s : List Char}, (∀ c ∈ s, isNameChar c = true) → '/' ∉ s := fun hs hm => by
    have := hs _ hm
    exact absurd this (by decide)
  induction h with
  | nil => exact List.not_mem_nil
  | star hs _ ih | plus _ hs _ ih =>
    rw [List.mem_append, not_or]
    exact ⟨hname hs, ih fun c hc => hw c (List.mem_cons_of_mem _ hc)⟩
  | @char c _ _ _ _ ih =>
    rw [List.mem_cons, not_or]
    refine ⟨fun h => ?_, ih fun c hc => hw c (List.mem_cons_of_mem _ hc)⟩
    have hc := hw c List.mem_cons_self
    rw [← h] at hc
    exact absurd hc (by decide)

theorem slash_notMem_of_allows {g : Segment} {s : List Char} (hg : g.Proper) (h : g.Allows s) : '/' ∉ s := by
  obtain ⟨w, hw, h⟩ := h
  exact slash_notMem_of_glob h fun c hc => (hg.alternatives w hw).2 c (Segment.mem_squeeze_iff.1 hc)

theorem cut_of_allows : ∀ {gs : List Segment} {ss : List (List Char)}, (∀ g ∈ gs, g.Proper) →
    List.Forall₂ Allows gs ss → ∀ s ∈ ss, '/' ∉ s
  | _, _, _, .nil, _, hs => absurd hs List.not_mem_nil
  | _, _, hg, .cons ha h, s, hs => by
    rcases List.mem_cons.1 hs with rfl | hs
    · exact slash_notMem_of_allows (hg _ List.mem_cons_self) ha
    · exact cut_of_allows (fun g hm => hg g (List.mem_cons_of_mem _ hm)) h s hs

theorem filter_recorded (gs : List Segment) (ss : List (List Char)) :
    (recorded gs ss).filter (fun x => x.1.isNone) =
      ((gs.zip ss).filter (fun x => x.1.name.isNone && x.1.hasWildcard)).map (fun x => (x.1.groupName?, x.2)) := by
  have hkind : ∀ x : Segment × List Char, (x.1.groupName?.isNone && x.1.captures) =
      (x.1.name.isNone && x.1.hasWildcard) := by
    intro x
    rw [Segment.groupName?, Segment.captures, Option.isNone_map]
    cases x.1.name <;> rfl
  rw [recorded, List.filter_map, List.filter_filter]
  simp only [Function.comp_apply, hkind]

theorem mem_recorded_iff {gs : List Segment} {ss : List (List Char)} {k : String} {s : List Char} :
    (some k, s) ∈ recorded gs ss ↔ ∃ x ∈ gs.zip ss, x.1.name = some k.toList ∧ x.2 = s := by
  rw [recorded, List.mem_map]
  simp only [List.mem_filter, Prod.mk.injEq, groupName?_eq_some_iff]
  constructor
  · rintro ⟨x, ⟨hx, -⟩, hname, hs⟩
    exact ⟨x, hx, hname, hs⟩
  · rintro ⟨x, hx, hname, hs⟩
    refine ⟨x, ⟨hx, ?_⟩, hname, hs⟩
    rw [Segment.captures, hname]
    rfl

/-- What is collected from the spans of a match is what the route takes. -/
theorem taken_of_collect {gs : List Segment} {ss : List (List Char)} {path : String} {r : ParsedRoute}
    (hfit : NamesFit [] gs) (h : List.Forall₂ Allows gs ss) (hpath : path.toList = joined ss)
    (hr : Matcher.collect path.toList ((spans 0 gs ss).map fun x => (x.1, some x.2)) = r) :
    Taken gs path ss { r with groups := path :: r.groups } := by
  subst hr
  have htexts : (spans 0 gs ss).map (fun x => (x.1, x.2.of path.toList)) = recorded gs ss :=
    texts_spans ⟨[], by rw [List.append_nil, List.drop_zero, hpath]⟩
  have hgroups : (Matcher.collect path.toList ((spans 0 gs ss).map fun x => (x.1, some x.2))).groups =
      (recorded gs ss).map (fun x => String.ofList x.2) := by
    rw [Matcher.groups_collect, ← htexts, List.map_map, List.map_map]
    rfl
  have hsplat : (Matcher.collect path.toList ((spans 0 gs ss).map fun x => (x.1, some x.2))).splat =
      ((recorded gs ss).filter (fun x => x.1.isNone)).map (fun x => String.ofList x.2) := by
    rw [Matcher.splat_collect, ← htexts, List.filter_map, List.map_map, List.filterMap_map, ← List.filterMap_eq_map,
      List.filterMap_filter]
    refine List.filterMap_congr fun x _ => ?_
    obtain ⟨name, s⟩ := x
    cases name <;> rfl
  refine ⟨?_, ?_, fun k v => ?_⟩
  · dsimp only
    rw [hgroups, recorded, List.map_map]
    rfl
  · dsimp only
    rw [hsplat, filter_recorded, List.map_map]
    rfl
  · dsimp only
    have hnodup : (((spans 0 gs ss).map fun x => (x.1, some x.2)).filterMap Prod.fst).Nodup := by
      rw [List.filterMap_map]
      exact nodup_spans hfit h
    rw [Matcher.urlParams_collect _ k v _ hnodup]
    constructor
    · rintro ⟨s, hs, rfl⟩
      obtain ⟨x, hx, heq⟩ := List.mem_map.1 hs
      obtain ⟨hname, hspan⟩ := Prod.mk.inj heq
      obtain rfl := Option.some.inj hspan
      have hm := List.mem_map_of_mem (f := fun x => (x.1, x.2.of path.toList)) hx
      rw [htexts, hname, mem_recorded_iff] at hm
      obtain ⟨x, hx, hname, hs⟩ := hm
      exact ⟨x, hx, hname, by rw [hs]⟩
    · rintro ⟨x, hx, hname, rfl⟩
      have hm := mem_recorded_iff.2 ⟨x, hx, hname, rfl⟩
      rw [← htexts, List.mem_map] at hm
      obtain ⟨⟨name, s⟩, hs, heq⟩ := hm
      obtain ⟨rfl, hof⟩ := Prod.mk.inj heq
      exact ⟨s, List.mem_map.2 ⟨_, hs, rfl⟩, by rw [hof]⟩

theorem matchPath_eq_some {gs : List Segment} {m : Matcher} {text path : String} {r : ParsedRoute}
    (hg : ∀ g ∈ gs, g.Proper) (hfit : NamesFit [] gs) (hm : m.expression = patternOf text gs)
    (h : m.matchPath path = some r) :
    ∃ ss, Cut path.toList ss ∧ List.Forall₂ Allows gs ss ∧ Taken gs path ss r := by
  obtain ⟨caps, hc, rfl⟩ := Matcher.matchPath_eq_some_iff.1 h
  rw [hm] at hc ⊢
  obtain ⟨ss, hss, hpath, hcaps⟩ := captures?_eq_some hg hc
  obtain rfl := (List.cons.inj hcaps).2
  have hzip : (patternOf text gs).groupNames.zip ((spans 0 gs ss).map fun x => some x.2) =
      (spans 0 gs ss).map fun x => (x.1, some x.2) := by
    have hnames : (patternOf text gs).groupNames = (spans 0 gs ss).map Prod.fst := (names_spans hss).symm
    rw [hnames, List.zip_map']
  rw [hzip]
  exact ⟨ss, ⟨hpath, cut_of_allows hg hss⟩, hss, taken_of_collect hfit hss hpath rfl⟩

theorem isSome_matchPath_iff {gs : List Segment} {m : Matcher} {text path : String} (hg : ∀ g ∈ gs, g.Proper)
    (hfit : NamesFit [] gs) (hm : m.expression = patternOf text gs) :
    (m.matchPath path).isSome = true ↔ ∃ ss, Cut path.toList ss ∧ List.Forall₂ Allows gs ss := by
  constructor
  · intro h
    obtain ⟨r, hr⟩ := Option.isSome_iff_exists.1 h
    obtain ⟨ss, hcut, hss, -⟩ := matchPath_eq_some hg hfit hm hr
    exact ⟨ss, hcut, hss⟩
  · rintro ⟨ss, hcut, hss⟩
    obtain ⟨l, hl⟩ := Option.isSome_iff_exists.1 ((@isSome_captures?_iff gs hg text _).2 ⟨ss, hss, hcut.1⟩)
    obtain ⟨ss', -, -, rfl⟩ := captures?_eq_some hg hl
    rw [← hm] at hl
    exact Option.isSome_iff_exists.2 ⟨_, Matcher.matchPath_eq_some_iff.2 ⟨_, hl, rfl⟩⟩

/-- **What the route of a declared path matches, and what it takes.** -/
theorem match_iff_allowed {f : RouteFactory} {path : String} {m : Matcher} (h : (f.create path).2 = .ok m) :
    ∃ gs, (segments path.toList).map Segment.read? = gs.map some ∧ ∀ p : String,
      ((m.matchPath p).isSome = true ↔ ∃ ss, Cut p.toList ss ∧ List.Forall₂ Allows gs ss) ∧
      ∀ r, m.matchPath p = some r → ∃ ss, Cut p.toList ss ∧ List.Forall₂ Allows gs ss ∧ Taken gs p ss r := by
  obtain ⟨gs, hmap, hg, hfit, text, hm⟩ := matcher_of_create h
  exact ⟨gs, hmap, fun p => ⟨isSome_matchPath_iff hg hfit hm, fun r hr => matchPath_eq_some hg hfit hm hr⟩⟩

theorem some_segments_inj {gs hs : List Segment} (h : gs.map some = hs.map some) : gs = hs :=
  (List.map_inj_right fun _ _ h => Option.some.inj h).1 h

theorem match_user_version : ∃ m, (({} : RouteFactory).create "/:user/v*").2 = .ok m ∧
    (m.matchPath "/ann/v2").isSome = true := by
  have hok : (({} : RouteFactory).create "/:user/v*").2.toOption.isSome = true := by decide +kernel
  have hread : (segments "/:user/v*".toList).map Segment.read? =
      [⟨some "user".toList, [['+']]⟩, ⟨none, [['v', '*']]⟩].map some := by decide +kernel
  cases hm : (({} : RouteFactory).create "/:user/v*").2 with
  | error e =>
    rw [hm] at hok
    cases hok
  | ok m =>
    obtain ⟨gs, hgs, hall⟩ := match_iff_allowed hm
    obtain rfl := some_segments_inj (hread.symm.trans hgs)
    have huser : Segment.Glob ['+'] (['a', 'n', 'n'] ++ []) :=
      .plus (List.cons_ne_nil _ _) (List.all_eq_true.1 (by decide)) .nil
    have hversion : Segment.Glob ['v', '*'] ('v' :: (['2'] ++ [])) :=
      .char (by decide) (.star (List.all_eq_true.1 (by decide)) .nil)
    exact ⟨m, rfl, (hall _).1.2 ⟨["ann".toList, "v2".toList], ⟨by decide, by decide⟩,
      .cons ⟨_, List.mem_singleton_self _, huser⟩ (.cons ⟨_, List.mem_singleton_self _, hversion⟩ .nil)⟩⟩

/-- Two wildcards to the letter, one to the route. -/
theorem one_plus_for_two : ∃ m, (({} : RouteFactory).create "/++").2 = .ok m ∧
    (segments "/++".toList).map Segment.read? = [some ⟨none, [['+', '+']]⟩] ∧
    (m.matchPath "/a").isSome = true ∧
    ¬ ∃ ss, Cut "/a".toList ss ∧
      List.Forall₂ (fun (g : Segment) s => ∃ w ∈ g.alternatives, Segment.Glob w s) [⟨none, [['+', '+']]⟩] ss := by
  have hok : (({} : RouteFactory).create "/++").2.toOption.isSome = true := by decide +kernel
  have hread : (segments "/++".toList).map Segment.read? = [⟨none, [['+', '+']]⟩].map some := by decide +kernel
  cases hm : (({} : RouteFactory).create "/++").2 with
  | error e =>
    rw [hm] at hok
    cases hok
  | ok m =>
    obtain ⟨gs, hgs, hg, hfit, text, hexpr⟩ := matcher_of_create hm
    obtain rfl := some_segments_inj (hread.symm.trans hgs)
    have hone : Segment.Glob ['+'] (['a'] ++ []) :=
      .plus (List.cons_ne_nil _ _) (List.all_eq_true.1 (by decide)) .nil
    refine ⟨m, rfl, hread, (isSome_matchPath_iff hg hfit hexpr).2 ?_, ?_⟩
    · exact ⟨[['a']], ⟨by decide, by decide⟩, .cons ⟨_, List.mem_singleton_self _, hone⟩ .nil⟩
    · rintro ⟨ss, ⟨hcut, -⟩, hss⟩
      obtain ⟨s, _, ⟨w, hw, hglob⟩, hnil, rfl⟩ := List.forall₂_cons_left_iff.1 hss
      obtain rfl := List.forall₂_nil_left_iff.1 hnil
      obtain rfl := List.mem_singleton.1 hw
      obtain ⟨a, b, rfl, ha, hb⟩ := Segment.glob_cons_iff.1 hglob
      obtain ⟨c, d, rfl, hc, -⟩ := Segment.glob_cons_iff.1 hb
      have ha0 : 0 < a.length := List.length_pos_iff.2 ha.1
      have hc0 : 0 < c.length := List.length_pos_iff.2 hc.1
      have hlen : 2 = 1 + (a.length + (c.length + d.length)) := by
        have := congrArg List.length hcut
        simpa [joined, Nat.add_comm] using this
      omega

end PathRouter.Route
