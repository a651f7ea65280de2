import PathRouter.Proofs.Route.Collect
import PathRouter.Proofs.Route.Whole
/-!
# What becomes of the groups of a match

What a match gives says of every group, by its number, what became of it: the stretch it took is a parameter if it has a
name and belongs to the splat otherwise, and a group that took no part is an empty text and neither.  Nothing is lost,
and nothing is added (`captures_partitioned`).

This is so for every expression that can be read, as no two groups of it have one name.
-/
namespace PathRouter.Matcher

/-- A factory made the matcher, from a path or from an expression. -/
def Made (m : Matcher) : Prop :=
  ∃ (f : RouteFactory) (source : String), (f.create source).2 = .ok m ∨ (f.createFromPattern source).2 = .ok m

theorem Made.ofText? {m : Matcher} (h : Made m) : ∃ t, Pattern.ofText? t = some m.expression := by
  obtain ⟨f, source, h | h⟩ := h
  · obtain ⟨compiled, e, -, he, rfl⟩ := ofPath_eq_ok (RouteFactory.record_eq_ok.1 h)
    exact ⟨compiled, he⟩
  · obtain ⟨e, he, rfl⟩ := ofRegex_eq_ok (RouteFactory.record_eq_ok.1 h)
    exact ⟨_, he⟩

/-- **What the groups of a match become.**  For each group but the whole match, `spans` has the stretch it took, or none
if it took no part. -/
structure Partition (m : Matcher) (path : String) (spans : List (Option Span)) (r : ParsedRoute) : Prop where
  /-- The spans are those of the preferred match, and this is the whole path. -/
  searched : m.expression.captures? path.toList = some (some ⟨0, path.toList.length⟩ :: spans)
  /-- They are what some way to match the whole path leaves. -/
  matched : ∃ slots, Regex.Takes path.toList (.group 0 none m.expression.regex) 0
      (List.replicate (2 * (m.expression.groupNames.length + 1)) none) path.toList.length slots ∧
    spans = (List.range m.expression.groupNames.length).map (fun i => Pattern.spanAt slots (i + 1))
  /-- Every group of the expression has its number, and its name under that. -/
  numbered : ∀ x ∈ m.expression.regex.groups, Regex.StandsIn m.expression.groupNames x
  distinct : m.variableNames.Nodup
  count : r.groups.length = m.expression.groupNames.length + 1
  whole : r.groups[0]? = some path
  took : ∀ i s, spans[i]? = some (some s) → s.Within path.toList ∧ s.of path.toList <:+: path.toList ∧
    r.groups[i + 1]? = some (String.ofList (s.of path.toList))
  absent : ∀ i, spans[i]? = some none → r.groups[i + 1]? = some ""
  urlParams : ∀ n v, r.urlParams.get? n = some v ↔ ∃ i s, m.expression.groupNames[i]? = some (some n) ∧
    spans[i]? = some (some s) ∧ r.groups[i + 1]? = some v
  declared : ∀ n, r.urlParams.contains n = true → n ∈ m.variableNames
  /-- The groups without a name that took part, in the order of their numbers. -/
  splat : r.splat = (List.range spans.length).filterMap (fun i =>
    if m.expression.groupNames[i]? = some none ∧ spans[i]? ≠ some none then r.groups[i + 1]? else none)
  total : r.urlParams.toList.length + r.splat.length + spans.countP Option.isNone = r.groups.length - 1

/-- **The groups of a match are partitioned without loss.** -/
theorem captures_partitioned {m : Matcher} (hm : Made m) {path : String} {r : ParsedRoute}
    (h : m.matchPath path = some r) : ∃ spans, Partition m path spans r := by
  obtain ⟨t, ht⟩ := hm.ofText?
  obtain ⟨spans, hc, rfl⟩ := matchPath_eq_some_iff.1 h
  obtain ⟨regex, hr, hexpression⟩ := Pattern.ofText?_eq_some ht
  obtain ⟨i, hi, q, slots, htakes, hcaps⟩ := Pattern.captures?_eq_some ht hc
  obtain ⟨hwhole, hspans⟩ := List.cons.inj hcaps
  obtain ⟨rfl, rfl⟩ := Span.mk.inj (Option.some.inj hwhole)
  have hlen : m.expression.groupNames.length = spans.length := by rw [hspans, List.length_map, List.length_range]
  have hnodup : m.variableNames.Nodup := by
    rw [variableNames, Pattern.variableNames, hexpression]
    exact Regex.nodup_names hr
  have hgroups := groups_collect_zip path.toList hlen
  have hparams := @urlParams_collect_zip path.toList _ _ hlen hnodup
  have hget : ∀ {k : Nat} {span : Option Span}, spans[k]? = some span →
      (collect path.toList (m.expression.groupNames.zip spans)).groups[k]? = some (textOf path.toList span) := by
    intro k span hk
    rw [hgroups, List.getElem?_map, hk]
    rfl
  refine ⟨spans, {
    searched := hc
    matched := ⟨slots, htakes, hspans⟩
    numbered := ?numbered
    distinct := hnodup
    count := ?count
    whole := rfl
    took := fun k s hk => ?took
    absent := fun k hk => ?absent
    urlParams := fun n v => ?urlParams
    declared := fun n hn => ?declared
    splat := ?splat
    total := ?total }⟩
  case numbered =>
    rw [hexpression]
    obtain ⟨table, -, htable⟩ := Regex.groups_listed hr
    exact fun x hx => Regex.standsIn_groupNames htable hx
  case count =>
    dsimp only
    rw [hgroups, List.length_cons, List.length_map, hlen]
  case took =>
    have hmem : some s ∈ spans := List.mem_of_getElem? hk
    rw [hspans] at hmem
    obtain ⟨j, hj, hs⟩ := List.mem_map.1 hmem
    have hj := List.mem_range.1 hj
    exact ⟨Pattern.within_of_takes hi htakes (by omega) hs, s.infix_of _, hget hk⟩
  case absent => exact hget hk
  case urlParams =>
    dsimp only
    rw [hparams, hgroups]
    rfl
  case declared =>
    obtain ⟨v, hv⟩ := Option.isSome_iff_exists.1 hn
    obtain ⟨k, s, hname, -⟩ := hparams.1 hv
    exact List.mem_filterMap.2 ⟨_, List.mem_of_getElem? hname, rfl⟩
  case splat =>
    dsimp only
    rw [splat_collect_zip path.toList hlen, hgroups]
    rfl
  case total =>
    dsimp only
    rw [hgroups, List.length_cons, List.length_map, count_collect_zip path.toList hlen hnodup]
    rfl

/-- An expression with a group that has a name and one that has none, of which only the second can take letters. -/
theorem word_partitioned : ∃ m r spans, Made m ∧ m.matchPath "/abc" = some r ∧ Partition m "/abc" spans r := by
  have hok : (({} : RouteFactory).createFromPattern "/(?:(?<num>[0-9]+)|([a-z]+))").2.toOption.isSome = true := by
    decide +kernel
  have hparse : Regex.parse? "/(?:(?<num>[0-9]+)|([a-z]+))" = some (.cat (.one (.single '/'))
      (.alt (.group 1 (some "num") (.plus (.one (.range '0' '9')) true))
        (.group 2 none (.plus (.one (.range 'a' 'z')) true)))) := by decide +kernel
  cases hm : (({} : RouteFactory).createFromPattern "/(?:(?<num>[0-9]+)|([a-z]+))").2 with
  | error f =>
    rw [hm] at hok
    cases hok
  | ok m =>
    have hletters : ∀ t, Regex.Takes "/abc".toList (.plus (.one (.range 'a' 'z')) true) 1 t 4 t := fun t =>
      .plusMore (.one rfl (by decide)) (.plusMore (.one rfl (by decide)) (.plusLast (.one rfl (by decide))))
    have hwhole : (m.matchPath "/abc").isSome = true := (isSome_matchPath_iff_whole hparse hm "/abc").2
      ⟨[], _, .cat (.one rfl (by decide)) (.altRight (.group (hletters _)))⟩
    obtain ⟨r, hr⟩ := Option.isSome_iff_exists.1 hwhole
    have hmade : Made m := ⟨{}, _, .inr hm⟩
    obtain ⟨spans, hpartition⟩ := captures_partitioned hmade hr
    exact ⟨m, r, spans, hmade, hr, hpartition⟩

end PathRouter.Matcher
