import PathRouter.Proofs.Regex.Spans
import PathRouter.Proofs.Regex.Unopened
import PathRouter.Route.Factory
/-!
# Routes that were given as expressions

The expression of such a route stands in a group between the ends of the text.  So a search finds nothing but matches of
whole paths, however the expression prefers to match, and it finds one where there is one; to compare the span of what
was found with the path changes nothing (`regex_matches_whole`).
-/
namespace PathRouter

namespace Regex

/-- **A way to match a whole text**, whichever the expression prefers. -/
def MatchesWhole (r : Regex) (text : List Char) : Prop :=
  ∃ t u, Takes text r 0 t text.length u

variable {text : List Char}

theorem takes_wrapped_iff {body : Form} {i q : Nat} {t u : Slots} (hi : i ≤ text.length) :
    Takes text (wrapped body) i t q u ↔
      i = 0 ∧ q = text.length ∧ Takes text body.toRegex 0 t text.length u := by
  have hne : [body, .assert .textEnd].flatMap Form.factors ≠ [] := by
    simp [Form.factors]
  have hassert : ∀ {a : Assertion} {p q : Nat} {t u : Slots}, Form.Matches text (.assert a) p t q u ↔
      a.holds (charBefore text p) text[p]? = true ∧ p = q ∧ t = u := takes_assert_iff
  have hcats : Takes text (Form.cats [.assert .textStart, body, .assert .textEnd]).toRegex i t q u ↔
      Form.MatchesAll text [.assert .textStart, body, .assert .textEnd] i t q u := Form.matches_cats
  rw [wrapped, Form.alts_cats_assert hne, hcats, Form.matchesAll_cons]
  simp only [Form.matchesAll_cons, hassert, textEnd_holds_iff]
  constructor
  · rintro ⟨_, _, ⟨hstart, rfl, rfl⟩, m, v, hbody, _, _, ⟨hend, rfl, rfl⟩, rfl, rfl⟩
    obtain rfl := (textStart_holds_iff hi).1 hstart
    have hinside := Takes.leads hbody
    obtain rfl : m = text.length := Nat.le_antisymm (hinside.inside hi) hend
    exact ⟨rfl, rfl, hbody⟩
  · rintro ⟨rfl, rfl, hbody⟩
    exact ⟨0, t, ⟨(textStart_holds_iff hi).2 rfl, rfl, rfl⟩, _, u, hbody, _, u, ⟨Nat.le_refl _, rfl, rfl⟩, rfl, rfl⟩

end Regex

namespace Matcher

variable {pattern : String} {r : Regex} {e : Pattern} {path : List Char}

/-- A search finds nothing but matches of the whole path. -/
theorem whole_of_captures? (hr : Regex.parse? pattern = some r)
    (he : Pattern.ofText? (RoutePattern.regex pattern).matching = some e) {caps : List (Option Span)}
    (h : e.captures? path = some caps) :
    r.MatchesWhole path ∧ ∃ spans, caps = some ⟨0, path.length⟩ :: spans := by
  obtain ⟨i, hi, q, slots, htakes, rfl⟩ := Pattern.captures?_eq_some he h
  obtain ⟨r', hr', rfl⟩ := Pattern.ofText?_eq_some he
  obtain ⟨body, rfl, rfl⟩ := Regex.parse?_wrapped hr hr'
  obtain ⟨u, hwrapped, -⟩ := Regex.takes_group_iff.1 htakes
  obtain ⟨rfl, rfl, hbody⟩ := (Regex.takes_wrapped_iff hi).1 hwrapped
  exact ⟨⟨_, u, hbody⟩, _, rfl⟩

/-- A search finds a match of the whole path where there is one. -/
theorem isSome_captures?_of_whole (hr : Regex.parse? pattern = some r)
    (he : Pattern.ofText? (RoutePattern.regex pattern).matching = some e) (h : r.MatchesWhole path) :
    (e.captures? path).isSome = true := by
  obtain ⟨r', hr', rfl⟩ := Pattern.ofText?_eq_some he
  obtain ⟨body, rfl, rfl⟩ := Regex.parse?_wrapped hr hr'
  obtain ⟨_, _, htakes⟩ := h
  obtain ⟨u, htakes⟩ := htakes.slots ((List.replicate _ none).set 0 (some 0))
  have hwrapped := (Regex.takes_wrapped_iff (Nat.zero_le _)).2 ⟨rfl, rfl, htakes⟩
  rw [Pattern.captures?, Option.isSome_map]
  exact Regex.search_isSome_iff.2 ⟨0, Nat.zero_le _, _, _, .group hwrapped⟩

theorem isSome_matchPath_iff_whole (hr : Regex.parse? pattern = some r) {f : RouteFactory} {m : Matcher}
    (hm : (f.createFromPattern pattern).2 = .ok m) (path : String) :
    (m.matchPath path).isSome = true ↔ r.MatchesWhole path.toList := by
  obtain ⟨e, he, rfl⟩ := ofRegex_eq_ok (RouteFactory.record_eq_ok.1 hm)
  constructor
  · intro h
    obtain ⟨parsed, hparsed⟩ := Option.isSome_iff_exists.1 h
    obtain ⟨spans, hc, -⟩ := matchPath_eq_some_iff.1 hparsed
    exact (whole_of_captures? hr he hc).1
  · intro h
    obtain ⟨caps, hc⟩ := Option.isSome_iff_exists.1 (isSome_captures?_of_whole hr he h)
    obtain ⟨spans, rfl⟩ := (whole_of_captures? hr he hc).2
    exact Option.isSome_iff_exists.2 ⟨_, matchPath_eq_some_iff.2 ⟨spans, hc, rfl⟩⟩

/-- **A route from an expression matches whole paths, neither more nor less**: those that the expression, read alone, has
some way to match.  What the search finds is never turned down for its span. -/
theorem regex_matches_whole (hr : Regex.parse? pattern = some r) {f : RouteFactory} {m : Matcher}
    (hm : (f.createFromPattern pattern).2 = .ok m) (path : String) :
    ((m.matchPath path).isSome = true ↔ r.MatchesWhole path.toList) ∧
      ((m.matchPath path).isSome = (m.expression.captures? path.toList).isSome) := by
  refine ⟨isSome_matchPath_iff_whole hr hm path, ?_⟩
  obtain ⟨e, he, rfl⟩ := ofRegex_eq_ok (RouteFactory.record_eq_ok.1 hm)
  rw [Bool.eq_iff_iff, isSome_matchPath_iff_whole hr hm]
  constructor
  · exact isSome_captures?_of_whole hr he
  · intro h
    obtain ⟨caps, hc⟩ := Option.isSome_iff_exists.1 h
    exact (whole_of_captures? hr he hc).1

/-- The first alternative is preferred and is a match of a part, and the second is one of the whole path. -/
theorem second_alternative_matches : ∃ r m, Regex.parse? "/a|/ab" = some r ∧
    (({} : RouteFactory).createFromPattern "/a|/ab").2 = .ok m ∧ r.MatchesWhole "/ab".toList ∧
      (m.matchPath "/ab").isSome = true := by
  have hok : (({} : RouteFactory).createFromPattern "/a|/ab").2.toOption.isSome = true := by decide +kernel
  have hr : Regex.parse? "/a|/ab" = some (.alt (.cat (.one (.single '/')) (.one (.single 'a')))
      (.cat (.one (.single '/')) (.cat (.one (.single 'a')) (.one (.single 'b'))))) := by decide +kernel
  cases hm : (({} : RouteFactory).createFromPattern "/a|/ab").2 with
  | error f =>
    rw [hm] at hok
    cases hok
  | ok m =>
    have hwhole : Regex.MatchesWhole (.alt (.cat (.one (.single '/')) (.one (.single 'a')))
        (.cat (.one (.single '/')) (.cat (.one (.single 'a')) (.one (.single 'b'))))) ['/', 'a', 'b'] :=
      ⟨[], [], .altRight (.cat (.one rfl (by decide)) (.cat (.one rfl (by decide)) (.one rfl (by decide))))⟩
    exact ⟨_, m, hr, rfl, hwhole, (regex_matches_whole hr hm "/ab").1.2 hwhole⟩

end Matcher
end PathRouter
