import PathRouter.Proofs.Regex.Spans
import PathRouter.Proofs.Regex.Unopened
import PathRouter.Route.Factory
/-!
# Which expressions become routes

An expression that ends with a slash is refused for that.  Any other becomes a route if it can be read in the group between
the ends of the text, where it is the same expression with the same groups; what is no expression alone is refused, unless
it closes the group around it.  Of the expressions that can be read alone those are refused that end with an open comment
or lie too deep for the group.

`createFromPattern_outcome` says so, and `unopened_accepted` has a text that is no expression and becomes a route.
-/
namespace PathRouter

namespace Matcher

open Regex (parse?)

theorem endsWithSlash_iff (pattern : List Char) :
    endsWithSlash pattern = true ↔ ['/'] <:+ pattern ∨ ['/', '$'] <:+ pattern := by
  rw [← List.reverse_prefix, ← List.reverse_prefix, endsWithSlash]
  generalize pattern.reverse = s
  split
  · simp
  · simp
  · rename_i hslash hdollar
    refine iff_of_false Bool.false_ne_true ?_
    rintro (⟨t, rfl⟩ | ⟨t, rfl⟩)
    · exact hslash t rfl
    · exact hdollar t rfl

theorem ofRegex_slash {pattern : String} (h : endsWithSlash pattern.toList = true) :
    ofRegex pattern = .error (.patternTrailingSlash pattern) := by
  rw [ofRegex, if_pos h]

theorem ofRegex_none {pattern : String} (h : endsWithSlash pattern.toList = false)
    (hnone : parse? ("^(?:" ++ pattern ++ ")$") = none) : ofRegex pattern = .error (.illFormedPattern pattern) := by
  have hpattern : Pattern.ofText? (RoutePattern.regex pattern).matching = none := by
    rw [Pattern.ofText?, RoutePattern.matching, hnone]
    rfl
  rw [ofRegex, if_neg (by rw [h]; exact Bool.false_ne_true), hpattern]

theorem ofRegex_some {pattern : String} {r : Regex} (h : endsWithSlash pattern.toList = false)
    (hsome : parse? ("^(?:" ++ pattern ++ ")$") = some r) : ofRegex pattern =
      .ok ⟨.regex pattern, ⟨"^(?:" ++ pattern ++ ")$", r, r.groupNames, r.program.toArray⟩⟩ := by
  have hpattern : Pattern.ofText? (RoutePattern.regex pattern).matching =
      some ⟨"^(?:" ++ pattern ++ ")$", r, r.groupNames, r.program.toArray⟩ := by
    rw [Pattern.ofText?, RoutePattern.matching, hsome]
    rfl
  rw [ofRegex, if_neg (by rw [h]; exact Bool.false_ne_true), hpattern]

end Matcher

namespace RouteFactory

open Regex (parse? maxNesting closing)
open Regex.ReadState (Reads ClosesUnopened closesUnopened_token_iff not_closesUnopened_end)
open Matcher (endsWithSlash endsWithSlash_iff)

variable {f : RouteFactory} {pattern : String}

theorem error_endsWithSlash_iff :
    (∃ e, (f.createFromPattern pattern).2 = .error e ∧ e.kind = .endsWithSlash) ↔
      endsWithSlash pattern.toList = true := by
  unfold createFromPattern
  cases hslash : endsWithSlash pattern.toList with
  | true =>
    rw [Matcher.ofRegex_slash hslash]
    exact iff_of_true ⟨_, rfl, rfl⟩ rfl
  | false =>
    refine iff_of_false ?_ Bool.false_ne_true
    rintro ⟨e, he, hkind⟩
    cases hparse : parse? ("^(?:" ++ pattern ++ ")$") with
    | none =>
      rw [Matcher.ofRegex_none hslash hparse] at he
      obtain rfl := Except.error.inj he
      cases hkind
    | some r =>
      rw [Matcher.ofRegex_some hslash hparse] at he
      cases he

theorem created_iff :
    (∃ m, (f.createFromPattern pattern).2 = .ok m) ↔
      endsWithSlash pattern.toList = false ∧ (parse? ("^(?:" ++ pattern ++ ")$")).isSome = true := by
  unfold createFromPattern
  cases hslash : endsWithSlash pattern.toList with
  | true =>
    rw [Matcher.ofRegex_slash hslash]
    simp
  | false =>
    cases hparse : parse? ("^(?:" ++ pattern ++ ")$") with
    | none =>
      rw [Matcher.ofRegex_none hslash hparse]
      simp
    | some r =>
      rw [Matcher.ofRegex_some hslash hparse]
      simp

theorem refused_of_unread (hslash : endsWithSlash pattern.toList = false) (h : parse? pattern = none)
    (hno : ¬ ClosesUnopened {} pattern.toList) :
    (f.createFromPattern pattern).2 = .error (RouteFault.illFormedPattern pattern).report := by
  cases hparse : parse? ("^(?:" ++ pattern ++ ")$") with
  | none => exact record_eq_error.2 ⟨_, Matcher.ofRegex_none hslash hparse, rfl⟩
  | some r =>
    obtain ⟨r', hr, -⟩ := (Regex.parse?_of_wrapped hparse).2 hno
    cases h.symm.trans hr

/-- A route and the expression alone have the same groups. -/
theorem groups_of_created {m : Matcher} (h : (f.createFromPattern pattern).2 = .ok m) :
    (∃ r, parse? pattern = some r ∧ r.groups = m.expression.regex.groups ∧ r.groupNames = m.expression.groupNames) ↔
      ¬ ClosesUnopened {} pattern.toList := by
  obtain ⟨e, he, rfl⟩ := Matcher.ofRegex_eq_ok (record_eq_ok.1 h)
  obtain ⟨r', hr', rfl⟩ := Pattern.ofText?_eq_some he
  exact Regex.parse?_of_wrapped hr'

/-- **Which expressions become routes.**  A closing slash is refused as such.  What closes no group but its own becomes a
route only if it is an expression alone, and then it has the same groups; and an expression becomes one if the parenthesis
behind it is read as such and there is room for two more levels. -/
theorem createFromPattern_outcome (f : RouteFactory) (pattern : String) :
    ((∃ e, (f.createFromPattern pattern).2 = .error e ∧ e.kind = .endsWithSlash) ↔
      ['/'] <:+ pattern.toList ∨ ['/', '$'] <:+ pattern.toList) ∧
    (¬ (['/'] <:+ pattern.toList ∨ ['/', '$'] <:+ pattern.toList) → ¬ ClosesUnopened {} pattern.toList →
      parse? pattern = none →
        (f.createFromPattern pattern).2 = .error (RouteFault.illFormedPattern pattern).report) ∧
    (∀ m, (f.createFromPattern pattern).2 = .ok m →
      ((∃ r, parse? pattern = some r ∧ r.groups = m.expression.regex.groups ∧
        r.groupNames = m.expression.groupNames) ↔ ¬ ClosesUnopened {} pattern.toList)) ∧
    (∀ last, Reads {} pattern.toList last → last.outer = [] →
      ((∃ m, (f.createFromPattern pattern).2 = .ok m) ↔
        ¬ (['/'] <:+ pattern.toList ∨ ['/', '$'] <:+ pattern.toList) ∧
          ClosesUnopened {} (pattern.toList ++ closing) ∧ last.body.depth + 2 ≤ maxNesting)) := by
  rw [← endsWithSlash_iff, Bool.not_eq_true]
  refine ⟨error_endsWithSlash_iff, fun hslash hno h => refused_of_unread hslash h hno, fun m hm => groups_of_created hm,
    fun last hrun houter => ?_⟩
  rw [created_iff, Regex.parse?_wrapped_text, Regex.ReadState.isSome_read_enclose_iff hrun houter]

/-- A group that is left open is no expression, and none is made of it. -/
theorem open_group_refused : ¬ ClosesUnopened {} ['a', '(', 'b'] ∧ parse? "a(b" = none ∧
    (({} : RouteFactory).createFromPattern "a(b").2 = .error ⟨.invalidRegex, "Invalid Regex (*), \x7bre = a(b\x7d"⟩ := by
  have htext : "a(b".toList = ['a', '(', 'b'] := by decide +kernel
  have hno : ¬ ClosesUnopened {} ['a', '(', 'b'] := by
    rw [closesUnopened_token_iff rfl rfl rfl (by decide), closesUnopened_token_iff rfl rfl rfl (by decide),
      closesUnopened_token_iff rfl rfl rfl (by decide)]
    exact not_closesUnopened_end rfl
  have hnone : parse? "a(b" = none := by decide +kernel
  have hslash : ¬ (['/'] <:+ "a(b".toList ∨ ['/', '$'] <:+ "a(b".toList) := by decide +kernel
  exact ⟨hno, hnone, (createFromPattern_outcome {} "a(b").2.1 hslash (htext ▸ hno) hnone⟩

/-- The first parenthesis closes the group around the text, and the second group is closed by what was to close the
first. -/
theorem unopened_accepted : parse? "a)(?:b" = none ∧
    ∃ m, (({} : RouteFactory).createFromPattern "a)(?:b").2 = .ok m := by
  refine ⟨by decide +kernel, created_iff.2 ⟨by decide +kernel, by decide +kernel⟩⟩

end RouteFactory
end PathRouter
