import PathRouter.Route.Compile
import PathRouter.Regex.Match
import PathRouter.Dict
/-!
# Matching paths

A route is declared as a path or given as a regular expression.  Either becomes a `Matcher`, which accepts a request
path only as a whole and tells what its groups took: named groups become parameters, unnamed ones the splat.
-/
namespace PathRouter

/-- How a route was written: a declared path with the expression it compiled to, or an expression. -/
inductive RoutePattern where
  | declared (path compiled : String)
  | regex (pattern : String)
deriving Repr, DecidableEq

namespace RoutePattern

def source : RoutePattern → String
  | .declared path _ => path
  | .regex pattern => pattern

def isDeclared : RoutePattern → Bool
  | .declared _ _ => true
  | .regex _ => false

/-- The expression to match with, bound to both ends of the path. -/
def matching : RoutePattern → String
  | .declared _ compiled => compiled
  | .regex pattern => "^(?:" ++ pattern ++ ")$"

end RoutePattern

/-- What a path gave to the groups of a route.  `groups` starts with the whole path and has an empty text for a group
that took no part. -/
structure ParsedRoute where
  urlParams : Dict String
  splat : List String
  groups : List String
deriving DecidableEq

structure Matcher where
  pattern : RoutePattern
  expression : Pattern
deriving DecidableEq

namespace Matcher

def ofPath (path : String) : Except RouteFault Matcher := do
  let compiled ← Route.compile path
  match Pattern.ofText? compiled with
  | some e => .ok ⟨.declared path compiled, e⟩
  | none => .error (.illFormedCompiled compiled path)

/-- Whether an expression ends with a slash, before a final `$` or without one. -/
def endsWithSlash (pattern : List Char) : Bool :=
  match pattern.reverse with
  | '/' :: _ | '$' :: '/' :: _ => true
  | _ => false

def ofRegex (pattern : String) : Except RouteFault Matcher :=
  if endsWithSlash pattern.toList then .error (.patternTrailingSlash pattern)
  else
    match Pattern.ofText? (RoutePattern.regex pattern).matching with
    | some e => .ok ⟨.regex pattern, e⟩
    | none => .error (.illFormedPattern pattern)

theorem ofPath_eq_ok {path : String} {m : Matcher} (h : ofPath path = .ok m) :
    ∃ compiled e, Route.compile path = .ok compiled ∧ Pattern.ofText? compiled = some e ∧
      m = ⟨.declared path compiled, e⟩ := by
  unfold ofPath at h
  cases hc : Route.compile path with
  | error f =>
    rw [hc] at h
    cases h
  | ok compiled =>
    rw [hc] at h
    dsimp only [bind, Except.bind] at h
    split at h
    · rename_i e he
      exact ⟨compiled, e, rfl, he, (Except.ok.inj h).symm⟩
    · cases h

theorem ofRegex_eq_ok {pattern : String} {m : Matcher} (h : ofRegex pattern = .ok m) :
    ∃ e, Pattern.ofText? (RoutePattern.regex pattern).matching = some e ∧ m = ⟨.regex pattern, e⟩ := by
  unfold ofRegex at h
  split at h
  · cases h
  split at h
  · rename_i e he
    exact ⟨e, he, (Except.ok.inj h).symm⟩
  · cases h

/-- The names of the variables a route binds, in the order of its groups. -/
def variableNames (m : Matcher) : List String :=
  m.expression.variableNames

/-- Gives the groups after the whole match, with their names, to a result. -/
def collect (path : List Char) : List (Option String × Option Span) → ParsedRoute
  | [] => ⟨∅, [], []⟩
  | (name, span) :: rest =>
    let r := collect path rest
    match span with
    | none => { r with groups := "" :: r.groups }
    | some s =>
      let value := String.ofList (s.of path)
      match name with
      | some n => { r with urlParams := r.urlParams.insert n value, groups := value :: r.groups }
      | none => { r with splat := value :: r.splat, groups := value :: r.groups }

/-- Matches the whole of a path; a match of a part of it is none. -/
def matchPath (m : Matcher) (path : String) : Option ParsedRoute :=
  match m.expression.captures? path.toList with
  | some (some whole :: spans) =>
    if whole = ⟨0, path.toList.length⟩ then
      let r := collect path.toList (m.expression.groupNames.zip spans)
      some { r with groups := path :: r.groups }
    else none
  | _ => none

theorem matchPath_eq_some_iff {m : Matcher} {path : String} {r : ParsedRoute} :
    m.matchPath path = some r ↔ ∃ spans,
      m.expression.captures? path.toList = some (some ⟨0, path.toList.length⟩ :: spans) ∧
      r = { collect path.toList (m.expression.groupNames.zip spans) with
        groups := path :: (collect path.toList (m.expression.groupNames.zip spans)).groups } := by
  unfold matchPath
  constructor
  · intro h
    split at h
    · rename_i whole spans hc
      split at h
      · rename_i hw
        subst hw
        exact ⟨spans, hc, (Option.some.inj h).symm⟩
      · cases h
    · cases h
  · rintro ⟨spans, hc, rfl⟩
    rw [hc]
    exact if_pos rfl

end Matcher
end PathRouter
