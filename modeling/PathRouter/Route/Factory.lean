import PathRouter.Route.Matcher
/-!
# Making routes one after another

A factory makes routes and remembers how the latest attempt ended: the report of its failure, or nothing after a
success.
-/
namespace PathRouter

structure RouteFactory where
  last : Option RouteError := none
deriving Repr, DecidableEq

namespace RouteFactory

/-- Forgets how the latest attempt ended. -/
@[reducible]
def clear (_ : RouteFactory) : RouteFactory := {}

/-- Notes a failure; after a success, what is noted stays. -/
def note (f : RouteFactory) (result : Except RouteFault Matcher) : RouteFactory × Except RouteError Matcher :=
  match result with
  | .ok m => (f, .ok m)
  | .error fault => (⟨some fault.report⟩, .error fault.report)

@[simp]
theorem note_ok (f : RouteFactory) (m : Matcher) : f.note (.ok m) = (f, .ok m) := rfl

@[simp]
theorem note_error (f : RouteFactory) (fault : RouteFault) :
    f.note (.error fault) = (⟨some fault.report⟩, .error fault.report) := rfl

/-- How an attempt ends with a factory that has nothing noted, as after `clear`. -/
abbrev record (result : Except RouteFault Matcher) : RouteFactory × Except RouteError Matcher :=
  ({} : RouteFactory).note result

theorem record_eq_ok {result : Except RouteFault Matcher} {m : Matcher} :
    (record result).2 = .ok m ↔ result = .ok m := by
  cases result <;> simp

theorem record_eq_error {result : Except RouteFault Matcher} {e : RouteError} :
    (record result).2 = .error e ↔ ∃ f, result = .error f ∧ f.report = e := by
  cases result <;> simp

def create (f : RouteFactory) (path : String) : RouteFactory × Except RouteError Matcher :=
  f.clear.note (Matcher.ofPath path)

def createFromPattern (f : RouteFactory) (pattern : String) : RouteFactory × Except RouteError Matcher :=
  f.clear.note (Matcher.ofRegex pattern)

/-- The kind of the latest failure, or `noError` after a success. -/
def lastError (f : RouteFactory) : RouteErrorKind :=
  (f.last.map (·.kind)).getD .noError

/-- The message of the latest failure, empty after a success. -/
def lastErrorMessage (f : RouteFactory) : String :=
  (f.last.map (·.message)).getD ""

end RouteFactory
end PathRouter
