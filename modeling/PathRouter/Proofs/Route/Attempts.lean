import PathRouter.Route.Factory
/-!
# Attempts one after another

A factory is used for many attempts, by paths and by expressions in any order, and is asked how the latest one ended.
Specification of what is to be seen of one attempt first (`Sight.alone`): it ends as with a new factory, and what the
factory tells afterwards is taken from this end alone.

`run_eq_map_alone` says that a run of attempts is seen as so many single ones.
-/
namespace PathRouter
namespace RouteFactory

/-- A call that makes a route. -/
inductive Attempt where
  | create (path : String)
  | createFromPattern (pattern : String)
deriving Repr, DecidableEq

/-- What is seen of an attempt: how it ended, and what the factory tells of the latest attempt then. -/
structure Sight where
  ended : Except RouteError Matcher
  lastError : RouteErrorKind
  lastErrorMessage : String

def attempt (f : RouteFactory) : Attempt → RouteFactory × Except RouteError Matcher
  | .create path => f.create path
  | .createFromPattern pattern => f.createFromPattern pattern

/-- What is seen of attempts with one factory. -/
def run (f : RouteFactory) : List Attempt → List Sight
  | [] => []
  | a :: rest =>
    let (f', ended) := f.attempt a
    ⟨ended, f'.lastError, f'.lastErrorMessage⟩ :: run f' rest

/-- **What an end tells of itself**: the kind and the message of its error, or that there is none. -/
def Sight.ofEnd : Except RouteError Matcher → Sight
  | .ok m => ⟨.ok m, .noError, ""⟩
  | .error e => ⟨.error e, e.kind, e.message⟩

/-- What is to be seen of an attempt by itself, with a new factory. -/
def Sight.alone (a : Attempt) : Sight :=
  .ofEnd (attempt {} a).2

/-- What an attempt makes of its text, before anything is noted. -/
def Attempt.outcome : Attempt → Except RouteFault Matcher
  | .create path => Matcher.ofPath path
  | .createFromPattern pattern => Matcher.ofRegex pattern

/-- Either call forgets what was noted, and then whatever came of its text is noted in one place. -/
theorem attempt_eq_note (f : RouteFactory) (a : Attempt) : f.attempt a = f.clear.note a.outcome := by
  cases a <;> rfl

theorem ended_note (f f' : RouteFactory) (result : Except RouteFault Matcher) :
    (f.note result).2 = (f'.note result).2 := by
  cases result <;> rfl

/-- A note tells the end that it is made of, if nothing older was left to be told. -/
theorem sight_note (f : RouteFactory) (result : Except RouteFault Matcher) :
    (⟨(f.clear.note result).2, (f.clear.note result).1.lastError, (f.clear.note result).1.lastErrorMessage⟩ : Sight) =
      .ofEnd (f.clear.note result).2 := by
  cases result <;> rfl

/-- The first attempt is seen as by itself, and the rest with the factory that it leaves. -/
theorem run_cons (f : RouteFactory) (a : Attempt) (rest : List Attempt) :
    f.run (a :: rest) = .alone a :: (f.attempt a).1.run rest := by
  rw [Sight.alone, attempt_eq_note, ended_note _ f.clear, ← sight_note, ← attempt_eq_note]
  rfl

theorem kind_ne_noError (fault : RouteFault) : fault.kind ≠ .noError := by
  cases fault <;> exact nofun

/-- The kind tells a failure from a success: no failure is of the kind that stands for none. -/
theorem lastError_alone_iff (a : Attempt) :
    (Sight.alone a).lastError = .noError ↔ ∃ m, (Sight.alone a).ended = .ok m := by
  rw [Sight.alone, attempt_eq_note]
  cases a.outcome with
  | ok m => exact iff_of_true rfl ⟨m, rfl⟩
  | error fault => exact iff_of_false (kind_ne_noError fault) (fun ⟨_, hm⟩ => nomatch hm)

/-- **Every attempt is seen as by itself**, whatever was attempted before and whatever the factory told at first: it ends
as with a new factory, and afterwards the factory tells the kind and the message of its error, or that there is none.
The kind says that there is none exactly if a route was made. -/
theorem run_eq_map_alone (f : RouteFactory) (as : List Attempt) :
    f.run as = as.map Sight.alone ∧ ∀ s ∈ f.run as, s.lastError = .noError ↔ ∃ m, s.ended = .ok m := by
  have hrun : f.run as = as.map Sight.alone := by
    induction as generalizing f with
    | nil => rfl
    | cons a rest ih => rw [run_cons, ih, List.map_cons]
  refine ⟨hrun, fun s hs => ?_⟩
  rw [hrun] at hs
  obtain ⟨a, -, rfl⟩ := List.mem_map.1 hs
  exact lastError_alone_iff a

/-- A success clears the report of a failure, and a failure of another kind replaces it. -/
example : (({} : RouteFactory).run [.create "/a/", .create "/a", .createFromPattern "a(", .create "a"]).map
    (·.lastError) = [.endsWithSlash, .noError, .invalidRegex, .rootMissing] := by
  decide +kernel

end RouteFactory
end PathRouter
