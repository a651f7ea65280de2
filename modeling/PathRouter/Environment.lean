import PathRouter.Dict
/-!
# Variables of the environment

The variables in the order in which they were set.  The order tells only where names that differ are read as one: then
the last of them counts.
-/
namespace PathRouter

structure Environment where
  bindings : List (String × String) := []
deriving Repr, DecidableEq

namespace Environment

/-- An environment that starts with the variables of a map, in ascending order of names. -/
def ofDict (vars : Dict String) : Environment :=
  ⟨vars.toList⟩

/-- What follows `start` in a text that begins with it. -/
def after? : (start s : List Char) → Option (List Char)
  | [], s => some s
  | c :: start, d :: s => if c = d then after? start s else none
  | _ :: _, [] => none

/-- The value under a name.  A variable is kept as the text `name=value`, and a name is looked up as the start of such a
text up to an equals sign; so a name with an equals sign in it finds the rest of a longer value. -/
def get? (env : Environment) (name : String) : Option String :=
  env.bindings.findSome? (fun (n, v) =>
    (after? (name ++ "=").toList (n ++ "=" ++ v).toList).map String.ofList)

/-- Sets a variable that is not set yet; one that is set keeps its value. -/
def setNew (env : Environment) (name value : String) : Environment :=
  if (env.get? name).isSome then env else ⟨env.bindings ++ [(name, value)]⟩

end Environment
end PathRouter
