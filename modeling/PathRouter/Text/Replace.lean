/-!
# Replacing a text

`replaceAll old new s` reads `s` once from the left and puts `new` in place of every `old`; what it has put in is not
read again.
-/
namespace PathRouter.Text

/-- Replaces in a text of which `skip` more characters belong to an `old` that has been replaced. -/
def replaceFrom (old new : List Char) : (skip : Nat) → List Char → List Char
  | _, [] => []
  | skip + 1, _ :: s => replaceFrom old new skip s
  | 0, c :: s =>
    if old.isPrefixOf (c :: s) then new ++ replaceFrom old new (old.length - 1) s
    else c :: replaceFrom old new 0 s

/-- Puts `new` in place of every `old`, which is not empty. -/
def replaceAll (old new s : List Char) : List Char :=
  replaceFrom old new 0 s

end PathRouter.Text
