/-!
# Names of properties

Names are compared without case, spaces, hyphens, underscores and a leading `is`.  `normalName` takes all of that away,
so two names are the same exactly when their normal forms are equal.
-/
namespace PathRouter.CharSet

def startsWithIs : List Char → Bool
  | i :: s :: _ => (i == 'i' || i == 'I') && (s == 's' || s == 'S')
  | _ => false

/-- A property name without the differences that do not count.  The name `isc` keeps its `is`: without it, it would be
the name of another property. -/
def normalName (s : List Char) : String :=
  let body := if startsWithIs s then s.drop 2 else s
  let kept := body.filter (fun c => c.toNat < 128 && c != ' ' && c != '_' && c != '-')
  let name := String.ofList (kept.map Char.toLower)
  if startsWithIs s && name == "c" then "isc" else name

/-- The value of the first entry under one of whose names `name` stands. -/
def findNamed? {α : Type} (name : String) (entries : List (List String × α)) : Option α :=
  (entries.find? (fun e => e.1.contains name)).map Prod.snd

end PathRouter.CharSet
