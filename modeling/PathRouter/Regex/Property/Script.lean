import PathRouter.Regex.CharSet
import PathRouter.Regex.Property.Name
import PathRouter.Regex.Property.ScriptTable
/-!
# Scripts by name

A character belongs to one script, and it may be shared by others.  `script?` gives the characters of a script,
`sharedScript?` those that the script uses: a shared character counts for the scripts that share it, and only for them.
-/
namespace PathRouter.CharSet

/-- The characters of a script. -/
def script? (name : String) : Option CharSet :=
  (findNamed? name scripts).map (fun rs => .inter (ofRanges rs) assigned)

/-- The characters that a script uses, alone or with other scripts. -/
def sharedScript? (name : String) : Option CharSet := do
  let (names, rs) ← scripts.find? (fun e => e.1.contains name)
  let own := CharSet.inter (ofRanges rs) assigned
  let shared := sharedChars.filter (fun e => e.2.any names.contains)
  some (.union (diff own (ofRanges (sharedChars.map Prod.fst))) (ofRanges (shared.map Prod.fst)))

end PathRouter.CharSet
