import PathRouter.Regex.Property.AgeTable
import PathRouter.Regex.Property.Break
/-!
# Character properties by name

`\p{Name}` in a pattern asks for a property.  A name alone is that of a property a character has or has not, of a
general category, or of a script, in this order; `\p{Kind=Value}` names a kind of property and one of its values.
-/
namespace PathRouter.CharSet

/-- Names that are also short for a kind of property, but stand for a category. -/
def categoryFirst : List String := ["cf", "lc", "sc"]

/-- The set that a name alone asks for. -/
def property? (name : String) : Option CharSet :=
  let binary : Option CharSet := if categoryFirst.contains name then none else findNamed? name binaryProperties
  binary.or ((category? name).or (script? name))

/-- The characters that the editions up to the one named had, the code points without a character included. -/
def age? (name : String) : Option CharSet :=
  (ages.findIdx? (fun e => e.1.contains name)).map (fun i =>
    .inter (unions ((ages.take (i + 1)).map (fun e => ofRanges e.2))) (.union assigned (ofRanges nonCharacters)))

/-- The set that a kind of property and a value ask for. -/
def propertyValue? (key value : String) : Option CharSet :=
  match key with
  | "generalcategory" | "gc" => category? value
  | "script" | "sc" => script? value
  | "scriptextensions" | "scx" => sharedScript? value
  | "age" => age? value
  | "graphemeclusterbreak" | "gcb" => findNamed? value graphemeBreaks
  | "wordbreak" | "wb" => findNamed? value wordBreaks
  | "sentencebreak" | "sb" => findNamed? value sentenceBreaks
  | _ => none

/-- What the text between the braces of a property escape asks for: a name, or a kind of property and its value with
`=`, `:` or `!=` between them.  The flag says that the escape asks for the characters outside of the set. -/
def ofPropertyText? (s : List Char) : Option (Bool × CharSet) :=
  let byValue (key value : List Char) := propertyValue? (normalName key) (normalName value)
  match s.span (· != '!') with
  | (key, '!' :: '=' :: value) => (byValue key value).map (true, ·)
  | _ =>
    match s.span (fun c => c != ':' && c != '=') with
    | (key, _ :: value) => (byValue key value).map (false, ·)
    | (name, []) => (property? (normalName name)).map (false, ·)

/-! ## Classes of ASCII characters with a name in brackets -/

def asciiClass? : String → Option CharSet
  | "alnum" => some (unions [.range '0' '9', .range 'A' 'Z', .range 'a' 'z'])
  | "alpha" => some (unions [.range 'A' 'Z', .range 'a' 'z'])
  | "ascii" => some (.range '\x00' '\x7f')
  | "blank" => some (unions [single '\t', single ' '])
  | "cntrl" => some (unions [.range '\x00' '\x1f', single '\x7f'])
  | "digit" => some (.range '0' '9')
  | "graph" => some (.range '!' '~')
  | "lower" => some (.range 'a' 'z')
  | "print" => some (.range ' ' '~')
  | "punct" => some (unions [.range '!' '/', .range ':' '@', .range '[' '\x60', .range '\x7b' '~'])
  | "space" => some (unions [.range '\t' '\r', single ' '])
  | "upper" => some (.range 'A' 'Z')
  | "word" => some (unions [.range '0' '9', .range 'A' 'Z', single '_', .range 'a' 'z'])
  | "xdigit" => some (unions [.range '0' '9', .range 'A' 'F', .range 'a' 'f'])
  | _ => none

end PathRouter.CharSet
