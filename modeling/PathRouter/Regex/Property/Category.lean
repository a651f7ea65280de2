import PathRouter.Regex.CharSet
import PathRouter.Regex.Property.Name
/-!
# General categories by name

Every category has a name of two letters and a full name, and the major classes, which are unions of categories, have
names too.  Surrogates have none: they are no characters.
-/
namespace PathRouter.CharSet

open Text (Category)

/-- General categories and their unions, each by abbreviation and by full name. -/
def categoryNames : List (List String × List Category) := [
  (["l", "letter"], [.lu, .ll, .lt, .lm, .lo]), (["lc", "casedletter"], [.lu, .ll, .lt]),
  (["lu", "uppercaseletter"], [.lu]), (["ll", "lowercaseletter"], [.ll]), (["lt", "titlecaseletter"], [.lt]),
  (["lm", "modifierletter"], [.lm]), (["lo", "otherletter"], [.lo]),
  (["m", "mark", "combiningmark"], [.mn, .mc, .me]), (["mn", "nonspacingmark"], [.mn]),
  (["mc", "spacingmark"], [.mc]), (["me", "enclosingmark"], [.me]),
  (["n", "number"], [.nd, .nl, .no]), (["nd", "decimalnumber", "digit"], [.nd]), (["nl", "letternumber"], [.nl]),
  (["no", "othernumber"], [.no]),
  (["p", "punctuation", "punct"], [.pc, .pd, .ps, .pe, .pi, .pf, .po]), (["pc", "connectorpunctuation"], [.pc]),
  (["pd", "dashpunctuation"], [.pd]), (["ps", "openpunctuation"], [.ps]), (["pe", "closepunctuation"], [.pe]),
  (["pi", "initialpunctuation"], [.pi]), (["pf", "finalpunctuation"], [.pf]), (["po", "otherpunctuation"], [.po]),
  (["s", "symbol"], [.sm, .sc, .sk, .so]), (["sm", "mathsymbol"], [.sm]), (["sc", "currencysymbol"], [.sc]),
  (["sk", "modifiersymbol"], [.sk]), (["so", "othersymbol"], [.so]),
  (["z", "separator"], [.zs, .zl, .zp]), (["zs", "spaceseparator"], [.zs]), (["zl", "lineseparator"], [.zl]),
  (["zp", "paragraphseparator"], [.zp]),
  (["c", "other"], [.cc, .cf, .co, .cn, .cs]), (["cc", "control", "cntrl"], [.cc]), (["cf", "format"], [.cf]),
  (["co", "privateuse"], [.co]), (["cn", "unassigned"], [.cn])]

/-- The general category, or union of categories, of a normal name. -/
def category? (name : String) : Option CharSet :=
  match name with
  | "any" => some any
  | "ascii" => some (.range '\x00' '\x7f')
  | "assigned" => some assigned
  | _ => (findNamed? name categoryNames).map ofCategories

end PathRouter.CharSet
