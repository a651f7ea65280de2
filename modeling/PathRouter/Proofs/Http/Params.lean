import PathRouter.Http.Params
import PathRouter.Proofs.Settings.Entries
import PathRouter.Proofs.Text.Separator
/-!
# Parameters as a map

A text of parameters is cut at ampersands, and each piece that is not empty says a value for a key (`Says`).  The last
piece for a key counts (`get?_parseInto_eq_some_iff`), so reading two texts one after the other is reading them with an
ampersand between (`parseInto_append`).

What can be read is what can be written: the maps that texts read as are those whose keys and values hold no separator
that would cut them elsewhere (`Clear`), and such a map is read back from its entries, whatever their order
(`parse_written`).
-/
namespace PathRouter

theorem cutAt_of_notMem {sep : Char} {s : List Char} (h : sep ∉ s) : cutAt sep s = (s, none) := by
  rw [cutAt, span_of_notMem h]

theorem cutAt_append {sep : Char} {s : List Char} (h : sep ∉ s) (t : List Char) :
    cutAt sep (s ++ sep :: t) = (s, some t) := by
  rw [cutAt, span_append h]

namespace Params

/-! ## Pairs -/

/-- **What a piece says**: a key up to the first equals sign and all that follows for its value, or a key alone, with
the empty value. -/
def Says (piece : List Char) (key value : String) : Prop :=
  '=' ∉ key.toList ∧ (piece = key.toList ++ '=' :: value.toList ∨ piece = key.toList ∧ value = "")

theorem Says.pair_eq {piece : List Char} {key value : String} (h : Says piece key value) :
    pair piece = (key, value) := by
  obtain ⟨hkey, rfl | ⟨rfl, rfl⟩⟩ := h
  · rw [pair, cutAt_append hkey]
    simp
  · rw [pair, cutAt_of_notMem hkey]
    simp

theorem says_pair (piece : List Char) : Says piece (pair piece).1 (pair piece).2 := by
  by_cases hm : '=' ∈ piece
  · obtain ⟨key, value, rfl, hkey⟩ := List.eq_append_cons_of_mem hm
    rw [pair, cutAt_append hkey]
    exact ⟨by simpa using hkey, .inl (by simp)⟩
  · rw [pair, cutAt_of_notMem hm]
    exact ⟨by simpa using hm, .inr (by simp)⟩

/-! ## The last pair counts -/

/-- The last piece for a key says this value. -/
def LastSays (raw key value : String) : Prop :=
  ∃ before piece after, raw.toList.splitOn '&' = before ++ piece :: after ∧ piece ≠ [] ∧ Says piece key value ∧
    ∀ later ∈ after, later ≠ [] → ∀ v, ¬ Says later key v

/-- No piece is for the key. -/
def Silent (raw key : String) : Prop :=
  ∀ piece ∈ raw.toList.splitOn '&', piece ≠ [] → ∀ v, ¬ Says piece key v

def isFor (key : String) (piece : List Char) : Bool :=
  !piece.isEmpty && (pair piece).1 == key

theorem isFor_eq_false_iff {key : String} {piece : List Char} :
    isFor key piece = false ↔ (piece ≠ [] → ∀ v, ¬ Says piece key v) := by
  have hpair : (pair piece).1 = key ↔ ∃ v, Says piece key v := by
    constructor
    · rintro rfl
      exact ⟨_, says_pair piece⟩
    · rintro ⟨v, h⟩
      rw [h.pair_eq]
  rw [isFor, Bool.and_eq_false_imp, beq_eq_false_iff_ne, ne_eq, hpair]
  simp

theorem last?_pairs (key : String) (raw : List Char) :
    last? key (pairs raw) = (lastWhere? (isFor key) (raw.splitOn '&')).map (fun piece => (pair piece).2) := by
  have hfor : isFor key = fun piece => decide ((!piece.isEmpty) = true ∧ ((pair piece).1 == key) = true) := by
    funext piece
    rw [isFor, Bool.decide_and, Bool.decide_eq_true, Bool.decide_eq_true]
  rw [last?, lastWhere?, lastWhere?, pairs, ← List.map_reverse, ← List.filter_reverse, List.find?_map, Option.map_map,
    List.find?_filter, hfor]
  rfl

theorem last?_pairs_eq_some_iff {raw key value : String} :
    last? key (pairs raw.toList) = some value ↔ LastSays raw key value := by
  rw [last?_pairs, Option.map_eq_some_iff]
  constructor
  · rintro ⟨piece, hlast, rfl⟩
    obtain ⟨hfor, before, after, hsplit, hafter⟩ := lastWhere?_eq_some_iff.1 hlast
    obtain ⟨hne, hkey⟩ := Bool.and_eq_true_iff.1 hfor
    refine ⟨before, piece, after, hsplit, by simpa using hne, ?_, fun later hl => ?_⟩
    · rw [← beq_iff_eq.1 hkey]
      exact says_pair piece
    · exact isFor_eq_false_iff.1 (hafter later hl)
  · rintro ⟨before, piece, after, hsplit, hne, hsaid, hafter⟩
    refine ⟨piece, lastWhere?_eq_some_iff.2 ⟨?_, before, after, hsplit, fun later hl => ?_⟩, by rw [hsaid.pair_eq]⟩
    · simp [isFor, hne, hsaid.pair_eq]
    · exact isFor_eq_false_iff.2 (hafter later hl)

theorem last?_pairs_eq_none_iff {raw key : String} : last? key (pairs raw.toList) = none ↔ Silent raw key := by
  rw [last?_pairs, Option.map_eq_none_iff, lastWhere?_eq_none_iff]
  exact forall₂_congr fun _ _ => isFor_eq_false_iff

/-- **The last pair for a key counts**, and what the key had where there is none. -/
theorem get?_parseInto_eq_some_iff {raw : String} {m : Params} {key value : String} :
    (parseInto raw m).get? key = some value ↔ LastSays raw key value ∨ Silent raw key ∧ m.get? key = some value := by
  rw [parseInto, Dict.get?_foldl_insert, Option.or_eq_some_iff, last?_pairs_eq_some_iff, last?_pairs_eq_none_iff]

/-! ## Texts one after the other -/

theorem pairs_append (a b : List Char) : pairs (a ++ '&' :: b) = pairs a ++ pairs b := by
  rw [pairs, List.splitOn_append_cons_self, List.filter_append, List.map_append]
  rfl

/-- **Two texts with an ampersand between** read like the one and then the other. -/
theorem parseInto_append (a b : String) (m : Params) : parseInto (a ++ "&" ++ b) m = parseInto b (parseInto a m) := by
  have htext : (a ++ "&" ++ b).toList = a.toList ++ '&' :: b.toList := by simp
  rw [parseInto, htext, pairs_append, List.foldl_append]
  rfl

/-! ## Writing -/

/-- No key and no value holds a separator that would end it. -/
def Clear (es : List (String × String)) : Prop :=
  ∀ e ∈ es, '&' ∉ e.1.toList ∧ '=' ∉ e.1.toList ∧ '&' ∉ e.2.toList

/-- The text of a list of entries: each key, an equals sign and its value, with ampersands between. -/
def written (es : List (String × String)) : String :=
  String.ofList (['&'].intercalate (es.map (fun e => e.1.toList ++ '=' :: e.2.toList)))

theorem clear_parse (raw : String) : Clear (parse raw).toList := by
  rintro ⟨key, value⟩ he
  rcases get?_parseInto_eq_some_iff.1 (Dict.mem_toList_iff.1 he) with hlast | ⟨-, hnone⟩
  · obtain ⟨before, piece, after, hsplit, -, ⟨hkey, hsaid⟩, -⟩ := hlast
    have hpiece : '&' ∉ piece := notMem_of_mem_splitOn (s := raw.toList) (by simp [hsplit])
    rcases hsaid with rfl | ⟨rfl, rfl⟩
    · rw [List.mem_append, List.mem_cons, not_or, not_or] at hpiece
      exact ⟨hpiece.1, hkey, hpiece.2.2⟩
    · exact ⟨hpiece, hkey, by simp⟩
  · rw [Dict.get?_empty] at hnone
    cases hnone

theorem pairs_written {es : List (String × String)} (h : Clear es) : pairs (written es).toList = es := by
  have hclear : ∀ p ∈ es.map (fun e => e.1.toList ++ '=' :: e.2.toList), '&' ∉ p := by
    intro p hp
    obtain ⟨e, he, rfl⟩ := List.mem_map.1 hp
    obtain ⟨hkey, -, hvalue⟩ := h e he
    simp [hkey, hvalue]
  rw [written, String.toList_ofList, pairs]
  cases es with
  | nil => rfl
  | cons e es =>
    have hne : ∀ p ∈ (e :: es).map (fun e => e.1.toList ++ '=' :: e.2.toList), (!p.isEmpty) = true := by
      intro p hp
      obtain ⟨e, -, rfl⟩ := List.mem_map.1 hp
      simp
    rw [List.splitOn_intercalate _ hclear (by simp), List.filter_eq_self.2 hne, List.map_map]
    refine (List.map_congr_left fun e he => ?_).trans (List.map_id _)
    exact Says.pair_eq ⟨(h e he).2.1, .inl rfl⟩

/-- **A map is read back from its entries**, in whatever order they are written. -/
theorem parse_written {m : Params} {es : List (String × String)} (hm : Clear m.toList) (h : es.Perm m.toList) :
    parse (written es) = m := by
  have hes : Clear es := fun e he => hm e (h.mem_iff.1 he)
  refine Dict.eq_of_get? fun key => ?_
  rw [parse, parseInto, pairs_written hes, Dict.get?_foldl_insert, Dict.get?_empty, Option.or_none]
  exact last?_of_mem_iff fun value => h.mem_iff.trans Dict.mem_toList_iff

/-- **What can be read is what can be written.**  A map is what some text reads as exactly if no key holds an ampersand
or an equals sign and no value holds an ampersand, and then it is what its entries read as, written in any order. -/
theorem read_iff_writable (m : Params) :
    ((∃ raw, parse raw = m) ↔ Clear m.toList) ∧
    (Clear m.toList → ∀ es : List (String × String), es.Perm m.toList → parse (written es) = m) := by
  refine ⟨⟨?_, fun hm => ⟨_, parse_written hm (.refl _)⟩⟩, fun hm es hes => parse_written hm hes⟩
  rintro ⟨raw, rfl⟩
  exact clear_parse raw

def awkward : Params :=
  Dict.ofList [("", "none"), ("a", ""), ("b", "x=y?z")]

theorem awkward_read_back : Clear awkward.toList ∧ (∃ raw, parse raw = awkward) ∧
    written [("b", "x=y?z"), ("", "none"), ("a", "")] = "b=x=y?z&=none&a=" ∧
    parse (written [("b", "x=y?z"), ("", "none"), ("a", "")]) = awkward := by
  have hclear : Clear awkward.toList := by
    unfold Clear
    decide +kernel
  obtain ⟨hread, hwrite⟩ := read_iff_writable awkward
  exact ⟨hclear, hread.2 hclear, by decide +kernel, hwrite hclear _ (by decide +kernel)⟩

end Params
end PathRouter
