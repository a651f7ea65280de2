import PathRouter.Proofs.Regex.Form
import PathRouter.Proofs.Route.Pattern
/-!
# What a segment allows

`Glob w s` says that the text `s` is one that the alternative `w` allows: a star stands for any number of name
characters, a plus for at least one, and any other character, the dot included, for itself.  `Segment.Allows` adds that
a segment allows what one of its alternatives does.

The parts that a segment adds to a pattern match exactly what the segment allows, and they record it where the segment
is recorded (`matchesAll_forms`).
-/
namespace PathRouter.Segment

open Regex (Form Slots)

/-- **The texts that an alternative allows.** -/
inductive Glob : List Char → List Char → Prop
  | nil : Glob [] []
  | star {w s t : List Char} : (∀ c ∈ s, isNameChar c = true) → Glob w t → Glob ('*' :: w) (s ++ t)
  | plus {w s t : List Char} : s ≠ [] → (∀ c ∈ s, isNameChar c = true) → Glob w t → Glob ('+' :: w) (s ++ t)
  | char {c : Char} {w t : List Char} : isWildcard c = false → Glob w t → Glob (c :: w) (c :: t)

/-- **The texts that a segment allows.**  In an alternative a run of the same wildcard counts as one. -/
def Allows (g : Segment) (s : List Char) : Prop :=
  ∃ w ∈ g.alternatives, Glob (squeeze w) s

/-! ## Pieces -/

/-- What one character of an alternative allows. -/
def PieceAllows (c : Char) (s : List Char) : Prop :=
  if c = '*' then ∀ d ∈ s, isNameChar d = true
  else if c = '+' then s ≠ [] ∧ ∀ d ∈ s, isNameChar d = true
  else s = [c]

theorem glob_nil_iff {s : List Char} : Glob [] s ↔ s = [] := by
  constructor
  · intro h
    cases h
    rfl
  · rintro rfl
    exact .nil

theorem glob_cons_iff {c : Char} {w t : List Char} :
    Glob (c :: w) t ↔ ∃ a b, t = a ++ b ∧ PieceAllows c a ∧ Glob w b := by
  constructor
  · intro h
    cases h with
    | star hs hw => exact ⟨_, _, rfl, by simpa [PieceAllows] using hs, hw⟩
    | plus hne hs hw => exact ⟨_, _, rfl, by simpa [PieceAllows] using ⟨hne, hs⟩, hw⟩
    | @char _ _ t hc hw =>
      simp only [isWildcard, Bool.or_eq_false_iff, beq_eq_false_iff_ne] at hc
      exact ⟨[c], t, rfl, by simp [PieceAllows, hc.1, hc.2], hw⟩
  · rintro ⟨a, b, rfl, ha, hw⟩
    unfold PieceAllows at ha
    split at ha
    · rename_i hc
      rw [hc]
      exact .star ha hw
    · split at ha
      · rename_i hc
        rw [hc]
        exact .plus ha.1 ha.2 hw
      · rename_i hstar hplus
        rw [ha]
        exact .char (by simp [isWildcard, hstar, hplus]) hw

section

variable {text : List Char} {p q : Nat} {t u : Slots}

theorem matches_piece {c : Char} : Form.Matches text (piece c).value p t q u ↔
    t = u ∧ ∃ s, s <+: text.drop p ∧ q = p + s.length ∧ PieceAllows c s := by
  unfold piece PieceAllows
  split
  · have hloop : (Regex.ReadState.repeatedClass 0).value.toRegex = .star (.one .nameClass) true := rfl
    unfold Form.Matches
    rw [hloop, Regex.takes_star_one_iff]
    simp only [CharSet.mem_nameClass]
  · split
    · have hloop : (Regex.ReadState.repeatedClass 1).value.toRegex = .plus (.one .nameClass) true := rfl
      unfold Form.Matches
      rw [hloop, Regex.takes_plus_iff]
      simp only [Regex.takes_one_iff, Regex.takes_star_one_iff, CharSet.mem_nameClass]
      constructor
      · rintro ⟨_, _, ⟨⟨c, hc, hname⟩, rfl, rfl⟩, rfl, s, hs, rfl, hall⟩
        refine ⟨rfl, c :: s, cons_prefix_drop_iff.2 ⟨hc, hs⟩, ?_, List.cons_ne_nil _ _,
          List.forall_mem_cons.2 ⟨hname, hall⟩⟩
        rw [List.length_cons]
        omega
      · rintro ⟨rfl, s, hs, rfl, hne, hall⟩
        obtain ⟨c, s, rfl⟩ := List.exists_cons_of_ne_nil hne
        obtain ⟨hc, hs⟩ := cons_prefix_drop_iff.1 hs
        refine ⟨_, _, ⟨⟨c, hc, hall c List.mem_cons_self⟩, rfl, rfl⟩, rfl, s, hs, ?_,
          fun d hd => hall d (List.mem_cons_of_mem _ hd)⟩
        rw [List.length_cons]
        omega
    · rw [Form.matches_char]
      constructor
      · rintro ⟨hc, rfl, rfl⟩
        exact ⟨rfl, [c], cons_prefix_drop_iff.2 ⟨hc, List.nil_prefix⟩, rfl, rfl⟩
      · rintro ⟨rfl, s, hs, rfl, rfl⟩
        exact ⟨(cons_prefix_drop_iff.1 hs).1, rfl, rfl⟩

theorem matchesAll_pieces : ∀ {w : List Char} {p : Nat} {t : Slots},
    Form.MatchesAll text (w.map fun c => (piece c).value) p t q u ↔
      t = u ∧ ∃ s, s <+: text.drop p ∧ q = p + s.length ∧ Glob w s
  | [], p, t => by
    simp only [glob_nil_iff]
    constructor
    · rintro ⟨rfl, rfl⟩
      exact ⟨rfl, [], List.nil_prefix, rfl, rfl⟩
    · rintro ⟨rfl, s, _, rfl, rfl⟩
      exact ⟨rfl, rfl⟩
  | c :: w, p, t => by
    rw [List.map_cons, Form.matchesAll_cons]
    simp only [matches_piece, @matchesAll_pieces w, glob_cons_iff]
    constructor
    · rintro ⟨_, _, ⟨rfl, a, ha, rfl, hpa⟩, rfl, b, hb, rfl, hg⟩
      exact ⟨rfl, a ++ b, append_prefix_drop_iff.2 ⟨ha, hb⟩, by rw [List.length_append]; omega, a, b, rfl, hpa, hg⟩
    · rintro ⟨rfl, _, hs, rfl, a, b, rfl, hpa, hg⟩
      obtain ⟨ha, hb⟩ := append_prefix_drop_iff.1 hs
      exact ⟨_, _, ⟨rfl, a, ha, rfl, hpa⟩, rfl, b, hb, by rw [List.length_append]; omega, hg⟩

theorem matches_word {w : List Char} : Form.Matches text (word w).value p t q u ↔
    t = u ∧ ∃ s, s <+: text.drop p ∧ q = p + s.length ∧ Glob (squeeze w) s := by
  have hword : (word w).value = Form.cats ((squeeze w).map fun c => (piece c).value) := by
    rw [word, Regex.Nested.beside, List.map_map]
    rfl
  rw [hword, Form.matches_cats, matchesAll_pieces]

theorem noSet_piece (c : Char) : (piece c).value.NoSet := by
  unfold piece
  split
  · trivial
  · split <;> trivial

theorem noSet_word (w : List Char) : (word w).value.NoSet := by
  refine Form.noSet_cats fun r hr => ?_
  obtain ⟨x, hx, rfl⟩ := List.mem_map.1 hr
  obtain ⟨c, _, rfl⟩ := List.mem_map.1 hx
  exact noSet_piece c

theorem matches_wordsBody {ws : List (List Char)} : Form.Matches text (wordsBody ws).value p t q u ↔
    t = u ∧ ∃ s, s <+: text.drop p ∧ q = p + s.length ∧ ∃ w ∈ ws, Glob (squeeze w) s := by
  have hbody : (wordsBody ws).value = Form.alts (ws.map fun w => (word w).value) := by
    rw [wordsBody, Regex.Nested.beside, List.map_map]
    rfl
  have hno : ∀ r ∈ ws.map fun w => (word w).value, r.NoSet := fun r hr => by
    obtain ⟨w, _, rfl⟩ := List.mem_map.1 hr
    exact noSet_word w
  rw [hbody, Form.matches_alts hno]
  constructor
  · rintro ⟨_, hr, hm⟩
    obtain ⟨w, hw, rfl⟩ := List.mem_map.1 hr
    obtain ⟨ht, s, hs, hq, hg⟩ := matches_word.1 hm
    exact ⟨ht, s, hs, hq, w, hw, hg⟩
  · rintro ⟨ht, s, hs, hq, w, hw, hg⟩
    exact ⟨_, List.mem_map_of_mem hw, matches_word.2 ⟨ht, s, hs, hq, hg⟩⟩

/-! ## Segments -/

/-- The ends of groups after a segment that has taken the text from `p` to `q`. -/
def record (g : Segment) (k p q : Nat) (t : Slots) : Slots :=
  if g.captures then (t.set (2 * k) (some p)).set (2 * k + 1) (some q) else t

/-- **The parts of a segment match what the segment allows**, and record it. -/
theorem matchesAll_forms {g : Segment} (hg : g.Proper) {k : Nat} : Form.MatchesAll text (g.forms k) p t q u ↔
    u = g.record k p q t ∧ ∃ s, s <+: text.drop p ∧ q = p + s.length ∧ g.Allows s := by
  unfold forms record
  by_cases hcap : g.captures = true
  · rw [if_pos hcap, if_pos hcap]
    unfold Form.MatchesAll
    rw [List.map_singleton, Regex.takesAll_singleton, Form.toRegex, Regex.takes_group_iff]
    constructor
    · rintro ⟨v, hm, rfl⟩
      obtain ⟨rfl, hs⟩ := matches_wordsBody.1 hm
      exact ⟨rfl, hs⟩
    · rintro ⟨rfl, hs⟩
      exact ⟨_, matches_wordsBody.2 ⟨rfl, hs⟩, rfl⟩
  · rw [if_neg hcap, if_neg hcap]
    by_cases hlen : 2 ≤ g.alternatives.length
    · rw [if_pos hlen]
      unfold Form.MatchesAll
      rw [List.map_singleton, Regex.takesAll_singleton]
      exact matches_wordsBody.trans (and_congr_left' eq_comm)
    · obtain ⟨w, ws, hws⟩ := List.exists_cons_of_ne_nil hg.alternatives_ne
      obtain rfl : ws = [] := by
        rw [hws, List.length_cons] at hlen
        exact List.length_eq_zero_iff.1 (by omega)
      have hallows : ∀ s, g.Allows s ↔ Glob (squeeze w) s := fun s => by
        rw [Allows, hws]
        simp only [List.mem_singleton, exists_eq_left]
      rw [if_neg hlen, hws, List.flatMap_singleton, matchesAll_pieces]
      simp only [hallows, eq_comm]

end

/-! ## Groups -/

theorem groups_piece (c : Char) : (piece c).value.toRegex.groups = [] := by
  unfold piece
  split
  · rfl
  · split
    · rfl
    · exact Form.groups_literal [c]

theorem groups_wordsBody (ws : List (List Char)) : (wordsBody ws).value.toRegex.groups = [] := by
  refine Form.groups_alts fun r hr => ?_
  obtain ⟨x, hx, rfl⟩ := List.mem_map.1 hr
  obtain ⟨w, _, rfl⟩ := List.mem_map.1 hx
  refine (Form.groups_cats _).trans (List.flatMap_eq_nil_iff.2 fun r hr => ?_)
  obtain ⟨x, hx, rfl⟩ := List.mem_map.1 hr
  obtain ⟨c, _, rfl⟩ := List.mem_map.1 hx
  exact groups_piece c

theorem groups_forms (g : Segment) (k : Nat) :
    (g.forms k).flatMap (·.toRegex.groups) = if g.captures then [(k, g.groupName?)] else [] := by
  unfold forms
  split
  · rw [List.flatMap_singleton, Form.toRegex, Regex.groups, groups_wordsBody]
  · split
    · rw [List.flatMap_singleton, groups_wordsBody]
    · refine List.flatMap_eq_nil_iff.2 fun r hr => ?_
      obtain ⟨c, _, rfl⟩ := List.mem_map.1 hr
      exact groups_piece c

end PathRouter.Segment
