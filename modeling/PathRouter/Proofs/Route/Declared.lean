import Mathlib.Data.List.Forall2
import PathRouter.Proofs.Regex.Layout
import PathRouter.Proofs.Route.Glob
import PathRouter.Route.Factory
/-!
# What a declared path matches

The route of a declared path matches a request path exactly when the request path is cut, at its slashes, into texts
that the segments allow, and gives for each segment that is recorded the whole of its text.  The pattern that the path
compiles to, its program and the search do not show in this.

`takes_path_iff` says it of the expression, where the ends of groups are `recordAll`, and `captures?_eq_some` of the
spans that a search gives.
-/
namespace PathRouter.Route

open Regex (Form Slots Takes)
open Segment (Allows)

/-! ## Slots -/

/-- The ends of groups after segments that have taken `ss`; `k` groups stand before them. -/
def recordAll : (k p : Nat) → List Segment → List (List Char) → Slots → Slots
  | k, p, g :: gs, s :: ss, t =>
    recordAll (k + g.captures.toNat) (p + 1 + s.length) gs ss (g.record (k + 1) (p + 1) (p + 1 + s.length) t)
  | _, _, _, _, t => t

/-- The spans of the groups of segments that have taken `ss`, with their names. -/
def spans : (p : Nat) → List Segment → List (List Char) → List (Option String × Span)
  | p, g :: gs, s :: ss =>
    let rest := spans (p + 1 + s.length) gs ss
    if g.captures then (g.groupName?, ⟨p + 1, p + 1 + s.length⟩) :: rest else rest
  | _, _, _ => []

theorem length_record (g : Segment) (k p q : Nat) (t : Slots) : (g.record k p q t).length = t.length := by
  unfold Segment.record
  split
  · rw [List.length_set, List.length_set]
  · rfl

theorem getElem?_record {g : Segment} {k p q j : Nat} {t : Slots} (h : j < 2 * k) :
    (g.record k p q t)[j]? = t[j]? := by
  unfold Segment.record
  split
  · rw [List.getElem?_set_ne (by omega), List.getElem?_set_ne (by omega)]
  · rfl

theorem getElem?_recordAll : ∀ {gs : List Segment} {ss : List (List Char)} {k p j : Nat} {t : Slots}, j < 2 * (k + 1) →
    (recordAll k p gs ss t)[j]? = t[j]?
  | [], _, _, _, _, _, _ => by simp only [recordAll]
  | _ :: _, [], _, _, _, _, _ => by simp only [recordAll]
  | g :: gs, s :: ss, k, p, j, t, h => by
    rw [recordAll, getElem?_recordAll (by omega), getElem?_record h]

theorem spanAt_record {g : Segment} (hg : g.captures = true) {k p q : Nat} {t : Slots} (ht : 2 * k + 1 < t.length) :
    Pattern.spanAt (g.record k p q t) k = some ⟨p, q⟩ := by
  rw [Pattern.spanAt, Segment.record, if_pos hg, List.getElem?_set_ne (by omega), List.getElem?_set_self (by omega),
    List.getElem?_set_self (by rw [List.length_set]; omega)]
  rfl

theorem spanAt_congr {t u : Slots} {i : Nat} (h : t[2 * i]? = u[2 * i]?) (h' : t[2 * i + 1]? = u[2 * i + 1]?) :
    Pattern.spanAt t i = Pattern.spanAt u i := by
  rw [Pattern.spanAt, Pattern.spanAt, h, h']

/-- **What is recorded is read back**, group by group. -/
theorem spanAt_recordAll : ∀ {gs : List Segment} {ss : List (List Char)} {k p i : Nat} {t : Slots}
    {x : Option String × Span}, (spans p gs ss)[i]? = some x → 2 * (k + 1 + (spans p gs ss).length) ≤ t.length →
    Pattern.spanAt (recordAll k p gs ss t) (k + 1 + i) = some x.2
  | [], _, _, _, _, _, _, h, _ => by simp [spans] at h
  | _ :: _, [], _, _, _, _, _, h, _ => by simp [spans] at h
  | g :: gs, s :: ss, k, p, i, t, x, h, ht => by
    have hlen := length_record g (k + 1) (p + 1) (p + 1 + s.length) t
    rw [spans] at h ht
    rw [recordAll]
    by_cases hg : g.captures = true
    · rw [if_pos hg] at h ht
      rw [hg, Bool.toNat_true]
      rw [List.length_cons] at ht
      cases i with
      | zero =>
        -- Later segments leave the slots of this group alone.
        obtain rfl := Option.some.inj h
        rw [spanAt_congr (getElem?_recordAll (by omega)) (getElem?_recordAll (by omega))]
        exact spanAt_record hg (by omega)
      | succ i =>
        have hi : k + 1 + (i + 1) = k + 1 + 1 + i := by omega
        rw [hi]
        exact spanAt_recordAll h (by omega)
    · rw [if_neg hg] at h ht
      rw [Bool.not_eq_true] at hg
      rw [hg, Bool.toNat_false, Nat.add_zero]
      exact spanAt_recordAll h (by omega)

/-! ## The expression of a path -/

def joined (ss : List (List Char)) : List Char :=
  ss.flatMap ('/' :: ·)

section

variable {text : List Char} {q : Nat} {u : Slots}

theorem matchesAll_forms : ∀ {gs : List Segment} {k p : Nat} {t : Slots}, (∀ g ∈ gs, g.Proper) →
    (Form.MatchesAll text (forms k gs) p t q u ↔
      ∃ ss, List.Forall₂ Allows gs ss ∧ joined ss <+: text.drop p ∧ q = p + (joined ss).length ∧
        u = recordAll k p gs ss t)
  | [], k, p, t, _ => by
    constructor
    · rintro ⟨rfl, rfl⟩
      exact ⟨[], .nil, List.nil_prefix, rfl, rfl⟩
    · rintro ⟨ss, hss, _, rfl, rfl⟩
      cases hss
      exact ⟨rfl, rfl⟩
  | g :: gs, k, p, t, hg => by
    have ih : ∀ {m v}, _ := @matchesAll_forms gs (k + g.captures.toNat)
    rw [forms, Form.matchesAll_cons]
    simp only [Form.matches_char, Form.matchesAll_append, Segment.matchesAll_forms (hg g List.mem_cons_self),
      ih fun h hm => hg h (List.mem_cons_of_mem _ hm)]
    constructor
    · rintro ⟨_, _, ⟨hslash, rfl, rfl⟩, _, _, ⟨rfl, s, hs, rfl, ha⟩, ss, hss, hj, rfl, rfl⟩
      refine ⟨s :: ss, .cons ha hss, ?_, ?_, rfl⟩
      · exact cons_prefix_drop_iff.2 ⟨hslash, append_prefix_drop_iff.2 ⟨hs, hj⟩⟩
      · rw [joined, joined, List.flatMap_cons, List.length_append, List.length_cons]
        omega
    · rintro ⟨_, hss, hj, rfl, rfl⟩
      cases hss with
      | @cons _ s _ ss ha hss =>
        obtain ⟨hslash, hj⟩ := cons_prefix_drop_iff.1 hj
        obtain ⟨hs, hj⟩ := append_prefix_drop_iff.1 hj
        refine ⟨_, _, ⟨hslash, rfl, rfl⟩, _, _, ⟨rfl, s, hs, rfl, ha⟩, ss, hss, hj, ?_, rfl⟩
        rw [joined, joined, List.flatMap_cons, List.length_append, List.length_cons]
        omega

/-- The parts of the pattern of a path match the whole text or nothing. -/
theorem matchesAll_pathForms {gs : List Segment} (hg : ∀ g ∈ gs, g.Proper) {i : Nat} {t : Slots}
    (hi : i ≤ text.length) :
    Form.MatchesAll text (pathForms gs) i t q u ↔
      i = 0 ∧ q = text.length ∧ ∃ ss, List.Forall₂ Allows gs ss ∧ text = joined ss ∧ u = recordAll 0 0 gs ss t := by
  have hassert : ∀ {a : Assertion} {p q : Nat} {t u : Slots}, Form.Matches text (.assert a) p t q u ↔
      a.holds (Regex.charBefore text p) text[p]? = true ∧ p = q ∧ t = u := Regex.takes_assert_iff
  rw [pathForms, Form.matchesAll_cons]
  simp only [Form.matchesAll_append, Form.matchesAll_cons, hassert, Regex.textEnd_holds_iff, matchesAll_forms hg]
  constructor
  · rintro ⟨_, _, ⟨hstart, rfl, rfl⟩, _, _, ⟨ss, hss, hj, rfl, rfl⟩, _, _, ⟨hend, rfl, rfl⟩, rfl, rfl⟩
    obtain rfl := (Regex.textStart_holds_iff hi).1 hstart
    rw [List.drop_zero] at hj
    have heq : joined ss = text := hj.eq_of_length_le (by omega)
    exact ⟨rfl, by rw [heq]; omega, ss, hss, heq.symm, rfl⟩
  · rintro ⟨rfl, rfl, ss, hss, htext, rfl⟩
    refine ⟨0, t, ⟨(Regex.textStart_holds_iff hi).2 rfl, rfl, rfl⟩, text.length, _, ⟨ss, hss, ?_, ?_, rfl⟩,
      text.length, _, ⟨Nat.le_refl _, rfl, rfl⟩, rfl, rfl⟩
    · exact ⟨[], by rw [List.append_nil, List.drop_zero, htext]⟩
    · rw [← htext, Nat.zero_add]

end

/-- The expression that the pattern of a path writes. -/
def expression (gs : List Segment) : Regex :=
  (Form.alts [Form.cats (pathForms gs)]).toRegex

theorem expression_eq (gs : List Segment) : expression gs = (Form.cats (pathForms gs)).toRegex := by
  rw [expression, pathForms, Form.alts_cats_assert]
  rw [List.flatMap_append]
  exact List.append_ne_nil_of_right_ne_nil _ (List.cons_ne_nil _ _)

/-- **A path is matched as a whole, and segment by segment.** -/
theorem takes_path_iff {gs : List Segment} (hg : ∀ g ∈ gs, g.Proper) {text : List Char} {i q : Nat} {t u : Slots}
    (hi : i ≤ text.length) :
    Takes text (.group 0 none (expression gs)) i t q u ↔
      i = 0 ∧ q = text.length ∧ ∃ ss, List.Forall₂ Allows gs ss ∧ text = joined ss ∧
        u = (recordAll 0 0 gs ss (t.set 0 (some 0))).set 1 (some text.length) := by
  have hcats : ∀ {p t q u}, Takes text (expression gs) p t q u ↔ Form.MatchesAll text (pathForms gs) p t q u := by
    intro p t q u
    rw [expression_eq]
    exact Form.matches_cats
  rw [Regex.takes_group_iff]
  simp only [hcats, matchesAll_pathForms hg hi]
  constructor
  · rintro ⟨v, ⟨rfl, rfl, ss, hss, htext, rfl⟩, rfl⟩
    exact ⟨rfl, rfl, ss, hss, htext, rfl⟩
  · rintro ⟨rfl, rfl, ss, hss, htext, rfl⟩
    exact ⟨_, ⟨rfl, rfl, ss, hss, htext, rfl⟩, rfl⟩

/-! ## The groups of a path -/

/-- Groups by their names, numbered from `k + 1` on. -/
def numbered : Nat → List (Option String) → List (Nat × Option String)
  | _, [] => []
  | k, n :: ns => (k + 1, n) :: numbered (k + 1) ns

/-- The names of the groups of segments: none for wildcards without a name. -/
def groupNames (gs : List Segment) : List (Option String) :=
  (gs.filter Segment.captures).map Segment.groupName?

theorem groups_forms : ∀ (gs : List Segment) (k : Nat),
    (forms k gs).flatMap (·.toRegex.groups) = numbered k (groupNames gs)
  | [], _ => rfl
  | g :: gs, k => by
    rw [forms, List.flatMap_cons, List.flatMap_append, Form.groups_literal, Segment.groups_forms, groups_forms gs,
      List.nil_append, groupNames, groupNames]
    by_cases hg : g.captures = true
    · rw [if_pos hg, List.filter_cons_of_pos hg, hg]
      rfl
    · rw [if_neg hg, List.filter_cons_of_neg hg]
      rw [Bool.not_eq_true] at hg
      rw [hg]
      rfl

theorem groups_expression (gs : List Segment) : (expression gs).groups = numbered 0 (groupNames gs) := by
  rw [expression_eq, Form.groups_cats, pathForms, List.flatMap_cons, List.flatMap_append, groups_forms]
  exact List.append_nil _

theorem foldl_max_numbered : ∀ (ns : List (Option String)) (k m : Nat), k ≤ m →
    (numbered k ns).foldl (fun n g => max n g.1) m = max m (k + ns.length)
  | [], k, m, h => by
    rw [List.length_nil, Nat.add_zero, Nat.max_eq_left h]
    rfl
  | n :: ns, k, m, h => by
    rw [numbered, List.foldl_cons, foldl_max_numbered ns (k + 1) _ (Nat.le_max_right _ _), List.length_cons]
    omega

theorem lookup_numbered : ∀ (ns : List (Option String)) (k i : Nat), (numbered k ns).lookup (k + 1 + i) = ns[i]?
  | [], k, i => rfl
  | n :: ns, k, 0 => by
    rw [numbered, Nat.add_zero, List.lookup_cons_self]
    rfl
  | n :: ns, k, i + 1 => by
    have hne : (k + 1 + (i + 1) == k + 1) = false := by simp
    have hi : k + 1 + (i + 1) = k + 1 + 1 + i := by omega
    rw [numbered, List.lookup_cons, hne, hi, lookup_numbered ns (k + 1) i]
    rfl

/-- **The expression has the groups that the segments are recorded in**, numbered in their order. -/
theorem groupNames_expression (gs : List Segment) : (expression gs).groupNames = groupNames gs := by
  unfold Regex.groupNames
  rw [groups_expression]
  dsimp only
  rw [foldl_max_numbered _ 0 0 (Nat.le_refl 0), Nat.zero_add, Nat.max_eq_right (Nat.zero_le _)]
  refine List.ext_getElem (by simp) fun i h₁ h₂ => ?_
  have hlookup := lookup_numbered (groupNames gs) 0 i
  rw [Nat.zero_add, Nat.add_comm] at hlookup
  rw [List.getElem_map, List.getElem_range, hlookup, List.getElem?_eq_getElem h₂]
  rfl

/-! ## Captures -/

theorem names_spans : ∀ {gs : List Segment} {ss : List (List Char)} {p : Nat}, List.Forall₂ Allows gs ss →
    (spans p gs ss).map Prod.fst = groupNames gs
  | [], _, _, .nil => rfl
  | g :: gs, s :: ss, p, h => by
    have ih := @names_spans gs ss (p + 1 + s.length) (List.forall₂_cons.1 h).2
    rw [spans, groupNames]
    by_cases hg : g.captures = true
    · rw [if_pos hg, List.filter_cons_of_pos hg, List.map_cons, List.map_cons, ih]
      rfl
    · rw [if_neg hg, List.filter_cons_of_neg hg, ih]
      rfl

/-- What the segments that are recorded have taken, with the names of their variables. -/
def recorded (gs : List Segment) (ss : List (List Char)) : List (Option String × List Char) :=
  ((gs.zip ss).filter (fun x => x.1.captures)).map (fun x => (x.1.groupName?, x.2))

/-- The spans of a path are those of the texts that its segments have taken. -/
theorem texts_spans {text : List Char} : ∀ {gs : List Segment} {ss : List (List Char)} {p : Nat},
    joined ss <+: text.drop p → (spans p gs ss).map (fun x => (x.1, x.2.of text)) = recorded gs ss
  | [], _, _, _ => by simp [spans, recorded]
  | _ :: _, [], _, _ => by simp [spans, recorded]
  | g :: gs, s :: ss, p, h => by
    obtain ⟨_, h⟩ := cons_prefix_drop_iff.1 h
    obtain ⟨hs, hj⟩ := append_prefix_drop_iff.1 h
    have ih := @texts_spans text gs ss (p + 1 + s.length) hj
    have hof : Span.of ⟨p + 1, p + 1 + s.length⟩ text = s := by
      rw [Span.of, Nat.add_sub_cancel_left]
      exact (List.prefix_iff_eq_take.1 hs).symm
    rw [spans, recorded, List.zip_cons_cons]
    by_cases hg : g.captures = true
    · rw [if_pos hg, List.map_cons, ih, hof]
      simp [recorded, hg]
    · rw [if_neg hg, ih]
      simp [recorded, hg]

theorem spansAt_recordAll {gs : List Segment} {ss : List (List Char)} (h : List.Forall₂ Allows gs ss) (n : Nat) :
    (List.range ((groupNames gs).length + 1)).map (Pattern.spanAt
      ((recordAll 0 0 gs ss
        ((List.replicate (2 * ((groupNames gs).length + 1)) none).set 0 (some 0))).set 1 (some n))) =
      some ⟨0, n⟩ :: (spans 0 gs ss).map (fun x => some x.2) := by
  have hlen : (spans 0 gs ss).length = (groupNames gs).length := by rw [← names_spans h, List.length_map]
  generalize ht : (List.replicate (2 * ((groupNames gs).length + 1)) (none : Option Nat)).set 0 (some 0) = t
  have htlen : t.length = 2 * ((groupNames gs).length + 1) := by rw [← ht, List.length_set, List.length_replicate]
  have hfirst : t[0]? = some (some 0) := by
    rw [← ht, List.getElem?_set_self (by rw [List.length_replicate]; omega)]
  rw [List.range_succ_eq_map, List.map_cons]
  congr 1
  · have hmark : ((recordAll 0 0 gs ss t).set 1 (some n))[1]? = some (some n) := by
      have hin : (recordAll 0 0 gs ss t)[1]? = t[1]? := getElem?_recordAll (by omega)
      have hlt : 1 < (recordAll 0 0 gs ss t).length := by
        have hsome : t[1]? = some t[1] := List.getElem?_eq_getElem (by omega)
        rw [hsome] at hin
        exact (List.getElem?_eq_some_iff.1 hin).1
      exact List.getElem?_set_self hlt
    have hstart : ((recordAll 0 0 gs ss t).set 1 (some n))[0]? = some (some 0) := by
      rw [List.getElem?_set_ne (by omega), getElem?_recordAll (by omega), hfirst]
    rw [Pattern.spanAt, Nat.mul_zero, hstart, Nat.zero_add, hmark]
    rfl
  · refine List.ext_getElem (by simp [hlen]) fun i h₁ h₂ => ?_
    rw [List.length_map] at h₂
    have hspan := @spanAt_recordAll gs ss 0 0 i t _ (List.getElem?_eq_getElem h₂) (by omega)
    have hother : Pattern.spanAt ((recordAll 0 0 gs ss t).set 1 (some n)) (i + 1) =
        Pattern.spanAt (recordAll 0 0 gs ss t) (i + 1) :=
      spanAt_congr (List.getElem?_set_ne (by omega)) (List.getElem?_set_ne (by omega))
    rw [Nat.zero_add, Nat.add_comm] at hspan
    simp only [List.getElem_map, List.getElem_range, Nat.succ_eq_add_one, hother, hspan]

def patternOf (text : String) (gs : List Segment) : Pattern :=
  ⟨text, expression gs, groupNames gs, (expression gs).program.toArray⟩

/-- **The captures of a path** are the texts that its segments have taken, and there are some for every text that is
cut into what the segments allow. -/
theorem captures?_eq_some {gs : List Segment} (hg : ∀ g ∈ gs, g.Proper) {name : String} {text : List Char}
    {l : List (Option Span)} (h : (patternOf name gs).captures? text = some l) :
    ∃ ss, List.Forall₂ Allows gs ss ∧ text = joined ss ∧
      l = some ⟨0, text.length⟩ :: (spans 0 gs ss).map (fun x => some x.2) := by
  obtain ⟨slots, hs, rfl⟩ := Option.map_eq_some_iff.1 h
  obtain ⟨i, hi, q, ht⟩ := Regex.takes_of_search hs
  obtain ⟨rfl, rfl, ss, hss, htext, rfl⟩ := (takes_path_iff hg hi).1 ht
  exact ⟨ss, hss, htext, spansAt_recordAll hss _⟩

theorem isSome_captures?_iff {gs : List Segment} (hg : ∀ g ∈ gs, g.Proper) {name : String} {text : List Char} :
    ((patternOf name gs).captures? text).isSome = true ↔ ∃ ss, List.Forall₂ Allows gs ss ∧ text = joined ss := by
  rw [Pattern.captures?, Option.isSome_map]
  refine Regex.search_isSome_iff.trans ?_
  constructor
  · rintro ⟨i, hi, q, u, ht⟩
    obtain ⟨-, -, ss, hss, htext, -⟩ := (takes_path_iff hg hi).1 ht
    exact ⟨ss, hss, htext⟩
  · rintro ⟨ss, hss, htext⟩
    exact ⟨0, Nat.zero_le _, _, _, (takes_path_iff hg (Nat.zero_le _)).2 ⟨rfl, rfl, ss, hss, htext, rfl⟩⟩

end PathRouter.Route
