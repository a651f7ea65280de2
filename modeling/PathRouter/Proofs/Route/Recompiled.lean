import PathRouter.Proofs.Route.Accepted
import PathRouter.Proofs.Route.Creation
import PathRouter.Proofs.Route.Whole
/-!
# The pattern of a declared path as an expression

The pattern that a declared path was compiled to can be given as an expression.  It is then read once more, in a group
between the ends of the text; it is not refused for a slash, as it ends with a segment, and it lies shallow enough for the
group.  The route is the same: it has the same variables, and it matches the same paths with the same result
(`create_again`), for only one cut of a path can be what the segments took.
-/
namespace PathRouter

namespace Regex

variable {text : List Char}

/-- The slots of all matches of the expression are the same, wherever they begin. -/
def Once (text : List Char) (r : Regex) : Prop :=
  ∀ i ≤ text.length, ∀ j ≤ text.length, ∀ t q q' u u', Takes text (.group 0 none r) i t q u →
    Takes text (.group 0 none r) j t q' u' → u = u'

/-- **Searches give the same slots** if the expressions match the same and in one way only. -/
theorem search_congr {r r' : Regex} {n : Nat} (honce : Once text r)
    (h : ∀ i ≤ text.length, ∀ t q u, Takes text (.group 0 none r') i t q u ↔ Takes text (.group 0 none r) i t q u) :
    search r'.program.toArray n text.toArray = search r.program.toArray n text.toArray := by
  cases hs : search r.program.toArray n text.toArray with
  | none =>
    have hnone : ¬ (search r'.program.toArray n text.toArray).isSome = true := by
      intro hsome
      obtain ⟨i, hi, q, u, ht⟩ := search_isSome_iff.1 hsome
      have := search_isSome_iff.2 ⟨i, hi, q, u, (h i hi _ _ _).1 ht⟩
      rw [hs] at this
      cases this
    exact Option.not_isSome_iff_eq_none.1 hnone
  | some slots =>
    obtain ⟨i, hi, q, ht⟩ := takes_of_search hs
    have hsome := search_isSome_iff.2 ⟨i, hi, q, slots, (h i hi _ _ _).2 ht⟩
    obtain ⟨slots', hs'⟩ := Option.isSome_iff_exists.1 hsome
    obtain ⟨j, hj, q', ht'⟩ := takes_of_search hs'
    rw [hs', honce j hj i hi _ _ _ _ _ ((h j hj _ _ _).1 ht') ht]

end Regex

namespace Segment

open Regex (ReadState)

theorem after_enclose (st : ReadState) (g : Segment) : after st.enclose g = (after st g).enclose := by
  unfold after
  split
  · rfl
  · split
    · rfl
    · rw [ReadState.addAll_eq, ReadState.addAll_eq]
      rfl

end Segment

namespace Route

open Regex (ReadState Form wrapped closing Takes)
open Segment (Allows)

/-! ## Reading the pattern once more -/

theorem afterAll_enclose : ∀ (gs : List Segment) (st : ReadState), afterAll st.enclose gs = (afterAll st gs).enclose
  | [], _ => rfl
  | g :: gs, st => by
    have hadd : st.enclose.add ⟨.literal ['/'], 0⟩ = (st.add ⟨.literal ['/'], 0⟩).enclose := rfl
    rw [afterAll, hadd, Segment.after_enclose, afterAll_enclose gs]
    rfl

/-- **The pattern of a path is read inside a group** as it is read alone. -/
theorem parse?_wrapped_pattern {gs : List Segment} (hg : ∀ g ∈ gs, g.Proper) (hne : gs ≠ []) (hfit : NamesFit [] gs) :
    Regex.parse? ("^(?:" ++ String.ofList (pattern gs) ++ ")$") =
      some (wrapped (Form.alts [Form.cats (pathForms gs)])) := by
  have hstart : (({} : ReadState).add ⟨.assert .textStart, 0⟩).Shallow :=
    ReadState.Shallow.add ⟨rfl, rfl, fun _ h => absurd h List.not_mem_nil⟩ (Nat.zero_le 6)
  have htext : (String.ofList (pattern gs)).toList ++ closing = '^' :: (slashed gs ++ '$' :: closing) := by
    rw [String.toList_ofList, pattern_eq hne]
    simp
  rw [Regex.parse?_wrapped_text, htext, ReadState.read_caret rfl]
  have hadd : ({} : ReadState).enclose.add ⟨.assert .textStart, 0⟩ =
      (({} : ReadState).add ⟨.assert .textStart, 0⟩).enclose := rfl
  have hforms : pathForms gs = (({} : ReadState).add ⟨.assert .textStart, 0⟩).forms ++
      (forms (({} : ReadState).add ⟨.assert .textStart, 0⟩).groupCount gs ++ [.assert .textEnd]) := rfl
  have hnames : (({} : ReadState).add ⟨.assert .textStart, 0⟩).names = [] := rfl
  have hflags : (({} : ReadState).add ⟨.assert .textStart, 0⟩).flags = {} := rfl
  rw [hadd, hforms]
  generalize (({} : ReadState).add ⟨.assert .textStart, 0⟩) = st at hstart hnames hflags
  obtain ⟨hparts, -, hkeep⟩ := forms_afterAll gs st
  have hshallow : ((afterAll st gs).add ⟨.assert .textEnd, 0⟩).Shallow :=
    (shallow_afterAll hstart).add (Nat.zero_le 6)
  have hlast : ((afterAll st gs).add ⟨.assert .textEnd, 0⟩).flags.skip closing = closing := by
    have hflags : ((afterAll st gs).add ⟨.assert .textEnd, 0⟩).flags = {} := hkeep.trans hflags
    rw [hflags]
    rfl
  have hdepth : ((afterAll st gs).add ⟨.assert .textEnd, 0⟩).body.depth + 2 ≤ Regex.maxNesting :=
    Nat.le_trans (Nat.add_le_add_right hshallow.depth 2) (by decide)
  have hfit : NamesFit st.enclose.names gs := by
    have hsame : st.enclose.names = [] := hnames
    rwa [hsame]
  have hread := @read_slashed ('$' :: closing) gs st.enclose hg hflags (by simp) hfit
  rw [hread, afterAll_enclose, @ReadState.read_dollar (afterAll st gs).enclose _ (hkeep.trans hflags)]
  refine (ReadState.read_enclose_closing hshallow.outer hlast (by decide)).trans ?_
  rw [if_pos hdepth, hshallow.body_value, ReadState.forms_add, hparts, List.append_assoc]

/-- The pattern ends with a segment, and the segment does not end with a slash. -/
theorem endsWithSlash_pattern {gs : List Segment} (hg : ∀ g ∈ gs, g.Proper) (hne : gs ≠ []) :
    Matcher.endsWithSlash (pattern gs) = false := by
  obtain ⟨gs, g, rfl⟩ := (List.eq_nil_or_concat' gs).resolve_left hne
  have hproper := hg g (by simp)
  obtain ⟨s, c, hs⟩ := (List.eq_nil_or_concat' g.pattern).resolve_left (Segment.pattern_ne_nil hproper)
  have hc : c ≠ '/' := by
    rintro rfl
    exact Segment.slash_notMem_pattern hproper (by rw [hs]; simp)
  rw [pattern_eq hne, slashed, List.flatMap_append, List.flatMap_singleton, hs]
  simp [Matcher.endsWithSlash, hc]

/-! ## Matching once more -/

theorem joined_eq : ∀ ss : List (List Char), joined ss = ['/'].intercalate ([] :: ss)
  | [] => rfl
  | [s] => by simp [joined]
  | s :: s' :: ss => by
    rw [joined, List.flatMap_cons, ← joined, joined_eq (s' :: ss)]
    simp [List.intercalate_cons_cons]

/-- Texts without slashes are told apart by the slashes between them. -/
theorem joined_inj {ss ss' : List (List Char)} (hs : ∀ s ∈ ss, '/' ∉ s) (hs' : ∀ s ∈ ss', '/' ∉ s)
    (h : joined ss = joined ss') : ss = ss' := by
  have hsplit : ∀ {ss : List (List Char)}, (∀ s ∈ ss, '/' ∉ s) → (joined ss).splitOn '/' = [] :: ss := by
    intro ss hs
    rw [joined_eq]
    exact List.splitOn_intercalate _ (List.forall_mem_cons.2 ⟨List.not_mem_nil, hs⟩) (List.cons_ne_nil _ _)
  have heq := hsplit hs
  rw [h, hsplit hs'] at heq
  exact (List.cons.inj heq).2.symm

/-- A path is cut in one way only, and so there is only one match. -/
theorem once_expression {gs : List Segment} (hg : ∀ g ∈ gs, g.Proper) (text : List Char) :
    Regex.Once text (expression gs) := by
  intro i hi j hj t q q' u u' h h'
  obtain ⟨rfl, rfl, ss, hss, htext, rfl⟩ := (takes_path_iff hg hi).1 h
  obtain ⟨rfl, rfl, ss', hss', htext', rfl⟩ := (takes_path_iff hg hj).1 h'
  rw [joined_inj (cut_of_allows hg hss) (cut_of_allows hg hss') (htext.symm.trans htext')]

/-- The expression matches whole paths anyway, so the ends of the text change nothing. -/
theorem takes_wrapped_path_iff {gs : List Segment} (hg : ∀ g ∈ gs, g.Proper) {text : List Char} {i q : Nat}
    {t u : Regex.Slots} (hi : i ≤ text.length) :
    Takes text (.group 0 none (wrapped (Form.alts [Form.cats (pathForms gs)]))) i t q u ↔
      Takes text (.group 0 none (expression gs)) i t q u := by
  constructor
  · intro h
    obtain ⟨v, hv, rfl⟩ := Regex.takes_group_iff.1 h
    obtain ⟨rfl, rfl, hbody⟩ := (Regex.takes_wrapped_iff hi).1 hv
    exact Regex.takes_group_iff.2 ⟨v, hbody, rfl⟩
  · intro h
    obtain ⟨rfl, rfl, -⟩ := (takes_path_iff hg hi).1 h
    obtain ⟨v, hbody, rfl⟩ := Regex.takes_group_iff.1 h
    exact Regex.takes_group_iff.2 ⟨v, (Regex.takes_wrapped_iff hi).2 ⟨rfl, rfl, hbody⟩, rfl⟩

/-- **A pattern that is given as an expression makes the same route.** -/
theorem create_again {f : RouteFactory} {path : String} {m : Matcher} (h : (f.create path).2 = .ok m)
    (f' : RouteFactory) :
    ∃ m', (f'.createFromPattern m.pattern.matching).2 = .ok m' ∧ m'.variableNames = m.variableNames ∧
      ∀ p, m'.matchPath p = m.matchPath p := by
  obtain ⟨gs, -, hne, hg, hfit, rfl⟩ := compiled_of_create h
  have hslash : Matcher.endsWithSlash (String.ofList (pattern gs)).toList = false := by
    rw [String.toList_ofList]
    exact endsWithSlash_pattern hg hne
  have hnames : (wrapped (Form.alts [Form.cats (pathForms gs)])).groupNames = groupNames gs :=
    (Regex.groupNames_wrapped _).trans (groupNames_expression gs)
  have hmade := Matcher.ofRegex_some hslash (parse?_wrapped_pattern hg hne hfit)
  rw [hnames] at hmade
  refine ⟨_, RouteFactory.record_eq_ok.2 hmade, rfl, fun p => ?_⟩
  have hsearch : ∀ n, Regex.search (wrapped (Form.alts [Form.cats (pathForms gs)])).program.toArray n p.toList.toArray =
      Regex.search (expression gs).program.toArray n p.toList.toArray := fun n =>
    Regex.search_congr (once_expression hg p.toList) fun i hi t q u => takes_wrapped_path_iff hg hi
  simp only [Matcher.matchPath, Pattern.captures?, patternOf, hsearch]

/-- A variable and a wildcard, given as a path and as the expression that the path is compiled to. -/
theorem create_user_version_again : ∃ m m', (({} : RouteFactory).create "/:user/v+").2 = .ok m ∧
    m.pattern.matching = "^/(?<user>[\\w\\d\\-_]+)/(v[\\w\\d\\-_]+)$" ∧
    (({} : RouteFactory).createFromPattern m.pattern.matching).2 = .ok m' ∧
    m'.variableNames = m.variableNames ∧ m'.matchPath "/ann/v2" = m.matchPath "/ann/v2" := by
  have hok : (({} : RouteFactory).create "/:user/v+").2.toOption.map (fun m => m.pattern.matching) =
      some "^/(?<user>[\\w\\d\\-_]+)/(v[\\w\\d\\-_]+)$" := by decide +kernel
  cases hm : (({} : RouteFactory).create "/:user/v+").2 with
  | error e =>
    rw [hm] at hok
    cases hok
  | ok m =>
    rw [hm] at hok
    obtain ⟨m', hm', hvars, hmatch⟩ := create_again hm {}
    exact ⟨m, m', rfl, Option.some.inj hok, hm', hvars, hmatch _⟩

end Route
end PathRouter
