import PathRouter.Proofs.Regex.Takes
import PathRouter.Proofs.Regex.CharSet
import PathRouter.Regex.Form
/-!
# What forms match

The functions that put forms together keep what matches.  `matches_cats` says so of concatenations, where literals are
joined and nested concatenations are opened, and `matches_alts` of alternatives, where what all of them begin with is
written once and single characters become one set.

Alternatives that are bare sets may become one set as well.  What is said here leaves them out (`NoSet`): a set of one
surrogate is not the literal it would be taken for.
-/
namespace PathRouter.Regex

variable {text : List Char}

/-! ## One after another -/

def TakesAll (text : List Char) : List Regex → Nat → Slots → Nat → Slots → Prop
  | [], p, t, q, u => p = q ∧ t = u
  | r :: rs, p, t, q, u => ∃ m v, Takes text r p t m v ∧ TakesAll text rs m v q u

section

variable {p q : Nat} {t u : Slots}

theorem takesAll_singleton {r : Regex} : TakesAll text [r] p t q u ↔ Takes text r p t q u := by
  constructor
  · rintro ⟨m, v, h, rfl, rfl⟩
    exact h
  · intro h
    exact ⟨q, u, h, rfl, rfl⟩

theorem takesAll_append : ∀ {rs ss : List Regex} {p : Nat} {t : Slots}, TakesAll text (rs ++ ss) p t q u ↔
    ∃ m v, TakesAll text rs p t m v ∧ TakesAll text ss m v q u
  | [], ss, p, t => by
    constructor
    · intro h
      exact ⟨p, t, ⟨rfl, rfl⟩, h⟩
    · rintro ⟨m, v, ⟨rfl, rfl⟩, h⟩
      exact h
  | r :: rs, ss, p, t => by
    constructor
    · rintro ⟨m, v, hr, h⟩
      obtain ⟨m', v', hrs, hss⟩ := takesAll_append.1 h
      exact ⟨m', v', ⟨m, v, hr, hrs⟩, hss⟩
    · rintro ⟨m', v', ⟨m, v, hr, hrs⟩, hss⟩
      exact ⟨m, v, hr, takesAll_append.2 ⟨m', v', hrs, hss⟩⟩

theorem takes_regexCats_iff : ∀ {rs : List Regex} {p : Nat} {t : Slots},
    Takes text (cats rs) p t q u ↔ TakesAll text rs p t q u
  | [], p, t => takes_empty_iff
  | [r], p, t => takesAll_singleton.symm
  | r :: s :: rs, p, t => by
    rw [cats, takes_cat_iff]
    · simp only [TakesAll, @takes_regexCats_iff (s :: rs)]
    · simp

end

namespace Form

abbrev Matches (text : List Char) (r : Form) : Nat → Slots → Nat → Slots → Prop :=
  Takes text r.toRegex

abbrev MatchesAll (text : List Char) (rs : List Form) : Nat → Slots → Nat → Slots → Prop :=
  TakesAll text (rs.map toRegex)

section

variable {p q : Nat} {t u : Slots}

theorem matchesAll_cons {r : Form} {rs : List Form} : MatchesAll text (r :: rs) p t q u ↔
    ∃ m v, Matches text r p t m v ∧ MatchesAll text rs m v q u :=
  Iff.rfl

theorem matches_cat {r s : Form} : Matches text (.cat r s) p t q u ↔
    ∃ m v, Matches text r p t m v ∧ Matches text s m v q u :=
  takes_cat_iff

theorem matchesAll_append {rs ss : List Form} : MatchesAll text (rs ++ ss) p t q u ↔
    ∃ m v, MatchesAll text rs p t m v ∧ MatchesAll text ss m v q u := by
  unfold MatchesAll
  rw [List.map_append, takesAll_append]

/-! ## Concatenations -/

theorem matchesAll_factors : ∀ {r : Form} {p : Nat} {t : Slots},
    MatchesAll text r.factors p t q u ↔ Matches text r p t q u
  | .empty, p, t => takes_empty_iff.symm
  | .literal _, p, t | .set _ _, p, t | .assert _, p, t | .repeated _ _ _ _, p, t | .group _ _ _, p, t
  | .alt _ _, p, t => takesAll_singleton
  | .cat r s, p, t => by
    rw [factors, matchesAll_cons, matches_cat]
    simp only [@matchesAll_factors s]

theorem matchesAll_flatMap_factors : ∀ {rs : List Form} {p : Nat} {t : Slots},
    MatchesAll text (rs.flatMap factors) p t q u ↔ MatchesAll text rs p t q u
  | [], p, t => Iff.rfl
  | r :: rs, p, t => by
    rw [List.flatMap_cons, matchesAll_append, matchesAll_cons]
    simp only [matchesAll_factors, @matchesAll_flatMap_factors rs]

theorem matches_literal_append {a b : List Char} :
    Matches text (.literal (a ++ b)) p t q u ↔ MatchesAll text [.literal a, .literal b] p t q u := by
  unfold Matches MatchesAll
  simp only [List.map_cons, List.map_nil, TakesAll, toRegex, takes_regexCats_iff, List.map_append, takesAll_append]
  constructor
  · rintro ⟨m, v, ha, hb⟩
    exact ⟨m, v, ha, q, u, hb, rfl, rfl⟩
  · rintro ⟨m, v, ha, _, _, hb, rfl, rfl⟩
    exact ⟨m, v, ha, hb⟩

theorem matchesAll_consFactor {r : Form} {rs : List Form} :
    MatchesAll text (consFactor r rs) p t q u ↔ MatchesAll text (r :: rs) p t q u := by
  unfold consFactor
  split
  · rename_i a b rest
    have hpair : MatchesAll text ([.literal a, .literal b] ++ rest) p t q u ↔
        MatchesAll text ([.literal (a ++ b)] ++ rest) p t q u := by
      rw [matchesAll_append, matchesAll_append]
      simp only [← matches_literal_append]
      simp only [MatchesAll, List.map_cons, List.map_nil, takesAll_singleton]
    exact hpair.symm
  · exact Iff.rfl

theorem matchesAll_foldr_consFactor : ∀ {rs : List Form} {p : Nat} {t : Slots},
    MatchesAll text (rs.foldr consFactor []) p t q u ↔ MatchesAll text rs p t q u
  | [], p, t => Iff.rfl
  | r :: rs, p, t => by
    rw [List.foldr_cons, matchesAll_consFactor, matchesAll_cons, matchesAll_cons]
    simp only [@matchesAll_foldr_consFactor rs]

theorem matches_ofFactors : ∀ {rs : List Form} {p : Nat} {t : Slots},
    Matches text (ofFactors rs) p t q u ↔ MatchesAll text rs p t q u
  | [], p, t => takes_empty_iff
  | [r], p, t => takesAll_singleton.symm
  | r :: s :: rs, p, t => by
    rw [ofFactors, matches_cat, matchesAll_cons]
    · simp only [@matches_ofFactors (s :: rs)]
    · simp

/-- **A concatenation matches what its members match one after another.** -/
theorem matches_cats {rs : List Form} : Matches text (cats rs) p t q u ↔ MatchesAll text rs p t q u := by
  rw [cats, matches_ofFactors, matchesAll_foldr_consFactor, matchesAll_flatMap_factors]

end

/-! ## Sets -/

/-- No set stands in the form but inside repetitions and groups. -/
def NoSet : Form → Prop
  | .set _ _ => False
  | .cat r s | .alt r s => r.NoSet ∧ s.NoSet
  | _ => True

theorem NoSet.asSet?_eq_none {r : Form} (h : r.NoSet) : r.asSet? = none := by
  cases r with
  | set _ _ => exact h.elim
  | _ => rfl

theorem NoSet.of_mem_factors : ∀ {r : Form}, r.NoSet → ∀ f ∈ r.factors, f.NoSet
  | .empty, _, f, hf => absurd hf List.not_mem_nil
  | .literal _, h, f, hf | .set _ _, h, f, hf | .assert _, h, f, hf | .repeated _ _ _ _, h, f, hf
  | .group _ _ _, h, f, hf | .alt _ _, h, f, hf => by
    rw [List.mem_singleton.1 hf]
    exact h
  | .cat r s, h, f, hf => by
    rcases List.mem_cons.1 hf with rfl | hf
    · exact h.1
    · exact NoSet.of_mem_factors h.2 f hf

theorem NoSet.of_mem_branches : ∀ {r : Form}, r.NoSet → ∀ b ∈ r.branches, b.NoSet
  | .empty, h, b, hb | .literal _, h, b, hb | .set _ _, h, b, hb | .assert _, h, b, hb | .repeated _ _ _ _, h, b, hb
  | .group _ _ _, h, b, hb | .cat _ _, h, b, hb => by
    rw [List.mem_singleton.1 hb]
    exact h
  | .alt r s, h, b, hb => by
    rcases List.mem_cons.1 hb with rfl | hb
    · exact h.1
    · exact NoSet.of_mem_branches h.2 b hb

theorem noSet_flatMap_branches {rs : List Form} (h : ∀ r ∈ rs, r.NoSet) : ∀ b ∈ rs.flatMap branches, b.NoSet := by
  intro b hb
  obtain ⟨r, hr, hb⟩ := List.mem_flatMap.1 hb
  exact (h r hr).of_mem_branches b hb

theorem noSet_ofFactors : ∀ {rs : List Form}, (∀ r ∈ rs, r.NoSet) → (ofFactors rs).NoSet
  | [], _ => trivial
  | [r], h => h r List.mem_cons_self
  | r :: s :: rs, h => by
    rw [ofFactors]
    · exact ⟨h r List.mem_cons_self, noSet_ofFactors fun f hf => h f (List.mem_cons_of_mem _ hf)⟩
    · simp

theorem noSet_consFactor {r : Form} {rs : List Form} (hr : r.NoSet) (hrs : ∀ f ∈ rs, f.NoSet) :
    ∀ f ∈ consFactor r rs, f.NoSet := by
  unfold consFactor
  split
  · intro f hf
    rcases List.mem_cons.1 hf with rfl | hf
    · trivial
    · exact hrs f (List.mem_cons_of_mem _ hf)
  · exact List.forall_mem_cons.2 ⟨hr, hrs⟩

theorem noSet_foldr_consFactor : ∀ {rs : List Form}, (∀ r ∈ rs, r.NoSet) → ∀ f ∈ rs.foldr consFactor [], f.NoSet
  | [], _, _, hf => absurd hf List.not_mem_nil
  | r :: _, h, f, hf =>
    noSet_consFactor (h r List.mem_cons_self)
      (noSet_foldr_consFactor fun g hg => h g (List.mem_cons_of_mem _ hg)) f hf

theorem noSet_cats {rs : List Form} (h : ∀ r ∈ rs, r.NoSet) : (cats rs).NoSet := by
  refine noSet_ofFactors (noSet_foldr_consFactor fun f hf => ?_)
  obtain ⟨r, hr, hf⟩ := List.mem_flatMap.1 hf
  exact (h r hr).of_mem_factors f hf

section

variable {p q : Nat} {t u : Slots}

theorem takes_one_congr {s k : CharSet} (h : ∀ c, s.mem c = true ↔ k.mem c = true) :
    Takes text (.one s) p t q u ↔ Takes text (.one k) p t q u := by
  rw [takes_one_iff, takes_one_iff]
  simp only [h]

theorem matches_char {c : Char} : Matches text (.literal [c]) p t q u ↔ text[p]? = some c ∧ q = p + 1 ∧ t = u := by
  unfold Matches
  rw [toRegex, takes_regexCats_iff, List.map_singleton, takesAll_singleton, takes_one_iff]
  simp only [CharSet.mem_single, exists_eq_right]

/-- A set of one code point is a literal, so the code point has to be that of a character. -/
theorem matches_ofSet {ascii : Bool} {s : CharSet} (h : ∀ a, s.ranges = [(a, a)] → ∃ c : Char, a = c.toNat) :
    Matches text (ofSet ascii s) p t q u ↔ Takes text (.one s) p t q u := by
  unfold ofSet
  split
  · rename_i hs
    refine takes_one_congr fun c => ?_
    rw [CharSet.mem_iff, CharSet.mem_iff, hs]
    exact Iff.rfl
  · rename_i a b hs
    split
    · rename_i hab
      subst hab
      obtain ⟨d, rfl⟩ := h a hs
      rw [matches_char, takes_one_iff, Char.ofNat_toNat]
      have hmem : ∀ c, s.mem c = true ↔ c = d := fun c => by
        rw [CharSet.mem_iff, hs]
        exact CharSet.covers_single.trans Char.toNat_inj
      simp only [hmem, exists_eq_right]
    · exact Iff.rfl
  · exact Iff.rfl

/-! ## Alternatives

What holds of an alternative when it holds of one of its sides is passed on by the functions that take alternatives apart
and put them together. -/

theorem exists_branch_iff {P : Form → Prop} (halt : ∀ r s, P (.alt r s) ↔ P r ∨ P s) :
    ∀ {r : Form}, (∃ b ∈ r.branches, P b) ↔ P r
  | .empty | .literal _ | .set _ _ | .assert _ | .repeated _ _ _ _ | .group _ _ _ | .cat _ _ => by simp [branches]
  | .alt r s => by
    rw [branches, halt, ← @exists_branch_iff P halt s]
    simp only [List.mem_cons, exists_eq_or_imp]

theorem exists_mem_flatMap_branches {P : Form → Prop} (halt : ∀ r s, P (.alt r s) ↔ P r ∨ P s) {rs : List Form} :
    (∃ b ∈ rs.flatMap branches, P b) ↔ ∃ r ∈ rs, P r := by
  simp only [List.mem_flatMap]
  constructor
  · rintro ⟨b, ⟨r, hr, hb⟩, h⟩
    exact ⟨r, hr, (exists_branch_iff halt).1 ⟨b, hb, h⟩⟩
  · rintro ⟨r, hr, h⟩
    obtain ⟨b, hb, h⟩ := (exists_branch_iff halt).2 h
    exact ⟨b, ⟨r, hr, hb⟩, h⟩

theorem ofBranches_iff {P : Form → Prop} (halt : ∀ r s, P (.alt r s) ↔ P r ∨ P s) (hnothing : ¬ P nothing) :
    ∀ {rs : List Form}, P (ofBranches rs) ↔ ∃ r ∈ rs, P r
  | [] => by simp [ofBranches, hnothing]
  | [r] => by simp [ofBranches]
  | r :: s :: rs => by
    have ih := @ofBranches_iff P halt hnothing (s :: rs)
    rw [ofBranches]
    · rw [halt, ih]
      simp only [List.mem_cons, exists_eq_or_imp]
    · simp

theorem matches_alt {r s : Form} :
    Matches text (.alt r s) p t q u ↔ Matches text r p t q u ∨ Matches text s p t q u :=
  takes_alt_iff

theorem matches_ofBranches {rs : List Form} :
    Matches text (ofBranches rs) p t q u ↔ ∃ r ∈ rs, Matches text r p t q u := by
  refine @ofBranches_iff (fun r => Matches text r p t q u) (fun _ _ => matches_alt) ?_ rs
  unfold Matches
  simp [nothing, toRegex, takes_one_iff, CharSet.mem, CharSet.none]

theorem matches_flatMap_branches {rs : List Form} :
    (∃ b ∈ rs.flatMap branches, Matches text b p t q u) ↔ ∃ r ∈ rs, Matches text r p t q u :=
  @exists_mem_flatMap_branches (fun r => Matches text r p t q u) (fun _ _ => matches_alt) rs

theorem mapM_asChar? : ∀ {rs : List Form} {ks : List CharSet}, rs.mapM asChar? = some ks →
    ∃ cs : List Char, rs = cs.map (fun c => .literal [c]) ∧ ks = cs.map .single
  | [], ks, h => by
    rw [List.mapM_nil] at h
    exact ⟨[], rfl, (Option.some.inj h).symm⟩
  | r :: rs, ks, h => by
    rw [List.mapM_cons] at h
    obtain ⟨k, hk, h⟩ := Option.bind_eq_some_iff.1 h
    obtain ⟨ks', hks, h⟩ := Option.bind_eq_some_iff.1 h
    obtain ⟨cs, hrs, rfl⟩ := mapM_asChar? hks
    obtain rfl := Option.some.inj h
    unfold asChar? at hk
    split at hk
    · rename_i c
      exact ⟨c :: cs, by rw [hrs, List.map_cons], by rw [← Option.some.inj hk, List.map_cons]⟩
    · cases hk

theorem mapM_asSet?_eq_none {r : Form} {rs : List Form} (h : r.NoSet) : (r :: rs).mapM asSet? = none := by
  rw [List.mapM_cons, h.asSet?_eq_none]
  rfl

theorem char_of_unions_single {cs : List Char} {a : Nat}
    (h : (CharSet.unions (cs.map .single)).ranges = [(a, a)]) : ∃ c : Char, a = c.toNat := by
  have hcov : CharSet.Covers (CharSet.unions (cs.map .single)).ranges a := by
    rw [h]
    exact CharSet.covers_cons.2 (.inl ⟨Nat.le_refl _, Nat.le_refl _⟩)
  rw [CharSet.covers_unions] at hcov
  obtain ⟨k, hk, hcov⟩ := hcov
  obtain ⟨c, _, rfl⟩ := List.mem_map.1 hk
  exact ⟨c, CharSet.covers_single.1 hcov⟩

theorem matches_choice {rs : List Form} (h : ∀ r ∈ rs, r.NoSet) :
    Matches text (choice rs) p t q u ↔ ∃ r ∈ rs, Matches text r p t q u := by
  have hno := noSet_flatMap_branches h
  rw [← matches_flatMap_branches, choice]
  generalize rs.flatMap branches = bs at hno
  match bs, hno with
  | [], _ => exact @matches_ofBranches text p q t u []
  | [b], _ => simp
  | b :: b' :: bs, hno =>
    dsimp only
    unfold asOneSet?
    rw [mapM_asSet?_eq_none (hno b List.mem_cons_self), Option.or_none]
    cases hks : (b :: b' :: bs).mapM asChar? with
    | none => exact matches_ofBranches
    | some ks =>
      obtain ⟨cs, hcs, rfl⟩ := mapM_asChar? hks
      rw [hcs]
      dsimp only [Option.map_some, Option.getD_some]
      rw [matches_ofSet fun a => char_of_unions_single, takes_one_iff]
      simp only [CharSet.mem_iff, CharSet.covers_unions, List.mem_map]
      constructor
      · rintro ⟨⟨c, hc, k, ⟨d, hd, rfl⟩, hcd⟩, hq, ht⟩
        obtain rfl := Char.toNat_inj.1 (CharSet.covers_single.1 hcd)
        exact ⟨_, ⟨c, hd, rfl⟩, matches_char.2 ⟨hc, hq, ht⟩⟩
      · rintro ⟨_, ⟨c, hc, rfl⟩, hm⟩
        obtain ⟨hcp, hq, ht⟩ := matches_char.1 hm
        exact ⟨⟨c, hcp, _, ⟨c, hc, rfl⟩, CharSet.covers_single.2 rfl⟩, hq, ht⟩

/-! ### What all alternatives begin with -/

theorem foldl_sharedPrefix : ∀ {ls : List (List Form)} {fs : List Form},
    ls.foldl sharedPrefix fs <+: fs ∧ ∀ l ∈ ls, ls.foldl sharedPrefix fs <+: l
  | [], fs => ⟨List.prefix_rfl, fun _ h => absurd h List.not_mem_nil⟩
  | l :: ls, fs => by
    obtain ⟨hfs, hls⟩ := @foldl_sharedPrefix ls (sharedPrefix fs l)
    rw [List.foldl_cons]
    refine ⟨hfs.trans (sharedPrefix_left fs l), fun l' hl' => ?_⟩
    rcases List.mem_cons.1 hl' with rfl | hl'
    · exact hfs.trans (sharedPrefix_right fs _)
    · exact hls l' hl'

theorem sharedFactors_left {rs : List Form} {r : Form} (hr : r ∈ rs) : sharedFactors rs <+: r.factors := by
  unfold sharedFactors
  cases rs with
  | nil => cases hr
  | cons s rs =>
    rw [List.map_cons]
    dsimp only
    split
    · obtain ⟨hs, hrs⟩ := @foldl_sharedPrefix (rs.map factors) s.factors
      rcases List.mem_cons.1 hr with rfl | hr
      · exact hs
      · exact hrs _ (List.mem_map_of_mem hr)
    · exact List.nil_prefix

/-- **Alternatives match what one of them matches.** -/
theorem matches_alts {rs : List Form} (h : ∀ r ∈ rs, r.NoSet) :
    Matches text (alts rs) p t q u ↔ ∃ r ∈ rs, Matches text r p t q u := by
  have hno := noSet_flatMap_branches h
  rw [← matches_flatMap_branches, alts]
  generalize rs.flatMap branches = bs at hno
  split
  · exact matches_choice hno
  · have hrest : ∀ r ∈ bs.map (fun r => ofFactors (r.factors.drop (sharedFactors bs).length)), r.NoSet := by
      intro r hr
      obtain ⟨b, hb, rfl⟩ := List.mem_map.1 hr
      exact noSet_ofFactors fun f hf => (hno b hb).of_mem_factors f (List.mem_of_mem_drop hf)
    -- Each alternative is what all of them begin with, and then a rest of its own.
    have hsplit : ∀ b ∈ bs, ∀ {p t}, Matches text b p t q u ↔ ∃ m v, MatchesAll text (sharedFactors bs) p t m v ∧
        Matches text (ofFactors (b.factors.drop (sharedFactors bs).length)) m v q u := by
      intro b hb p t
      obtain ⟨rest, hfs⟩ := sharedFactors_left hb
      rw [← matchesAll_factors, ← hfs, matchesAll_append, List.drop_left]
      simp only [matches_ofFactors]
    rw [matches_cats, matchesAll_append]
    simp only [matchesAll_cons, MatchesAll, List.map_nil, TakesAll, matches_choice hrest, List.mem_map]
    constructor
    · rintro ⟨m, v, hs, _, _, ⟨_, ⟨b, hb, rfl⟩, hm⟩, rfl, rfl⟩
      exact ⟨b, hb, (hsplit b hb).2 ⟨m, v, hs, hm⟩⟩
    · rintro ⟨b, hb, hm⟩
      obtain ⟨m, v, hs, hm⟩ := (hsplit b hb).1 hm
      exact ⟨m, v, hs, q, u, ⟨_, ⟨b, hb, rfl⟩, hm⟩, rfl, rfl⟩

end

/-- A single alternative of several factors stays as it is. -/
theorem alts_cats_assert {a : Assertion} {rs : List Form} (h : rs.flatMap factors ≠ []) :
    alts [cats (.assert a :: rs)] = cats (.assert a :: rs) := by
  obtain ⟨f, fs, hfs⟩ := List.exists_cons_of_ne_nil h
  have hne : (rs.flatMap factors).foldr consFactor [] ≠ [] := by
    rw [hfs, List.foldr_cons]
    unfold consFactor
    split <;> exact List.cons_ne_nil _ _
  obtain ⟨g, gs, hgs⟩ := List.exists_cons_of_ne_nil hne
  have hcat : cats (.assert a :: rs) = .cat (.assert a) (ofFactors (g :: gs)) := by
    have hfold : ((Form.assert a :: rs).flatMap factors).foldr consFactor [] = .assert a :: g :: gs := by
      rw [List.flatMap_cons, factors, List.singleton_append, List.foldr_cons, hgs]
      · rfl
      all_goals simp
    rw [cats, hfold, ofFactors]
    simp
  rw [hcat]
  simp [alts, choice, branches]

/-! ## Groups -/

theorem groups_regexCats : ∀ rs : List Regex, (Regex.cats rs).groups = rs.flatMap groups
  | [] => rfl
  | [r] => by simp [Regex.cats]
  | r :: s :: rs => by
    have ih := groups_regexCats (s :: rs)
    rw [Regex.cats, groups, ih, List.flatMap_cons]
    · simp
    · simp

theorem groups_literal (cs : List Char) : (literal cs).toRegex.groups = [] := by
  rw [toRegex, groups_regexCats, List.flatMap_eq_nil_iff]
  intro r hr
  obtain ⟨c, _, rfl⟩ := List.mem_map.1 hr
  rfl

theorem groups_factors : ∀ r : Form, r.factors.flatMap (·.toRegex.groups) = r.toRegex.groups
  | .empty => rfl
  | .literal _ | .set _ _ | .assert _ | .repeated _ _ _ _ | .group _ _ _ | .alt _ _ => List.flatMap_singleton _ _
  | .cat r s => by
    rw [factors, List.flatMap_cons, groups_factors s]
    rfl

theorem groups_consFactor (r : Form) (rs : List Form) :
    (consFactor r rs).flatMap (·.toRegex.groups) = r.toRegex.groups ++ rs.flatMap (·.toRegex.groups) := by
  unfold consFactor
  split
  · simp only [List.flatMap_cons, groups_literal, List.nil_append]
  · exact List.flatMap_cons

theorem groups_ofFactors : ∀ rs : List Form, (ofFactors rs).toRegex.groups = rs.flatMap (·.toRegex.groups)
  | [] => rfl
  | [r] => by simp [ofFactors]
  | r :: s :: rs => by
    have ih := groups_ofFactors (s :: rs)
    rw [ofFactors, toRegex, groups, ih, List.flatMap_cons]
    · simp
    · simp

theorem groups_foldr_consFactor : ∀ rs : List Form,
    (rs.foldr consFactor []).flatMap (·.toRegex.groups) = rs.flatMap (·.toRegex.groups)
  | [] => rfl
  | r :: rs => by rw [List.foldr_cons, groups_consFactor, groups_foldr_consFactor rs, List.flatMap_cons]

/-- **A concatenation has the groups of its members, in order.** -/
theorem groups_cats (rs : List Form) : (cats rs).toRegex.groups = rs.flatMap (·.toRegex.groups) := by
  rw [cats, groups_ofFactors, groups_foldr_consFactor, List.flatMap_assoc]
  simp only [groups_factors]

theorem groups_ofSet (ascii : Bool) (s : CharSet) : (ofSet ascii s).toRegex.groups = [] := by
  unfold ofSet
  split
  · rfl
  · split
    · exact groups_literal _
    · rfl
  · rfl

/-! ### Alternatives -/

section

variable {x : Nat × Option String}

theorem mem_groups_alt {r s : Form} :
    x ∈ (Form.alt r s).toRegex.groups ↔ x ∈ r.toRegex.groups ∨ x ∈ s.toRegex.groups :=
  List.mem_append

theorem mem_groups_flatMap_branches {rs : List Form} :
    (∃ b ∈ rs.flatMap branches, x ∈ b.toRegex.groups) ↔ ∃ r ∈ rs, x ∈ r.toRegex.groups :=
  @exists_mem_flatMap_branches (fun r => x ∈ r.toRegex.groups) (fun _ _ => mem_groups_alt) rs

theorem mem_groups_choice {rs : List Form} (h : x ∈ (choice rs).toRegex.groups) :
    ∃ r ∈ rs, x ∈ r.toRegex.groups := by
  rw [← mem_groups_flatMap_branches]
  unfold choice at h
  split at h
  · cases h
  · rename_i r hr
    exact ⟨r, hr ▸ List.mem_cons_self, h⟩
  · cases hset : asOneSet? (rs.flatMap branches) with
    | none =>
      rw [hset] at h
      exact (@ofBranches_iff (fun r => x ∈ r.toRegex.groups) (fun _ _ => mem_groups_alt) List.not_mem_nil _).1 h
    | some k =>
      have hnil : (ofSet false k).toRegex.groups = [] := groups_ofSet false k
      rw [hset, Option.map_some, Option.getD_some, hnil] at h
      cases h

theorem mem_groups_of_factor {r f : Form} (hf : f ∈ r.factors) (h : x ∈ f.toRegex.groups) :
    x ∈ r.toRegex.groups := by
  rw [← groups_factors r]
  exact List.mem_flatMap.2 ⟨f, hf, h⟩

/-- **Alternatives have the groups of their members**, though a group they share may be written once. -/
theorem mem_groups_alts {rs : List Form} (h : x ∈ (alts rs).toRegex.groups) : ∃ r ∈ rs, x ∈ r.toRegex.groups := by
  rw [← mem_groups_flatMap_branches]
  rw [alts] at h
  generalize rs.flatMap branches = bs at h
  split at h
  · exact mem_groups_choice h
  · rename_i hlen
    rw [groups_cats, List.flatMap_append, List.mem_append, List.flatMap_singleton] at h
    rcases h with h | h
    · obtain ⟨f, hf, hx⟩ := List.mem_flatMap.1 h
      cases bs with
      | nil => simp at hlen
      | cons b bs =>
        exact ⟨b, List.mem_cons_self, mem_groups_of_factor ((sharedFactors_left List.mem_cons_self).subset hf) hx⟩
    · obtain ⟨r, hr, hx⟩ := mem_groups_choice h
      obtain ⟨b, hb, rfl⟩ := List.mem_map.1 hr
      rw [groups_ofFactors] at hx
      obtain ⟨f, hf, hx⟩ := List.mem_flatMap.1 hx
      exact ⟨b, hb, mem_groups_of_factor (List.mem_of_mem_drop hf) hx⟩

theorem groups_alts {rs : List Form} (h : ∀ r ∈ rs, r.toRegex.groups = []) : (alts rs).toRegex.groups = [] := by
  refine List.eq_nil_iff_forall_not_mem.2 fun x hx => ?_
  obtain ⟨r, hr, hm⟩ := mem_groups_alts hx
  rw [h r hr] at hm
  cases hm

end

end Form
end PathRouter.Regex
