import PathRouter.Proofs.Regex.CharSet
import PathRouter.Regex.Property.Binary
import PathRouter.Route.Segment
/-!
# Word characters in patterns

A pattern writes classes of characters as sets, and `Text` looks characters up one by one.  Both read the same tables,
and they agree: `mem_ofCategories` says so of every union of categories, `mem_word` of the class `\w`, and
`mem_nameClass` of the class that compiled paths are made of.
-/
namespace PathRouter.CharSet

open Text (Category)

/-! ## Look-ups -/

theorem inRanges_iff {n : Nat} : ∀ {rs : List (Nat × Nat)}, Ascends rs → (Text.inRanges n rs = true ↔ Covers rs n)
  | [], _ => by simp [Text.inRanges]
  | (lo, hi) :: rest, h => by
    obtain ⟨hlo, h'⟩ := List.pairwise_cons.1 h
    have ih := inRanges_iff (n := n) h'
    rw [Text.inRanges, covers_cons, ← ih]
    by_cases hn : n < lo
    · have hrest : ¬ Covers rest n := not_covers_of_lt fun r hr => Nat.lt_of_lt_of_le hn (hlo r hr)
      rw [← ih] at hrest
      rw [if_pos hn]
      refine iff_of_false Bool.false_ne_true ?_
      rintro (hrange | hn')
      · omega
      · exact hrest hn'
    · rw [if_neg hn]
      by_cases hhi : n ≤ hi
      · rw [if_pos hhi]
        exact iff_of_true rfl (.inl ⟨Nat.not_lt.1 hn, hhi⟩)
      · rw [if_neg hhi]
        exact (or_iff_right fun hrange => hhi hrange.2).symm

/-- Whether runs start in ascending order, from `start` on and at code points. -/
def runsAscend : Nat → List (Nat × Category) → Bool
  | start, [] => start ≤ lastCode
  | start, (next, _) :: rest => start ≤ next && runsAscend next rest

theorem runsAscend_cons {start next : Nat} {d : Category} {rest : List (Nat × Category)} :
    runsAscend start ((next, d) :: rest) = true ↔ start ≤ next ∧ runsAscend next rest = true := by
  rw [runsAscend, Bool.and_eq_true, decide_eq_true_eq]

section

variable {cs : List Category}

theorem le_of_mem_stretches : ∀ {runs : List (Nat × Category)} {start : Nat} {c : Category},
    runsAscend start runs = true → ∀ r ∈ stretches cs start c runs, start ≤ r.1 ∧ r.1 ≤ r.2
  | [], start, c, h, r, hr => by
    unfold stretches at hr
    split at hr
    · rw [List.mem_singleton.1 hr]
      exact ⟨Nat.le_refl _, of_decide_eq_true h⟩
    · cases hr
  | (next, d) :: rest, start, c, h, r, hr => by
    obtain ⟨hle, h'⟩ := runsAscend_cons.1 h
    unfold stretches at hr
    split at hr
    · rename_i hkeep
      have hlt : start < next := by
        rw [Bool.and_eq_true] at hkeep
        exact of_decide_eq_true hkeep.1
      rcases List.mem_cons.1 hr with rfl | hr
      · exact ⟨Nat.le_refl _, by dsimp only; omega⟩
      · have := le_of_mem_stretches h' r hr
        omega
    · have := le_of_mem_stretches h' r hr
      omega

theorem ascends_stretches : ∀ {runs : List (Nat × Category)} {start : Nat} {c : Category},
    runsAscend start runs = true → Ascends (stretches cs start c runs)
  | [], start, c, _ => by
    unfold stretches
    split
    · exact List.pairwise_singleton _ _
    · exact .nil
  | (next, d) :: rest, start, c, h => by
    obtain ⟨hle, h'⟩ := runsAscend_cons.1 h
    unfold stretches
    split
    · refine List.pairwise_cons.2 ⟨fun r hr => ?_, ascends_stretches h'⟩
      have := le_of_mem_stretches h' r hr
      dsimp only
      omega
    · exact ascends_stretches h'

/-- **The stretches of a table cover what it looks up to one of the categories.** -/
theorem covers_stretches {n : Nat} (hn : n ≤ lastCode) : ∀ {runs : List (Nat × Category)} {start : Nat} {c : Category},
    runsAscend start runs = true → start ≤ n →
      (Covers (stretches cs start c runs) n ↔ Category.lookup n c runs ∈ cs)
  | [], start, c, _, hs => by
    unfold stretches Category.lookup
    by_cases hc : c ∈ cs <;> simp [hc, hs, hn]
  | (next, d) :: rest, start, c, h, hs => by
    obtain ⟨hle, h'⟩ := runsAscend_cons.1 h
    unfold stretches Category.lookup
    by_cases hlt : n < next
    · have hrest : ¬ Covers (stretches cs next d rest) n := not_covers_of_lt fun r hr => by
        have := le_of_mem_stretches h' r hr
        omega
      have hsn : start < next := by omega
      rw [if_pos hlt]
      by_cases hc : c ∈ cs
      · simp [hc, hsn, hs, hrest]
        omega
      · simp [hc, hrest]
    · rw [if_neg hlt, ← covers_stretches hn h' (Nat.le_of_not_lt hlt)]
      split
      · rename_i hkeep
        have hlt' : start < next := by
          rw [Bool.and_eq_true] at hkeep
          exact of_decide_eq_true hkeep.1
        rw [covers_cons]
        dsimp only
        constructor
        · exact fun hcov => hcov.elim (fun hcov => by omega) id
        · exact .inr
      · exact Iff.rfl

end

/-! ## The tables -/

/-- Whether no range of one list meets a range of the other; both ascend. -/
def disjoint : List (Nat × Nat) → List (Nat × Nat) → Bool
  | [], _ => true
  | (a, b) :: rs, ts =>
    match ts.dropWhile (fun t => t.2 < a) with
    | [] => true
    | t :: ts => b < t.1 && disjoint rs (t :: ts)

theorem covers_dropWhile {ts : List (Nat × Nat)} {a n : Nat} (hn : a ≤ n) :
    Covers (ts.dropWhile (fun t => t.2 < a)) n ↔ Covers ts n := by
  induction ts with
  | nil => exact Iff.rfl
  | cons t ts ih =>
    by_cases ht : t.2 < a
    · rw [List.dropWhile_cons_of_pos (by simpa using ht), ih, covers_cons]
      constructor
      · exact .inr
      · exact fun h => h.elim (fun h => by omega) id
    · rw [List.dropWhile_cons_of_neg (by simpa using ht)]

theorem not_covers_of_disjoint {n : Nat} : ∀ {rs ts : List (Nat × Nat)}, Ascends rs → Ascends ts →
    disjoint rs ts = true → Covers rs n → ¬ Covers ts n
  | [], _, _, _, _, hn => absurd hn covers_nil
  | (a, b) :: rs, ts, hr, ht, h, hn => by
    obtain ⟨ha, hr'⟩ := List.pairwise_cons.1 hr
    have han : a ≤ n := by
      rcases covers_cons.1 hn with hn | ⟨r, hrm, hn⟩
      · exact hn.1
      · exact Nat.le_trans (ha r hrm) hn.1
    rw [← covers_dropWhile han]
    have hdrop : Ascends (ts.dropWhile (fun t => t.2 < a)) := ht.sublist (List.dropWhile_sublist _)
    unfold disjoint at h
    split at h
    · rename_i hnil
      rw [hnil]
      exact covers_nil
    · rename_i t ts' hcons
      rw [Bool.and_eq_true, decide_eq_true_eq] at h
      rw [hcons] at hdrop ⊢
      rcases covers_cons.1 hn with hn | hn
      · refine not_covers_of_lt fun s hs => Nat.lt_of_le_of_lt hn.2 (Nat.lt_of_lt_of_le h.1 ?_)
        rcases List.mem_cons.1 hs with rfl | hs
        · exact Nat.le_refl _
        · exact (List.pairwise_cons.1 hdrop).1 s hs
      · exact not_covers_of_disjoint hr' hdrop h.2 hn

/-- No character of the range is a surrogate or follows the surrogates at once. -/
def clearRange (r : Nat × Nat) : Bool :=
  r.2 < firstSurrogate || lastSurrogate + 1 < r.1

/-- What the tables are checked for.  One evaluation does for all of it, since the stretches of the long table are slow
to spell out. -/
theorem tables_checked : runsAscend 0 Category.runs = true ∧
    (normalAfter 0 Text.laterChars = true ∧ normalAfter 0 Text.otherAlphabetic = true) ∧
    ((stretches [.cn] 0 .cn Category.runs).all clearRange = true ∧ Text.laterChars.all clearRange = true) ∧
    disjoint (stretches [.cn] 0 .cn Category.runs) Text.otherAlphabetic = true ∧ Category.ofChar 'ʕ' = .lo := by
  decide +kernel

theorem runs_ascend : runsAscend 0 Category.runs = true :=
  tables_checked.1

theorem normal_laterChars : Normal Text.laterChars :=
  (normal_of_normalAfter tables_checked.2.1.1).1

theorem normal_otherAlphabetic : Normal Text.otherAlphabetic :=
  (normal_of_normalAfter tables_checked.2.1.2).1

theorem unassigned_clear : (stretches [.cn] 0 .cn Category.runs).all clearRange = true :=
  tables_checked.2.2.1.1

theorem later_clear : Text.laterChars.all clearRange = true :=
  tables_checked.2.2.1.2

/-- No character of the list is unassigned. -/
theorem otherAlphabetic_assigned :
    disjoint (stretches [.cn] 0 .cn Category.runs) Text.otherAlphabetic = true :=
  tables_checked.2.2.2.1

theorem ofChar_turned : Category.ofChar 'ʕ' = .lo :=
  tables_checked.2.2.2.2

theorem isEarlier_turned : Text.isEarlier 'ʕ' = true := by decide

theorem earlierCategory_turned : Text.earlierCategory 'ʕ' = .ll := by decide

/-! ## Categories -/

section

variable {cs : List Category}

/-- The stretches that categories have in both editions. -/
def kept (cs : List Category) : CharSet :=
  diff (ofRanges (stretches cs 0 .cn Category.runs)) (union (ofRanges Text.laterChars) (single 'ʕ'))

/-- The characters that a category gains where the later edition is set aside. -/
def gained (cs : List Category) : List CharSet :=
  [if cs.contains .cn then ofRanges Text.laterChars else none, if cs.contains .ll then single 'ʕ' else none]

theorem ofCategories_eq : ofCategories cs = unions (kept cs :: gained cs) := rfl

theorem normal_stretches : Normal (ofRanges (stretches cs 0 .cn Category.runs)).ranges :=
  normal_ofRanges (ascends_stretches runs_ascend) (fun r hr => (le_of_mem_stretches runs_ascend r hr).2)

theorem normal_later : Normal (ofRanges Text.laterChars).ranges :=
  normal_ofRanges normal_laterChars.ascends normal_laterChars.proper

theorem normal_changed : Normal (union (ofRanges Text.laterChars) (single 'ʕ')).ranges :=
  normal_union normal_later (normal_single 'ʕ')

theorem normal_none : Normal none.ranges := normal_nil

theorem normal_ofCategories : Normal (ofCategories cs).ranges := by
  rw [ofCategories_eq]
  refine normal_unions fun s hs => ?_
  rcases List.mem_cons.1 hs with rfl | hs
  · exact normal_diff normal_stretches normal_changed
  · unfold gained at hs
    rcases List.mem_cons.1 hs with rfl | hs
    · split
      · exact normal_later
      · exact normal_none
    · rw [List.mem_singleton.1 hs]
      split
      · exact normal_single 'ʕ'
      · exact normal_none

theorem covers_later {n : Nat} :
    Covers (ofRanges Text.laterChars).ranges n ↔ Text.inRanges n Text.laterChars = true := by
  rw [covers_ofRanges normal_laterChars.ascends, inRanges_iff normal_laterChars.ascends]

theorem covers_kept {c : Char} : Covers (kept cs).ranges c.toNat ↔
    Category.ofChar c ∈ cs ∧ Text.isEarlier c = true ∧ c ≠ 'ʕ' := by
  have hn := isCode_toNat c
  rw [kept, covers_diff normal_stretches normal_changed hn, covers_union normal_later (normal_single 'ʕ'),
    covers_ofRanges (ascends_stretches runs_ascend),
    covers_stretches hn.le_lastCode runs_ascend (Nat.zero_le _), covers_later, covers_single,
    Char.toNat_inj, Text.isEarlier, Category.ofChar]
  simp

theorem covers_gained {c : Char} : (∃ s ∈ gained cs, Covers s.ranges c.toNat) ↔
    (.cn ∈ cs ∧ Text.isEarlier c = false) ∨ (.ll ∈ cs ∧ c = 'ʕ') := by
  have hlater : Covers (if cs.contains .cn then ofRanges Text.laterChars else none).ranges c.toNat ↔
      .cn ∈ cs ∧ Text.isEarlier c = false := by
    by_cases hcn : Category.cn ∈ cs
    · rw [if_pos (List.contains_iff_mem.2 hcn), covers_later]
      simp [Text.isEarlier, hcn]
    · rw [if_neg (by simpa using hcn)]
      simp [none, hcn]
  have hlower : Covers (if cs.contains .ll then single 'ʕ' else none).ranges c.toNat ↔ .ll ∈ cs ∧ c = 'ʕ' := by
    by_cases hll : Category.ll ∈ cs
    · rw [if_pos (List.contains_iff_mem.2 hll), covers_single, Char.toNat_inj]
      simp [hll]
    · rw [if_neg (by simpa using hll)]
      simp [none, hll]
  unfold gained
  simp only [List.mem_cons, List.not_mem_nil, or_false, or_and_right, exists_or, exists_eq_left, hlater, hlower]

/-- **A union of categories has the characters of these categories**, by the edition that patterns follow. -/
theorem mem_ofCategories {c : Char} : (ofCategories cs).mem c = true ↔ Text.earlierCategory c ∈ cs := by
  have hsplit : (∃ s ∈ kept cs :: gained cs, Covers s.ranges c.toNat) ↔
      Covers (kept cs).ranges c.toNat ∨ ∃ s ∈ gained cs, Covers s.ranges c.toNat := by
    simp only [List.mem_cons, or_and_right, exists_or, exists_eq_left]
  rw [mem_iff, ofCategories_eq, covers_unions, hsplit, covers_kept, covers_gained]
  unfold Text.earlierCategory
  by_cases hc : c = 'ʕ'
  · subst hc
    simp [isEarlier_turned]
  · cases he : Text.isEarlier c with
    | true => simp [hc]
    | false => simp [hc]

end

/-! ## Letters, digits and words -/

theorem mem_decimal {c : Char} : decimal.mem c = Text.isDecimalDigit c := by
  rw [Bool.eq_iff_iff, decimal, mem_ofCategories, Text.isDecimalDigit]
  simp

theorem clear_unassigned : ClearOfSurrogates (ofCategories [.cn]).ranges := by
  intro n hlow hhigh hn
  rw [ofCategories_eq, covers_unions] at hn
  obtain ⟨s, hs, hn⟩ := hn
  rcases List.mem_cons.1 hs with rfl | hs
  · obtain ⟨r, hr, hrn⟩ := (covers_ofRanges (ascends_stretches runs_ascend)).1
      (covers_of_covers_diff normal_stretches normal_changed hn)
    have hclear := List.all_eq_true.1 unassigned_clear r hr
    simp only [clearRange, Bool.or_eq_true, decide_eq_true_eq] at hclear
    omega
  · unfold gained at hs
    rcases List.mem_cons.1 hs with rfl | hs
    · have hn : Covers (ofRanges Text.laterChars).ranges n := hn
      rw [covers_ofRanges normal_laterChars.ascends] at hn
      obtain ⟨r, hr, hrn⟩ := hn
      have hclear := List.all_eq_true.1 later_clear r hr
      simp only [clearRange, Bool.or_eq_true, decide_eq_true_eq] at hclear
      omega
    · rw [List.mem_singleton.1 hs] at hn
      exact absurd hn covers_nil

theorem normal_assigned : Normal assigned.ranges :=
  normal_compl normal_ofCategories clear_unassigned

theorem covers_assigned {c : Char} : Covers assigned.ranges c.toNat ↔ Text.earlierCategory c ≠ .cn := by
  rw [assigned, covers_compl normal_ofCategories clear_unassigned (isCode_toNat c), ← mem_iff, mem_ofCategories,
    List.mem_singleton]

theorem normal_earlierRanges {rs : List (Nat × Nat)} (h : Normal rs) : Normal (earlierRanges rs).ranges :=
  normal_inter (normal_ofRanges h.ascends h.proper) normal_assigned

theorem covers_earlierRanges {rs : List (Nat × Nat)} (h : Normal rs) {c : Char} :
    Covers (earlierRanges rs).ranges c.toNat ↔
      Text.inRanges c.toNat rs = true ∧ Text.earlierCategory c ≠ .cn := by
  rw [earlierRanges, covers_inter (normal_ofRanges h.ascends h.proper) normal_assigned,
    covers_ofRanges h.ascends, inRanges_iff h.ascends, covers_assigned]

theorem ofChar_ne_of_otherAlphabetic {c : Char} (h : Text.inRanges c.toNat Text.otherAlphabetic = true) :
    Category.ofChar c ≠ .cn := by
  intro hcn
  have hcov : Covers (stretches [.cn] 0 .cn Category.runs) c.toNat :=
    (covers_stretches (isCode_toNat c).le_lastCode runs_ascend (Nat.zero_le _)).2
      (List.mem_singleton.2 hcn)
  exact not_covers_of_disjoint (ascends_stretches runs_ascend) normal_otherAlphabetic.ascends
    otherAlphabetic_assigned hcov ((inRanges_iff normal_otherAlphabetic.ascends).1 h)

theorem earlierCategory_of_isEarlier {c : Char} (h : Text.isEarlier c = true) (hc : c ≠ 'ʕ') :
    Text.earlierCategory c = Category.ofChar c := by
  simp [Text.earlierCategory, h, hc]

theorem mem_alphabetic {c : Char} :
    alphabetic.mem c = true ↔ Text.isEarlier c = true ∧ Text.isAlphabetic c = true := by
  rw [mem_iff, alphabetic, otherAlphabetic,
    covers_union normal_ofCategories (normal_earlierRanges normal_otherAlphabetic), ← mem_iff, mem_ofCategories,
    covers_earlierRanges normal_otherAlphabetic]
  by_cases hc : c = 'ʕ'
  · subst hc
    simp [earlierCategory_turned, isEarlier_turned, Text.isAlphabetic, ofChar_turned, Category.isLetter]
  · cases he : Text.isEarlier c with
    | false => simp [Text.earlierCategory, he]
    | true =>
      rw [earlierCategory_of_isEarlier he hc]
      have hother : Text.inRanges c.toNat Text.otherAlphabetic = true ∧ Category.ofChar c ≠ .cn ↔
          Text.inRanges c.toNat Text.otherAlphabetic = true :=
        and_iff_left_of_imp ofChar_ne_of_otherAlphabetic
      rw [hother]
      unfold Text.isAlphabetic
      cases Category.ofChar c <;> simp [Category.isLetter]

theorem mem_joiners {c : Char} : (range '\u200c' '\u200d').mem c = true ↔ Text.isJoinControl c = true := by
  have hjoin : Text.isJoinControl c = true ↔ c.toNat = 0x200c ∨ c.toNat = 0x200d := by
    simp only [Text.isJoinControl, Bool.or_eq_true, beq_iff_eq, ← Char.toNat_inj]
    rfl
  have hrange : range '\u200c' '\u200d' = ⟨[(0x200c, 0x200d)]⟩ := rfl
  rw [mem_iff, hjoin, hrange, covers_cons]
  simp only [covers_nil, or_false]
  omega

/-- **The class `\w` has the word characters.** -/
theorem mem_word {c : Char} : word.mem c = true ↔ Text.isWordChar c = true := by
  have hjoiners : Text.isJoinControl c = true → Text.isEarlier c = true := by
    intro h
    unfold Text.isJoinControl at h
    simp only [Bool.or_eq_true, beq_iff_eq] at h
    rcases h with rfl | rfl <;> decide
  rw [mem_iff, word, covers_unions]
  simp only [List.mem_cons, List.not_mem_nil, or_false, or_and_right, exists_or, exists_eq_left, ← mem_iff,
    mem_alphabetic, mem_joiners, mem_ofCategories]
  unfold Text.isWordChar Text.isDecimalDigit
  by_cases hc : c = 'ʕ'
  · subst hc
    simp [earlierCategory_turned, isEarlier_turned, Text.isAlphabetic, ofChar_turned, Category.isLetter]
  · cases he : Text.isEarlier c with
    | false =>
      rw [he] at hjoiners
      simpa [Text.earlierCategory, he] using hjoiners
    | true =>
      rw [earlierCategory_of_isEarlier he hc]
      cases Category.ofChar c <;> simp [Category.isMark]

/-- The class that compiled paths write for name characters. -/
def nameClass : CharSet := unions [word, decimal, single '-', single '_']

/-- **The class of names has the name characters.** -/
theorem mem_nameClass {c : Char} : nameClass.mem c = true ↔ isNameChar c = true := by
  have hdigit : Text.isDecimalDigit c = true → Text.isWordChar c = true := by
    intro h
    rw [Text.isWordChar, h]
    unfold Text.isDecimalDigit Text.earlierCategory at h
    cases he : Text.isEarlier c with
    | false => simp [he] at h
    | true => simp
  have hunder : Text.isWordChar '_' = true := by decide
  rw [mem_iff, nameClass, covers_unions]
  simp only [List.mem_cons, List.not_mem_nil, or_false, or_and_right, exists_or, exists_eq_left, ← mem_iff, mem_word,
    mem_decimal, mem_single]
  unfold isNameChar
  simp only [Bool.or_eq_true, beq_iff_eq]
  constructor
  · rintro (h | h | h | rfl)
    · exact .inl h
    · exact .inl (hdigit h)
    · exact .inr h
    · exact .inl hunder
  · rintro (h | h)
    · exact .inl h
    · exact .inr (.inr (.inl h))

end PathRouter.CharSet
