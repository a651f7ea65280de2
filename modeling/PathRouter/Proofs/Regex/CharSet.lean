import PathRouter.Regex.CharSet
/-!
# What sets of characters contain

A set is a list of ranges, and `Covers` says which code points they cover.  The operations keep the ranges `Normal`, in
ascending order with a gap between any two, and on normal ranges they do what their names say: `covers_union`,
`covers_unions`, `covers_inter`, `covers_diff` and `covers_compl`.

The code points of the surrogates are no characters, and gaps step over them.  So what is said about differences and
complements holds of the code points of characters (`IsCode`), and a complement needs ranges that stay clear of the
surrogates.
-/
namespace PathRouter.CharSet

/-- One of the ranges has `n` in it. -/
def Covers (rs : List (Nat × Nat)) (n : Nat) : Prop :=
  ∃ r ∈ rs, r.1 ≤ n ∧ n ≤ r.2

theorem mem_iff {s : CharSet} {c : Char} : s.mem c = true ↔ Covers s.ranges c.toNat := by
  simp [mem, Covers]

@[simp] theorem covers_nil {n : Nat} : ¬ Covers [] n := by simp [Covers]

@[simp] theorem covers_cons {r : Nat × Nat} {rs : List (Nat × Nat)} {n : Nat} :
    Covers (r :: rs) n ↔ (r.1 ≤ n ∧ n ≤ r.2) ∨ Covers rs n := by
  simp [Covers]

def Ascends (rs : List (Nat × Nat)) : Prop :=
  rs.Pairwise (fun r s => r.1 ≤ s.1)

/-- **Ranges as sets keep them**: none is empty, and a code point lies between any two. -/
structure Normal (rs : List (Nat × Nat)) : Prop where
  proper : ∀ r ∈ rs, r.1 ≤ r.2
  apart : rs.Pairwise (fun r s => r.2 + 1 < s.1)

theorem Normal.ascends {rs : List (Nat × Nat)} (h : Normal rs) : Ascends rs :=
  h.apart.imp_of_mem fun hr _ hrs => by
    have := h.proper _ hr
    omega

theorem Normal.tail {r : Nat × Nat} {rs : List (Nat × Nat)} (h : Normal (r :: rs)) : Normal rs :=
  ⟨fun s hs => h.proper s (List.mem_cons_of_mem _ hs), h.apart.of_cons⟩

theorem Normal.cons {r : Nat × Nat} {rs : List (Nat × Nat)} (hr : r.1 ≤ r.2) (hrs : ∀ s ∈ rs, r.2 + 1 < s.1)
    (h : Normal rs) : Normal (r :: rs) := by
  refine ⟨fun s hs => ?_, List.pairwise_cons.2 ⟨hrs, h.apart⟩⟩
  rcases List.mem_cons.1 hs with rfl | hs
  · exact hr
  · exact h.proper s hs

theorem Normal.head_lt {r : Nat × Nat} {rs : List (Nat × Nat)} (h : Normal (r :: rs)) :
    ∀ s ∈ rs, r.2 + 1 < s.1 :=
  (List.pairwise_cons.1 h.apart).1

theorem Normal.after_head {a b : Nat} {rs : List (Nat × Nat)} (h : Normal ((a, b) :: rs)) : ∀ s ∈ rs, b < s.1 :=
  fun s hs => Nat.lt_of_succ_lt (h.head_lt s hs)

theorem normal_nil : Normal [] :=
  ⟨fun _ h => absurd h List.not_mem_nil, .nil⟩

theorem normal_singleton {a b : Nat} (h : a ≤ b) : Normal [(a, b)] :=
  .cons h (fun _ hs => absurd hs List.not_mem_nil) normal_nil

def normalAfter : Nat → List (Nat × Nat) → Bool
  | _, [] => true
  | low, (a, b) :: rest => low < a && (a ≤ b && normalAfter (b + 1) rest)

/-- For tables, which ascend from range to range: comparing neighbours is enough. -/
theorem normal_of_normalAfter : ∀ {rs : List (Nat × Nat)} {low : Nat}, normalAfter low rs = true →
    Normal rs ∧ ∀ r ∈ rs, low < r.1
  | [], _, _ => ⟨normal_nil, fun _ hr => absurd hr List.not_mem_nil⟩
  | (a, b) :: rest, low, h => by
    rw [normalAfter, Bool.and_eq_true, Bool.and_eq_true, decide_eq_true_eq, decide_eq_true_eq] at h
    obtain ⟨ha, hab, hrest⟩ := h
    obtain ⟨hn, hb⟩ := normal_of_normalAfter hrest
    refine ⟨.cons hab hb hn, fun r hr => ?_⟩
    rcases List.mem_cons.1 hr with rfl | hr
    · exact ha
    · have := hb r hr
      omega

theorem not_covers_of_lt {rs : List (Nat × Nat)} {n : Nat} (h : ∀ r ∈ rs, n < r.1) : ¬ Covers rs n := by
  rintro ⟨r, hr, hn, _⟩
  have := h r hr
  omega

/-! ## Joining -/

/-- A first range that takes the end of the second still comes first. -/
theorem Ascends.absorb {a b c d e : Nat} {rs : List (Nat × Nat)} (h : Ascends ((a, b) :: (c, d) :: rs)) :
    Ascends ((a, e) :: rs) := by
  obtain ⟨ha, h'⟩ := List.pairwise_cons.1 h
  exact List.pairwise_cons.2 ⟨fun s hs => ha s (List.mem_cons_of_mem _ hs), h'.of_cons⟩

theorem covers_joinFrom {n : Nat} : ∀ {rs : List (Nat × Nat)} {a b : Nat}, Ascends ((a, b) :: rs) →
    (Covers (joinFrom a b rs) n ↔ Covers ((a, b) :: rs) n)
  | [], a, b, _ => Iff.rfl
  | (c, d) :: rest, a, b, h => by
    obtain ⟨ha, h'⟩ := List.pairwise_cons.1 h
    have hac : a ≤ c := ha (c, d) List.mem_cons_self
    unfold joinFrom
    split
    · rw [covers_joinFrom h.absorb, covers_cons, covers_cons, covers_cons, ← or_assoc]
      refine or_congr_left ?_
      dsimp only
      omega
    · rw [covers_cons, covers_joinFrom h', covers_cons (r := (a, b))]

theorem le_of_mem_joinFrom : ∀ {rs : List (Nat × Nat)} {a b : Nat}, Ascends ((a, b) :: rs) →
    ∀ r ∈ joinFrom a b rs, a ≤ r.1
  | [], a, b, _, r, hr => by
    obtain rfl := List.mem_singleton.1 hr
    exact Nat.le_refl a
  | (c, d) :: rest, a, b, h, r, hr => by
    obtain ⟨ha, h'⟩ := List.pairwise_cons.1 h
    have hac : a ≤ c := ha (c, d) List.mem_cons_self
    unfold joinFrom at hr
    split at hr
    · exact le_of_mem_joinFrom h.absorb r hr
    · rcases List.mem_cons.1 hr with rfl | hr
      · exact Nat.le_refl _
      · exact Nat.le_trans hac (le_of_mem_joinFrom h' r hr)

theorem normal_joinFrom : ∀ {rs : List (Nat × Nat)} {a b : Nat}, Ascends ((a, b) :: rs) → a ≤ b →
    (∀ r ∈ rs, r.1 ≤ r.2) → Normal (joinFrom a b rs)
  | [], a, b, _, hab, _ => normal_singleton hab
  | (c, d) :: rest, a, b, h, hab, hp => by
    obtain ⟨ha, h'⟩ := List.pairwise_cons.1 h
    have hcd : c ≤ d := hp (c, d) List.mem_cons_self
    have hrest : ∀ r ∈ rest, r.1 ≤ r.2 := fun r hr => hp r (List.mem_cons_of_mem _ hr)
    unfold joinFrom
    split
    · exact normal_joinFrom h.absorb (Nat.le_trans hab (Nat.le_max_left _ _)) hrest
    · rename_i hgap
      refine .cons hab (fun s hs => ?_) (normal_joinFrom h' hcd hrest)
      have := le_of_mem_joinFrom h' s hs
      dsimp only
      omega

theorem covers_ofRanges {rs : List (Nat × Nat)} {n : Nat} (h : Ascends rs) :
    Covers (ofRanges rs).ranges n ↔ Covers rs n := by
  cases rs with
  | nil => exact Iff.rfl
  | cons r rs => exact covers_joinFrom h

theorem normal_ofRanges {rs : List (Nat × Nat)} (h : Ascends rs) (hp : ∀ r ∈ rs, r.1 ≤ r.2) :
    Normal (ofRanges rs).ranges := by
  cases rs with
  | nil => exact normal_nil
  | cons r rs => exact normal_joinFrom h (hp r List.mem_cons_self) (fun s hs => hp s (List.mem_cons_of_mem _ hs))

/-! ## Unions -/

theorem first_trans (r s t : Nat × Nat) : decide (r.1 ≤ s.1) = true → decide (s.1 ≤ t.1) = true →
    decide (r.1 ≤ t.1) = true := by
  simp only [decide_eq_true_eq]
  exact Nat.le_trans

theorem first_total (r s : Nat × Nat) : (decide (r.1 ≤ s.1) || decide (s.1 ≤ r.1)) = true := by
  simp only [Bool.or_eq_true, decide_eq_true_eq]
  exact Nat.le_total _ _

theorem ascends_mergeSort (rs : List (Nat × Nat)) : Ascends (rs.mergeSort (fun r s => r.1 ≤ s.1)) :=
  (List.pairwise_mergeSort first_trans first_total rs).imp fun h => of_decide_eq_true h

theorem ascends_merge {rs ts : List (Nat × Nat)} (hr : Ascends rs) (ht : Ascends ts) :
    Ascends (rs.merge ts (fun r s => r.1 ≤ s.1)) :=
  (List.pairwise_merge first_trans first_total rs ts (hr.imp fun h => decide_eq_true h)
    (ht.imp fun h => decide_eq_true h)).imp fun h => of_decide_eq_true h

section

variable {s t : CharSet} {n : Nat}

theorem covers_union (hs : Normal s.ranges) (ht : Normal t.ranges) :
    Covers (union s t).ranges n ↔ Covers s.ranges n ∨ Covers t.ranges n := by
  rw [union, covers_ofRanges (ascends_merge hs.ascends ht.ascends)]
  simp only [Covers, List.mem_merge, or_and_right, exists_or]

theorem normal_union (hs : Normal s.ranges) (ht : Normal t.ranges) : Normal (union s t).ranges := by
  refine normal_ofRanges (ascends_merge hs.ascends ht.ascends) fun r hr => ?_
  rcases List.mem_merge.1 hr with hr | hr
  · exact hs.proper r hr
  · exact ht.proper r hr

theorem covers_unions {ss : List CharSet} : Covers (unions ss).ranges n ↔ ∃ s ∈ ss, Covers s.ranges n := by
  rw [unions, covers_ofRanges (ascends_mergeSort _)]
  unfold Covers
  simp only [List.mem_mergeSort, List.mem_flatMap]
  constructor
  · rintro ⟨r, ⟨s, hs, hr⟩, hn⟩
    exact ⟨s, hs, r, hr, hn⟩
  · rintro ⟨s, hs, r, hr, hn⟩
    exact ⟨r, ⟨s, hs, hr⟩, hn⟩

theorem normal_unions {ss : List CharSet} (h : ∀ s ∈ ss, Normal s.ranges) : Normal (unions ss).ranges := by
  refine normal_ofRanges (ascends_mergeSort _) fun r hr => ?_
  obtain ⟨s, hs, hr⟩ := List.mem_flatMap.1 (List.mem_mergeSort.1 hr)
  exact (h s hs).proper r hr

end

theorem covers_single {c : Char} {n : Nat} : Covers (single c).ranges n ↔ n = c.toNat := by
  simp only [single, covers_cons, covers_nil, or_false]
  omega

theorem normal_single (c : Char) : Normal (single c).ranges :=
  normal_singleton (Nat.le_refl _)

theorem mem_single {c d : Char} : (single c).mem d = true ↔ d = c := by
  rw [mem_iff, covers_single, Char.toNat_inj]

/-! ## Intersections -/

/-- What the first ranges of two lists share, and then what is left to compare. -/
theorem mem_overlaps_cons {a b c d : Nat} {rs ts : List (Nat × Nat)} {x : Nat × Nat} :
    x ∈ overlaps ((a, b) :: rs) ((c, d) :: ts) ↔
      (max a c ≤ min b d ∧ x = (max a c, min b d)) ∨
        if b < d then x ∈ overlaps rs ((c, d) :: ts) else x ∈ overlaps ((a, b) :: rs) ts := by
  rw [overlaps]
  by_cases hm : max a c ≤ min b d <;> by_cases hbd : b < d <;> simp [hm, hbd]

theorem within_of_mem_overlaps {rs ts : List (Nat × Nat)} {x : Nat × Nat} (h : x ∈ overlaps rs ts) :
    (∃ r ∈ rs, r.1 ≤ x.1 ∧ x.2 ≤ r.2) ∧ (∃ t ∈ ts, t.1 ≤ x.1 ∧ x.2 ≤ t.2) ∧ x.1 ≤ x.2 := by
  induction rs, ts using overlaps.induct with
  | case1 => simp [overlaps] at h
  | case2 => simp [overlaps] at h
  | case3 a b rs c d ts _ ih₁ ih₂ | case4 a b rs c d ts _ ih₁ ih₂ =>
    rcases mem_overlaps_cons.1 h with ⟨hm, rfl⟩ | h
    · exact ⟨⟨_, List.mem_cons_self, Nat.le_max_left _ _, Nat.min_le_left _ _⟩,
        ⟨_, List.mem_cons_self, Nat.le_max_right _ _, Nat.min_le_right _ _⟩, hm⟩
    · split at h
      · obtain ⟨⟨r, hr, hrx⟩, ht, hx⟩ := ih₁ h
        exact ⟨⟨r, List.mem_cons_of_mem _ hr, hrx⟩, ht, hx⟩
      · obtain ⟨hr, ⟨t, ht, htx⟩, hx⟩ := ih₂ h
        exact ⟨hr, ⟨t, List.mem_cons_of_mem _ ht, htx⟩, hx⟩

theorem covers_overlaps {n : Nat} {rs ts : List (Nat × Nat)} (hr : Normal rs) (ht : Normal ts) :
    Covers (overlaps rs ts) n ↔ Covers rs n ∧ Covers ts n := by
  constructor
  · rintro ⟨x, hx, hn⟩
    obtain ⟨⟨r, hr, hrx⟩, ⟨t, ht, htx⟩, _⟩ := within_of_mem_overlaps hx
    exact ⟨⟨r, hr, by omega⟩, ⟨t, ht, by omega⟩⟩
  · rintro ⟨hnr, hnt⟩
    induction rs, ts using overlaps.induct with
    | case1 => exact absurd hnr covers_nil
    | case2 => exact absurd hnt covers_nil
    | case3 a b rs c d ts _ ih₁ ih₂ | case4 a b rs c d ts _ ih₁ ih₂ =>
      -- Of the range that ends first, only what the first of the other list shares with it can be covered by both.
      have hfirst : (a ≤ n ∧ n ≤ b) ∧ (c ≤ n ∧ n ≤ d) → Covers (overlaps ((a, b) :: rs) ((c, d) :: ts)) n := by
        intro hn
        exact ⟨_, mem_overlaps_cons.2 (.inl ⟨by omega, rfl⟩), by dsimp only; omega⟩
      have hrest : ∀ x ∈ (if b < d then overlaps rs ((c, d) :: ts) else overlaps ((a, b) :: rs) ts),
          x ∈ overlaps ((a, b) :: rs) ((c, d) :: ts) := by
        intro x hx
        refine mem_overlaps_cons.2 (.inr ?_)
        split at hx
        · rename_i hbd
          rwa [if_pos hbd]
        · rename_i hbd
          rwa [if_neg hbd]
      by_cases hbd : b < d
      · rw [if_pos hbd] at hrest
        rcases covers_cons.1 hnr with hn | hn
        · rcases covers_cons.1 hnt with hn' | ⟨t, ht', hn'⟩
          · exact hfirst ⟨hn, hn'⟩
          · have := ht.head_lt t ht'
            dsimp only at this hn
            omega
        · obtain ⟨x, hx, hxn⟩ := ih₁ hr.tail ht hn hnt
          exact ⟨x, hrest x hx, hxn⟩
      · rw [if_neg hbd] at hrest
        rcases covers_cons.1 hnt with hn | hn
        · rcases covers_cons.1 hnr with hn' | ⟨r, hr', hn'⟩
          · exact hfirst ⟨hn', hn⟩
          · have := hr.head_lt r hr'
            dsimp only at this hn
            omega
        · obtain ⟨x, hx, hxn⟩ := ih₂ hr ht.tail hnr hn
          exact ⟨x, hrest x hx, hxn⟩

theorem normal_overlaps {rs ts : List (Nat × Nat)} (hr : Normal rs) (ht : Normal ts) : Normal (overlaps rs ts) := by
  refine ⟨fun x hx => (within_of_mem_overlaps hx).2.2, ?_⟩
  induction rs, ts using overlaps.induct with
  | case1 => simp [overlaps]
  | case2 => simp [overlaps]
  | case3 a b rs c d ts hm ih₁ ih₂ =>
    rw [overlaps, if_pos hm]
    refine List.pairwise_cons.2 ⟨fun x hx => ?_, ?_⟩
    · dsimp only
      split at hx
      · obtain ⟨⟨r, hr', hrx⟩, _⟩ := within_of_mem_overlaps hx
        have := hr.head_lt r hr'
        dsimp only at this
        omega
      · obtain ⟨_, ⟨t, ht', htx⟩, _⟩ := within_of_mem_overlaps hx
        have := ht.head_lt t ht'
        dsimp only at this
        omega
    · split
      · exact ih₁ hr.tail ht
      · exact ih₂ hr ht.tail
  | case4 a b rs c d ts hm ih₁ ih₂ =>
    rw [overlaps, if_neg hm]
    split
    · exact ih₁ hr.tail ht
    · exact ih₂ hr ht.tail

theorem covers_inter {s t : CharSet} {n : Nat} (hs : Normal s.ranges) (ht : Normal t.ranges) :
    Covers (inter s t).ranges n ↔ Covers s.ranges n ∧ Covers t.ranges n :=
  covers_overlaps hs ht

theorem normal_inter {s t : CharSet} (hs : Normal s.ranges) (ht : Normal t.ranges) : Normal (inter s t).ranges :=
  normal_overlaps hs ht

/-! ## Gaps -/

def IsCode (n : Nat) : Prop :=
  n < firstSurrogate ∨ lastSurrogate < n ∧ n ≤ lastCode

theorem isCode_toNat (c : Char) : IsCode c.toNat := by
  have h : c.toNat < 0xD800 ∨ 0xDFFF < c.toNat ∧ c.toNat < 0x110000 := c.valid
  unfold IsCode firstSurrogate lastSurrogate lastCode
  omega

theorem IsCode.le_lastCode {n : Nat} (hn : IsCode n) : n ≤ lastCode := by
  unfold IsCode firstSurrogate lastSurrogate lastCode at hn
  unfold lastCode
  omega

theorem lt_nextCode (b : Nat) : b < nextCode b := by
  unfold nextCode firstSurrogate lastSurrogate
  split <;> omega

theorem nextCode_le_iff {n b : Nat} (hn : IsCode n) : nextCode b ≤ n ↔ b < n := by
  unfold IsCode firstSurrogate lastSurrogate at hn
  unfold nextCode firstSurrogate lastSurrogate
  split <;> omega

theorem previousCode_lt {c : Nat} (hc : 0 < c) : previousCode c < c := by
  unfold previousCode firstSurrogate lastSurrogate
  split <;> omega

theorem le_previousCode_iff {n c : Nat} (hn : IsCode n) (hc : 0 < c) : n ≤ previousCode c ↔ n < c := by
  unfold IsCode firstSurrogate lastSurrogate at hn
  unfold previousCode firstSurrogate lastSurrogate
  split <;> omega

theorem lt_of_mem_gapsAfter : ∀ {rs : List (Nat × Nat)} {b : Nat}, (∀ r ∈ rs, b < r.1) → Normal rs →
    ∀ x ∈ gapsAfter b rs, b < x.1
  | [], b, _, _, x, hx => by
    unfold gapsAfter at hx
    split at hx
    · rw [List.mem_singleton.1 hx]
      exact lt_nextCode b
    · cases hx
  | (c, d) :: rest, b, hb, h, x, hx => by
    rcases List.mem_cons.1 hx with rfl | hx
    · exact lt_nextCode b
    · have hcd : c ≤ d := h.proper _ List.mem_cons_self
      have hbc : b < c := hb _ List.mem_cons_self
      have := lt_of_mem_gapsAfter h.after_head h.tail x hx
      omega

theorem covers_gapsAfter {n : Nat} (hn : IsCode n) : ∀ {rs : List (Nat × Nat)} {b : Nat}, (∀ r ∈ rs, b < r.1) →
    Normal rs → (Covers (gapsAfter b rs) n ↔ b < n ∧ ¬ Covers rs n)
  | [], b, _, _ => by
    have hlast := hn.le_lastCode
    unfold gapsAfter
    split
    · rw [covers_cons, nextCode_le_iff hn]
      simp [hlast]
    · simp only [covers_nil, not_false_eq_true, and_true, false_iff]
      omega
  | (c, d) :: rest, b, hb, h => by
    have hcd : c ≤ d := h.proper _ List.mem_cons_self
    have hbc : b < c := hb _ List.mem_cons_self
    have hafter := h.after_head
    have hbefore : n < c → ¬ Covers rest n := fun hnc => not_covers_of_lt fun r hr => by
      have := hafter r hr
      omega
    have ih := covers_gapsAfter hn hafter h.tail
    rw [gapsAfter, covers_cons, covers_cons, nextCode_le_iff hn, le_previousCode_iff hn (by omega), ih]
    dsimp only
    constructor
    · rintro (⟨h₁, h₂⟩ | ⟨h₁, h₂⟩)
      · exact ⟨h₁, fun hc => hc.elim (fun hc => by omega) (hbefore h₂)⟩
      · exact ⟨by omega, fun hc => hc.elim (fun hc => by omega) h₂⟩
    · rintro ⟨h₁, h₂⟩
      by_cases hnc : n < c
      · exact .inl ⟨h₁, hnc⟩
      · have hnd : ¬ n ≤ d := fun hnd => h₂ (.inl ⟨by omega, hnd⟩)
        exact .inr ⟨by omega, fun hc => h₂ (.inr hc)⟩

theorem covers_gaps {n : Nat} (hn : IsCode n) {rs : List (Nat × Nat)} (h : Normal rs) :
    Covers (gaps rs) n ↔ ¬ Covers rs n := by
  cases rs with
  | nil =>
    simp [gaps, hn.le_lastCode]
  | cons r rest =>
    obtain ⟨a, b⟩ := r
    have hab : a ≤ b := h.proper _ List.mem_cons_self
    have hafter := h.after_head
    have hbefore : n < a → ¬ Covers rest n := fun hna => not_covers_of_lt fun r hr => by
      have := hafter r hr
      omega
    rw [gaps]
    split
    · rename_i ha
      rw [covers_gapsAfter hn hafter h.tail, covers_cons]
      dsimp only
      constructor
      · rintro ⟨h₁, h₂⟩ hc
        exact hc.elim (fun hc => by omega) h₂
      · intro hc
        have : ¬ n ≤ b := fun hnb => hc (.inl ⟨by omega, hnb⟩)
        exact ⟨by omega, fun h' => hc (.inr h')⟩
    · rename_i ha
      rw [covers_cons, le_previousCode_iff hn (by omega), covers_gapsAfter hn hafter h.tail, covers_cons]
      dsimp only
      constructor
      · rintro (⟨_, h₁⟩ | ⟨h₁, h₂⟩) hc
        · exact hc.elim (fun hc => by omega) (hbefore h₁)
        · exact hc.elim (fun hc => by omega) h₂
      · intro hc
        by_cases hna : n < a
        · exact .inl ⟨Nat.zero_le _, hna⟩
        · have : ¬ n ≤ b := fun hnb => hc (.inl ⟨by omega, hnb⟩)
          exact .inr ⟨by omega, fun h' => hc (.inr h')⟩

/-! ## Differences -/

/-- Gaps ascend; without the empty ones they are normal. -/
theorem pairwise_gapsAfter : ∀ {rs : List (Nat × Nat)} {b : Nat}, (∀ r ∈ rs, b < r.1) → Normal rs →
    (gapsAfter b rs).Pairwise (fun r s => r.2 + 1 < s.1)
  | [], b, _, _ => by
    unfold gapsAfter
    split
    · exact List.pairwise_singleton _ _
    · exact .nil
  | (c, d) :: rest, b, hb, h => by
    have hcd : c ≤ d := h.proper _ List.mem_cons_self
    have hbc : b < c := hb _ List.mem_cons_self
    have hafter := h.after_head
    refine List.pairwise_cons.2 ⟨fun x hx => ?_, pairwise_gapsAfter hafter h.tail⟩
    have := lt_of_mem_gapsAfter hafter h.tail x hx
    have := previousCode_lt (c := c) (by omega)
    dsimp only
    omega

theorem pairwise_gaps {rs : List (Nat × Nat)} (h : Normal rs) :
    (gaps rs).Pairwise (fun r s => r.2 + 1 < s.1) := by
  cases rs with
  | nil => exact List.pairwise_singleton _ _
  | cons r rest =>
    obtain ⟨a, b⟩ := r
    have hab : a ≤ b := h.proper _ List.mem_cons_self
    have hafter := h.after_head
    rw [gaps]
    split
    · exact pairwise_gapsAfter hafter h.tail
    · rename_i ha
      refine List.pairwise_cons.2 ⟨fun x hx => ?_, pairwise_gapsAfter hafter h.tail⟩
      have := lt_of_mem_gapsAfter hafter h.tail x hx
      have := previousCode_lt (c := a) (by omega)
      dsimp only
      omega

theorem normal_properGaps {rs : List (Nat × Nat)} (h : Normal rs) :
    Normal ((gaps rs).filter (fun r => r.1 ≤ r.2)) :=
  ⟨fun _ hr => of_decide_eq_true (List.mem_filter.1 hr).2, (pairwise_gaps h).filter _⟩

theorem covers_filter {rs : List (Nat × Nat)} {n : Nat} :
    Covers (rs.filter (fun r => r.1 ≤ r.2)) n ↔ Covers rs n := by
  constructor
  · rintro ⟨r, hr, hn⟩
    exact ⟨r, (List.mem_filter.1 hr).1, hn⟩
  · rintro ⟨r, hr, hn⟩
    exact ⟨r, List.mem_filter.2 ⟨hr, decide_eq_true (Nat.le_trans hn.1 hn.2)⟩, hn⟩

section

variable {s t : CharSet} {n : Nat}

theorem covers_diff (hs : Normal s.ranges) (ht : Normal t.ranges) (hn : IsCode n) :
    Covers (diff s t).ranges n ↔ Covers s.ranges n ∧ ¬ Covers t.ranges n := by
  rw [diff, covers_overlaps hs (normal_properGaps ht), covers_filter, covers_gaps hn ht]

theorem normal_diff (hs : Normal s.ranges) (ht : Normal t.ranges) : Normal (diff s t).ranges :=
  normal_overlaps hs (normal_properGaps ht)

theorem covers_of_covers_diff (hs : Normal s.ranges) (ht : Normal t.ranges) (h : Covers (diff s t).ranges n) :
    Covers s.ranges n :=
  ((covers_overlaps hs (normal_properGaps ht)).1 h).1

end

/-! ## Complements -/

/-- Nothing at the surrogates, nor at the character after them. -/
def ClearOfSurrogates (rs : List (Nat × Nat)) : Prop :=
  ∀ n, firstSurrogate ≤ n → n ≤ lastSurrogate + 1 → ¬ Covers rs n

theorem nextCode_le_previousCode {b c : Nat} (hbc : b + 1 < c) (hc : c < firstSurrogate ∨ lastSurrogate + 1 < c) :
    nextCode b ≤ previousCode c := by
  unfold firstSurrogate lastSurrogate at hc
  unfold nextCode previousCode firstSurrogate lastSurrogate
  split <;> split <;> omega

theorem Normal.start_clear {rs : List (Nat × Nat)} (h : Normal rs) (hc : ClearOfSurrogates rs) {r : Nat × Nat}
    (hr : r ∈ rs) : r.1 < firstSurrogate ∨ lastSurrogate + 1 < r.1 := by
  have hout : ¬ (firstSurrogate ≤ r.1 ∧ r.1 ≤ lastSurrogate + 1) := fun hin =>
    hc r.1 hin.1 hin.2 ⟨r, hr, Nat.le_refl _, h.proper r hr⟩
  omega

theorem proper_gapsAfter : ∀ {rs : List (Nat × Nat)} {b : Nat}, (∀ r ∈ rs, b + 1 < r.1) → Normal rs →
    ClearOfSurrogates rs → ∀ x ∈ gapsAfter b rs, x.1 ≤ x.2
  | [], b, _, _, _, x, hx => by
    unfold gapsAfter at hx
    split at hx
    · rename_i hlt
      rw [List.mem_singleton.1 hx]
      unfold nextCode firstSurrogate lastSurrogate lastCode
      unfold lastCode at hlt
      dsimp only
      split <;> omega
    · cases hx
  | (c, d) :: rest, b, hb, h, hc, x, hx => by
    rcases List.mem_cons.1 hx with rfl | hx
    · exact nextCode_le_previousCode (hb _ List.mem_cons_self) (h.start_clear hc List.mem_cons_self)
    · exact proper_gapsAfter h.head_lt h.tail (fun n h₁ h₂ hn => hc n h₁ h₂ (covers_cons.2 (.inr hn))) x hx

theorem proper_gaps {rs : List (Nat × Nat)} (h : Normal rs) (hc : ClearOfSurrogates rs) :
    ∀ x ∈ gaps rs, x.1 ≤ x.2 := by
  cases rs with
  | nil =>
    intro x hx
    rw [List.mem_singleton.1 hx]
    exact Nat.zero_le _
  | cons r rest =>
    obtain ⟨a, b⟩ := r
    have hrest := proper_gapsAfter h.head_lt h.tail (fun n h₁ h₂ hn => hc n h₁ h₂ (covers_cons.2 (.inr hn)))
    intro x hx
    rw [gaps] at hx
    split at hx
    · exact hrest x hx
    · rcases List.mem_cons.1 hx with rfl | hx
      · exact Nat.zero_le _
      · exact hrest x hx

/-- No gap is empty then, so the complement is the gaps as they are. -/
theorem compl_ranges {s : CharSet} (h : Normal s.ranges) (hc : ClearOfSurrogates s.ranges) :
    (compl s).ranges = gaps s.ranges := by
  unfold compl
  conv => rhs; rw [← List.map_id (gaps s.ranges)]
  refine List.map_congr_left fun r hr => ?_
  have := proper_gaps h hc r hr
  rw [Nat.min_eq_left this, Nat.max_eq_right this]
  rfl

theorem covers_compl {s : CharSet} {n : Nat} (h : Normal s.ranges) (hc : ClearOfSurrogates s.ranges)
    (hn : IsCode n) : Covers (compl s).ranges n ↔ ¬ Covers s.ranges n := by
  rw [compl_ranges h hc, covers_gaps hn h]

theorem normal_compl {s : CharSet} (h : Normal s.ranges) (hc : ClearOfSurrogates s.ranges) :
    Normal (compl s).ranges := by
  rw [compl_ranges h hc]
  exact ⟨proper_gaps h hc, pairwise_gaps h⟩

end PathRouter.CharSet
