import Mathlib.Data.List.Infix
import PathRouter.Text.Replace
/-!
# Filling the holes of a text

A hole is a text that stands for another one.  Specification of a text with its holes filled first (`Filled`): it may be
cut at any hole, and both sides are filled by themselves, so what is put in is part of neither and is not read again.

If no end of a hole is the start of one (`Unbordered`), holes do not overlap.  Then it makes no difference where the text
is cut, and `replaceAll`, which reads the text once from the left, gives the only text there is (`filled_iff`).
-/
namespace PathRouter.Text

/-- **A text with its holes filled**: without a hole it stays as it is, and otherwise `new` takes the place of a hole
between the two sides, each with its own holes filled. -/
inductive Filled (hole new : List Char) : List Char → List Char → Prop
  | plain {s : List Char} : ¬ hole <:+: s → Filled hole new s s
  | fill {s s' t t' : List Char} : Filled hole new s s' → Filled hole new t t' →
      Filled hole new (s ++ hole ++ t) (s' ++ new ++ t')

/-- Only the whole text and the empty one are both a start and an end of the text. -/
def Unbordered (s : List Char) : Prop :=
  ∀ u, u <+: s → u <:+ s → u = [] ∨ u = s

theorem unbordered_cons {c : Char} {s : List Char} (h : c ∉ s) : Unbordered (c :: s) := by
  rintro u hstart ⟨v, hend⟩
  rcases List.prefix_cons_iff.1 hstart with rfl | ⟨u, rfl, -⟩
  · exact .inl rfl
  · cases v with
    | nil => exact .inr hend
    | cons d v =>
      obtain ⟨-, rfl⟩ := List.cons.inj hend
      exact absurd (List.mem_append_right v List.mem_cons_self) h

variable {hole new : List Char}

theorem Unbordered.prefix_of_prefix_append (h : Unbordered hole) {s t : List Char} (hs : s ≠ [])
    (hstarts : hole <+: s ++ (hole ++ t)) : hole <+: s := by
  rcases List.prefix_or_prefix_of_prefix hstarts (List.prefix_append s _) with hshort | ⟨u, rfl⟩
  · exact hshort
  · -- What the first hole has beyond `s` would be the start of the second one.
    have hu : u <+: (s ++ u) ++ t := (List.prefix_append_right_inj s).1 hstarts
    have hstart : u <+: s ++ u :=
      List.prefix_of_prefix_length_le hu (List.prefix_append _ t) (by simp)
    rcases h u hstart (List.suffix_append s u) with rfl | heq
    · rw [List.append_nil]
    · exact absurd (List.append_left_eq_self.1 heq.symm) hs

/-! ## Replacing from the left -/

theorem replaceFrom_eq_drop : ∀ (skip : Nat) (s : List Char),
    replaceFrom hole new skip s = replaceAll hole new (s.drop skip)
  | 0, _ => rfl
  | _ + 1, [] => rfl
  | skip + 1, c :: s => by rw [replaceFrom, replaceFrom_eq_drop skip s, List.drop_succ_cons]

theorem replaceAll_cons {c : Char} {s : List Char} (h : ¬ hole <+: c :: s) :
    replaceAll hole new (c :: s) = c :: replaceAll hole new s := by
  rw [replaceAll, replaceFrom, if_neg (by rwa [List.isPrefixOf_iff_prefix])]
  rfl

theorem replaceAll_hole_append (h : hole ≠ []) (t : List Char) :
    replaceAll hole new (hole ++ t) = new ++ replaceAll hole new t := by
  obtain ⟨c, r, rfl⟩ := List.exists_cons_of_ne_nil h
  have hstarts : (c :: r).isPrefixOf (c :: (r ++ t)) = true := List.isPrefixOf_iff_prefix.2 ⟨t, rfl⟩
  rw [replaceAll, List.cons_append, replaceFrom, if_pos hstarts, replaceFrom_eq_drop, List.length_cons,
    Nat.add_sub_cancel, List.drop_left]

theorem replaceAll_eq_self : ∀ {s : List Char}, ¬ hole <:+: s → replaceAll hole new s = s
  | [], _ => rfl
  | c :: s, h => by
    have hstart : ¬ hole <+: c :: s := fun hp => h hp.isInfix
    have hrest : ¬ hole <:+: s := fun hi => h (hi.trans (List.suffix_cons c s).isInfix)
    rw [replaceAll_cons hstart, replaceAll_eq_self hrest]

/-- **The text may be cut at any hole**: its sides are read by themselves. -/
theorem replaceAll_append (hne : hole ≠ []) (h : Unbordered hole) (s t : List Char) :
    replaceAll hole new (s ++ hole ++ t) = replaceAll hole new s ++ new ++ replaceAll hole new t := by
  cases s with
  | nil => exact replaceAll_hole_append hne t
  | cons c s =>
    by_cases hstarts : hole <+: c :: s
    · -- The side begins with a hole of its own, and the rest of it is shorter.
      obtain ⟨r, hr⟩ := hstarts
      have hshorter : r.length ≤ s.length := by
        have hpos := List.length_pos_of_ne_nil hne
        have hlength := congrArg List.length hr
        rw [List.length_append, List.length_cons] at hlength
        omega
      rw [← hr, List.append_assoc, List.append_assoc, replaceAll_hole_append hne, replaceAll_hole_append hne,
        ← List.append_assoc r, replaceAll_append hne h r t]
      simp only [List.append_assoc]
    · have hwhole : ¬ hole <+: c :: (s ++ hole ++ t) := fun hp =>
        hstarts (h.prefix_of_prefix_append (List.cons_ne_nil c s) (by simpa using hp))
      rw [List.cons_append, List.cons_append, replaceAll_cons hwhole, replaceAll_cons hstarts,
        replaceAll_append hne h s t]
      simp only [List.cons_append]
termination_by s.length

theorem filled_replaceAll (hne : hole ≠ []) (h : Unbordered hole) (s : List Char) :
    Filled hole new s (replaceAll hole new s) := by
  by_cases hinfix : hole <:+: s
  · obtain ⟨a, b, rfl⟩ := hinfix
    have hpos := List.length_pos_of_ne_nil hne
    have ha : a.length < (a ++ hole ++ b).length := by
      simp only [List.length_append]
      omega
    have hb : b.length < (a ++ hole ++ b).length := by
      simp only [List.length_append]
      omega
    rw [replaceAll_append hne h]
    exact .fill (filled_replaceAll hne h a) (filled_replaceAll hne h b)
  · rw [replaceAll_eq_self hinfix]
    exact .plain hinfix
termination_by s.length

/-- **Replacing from the left fills all holes at once**, and no other text has them filled. -/
theorem filled_iff (hne : hole ≠ []) (h : Unbordered hole) {s t : List Char} :
    Filled hole new s t ↔ t = replaceAll hole new s := by
  constructor
  · intro hfilled
    induction hfilled with
    | plain hinfix => exact (replaceAll_eq_self hinfix).symm
    | fill _ _ ihs iht => rw [replaceAll_append hne h, ← ihs, ← iht]
  · rintro rfl
    exact filled_replaceAll hne h s

end PathRouter.Text
