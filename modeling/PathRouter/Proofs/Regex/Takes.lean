import PathRouter.Regex.Search
/-!
# What an expression matches

`Takes text r p t q u` says that `r` can match `text` from place `p` to place `q` and, in doing so, turn the ends of
groups `t` into `u`.  No order of preference enters: there may be many ways from `p`, and the search follows one of
them.
-/
namespace PathRouter

/-! ## Stretches of a list -/

theorem append_prefix_drop_iff {α : Type u} {l m text : List α} {p : Nat} :
    l ++ m <+: text.drop p ↔ l <+: text.drop p ∧ m <+: text.drop (p + l.length) := by
  constructor
  · rintro ⟨t, ht⟩
    have hd := congrArg (·.drop l.length) ht
    exact ⟨⟨m ++ t, by rw [← List.append_assoc, ht]⟩, t, by simpa using hd⟩
  · rintro ⟨⟨t, ht⟩, hm⟩
    have hd := congrArg (·.drop l.length) ht
    rw [← ht]
    rw [List.drop_left, List.drop_drop] at hd
    rw [hd]
    exact (List.prefix_append_right_inj l).2 hm

theorem cons_prefix_drop_iff {α : Type u} {a : α} {l text : List α} {p : Nat} :
    a :: l <+: text.drop p ↔ text[p]? = some a ∧ l <+: text.drop (p + 1) := by
  have hone : [a] <+: text.drop p ↔ text[p]? = some a := by
    rw [← List.head?_drop]
    cases text.drop p <;> simp [eq_comm]
  rw [← hone, ← List.singleton_append, append_prefix_drop_iff]
  exact Iff.rfl

namespace Regex

def charBefore (text : List Char) (p : Nat) : Option Char :=
  if p = 0 then none else text[p - 1]?

/-! ## Ways to match -/

/-- **A way to match.** -/
inductive Takes (text : List Char) : Regex → Nat → Slots → Nat → Slots → Prop
  | empty {p : Nat} {t : Slots} : Takes text .empty p t p t
  | one {s : CharSet} {c : Char} {p : Nat} {t : Slots} : text[p]? = some c → s.mem c = true →
      Takes text (.one s) p t (p + 1) t
  | assert {a : Assertion} {p : Nat} {t : Slots} : a.holds (charBefore text p) text[p]? = true →
      Takes text (.assert a) p t p t
  | cat {r s : Regex} {p q m : Nat} {t u v : Slots} : Takes text r p t q u → Takes text s q u m v →
      Takes text (.cat r s) p t m v
  | altLeft {r s : Regex} {p q : Nat} {t u : Slots} : Takes text r p t q u → Takes text (.alt r s) p t q u
  | altRight {r s : Regex} {p q : Nat} {t u : Slots} : Takes text s p t q u → Takes text (.alt r s) p t q u
  | plusLast {r : Regex} {greedy : Bool} {p q : Nat} {t u : Slots} : Takes text r p t q u →
      Takes text (.plus r greedy) p t q u
  | plusMore {r : Regex} {greedy : Bool} {p q m : Nat} {t u v : Slots} : Takes text r p t q u →
      Takes text (.plus r greedy) q u m v → Takes text (.plus r greedy) p t m v
  | starLast {r : Regex} {greedy : Bool} {p : Nat} {t : Slots} : Takes text (.star r greedy) p t p t
  | starMore {r : Regex} {greedy : Bool} {p q m : Nat} {t u v : Slots} : Takes text r p t q u →
      Takes text (.star r greedy) q u m v → Takes text (.star r greedy) p t m v
  | group {i : Nat} {name : Option String} {r : Regex} {p q : Nat} {t u : Slots} :
      Takes text r p (t.set (2 * i) (some p)) q u →
      Takes text (.group i name r) p t q (u.set (2 * i + 1) (some q))

section

variable {text : List Char} {r s : Regex} {p q : Nat} {t u : Slots}

theorem takes_empty_iff : Takes text .empty p t q u ↔ p = q ∧ t = u := by
  constructor
  · intro h; cases h; exact ⟨rfl, rfl⟩
  · rintro ⟨rfl, rfl⟩; exact .empty

theorem takes_one_iff {k : CharSet} :
    Takes text (.one k) p t q u ↔ (∃ c, text[p]? = some c ∧ k.mem c = true) ∧ q = p + 1 ∧ t = u := by
  constructor
  · intro h
    cases h with
    | one hc hk => exact ⟨⟨_, hc, hk⟩, rfl, rfl⟩
  · rintro ⟨⟨c, hc, hk⟩, rfl, rfl⟩
    exact .one hc hk

theorem takes_assert_iff {a : Assertion} :
    Takes text (.assert a) p t q u ↔ a.holds (charBefore text p) text[p]? = true ∧ p = q ∧ t = u := by
  constructor
  · intro h
    cases h with
    | assert ha => exact ⟨ha, rfl, rfl⟩
  · rintro ⟨ha, rfl, rfl⟩
    exact .assert ha

theorem takes_cat_iff :
    Takes text (.cat r s) p t q u ↔ ∃ m v, Takes text r p t m v ∧ Takes text s m v q u := by
  constructor
  · intro h
    cases h with
    | cat hr hs => exact ⟨_, _, hr, hs⟩
  · rintro ⟨m, v, hr, hs⟩
    exact .cat hr hs

theorem takes_alt_iff : Takes text (.alt r s) p t q u ↔ Takes text r p t q u ∨ Takes text s p t q u := by
  constructor
  · intro h
    cases h with
    | altLeft h => exact .inl h
    | altRight h => exact .inr h
  · rintro (h | h)
    · exact .altLeft h
    · exact .altRight h

theorem takes_group_iff {i : Nat} {name : Option String} :
    Takes text (.group i name r) p t q u ↔
      ∃ v, Takes text r p (t.set (2 * i) (some p)) q v ∧ u = v.set (2 * i + 1) (some q) := by
  constructor
  · intro h
    cases h with
    | group h => exact ⟨_, h, rfl⟩
  · rintro ⟨v, h, rfl⟩
    exact .group h

/-! ## Ends of the text -/

theorem textStart_holds_iff {i : Nat} (hi : i ≤ text.length) :
    Assertion.textStart.holds (charBefore text i) text[i]? = true ↔ i = 0 := by
  have hholds : Assertion.textStart.holds (charBefore text i) text[i]? = (charBefore text i).isNone := rfl
  rw [hholds, Option.isNone_iff_eq_none, charBefore]
  split
  · simp [*]
  · rw [List.getElem?_eq_none_iff]
    omega

theorem textEnd_holds_iff {i : Nat} : Assertion.textEnd.holds (charBefore text i) text[i]? = true ↔
    text.length ≤ i := by
  have hholds : Assertion.textEnd.holds (charBefore text i) text[i]? = text[i]?.isNone := rfl
  rw [hholds, Option.isNone_iff_eq_none, List.getElem?_eq_none_iff]

/-! ## Passes of a loop -/

/-- One pass, and then any number of them. -/
theorem takes_plus_iff {greedy : Bool} :
    Takes text (.plus r greedy) p t q u ↔ ∃ m v, Takes text r p t m v ∧ Takes text (.star r greedy) m v q u := by
  constructor
  · intro h
    generalize hr : Regex.plus r greedy = s at h
    induction h with
    | plusLast h _ =>
      obtain ⟨rfl, rfl⟩ := Regex.plus.inj hr
      exact ⟨_, _, h, .starLast⟩
    | plusMore h _ _ ih =>
      obtain ⟨rfl, rfl⟩ := Regex.plus.inj hr
      obtain ⟨m, v, hm, hs⟩ := ih rfl
      exact ⟨_, _, h, .starMore hm hs⟩
    | _ => cases hr
  · rintro ⟨m, v, hm, hs⟩
    generalize hr : Regex.star r greedy = s at hs
    induction hs generalizing p t with
    | starLast =>
      obtain ⟨rfl, rfl⟩ := Regex.star.inj hr
      exact .plusLast hm
    | starMore h _ _ ih =>
      obtain ⟨rfl, rfl⟩ := Regex.star.inj hr
      exact .plusMore hm (ih h rfl)
    | _ => cases hr

/-- A loop over a set takes a stretch of its members. -/
theorem takes_star_one_iff {k : CharSet} {greedy : Bool} :
    Takes text (.star (.one k) greedy) p t q u ↔
      t = u ∧ ∃ s, s <+: text.drop p ∧ q = p + s.length ∧ ∀ c ∈ s, k.mem c = true := by
  constructor
  · intro h
    generalize hr : Regex.star (.one k) greedy = s at h
    induction h with
    | starLast => exact ⟨rfl, [], List.nil_prefix, rfl, fun c hc => absurd hc List.not_mem_nil⟩
    | starMore h _ _ ih =>
      obtain ⟨rfl, rfl⟩ := Regex.star.inj hr
      obtain ⟨rfl, s, hs, rfl, hall⟩ := ih rfl
      obtain ⟨⟨c, hc, hk⟩, rfl, rfl⟩ := takes_one_iff.1 h
      refine ⟨rfl, c :: s, cons_prefix_drop_iff.2 ⟨hc, hs⟩, ?_, List.forall_mem_cons.2 ⟨hk, hall⟩⟩
      rw [List.length_cons]
      omega
    | _ => cases hr
  · rintro ⟨rfl, s, hs, rfl, hall⟩
    induction s generalizing p with
    | nil => exact .starLast
    | cons c s ih =>
      obtain ⟨hc, hs⟩ := cons_prefix_drop_iff.1 hs
      have hlen : p + (c :: s).length = p + 1 + s.length := by
        rw [List.length_cons]
        omega
      rw [hlen]
      exact .starMore (.one hc (hall c List.mem_cons_self)) (ih hs fun d hd => hall d (List.mem_cons_of_mem _ hd))

end

end Regex
end PathRouter
