import PathRouter.Proofs.Regex.Groups
import PathRouter.Proofs.Regex.Layout
import PathRouter.Regex.Match
/-!
# Where groups match

A match leaves the ends of a group as they were, or it has passed the group and left a stretch of what it took
(`Takes.leads`).  Whether an expression can match does not depend on the ends of groups (`Takes.slots`).

So the spans that a search gives are stretches of the text, and the first of them is the whole match
(`captures?_eq_some`).
-/
namespace PathRouter.Regex

variable {text : List Char}

/-! ## Ends of groups -/

/-- The ends of group `k` are the same. -/
def SameEnds (t u : Slots) (k : Nat) : Prop :=
  u[2 * k]? = t[2 * k]? ∧ u[2 * k + 1]? = t[2 * k + 1]?

/-- The ends of group `k` are the same, or it is a group of `r` and the ends are those of a stretch from `p` to `q`. -/
def Marked (r : Regex) (p q : Nat) (t u : Slots) (k : Nat) : Prop :=
  SameEnds t u k ∨ (∃ name, (k, name) ∈ r.groups) ∧
    ∃ a b, u[2 * k]? = some (some a) ∧ u[2 * k + 1]? = some (some b) ∧ p ≤ a ∧ a ≤ b ∧ b ≤ q

theorem Marked.mono {r s : Regex} {p q : Nat} {t u : Slots} {k : Nat} (h : Marked r p q t u k)
    (hs : r.groups ⊆ s.groups) : Marked s p q t u k := by
  rcases h with h | ⟨⟨name, hn⟩, h⟩
  · exact .inl h
  · exact .inr ⟨⟨name, hs hn⟩, h⟩

theorem Marked.trans {r : Regex} {p q m : Nat} {t u v : Slots} {k : Nat} (h : Marked r p q t u k)
    (h' : Marked r q m u v k) (hpq : p ≤ q) (hqm : q ≤ m) : Marked r p m t v k := by
  rcases h' with hsame | ⟨hk, a, b, ha, hb, hqa, hab, hbm⟩
  · rcases h with h | ⟨hk, a, b, ha, hb, hpa, hab, hbq⟩
    · exact .inl ⟨hsame.1.trans h.1, hsame.2.trans h.2⟩
    · exact .inr ⟨hk, a, b, hsame.1.trans ha, hsame.2.trans hb, hpa, hab, Nat.le_trans hbq hqm⟩
  · exact .inr ⟨hk, a, b, ha, hb, Nat.le_trans hpq hqa, hab, hbm⟩

/-- A group around `r` is passed at `p` and at `q`; inside of it only the ends of other groups stay as they were. -/
theorem Marked.group {r : Regex} {i k : Nat} {name : Option String} {p q : Nat} {t u : Slots}
    (h : Marked r p q (t.set (2 * i) (some p)) u k) (hlen : u.length = t.length) (hk : 2 * k + 1 < t.length)
    (hpq : p ≤ q) : Marked (.group i name r) p q t (u.set (2 * i + 1) (some q)) k := by
  by_cases hik : k = i
  · subst hik
    have hend : (u.set (2 * k + 1) (some q))[2 * k + 1]? = some (some q) := List.getElem?_set_self (by omega)
    have hstart : (u.set (2 * k + 1) (some q))[2 * k]? = u[2 * k]? := List.getElem?_set_ne (by omega)
    refine .inr ⟨⟨name, List.mem_cons_self⟩, ?_⟩
    rcases h with ⟨hsame, -⟩ | ⟨-, a, b, ha, -, hpa, hab, hbq⟩
    · rw [List.getElem?_set_self (by omega)] at hsame
      exact ⟨p, q, hstart.trans hsame, hend, Nat.le_refl p, hpq, Nat.le_refl q⟩
    · exact ⟨a, q, hstart.trans ha, hend, hpa, Nat.le_trans hab hbq, Nat.le_refl q⟩
  · have hstart : (u.set (2 * i + 1) (some q))[2 * k]? = u[2 * k]? := List.getElem?_set_ne (by omega)
    have hend : (u.set (2 * i + 1) (some q))[2 * k + 1]? = u[2 * k + 1]? := List.getElem?_set_ne (by omega)
    rcases h with ⟨hs, he⟩ | ⟨⟨n, hn⟩, a, b, ha, hb, hab⟩
    · rw [List.getElem?_set_ne (by omega)] at hs he
      exact .inl ⟨hstart.trans hs, hend.trans he⟩
    · exact .inr ⟨⟨n, List.mem_cons_of_mem _ hn⟩, a, b, hstart.trans ha, hend.trans hb, hab⟩

/-- **What a match does**: it goes forward, stays in the text, and marks the groups it passes. -/
structure Leads (text : List Char) (r : Regex) (p : Nat) (t : Slots) (q : Nat) (u : Slots) : Prop where
  forward : p ≤ q
  inside : p ≤ text.length → q ≤ text.length
  length : u.length = t.length
  marked : ∀ k, 2 * k + 1 < t.length → Marked r p q t u k

theorem Leads.refl (r : Regex) (p : Nat) (t : Slots) : Leads text r p t p t :=
  ⟨Nat.le_refl p, id, rfl, fun _ _ => .inl ⟨rfl, rfl⟩⟩

theorem Leads.mono {r s : Regex} {p q : Nat} {t u : Slots} (h : Leads text r p t q u) (hs : r.groups ⊆ s.groups) :
    Leads text s p t q u :=
  ⟨h.forward, h.inside, h.length, fun k hk => (h.marked k hk).mono hs⟩

theorem Leads.trans {r : Regex} {p q m : Nat} {t u v : Slots} (h : Leads text r p t q u) (h' : Leads text r q u m v) :
    Leads text r p t m v where
  forward := Nat.le_trans h.forward h'.forward
  inside hp := h'.inside (h.inside hp)
  length := h'.length.trans h.length
  marked k hk := (h.marked k hk).trans (h'.marked k (h.length ▸ hk)) h.forward h'.forward

theorem Takes.leads {r : Regex} {p q : Nat} {t u : Slots} (h : Takes text r p t q u) : Leads text r p t q u := by
  induction h with
  | empty | assert _ | starLast => exact .refl _ _ _
  | @one _ c p t hc _ =>
    have hlt := (List.getElem?_eq_some_iff.1 hc).1
    exact ⟨Nat.le_succ p, fun _ => hlt, rfl, fun _ _ => .inl ⟨rfl, rfl⟩⟩
  | cat _ _ ihr ihs =>
    exact (ihr.mono (List.subset_append_left _ _)).trans (ihs.mono (List.subset_append_right _ _))
  | altLeft _ ih => exact ih.mono (List.subset_append_left _ _)
  | altRight _ ih => exact ih.mono (List.subset_append_right _ _)
  | plusLast _ ih => exact ih.mono (List.Subset.refl _)
  | plusMore _ _ ihr ih | starMore _ _ ihr ih => exact Leads.trans (ihr.mono (List.Subset.refl _)) ih
  | @group i name r p q t u _ ih =>
    have hlen : u.length = t.length := by rw [ih.length, List.length_set]
    refine ⟨ih.forward, ih.inside, by rw [List.length_set, hlen], fun k hk => ?_⟩
    exact (ih.marked k (by rwa [List.length_set])).group hlen hk ih.forward

/-- **What can match does not depend on the ends of groups.** -/
theorem Takes.slots {r : Regex} {p q : Nat} {t u : Slots} (h : Takes text r p t q u) :
    ∀ t' : Slots, ∃ u', Takes text r p t' q u' := by
  induction h with
  | empty => exact fun t' => ⟨t', .empty⟩
  | one hc hk => exact fun t' => ⟨t', .one hc hk⟩
  | assert ha => exact fun t' => ⟨t', .assert ha⟩
  | starLast => exact fun t' => ⟨t', .starLast⟩
  | altLeft _ ih =>
    intro t'
    obtain ⟨u', h⟩ := ih t'
    exact ⟨u', .altLeft h⟩
  | altRight _ ih =>
    intro t'
    obtain ⟨u', h⟩ := ih t'
    exact ⟨u', .altRight h⟩
  | plusLast _ ih =>
    intro t'
    obtain ⟨u', h⟩ := ih t'
    exact ⟨u', .plusLast h⟩
  | cat _ _ ihr ihs =>
    intro t'
    obtain ⟨u', hr⟩ := ihr t'
    obtain ⟨v', hs⟩ := ihs u'
    exact ⟨v', .cat hr hs⟩
  | plusMore _ _ ihr ih =>
    intro t'
    obtain ⟨u', hr⟩ := ihr t'
    obtain ⟨v', hs⟩ := ih u'
    exact ⟨v', .plusMore hr hs⟩
  | starMore _ _ ihr ih =>
    intro t'
    obtain ⟨u', hr⟩ := ihr t'
    obtain ⟨v', hs⟩ := ih u'
    exact ⟨v', .starMore hr hs⟩
  | group _ ih =>
    intro t'
    obtain ⟨u', h⟩ := ih _
    exact ⟨_, .group h⟩

end PathRouter.Regex

namespace PathRouter

/-! ## Spans -/

/-- A stretch of the text. -/
def Span.Within (s : Span) (text : List Char) : Prop :=
  s.start ≤ s.stop ∧ s.stop ≤ text.length

theorem Span.infix_of (s : Span) (text : List Char) : s.of text <:+: text :=
  (List.take_prefix _ _).isInfix.trans (List.drop_suffix _ _).isInfix

namespace Pattern

open Regex (Slots Takes)

variable {path : List Char}

theorem spanAt_eq_some_iff {slots : Slots} {k : Nat} {s : Span} :
    spanAt slots k = some s ↔ slots[2 * k]? = some (some s.start) ∧ slots[2 * k + 1]? = some (some s.stop) := by
  rw [← Option.join_eq_some_iff, ← Option.join_eq_some_iff, spanAt]
  constructor
  · intro h
    split at h
    · rename_i a b ha hb
      obtain rfl := Option.some.inj h
      exact ⟨ha, hb⟩
    · cases h
  · rintro ⟨ha, hb⟩
    rw [ha, hb]

/-- Of a group that a match did not pass there is no span, for there was none before. -/
theorem within_of_takes {r : Regex} {n i k q : Nat} {slots : Slots} {s : Span} (hi : i ≤ path.length)
    (h : Takes path r i (List.replicate n none) q slots) (hk : 2 * k + 1 < n) (hs : spanAt slots k = some s) :
    s.Within path := by
  have hleads := h.leads
  obtain ⟨ha, hb⟩ := spanAt_eq_some_iff.1 hs
  rcases hleads.marked k (by rwa [List.length_replicate]) with ⟨hsame, -⟩ | ⟨-, a, b, ha', hb', -, hab, hbq⟩
  · rw [ha, List.getElem?_replicate_of_lt (by omega)] at hsame
    cases hsame
  · rw [ha] at ha'
    rw [hb] at hb'
    obtain rfl := Option.some.inj (Option.some.inj ha')
    obtain rfl := Option.some.inj (Option.some.inj hb')
    exact ⟨hab, Nat.le_trans hbq (hleads.inside hi)⟩

/-- The span of group 0 is the whole match, if that number is no other group's. -/
theorem spanAt_zero_of_takes {r : Regex} {n i q : Nat} {slots : Slots} (hr : ∀ x ∈ r.groups, x.1 ≠ 0) (hn : 1 < n)
    (h : Takes path (.group 0 none r) i (List.replicate n none) q slots) : spanAt slots 0 = some ⟨i, q⟩ := by
  obtain ⟨v, hv, rfl⟩ := Regex.takes_group_iff.1 h
  have hlen : v.length = n := by rw [hv.leads.length, List.length_set, List.length_replicate]
  rcases hv.leads.marked 0 (by simpa using hn) with ⟨hsame, -⟩ | ⟨⟨name, hm⟩, -⟩
  · rw [List.getElem?_set_self (by simp; omega)] at hsame
    refine spanAt_eq_some_iff.2 ⟨?_, List.getElem?_set_self (by omega)⟩
    rw [List.getElem?_set_ne (by omega), hsame]
  · exact absurd rfl (hr _ hm)

theorem ofText?_eq_some {t : String} {p : Pattern} (h : ofText? t = some p) :
    ∃ r, Regex.parse? t = some r ∧ p = ⟨t, r, r.groupNames, r.program.toArray⟩ := by
  obtain ⟨r, hr, rfl⟩ := Option.map_eq_some_iff.1 h
  exact ⟨r, hr, rfl⟩

/-- **The spans that a search gives** are those that a match left: first that of the whole match, and then one for each
group. -/
theorem captures?_eq_some {t : String} {p : Pattern} (hp : ofText? t = some p) {caps : List (Option Span)}
    (h : p.captures? path = some caps) :
    ∃ i ≤ path.length, ∃ q slots,
      Takes path (.group 0 none p.regex) i (List.replicate (2 * (p.groupNames.length + 1)) none) q slots ∧
        caps = some ⟨i, q⟩ :: (List.range p.groupNames.length).map (fun k => spanAt slots (k + 1)) := by
  obtain ⟨r, hr, rfl⟩ := ofText?_eq_some hp
  obtain ⟨table, -, hgroups⟩ := Regex.groups_listed hr
  obtain ⟨slots, hslots, rfl⟩ := Option.map_eq_some_iff.1 h
  obtain ⟨i, hi, q, ht⟩ := Regex.takes_of_search hslots
  have hzero : ∀ x ∈ r.groups, x.1 ≠ 0 := by
    intro x hx
    obtain ⟨j, hj, -⟩ := hgroups x hx
    omega
  refine ⟨i, hi, q, slots, ht, ?_⟩
  rw [List.range_succ_eq_map, List.map_cons, List.map_map, spanAt_zero_of_takes hzero (by omega) ht]
  rfl

end Pattern
end PathRouter
