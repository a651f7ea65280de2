import PathRouter.Proofs.Regex.Form
import PathRouter.Proofs.Regex.RefusalsBracket
/-!
# Parentheses that close nothing

A pattern that stands in a group between the ends of the text is read alone as well, and is the same in both places, unless
one of its parentheses closes the group around it: one that closes no group of its own (`ClosesUnopened`).  Nothing else
that is refused alone is read inside the group, for what is refused stays refused with the end of the group behind it.

The main statements are `parse?_of_wrapped` and, in the other direction, `ReadState.isSome_read_enclose_iff`.
-/
namespace PathRouter.Regex

namespace ReadState

variable {st st' last : ReadState}

/-! ## Reading alone -/

/-- What is read alone, all groups being closed and there being room for it. -/
theorem finish_eq_some_iff {r : Regex} :
    last.finish = some r ↔ last.outer = [] ∧ last.body.depth ≤ maxNesting ∧ r = last.body.value.toRegex := by
  rw [finish, Option.ite_none_right_eq_some, Bool.and_eq_true_iff, List.isEmpty_iff, decide_eq_true_iff, and_assoc,
    Option.some_inj, eq_comm (b := r)]

/-- **A parenthesis that closes no group**: reading comes to it where no group is open. -/
inductive ClosesUnopened : ReadState → List Char → Prop
  | here {st : ReadState} {s r : List Char} : st.flags.skip s = ')' :: r → st.outer = [] → ClosesUnopened st s
  | token {st st' : ReadState} {c : Char} {s r r' : List Char} {tok : Token} : st.flags.skip s = c :: r →
      readToken st.flags c r = some (tok, r') → st.push tok = some st' → r'.length < s.length → ClosesUnopened st' r' →
      ClosesUnopened st s

theorem push_close_eq_none (h : st.outer = []) : st.push .close = none := by
  unfold push
  rw [h]

theorem not_closesUnopened_end {s : List Char} (hs : st.flags.skip s = []) : ¬ ClosesUnopened st s := by
  intro h
  cases h with
  | here hs' => cases hs.symm.trans hs'
  | token hs' => cases hs.symm.trans hs'

theorem closesUnopened_token_iff {tok : Token} {c : Char} {s r r' : List Char} (hs : st.flags.skip s = c :: r)
    (ht : readToken st.flags c r = some (tok, r')) (hp : st.push tok = some st') (hr : r'.length < s.length) :
    ClosesUnopened st s ↔ ClosesUnopened st' r' := by
  refine ⟨fun h => ?_, .token hs ht hp hr⟩
  cases h with
  | here hs' houter =>
    obtain ⟨rfl, rfl⟩ := List.cons.inj (hs.symm.trans hs')
    obtain ⟨rfl, -⟩ := Prod.mk.inj (Option.some.inj ht)
    rw [push_close_eq_none houter] at hp
    cases hp
  | token hs' ht' hp' _ h =>
    obtain ⟨rfl, rfl⟩ := List.cons.inj (hs.symm.trans hs')
    obtain ⟨rfl, rfl⟩ := Prod.mk.inj (Option.some.inj (ht.symm.trans ht'))
    obtain rfl := Option.some.inj (hp.symm.trans hp')
    exact h

/-- With such a parenthesis nothing is read. -/
theorem ClosesUnopened.read_eq_none {s : List Char} (h : ClosesUnopened st s) : st.read s = none := by
  induction h with
  | here hs houter =>
    refine Option.eq_none_iff_forall_ne_some.2 fun x hx => ?_
    obtain ⟨_, _, _, ht, hp, -⟩ := read_eq_some hs hx
    obtain ⟨rfl, rfl⟩ := Prod.mk.inj (Option.some.inj ht)
    cases (push_close_eq_none houter).symm.trans hp
  | token hs ht hp hlt _ ih => rw [read_step hs ht hp hlt, ih]

/-! ## Reading inside a group -/

/-- A token that can be taken inside the group can be taken outside, but for a parenthesis that closes this very group. -/
theorem push_of_enclose {tok : Token} {st₁ : ReadState} (h : st.enclose.push tok = some st₁)
    (hclose : ¬ (tok = .close ∧ st.outer = [])) : ∃ st', st.push tok = some st' ∧ st₁ = st'.enclose := by
  cases hp : st.push tok with
  | some st' => exact ⟨st', rfl, Option.some.inj (h.symm.trans (push_enclose hp))⟩
  | none =>
    exfalso
    unfold push at h hp
    cases tok with
    | repetition min max greedy =>
      dsimp only [enclose] at h hp
      split at hp
      · cases hp
      · rename_i hno
        split at h
        · exact hno _ _ _ ‹_›
        · cases h
    | openCapture name =>
      dsimp only at h hp
      split at hp
      · exact absurd (h.symm.trans (if_pos ‹_›)) nofun
      · cases hp
    | close =>
      dsimp only at hp
      split at hp
      · exact hclose ⟨rfl, ‹_›⟩
      · cases hp
    | _ => cases hp

/-- Where the parenthesis was taken, the group is never closed. -/
theorem read_enclose_spent {r : List Char} (h : Spent r) : st.enclose.read r = none := by
  rcases h with rfl | rfl
  · have ht : readToken st.flags '$' [] = some (.part ⟨.assert st.flags.dollar, 0⟩, []) := rfl
    rw [read_enclose_step skip_dollar ht rfl (by decide), read_enclose_end skip_nil]
  · exact read_enclose_end skip_nil

theorem one_lt_length_closing (s : List Char) : 1 < (s ++ closing).length := by
  rw [List.length_append]
  exact Nat.lt_add_left _ (by decide)

/-- At the end of a text the group is closed, if no other is open and there is room for it. -/
theorem of_read_enclose_end {s : List Char} {r' : Regex} (hs : st.flags.skip s = [])
    (h : st.enclose.read (s ++ closing) = some r') :
    st.outer = [] ∧ st.body.depth + 2 ≤ maxNesting ∧ r' = wrapped st.body.value := by
  rcases skip_closing_of_nil hs with hclosing | hclosing
  · cases houter : st.outer with
    | nil =>
      rw [read_enclose_closing houter hclosing (one_lt_length_closing s)] at h
      split at h
      · exact ⟨rfl, ‹_›, (Option.some.inj h).symm⟩
      · cases h
    | cons f rest =>
      obtain ⟨tok, t', st₁, ht, hp, -, hread⟩ := @read_eq_some st.enclose _ _ _ _ hclosing h
      obtain ⟨rfl, rfl⟩ := Prod.mk.inj (Option.some.inj ht)
      obtain ⟨st', -, rfl⟩ := push_of_enclose hp fun hno => by
        rw [houter] at hno
        cases hno.2
      rw [read_enclose_spent (.inl rfl)] at hread
      cases hread
  · rw [read_enclose_end hclosing] at h
    cases h

/-- Each token that is read inside the group is read alone, unless it closes the group. -/
theorem of_read_enclose_token {c : Char} {s t : List Char} {r' : Regex} (hs : st.flags.skip s = c :: t)
    (h : st.enclose.read (s ++ closing) = some r') :
    c = ')' ∧ st.outer = [] ∨ ∃ tok t' st', readToken st.flags c t = some (tok, t') ∧ st.push tok = some st' ∧
      t'.length < s.length ∧ st'.enclose.read (t' ++ closing) = some r' := by
  obtain ⟨tok, u, st₁, hc, hp, hlt, hread⟩ := @read_eq_some st.enclose _ _ _ _ (skip_closing_of_cons hs) h
  cases ht : readToken st.flags c t with
  | none =>
    rcases readToken_refuses ht hc with ⟨hclose, hspent⟩ | ⟨⟨x, rfl⟩, v, rfl, hcounted⟩
    · obtain ⟨st', -, rfl⟩ := push_of_enclose hp fun hno => hclose hno.1
      rw [read_enclose_spent hspent] at hread
      cases hread
    · -- The boundary is a part, and the brace behind it is no repetition.
      obtain rfl := Option.some.inj hp
      obtain ⟨_, _, _, hbrace, -⟩ := read_eq_some skip_brace hread
      cases hcounted.symm.trans hbrace
  | some p =>
    obtain ⟨tok', t'⟩ := p
    have hkept := readToken_closing ht
    obtain rfl : tok' = tok := by
      rcases hkept with hkept | ⟨-, hkept⟩ <;> exact (Prod.mk.inj (Option.some.inj (hkept.symm.trans hc))).1
    by_cases hclose : tok' = .close ∧ st.outer = []
    · obtain ⟨rfl, houter⟩ := hclose
      exact .inl ⟨by_contra fun hne => readToken_ne_close hne ht, houter⟩
    obtain ⟨st', hp', rfl⟩ := push_of_enclose hp hclose
    rcases hkept with hkept | ⟨-, hkept⟩
    · obtain ⟨-, rfl⟩ := Prod.mk.inj (Option.some.inj (hkept.symm.trans hc))
      exact .inr ⟨tok', t', st', rfl, hp', by simpa using hlt, hread⟩
    · obtain ⟨-, rfl⟩ := Prod.mk.inj (Option.some.inj (hkept.symm.trans hc))
      rw [read_enclose_end skip_nil] at hread
      cases hread

/-- **What is read inside the group** is read alone, unless a parenthesis in it closes the group. -/
theorem of_read_enclose {s : List Char} {r' : Regex} (h : st.enclose.read (s ++ closing) = some r') :
    ClosesUnopened st s ∨ ∃ last, Reads st s last ∧ last.outer = [] ∧ last.body.depth + 2 ≤ maxNesting ∧
      r' = wrapped last.body.value := by
  induction hn : s.length using Nat.strongRecOn generalizing st s with
  | _ n ih =>
    subst hn
    cases hs : st.flags.skip s with
    | nil => exact .inr ⟨st, .done hs, of_read_enclose_end hs h⟩
    | cons c t =>
      obtain ⟨rfl, houter⟩ | ⟨tok, t', st', ht, hp, hlt, hread⟩ := of_read_enclose_token hs h
      · exact .inl (.here hs houter)
      · rcases ih _ hlt hread rfl with hcloses | ⟨last, hrun, hlast⟩
        · exact .inl (.token hs ht hp hlt hcloses)
        · exact .inr ⟨last, .token hs ht hp hlt hrun, hlast⟩

/-- **What is read alone** is read inside the group, if the parenthesis is reached and there is room for the group. -/
theorem isSome_read_enclose_iff {s : List Char} (hrun : Reads st s last) (houter : last.outer = []) :
    (st.enclose.read (s ++ closing)).isSome = true ↔
      ClosesUnopened st (s ++ closing) ∧ last.body.depth + 2 ≤ maxNesting := by
  induction hrun with
  | @done st s hs =>
    rcases skip_closing_of_nil hs with hclosing | hclosing
    · rw [read_enclose_closing houter hclosing (one_lt_length_closing s)]
      have hcloses : ClosesUnopened st (s ++ closing) := .here hclosing houter
      rw [and_iff_right hcloses]
      split <;> simp [*]
    · rw [read_enclose_end hclosing]
      simp [not_closesUnopened_end hclosing]
  | @token st st' last c s t t' tok hs ht hp hlt hrun ih =>
    rcases readToken_closing ht with hkept | ⟨rfl, hkept⟩
    · have hlength : (t' ++ closing).length < (s ++ closing).length := by
        rw [List.length_append, List.length_append]
        omega
      rw [read_enclose_step (skip_closing_of_cons hs) hkept hp hlength,
        closesUnopened_token_iff (skip_closing_of_cons hs) hkept hp hlength]
      exact ih houter
    · have hlength : ([] : List Char).length < (s ++ closing).length := Nat.zero_lt_of_lt (one_lt_length_closing s)
      rw [read_enclose_step (skip_closing_of_cons hs) hkept hp hlength, read_enclose_end skip_nil,
        closesUnopened_token_iff (skip_closing_of_cons hs) hkept hp hlength]
      simp [not_closesUnopened_end skip_nil]

end ReadState

open ReadState

/-! ## Patterns -/

theorem parse?_wrapped_text (pattern : String) :
    parse? ("^(?:" ++ pattern ++ ")$") = ({} : ReadState).enclose.read (pattern.toList ++ closing) := by
  have htext : ("^(?:" ++ pattern ++ ")$").toList = '^' :: '(' :: '?' :: ':' :: (pattern.toList ++ closing) := by
    simp [closing]
  rw [parse?, htext, read_caret rfl, read_openPlain rfl]
  rfl

/-- **A pattern and the pattern around it**: what stands between the ends of the text is what the pattern alone writes. -/
theorem parse?_wrapped {pattern : String} {r r' : Regex} (h : parse? pattern = some r)
    (h' : parse? ("^(?:" ++ pattern ++ ")$") = some r') : ∃ body : Form, r = body.toRegex ∧ r' = wrapped body := by
  rw [parse?_wrapped_text] at h'
  obtain hcloses | ⟨last, hrun, -, -, rfl⟩ := of_read_enclose h'
  · cases hcloses.read_eq_none.symm.trans h
  · obtain ⟨-, -, rfl⟩ := finish_eq_some_iff.1 (hrun.read_eq.symm.trans h)
    exact ⟨_, rfl, rfl⟩

theorem groups_wrapped (body : Form) : (wrapped body).groups = body.toRegex.groups := by
  have hne : [body, .assert .textEnd].flatMap Form.factors ≠ [] := by
    simp [Form.factors]
  have hassert : ∀ a : Assertion, (Form.assert a).toRegex.groups = [] := fun _ => rfl
  rw [wrapped, Form.alts_cats_assert hne, Form.groups_cats]
  simp [hassert]

theorem groupNames_wrapped (body : Form) : (wrapped body).groupNames = body.toRegex.groupNames := by
  rw [groupNames, groupNames, groups_wrapped]

/-- **What can be read between the ends of the text can be read alone**, with the same groups, unless it closes a group that
it did not open; then it cannot. -/
theorem parse?_of_wrapped {pattern : String} {r' : Regex} (h : parse? ("^(?:" ++ pattern ++ ")$") = some r') :
    (∃ r, parse? pattern = some r ∧ r.groups = r'.groups ∧ r.groupNames = r'.groupNames) ↔
      ¬ ClosesUnopened {} pattern.toList := by
  constructor
  · rintro ⟨r, hr, -⟩ hcloses
    cases hcloses.read_eq_none.symm.trans hr
  · intro hno
    rw [parse?_wrapped_text] at h
    obtain hcloses | ⟨last, hrun, houter, hdepth, rfl⟩ := of_read_enclose h
    · exact absurd hcloses hno
    · have hr : parse? pattern = some last.body.value.toRegex :=
        hrun.read_eq.trans (finish_eq_some_iff.2 ⟨houter, Nat.le_of_add_right_le hdepth, rfl⟩)
      exact ⟨_, hr, (groups_wrapped _).symm, (groupNames_wrapped _).symm⟩

end PathRouter.Regex
