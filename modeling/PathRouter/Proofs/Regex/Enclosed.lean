import PathRouter.Proofs.Regex.StopsBracket
/-!
# A pattern inside a group

A pattern that can be read alone is read the same way in a group between the ends of the text: token by token
(`readToken_closing`), in a state that has one more group around it (`ReadState.enclose`).  Only a comment at the end can
take the parenthesis, and then the group is never closed.  Else `ReadState.read_enclose_closing` says what is read.
-/
namespace PathRouter.Regex

variable {fl : Flags}

/-! ## Tokens -/

/-- A token is read as before, unless a comment behind it takes what follows. -/
def Kept (tok : Token) (r : List Char) (o : Option (Token × List Char)) : Prop :=
  o = some (tok, r ++ closing) ∨ r = [] ∧ o = some (tok, [])

theorem readGreedy_skip {s : List Char} :
    (readGreedy fl (fl.skip (s ++ closing))) = ((readGreedy fl (fl.skip s)).1, (readGreedy fl (fl.skip s)).2 ++ closing) ∨
      (readGreedy fl (fl.skip s)).2 = [] ∧ readGreedy fl (fl.skip (s ++ closing)) = ((readGreedy fl (fl.skip s)).1, []) := by
  cases hskip : fl.skip s with
  | nil =>
    rcases skip_closing_of_nil hskip with hclosing | hclosing
    · exact .inl (by rw [hclosing]; rfl)
    · exact .inr ⟨rfl, by rw [hclosing]; rfl⟩
  | cons c t =>
    have hclosing : fl.skip (s ++ closing) = c :: t ++ closing := skip_closing_of_cons hskip
    exact .inl (by rw [hclosing, readGreedy_closing])

theorem readCounted_closing {s r : List Char} {tok : Token} (h : readCounted fl s = some (tok, r)) :
    Kept tok r (readCounted fl (s ++ closing)) := by
  rw [readCounted_eq] at h
  obtain ⟨⟨min, t⟩, hmin, h⟩ := Option.bind_eq_some_iff.1 h
  obtain ⟨⟨max, u⟩, hmax, h⟩ := Option.map_eq_some_iff.1 h
  obtain ⟨rfl, rfl⟩ := Prod.mk.inj h
  have hskip : fl.skip s ≠ [] := by
    intro hnil
    rw [hnil] at hmin
    cases hmin
  have ht : t ≠ [] := by
    rintro rfl
    cases hmax
  unfold Kept
  rw [readCounted_eq, skip_closing hskip, readCount_closing hmin ht, Option.bind_some]
  dsimp only
  rw [stops_readBound min _ _ _ hmax, Option.map_some]
  dsimp only
  rcases @readGreedy_skip fl u with hgreedy | ⟨hnil, hgreedy⟩
  · rw [hgreedy]
    exact .inl rfl
  · rw [hgreedy]
    exact .inr ⟨hnil, rfl⟩

/-- The text behind a question mark is a directive: it does not go on as a name or as a look around. -/
def Directive (s : List Char) : Prop :=
  ∀ t, s ≠ '=' :: t ∧ s ≠ '!' :: t ∧ s ≠ '<' :: t ∧ s ≠ 'P' :: '<' :: t

theorem Directive.closing {s : List Char} (h : Directive s) : Directive (s ++ closing) := by
  intro t
  refine ⟨fun e => ?_, fun e => ?_, fun e => ?_, fun e => ?_⟩
  · obtain ⟨u, hu⟩ := prefix_of_append_closing (p := ['=']) e (by decide)
    exact (h u).1 hu
  · obtain ⟨u, hu⟩ := prefix_of_append_closing (p := ['!']) e (by decide)
    exact (h u).2.1 hu
  · obtain ⟨u, hu⟩ := prefix_of_append_closing (p := ['<']) e (by decide)
    exact (h u).2.2.1 hu
  · obtain ⟨u, hu⟩ := prefix_of_append_closing (p := ['P', '<']) e (by decide)
    exact (h u).2.2.2 hu

/-- The token of a directive. -/
def readDirective (s : List Char) : Option (Token × List Char) :=
  (readFlags false [] s).bind fun (changes, c, r) =>
    if c = ')' then if changes.isEmpty then none else some (.setFlags changes, r)
    else some (.openPlain changes, r)

theorem readOpen_directive {s t : List Char} (hskip : fl.skip s = '?' :: t) (ht : Directive t) :
    readOpen fl s = readDirective t := by
  unfold readOpen readDirective
  rw [hskip]
  split
  case h_7 heq =>
    obtain ⟨-, rfl⟩ := List.cons.inj heq
    cases readFlags false [] t with
    | none => rfl
    | some x =>
      obtain ⟨changes, c, r⟩ := x
      by_cases hc : c = ')'
      · subst hc
        rfl
      · simp [hc]
  case h_8 hq => exact absurd rfl (hq t)
  case h_1 heq => exact absurd (List.cons.inj heq).2 (ht _).1
  case h_2 heq => exact absurd (List.cons.inj heq).2 (ht _).2.1
  case h_3 heq | h_4 heq | h_6 heq => exact absurd (List.cons.inj heq).2 (ht _).2.2.1
  case h_5 heq => exact absurd (List.cons.inj heq).2 (ht _).2.2.2

theorem stops_readDirective : Stops readDirective := by
  intro s x r h
  obtain ⟨⟨changes, c, t⟩, hf, h⟩ := Option.bind_eq_some_iff.1 h
  rw [readDirective, readFlags_closing hf, Option.bind_some]
  dsimp only at h ⊢
  split at h
  · rw [if_pos ‹_›]
    split at h
    · cases h
    · rw [if_neg ‹_›]
      exact stops_some _ _ _ _ h
  · rw [if_neg ‹_›]
    exact stops_some _ _ _ _ h

theorem readOpen_closing {s r : List Char} {tok : Token} (h : readOpen fl s = some (tok, r)) :
    Kept tok r (readOpen fl (s ++ closing)) := by
  have hread := h
  unfold readOpen at h
  cases hskip : fl.skip s with
  | nil =>
    rw [hskip] at h
    obtain ⟨rfl, rfl⟩ := Prod.mk.inj (Option.some.inj h)
    rcases skip_closing_of_nil hskip with hclosing | hclosing
    · exact .inl (by rw [readOpen, hclosing]; rfl)
    · exact .inr ⟨rfl, by rw [readOpen, hclosing]⟩
  | cons c t =>
    have hclosing := skip_closing_of_cons hskip
    rw [hskip] at h
    refine .inl ?_
    split at h
    case h_1 | h_2 | h_3 | h_4 => cases h
    case h_5 heq =>
      obtain ⟨rfl, rfl⟩ := List.cons.inj heq
      rw [readOpen, hclosing]
      exact stops_readNamed _ _ _ h
    case h_6 u hahead hnot heq =>
      obtain ⟨rfl, rfl⟩ := List.cons.inj heq
      rw [readOpen, hclosing]
      cases u with
      | nil => cases h
      | cons d u =>
        have hd : d ≠ '=' ∧ d ≠ '!' := ⟨fun e => hahead u (by rw [e]), fun e => hnot u (by rw [e])⟩
        have hnamed := stops_readNamed _ _ _ h
        simpa [hd] using hnamed
    case h_7 hahead hnot _ _ hnamedP hnamed heq =>
      obtain ⟨rfl, rfl⟩ := List.cons.inj heq
      have ht : Directive t := fun u => ⟨hahead u, hnot u, hnamed u, hnamedP u⟩
      rw [readOpen_directive hskip ht] at hread
      rw [readOpen_directive hclosing ht.closing]
      exact stops_readDirective _ _ _ hread
    case h_8 hq =>
      obtain ⟨rfl, rfl⟩ := Prod.mk.inj (Option.some.inj h)
      have hc : c ≠ '?' := fun e => hq t (by rw [e])
      rw [readOpen, hclosing]
      simp [hc]

theorem readToken_closing {c : Char} {s r : List Char} {tok : Token} (h : readToken fl c s = some (tok, r)) :
    Kept tok r (readToken fl c (s ++ closing)) := by
  have hgreedy : ∀ min max, some (Token.repetition min max (readGreedy fl s).1, (readGreedy fl s).2) = some (tok, r) →
      some (Token.repetition min max (readGreedy fl (s ++ closing)).1, (readGreedy fl (s ++ closing)).2) =
        some (tok, r ++ closing) := by
    intro min max h
    obtain ⟨rfl, rfl⟩ := Prod.mk.inj (Option.some.inj h)
    rw [readGreedy_closing]
  unfold readToken at h ⊢
  split at h
  case h_1 => exact readOpen_closing h
  case h_4 => exact .inl (stops_readBracket.map (fun k => .part ⟨.ofSet (!fl.unicode) k.value, k.depth⟩) s tok r h)
  case h_5 | h_6 | h_7 => exact .inl (hgreedy _ _ h)
  case h_8 => exact readCounted_closing h
  case h_9 => exact .inl (stops_readEscape.map (fun a => .part ⟨a.toForm fl, 0⟩) s tok r h)
  case h_10 => exact .inl (stops_map _ _ s tok r h)
  all_goals exact .inl (stops_some _ s tok r h)

/-! ## Runs -/

/-- What a pattern writes that stands in a group between the ends of the text. -/
def wrapped (body : Form) : Regex :=
  (Form.alts [Form.cats [.assert .textStart, body, .assert .textEnd]]).toRegex

namespace ReadState

/-- The state with everything inside another group, before which the start of the text is asked for. -/
def enclose (st : ReadState) : ReadState :=
  { st with outer := st.outer ++ [⟨none, {}, [], [⟨some (.assert .textStart), 0⟩]⟩] }

variable {st st' last : ReadState}

theorem push_enclose {tok : Token} (h : st.push tok = some st') : st.enclose.push tok = some st'.enclose := by
  unfold push at h ⊢
  cases tok with
  | repetition min max greedy =>
    dsimp only [enclose] at h ⊢
    split at h
    · obtain rfl := Option.some.inj h
      rfl
    · cases h
  | openCapture name =>
    dsimp only at h ⊢
    split at h
    · cases h
    · obtain rfl := Option.some.inj h
      exact if_neg ‹_›
  | close =>
    dsimp only at h ⊢
    split at h
    · cases h
    · rename_i houter
      obtain rfl := Option.some.inj h
      simp only [enclose, houter, List.cons_append]
      rfl
  | _ =>
    obtain rfl := Option.some.inj h
    rfl

/-- The group around everything is open to the end. -/
theorem finish_enclose (st : ReadState) : st.enclose.finish = none := by
  unfold finish
  rw [if_neg]
  simp [enclose]

theorem read_enclose_end {s : List Char} (hs : st.flags.skip s = []) : st.enclose.read s = none := by
  have hs : st.enclose.flags.skip s = [] := hs
  rw [read_end hs, finish_enclose]

theorem read_enclose_step {tok : Token} {c : Char} {s r r' : List Char} (hs : st.flags.skip s = c :: r)
    (ht : readToken st.flags c r = some (tok, r')) (hp : st.push tok = some st') (hr : r'.length < s.length) :
    st.enclose.read s = st'.enclose.read r' :=
  @read_step st.enclose _ _ _ _ _ _ hs ht (push_enclose hp) hr

/-- What stands between the ends of the text: a start, a group and an end. -/
def betweenEnds (st : ReadState) : ReadState :=
  { st with
    flags := {}, branches := [], outer := []
    parts := [⟨some (.assert .textEnd), 0⟩, st.body.inside some, ⟨some (.assert .textStart), 0⟩] }

/-- The group is one deeper than its body, and so is what stands between the ends of the text. -/
theorem finish_betweenEnds (st : ReadState) : st.betweenEnds.finish =
    if st.body.depth + 2 ≤ maxNesting then some (wrapped st.body.value) else none := by
  have hdepth : st.betweenEnds.body.depth = max (max (max 0 0) (st.body.depth + 1)) 0 + 1 := rfl
  have hvalue : st.betweenEnds.body.value.toRegex = wrapped st.body.value := rfl
  have houter : st.betweenEnds.outer.isEmpty = true := rfl
  rw [finish, hdepth, hvalue, houter, Nat.max_self, Nat.zero_max, Nat.max_zero, Bool.true_and]
  exact if_congr decide_eq_true_iff rfl rfl

/-- The parenthesis closes the group around everything, and the dollar asks for the end of the text. -/
theorem read_enclose_closing {s : List Char} (ho : st.outer = []) (hs : st.flags.skip s = closing)
    (hlength : 1 < s.length) : st.enclose.read s =
      if st.body.depth + 2 ≤ maxNesting then some (wrapped st.body.value) else none := by
  have hs : st.enclose.flags.skip s = ')' :: ['$'] := hs
  have hpush : st.enclose.push .close = some { st with
      flags := {}, branches := [], outer := []
      parts := st.body.inside some :: [⟨some (.assert .textStart), 0⟩] } := by
    unfold push enclose
    rw [ho]
    rfl
  rw [read_step hs rfl hpush hlength, read_dollar rfl, read_nil rfl]
  exact finish_betweenEnds st

end ReadState

end PathRouter.Regex
