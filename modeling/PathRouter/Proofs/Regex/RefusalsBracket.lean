import PathRouter.Proofs.Regex.Refusals
/-!
# What readers of brackets refuse

A bracket that is not finished at the end of a text is not finished by the end of a group behind the text, for its parts
take the parenthesis and the dollar as characters (`refuses_readBracket`).  With that, what is said of all readers is said
of tokens: a token that is refused at the end of a text leaves nothing behind the text that can be read
(`readToken_refuses`).
-/
namespace PathRouter.Regex

variable {fl : Flags}

/-- What is left of a bracket that cannot be finished. -/
def Unfinished (r : List Char) : Prop :=
  r = closing ∨ Spent r

/-! ## Items and ranges -/

theorem readItem_refuses {s r : List Char} {a : Atom} (h : readItem fl s = none)
    (hc : readItem fl (s ++ closing) = some (a, r)) : Broken fl a r := by
  unfold readItem at h
  split at h
  · obtain ⟨-, rfl⟩ := Prod.mk.inj (Option.some.inj hc)
    exact .inl (.inl rfl)
  · exact readEscape_refuses h hc
  · cases h

theorem skip_brace {t : List Char} : fl.skip ('{' :: t) = '{' :: t := by
  unfold Flags.skip
  split
  · have hblank : Text.isBlank '{' = false := by decide
    simp [skipSpace, hblank]
  · rfl

/-- Behind a broken escape there is no hyphen, so it stands alone; and a boundary is in no set. -/
theorem readRange_of_broken {s t r : List Char} {a : Atom} {k : CharSet} (hitem : readItem fl s = some (a, t))
    (ht : Broken fl a t) (h : readRange fl s = some (k, r)) : Unfinished r := by
  have hskip : ∀ u, fl.skip t ≠ '-' :: u := by
    rcases ht with (rfl | rfl) | ⟨-, u, rfl, -⟩
    · simp [skip_dollar]
    · simp [skip_nil]
    · simp [skip_brace]
  rw [readRange_single hitem hskip] at h
  obtain ⟨k', hk, heq⟩ := Option.map_eq_some_iff.1 h
  obtain ⟨-, rfl⟩ := Prod.mk.inj heq
  rcases ht with (rfl | rfl) | ⟨⟨b, rfl⟩, -⟩
  · exact .inr (.inl skip_dollar)
  · exact .inr (.inr skip_nil)
  · cases hk

/-- Behind blanks at the end of a text, the parenthesis is the next item. -/
theorem readItem_skip_of_nil {s r : List Char} {a : Atom} (h : fl.skip s = [])
    (hc : readItem fl (fl.skip (s ++ closing)) = some (a, r)) : Spent r := by
  rcases skip_closing_of_nil h with hclosing | hclosing
  · rw [hclosing] at hc
    exact .inl (Prod.mk.inj (Option.some.inj hc)).2.symm
  · rw [hclosing] at hc
    cases hc

theorem peek_closing_of_none {spacing : Bool} : ∀ {b : Bool} {s : List Char}, peek spacing b s = none →
    peek spacing b (s ++ closing) = some ')'
  | b, [], _ => by cases spacing <;> cases b <;> decide
  | b, c :: s, h => by
    rw [List.cons_append]
    unfold peek at h ⊢
    split at h
    · rw [if_pos ‹_›]
      exact peek_closing_of_none h
    rw [if_neg ‹_›]
    split at h
    · rw [if_pos ‹_›]
      exact peek_closing_of_none h
    · cases h

/-- The second end of a range, where none was read or the text ended behind it. -/
theorem rangeEnd_refuses {u v : List Char} {a b : Atom} {k : CharSet}
    (h : ∀ b' v', readItem fl (fl.skip u) = some (b', v') → rangeOf? fl a b' = some k → v' = [])
    (hb : readItem fl (fl.skip (u ++ closing)) = some (b, v)) (hk : rangeOf? fl a b = some k) : Unfinished v := by
  by_cases hnil : fl.skip u = []
  · exact .inr (readItem_skip_of_nil hnil hb)
  rw [skip_closing hnil] at hb
  cases hu : readItem fl (fl.skip u) with
  | none =>
    rcases readItem_refuses hu hb with hspent | ⟨⟨x, rfl⟩, -⟩
    · exact .inr hspent
    · cases a <;> cases hk
  | some q =>
    obtain ⟨b', v'⟩ := q
    obtain ⟨rfl, rfl⟩ := Prod.mk.inj (Option.some.inj ((stops_readItem _ _ _ hu).symm.trans hb))
    exact .inl (congrArg (· ++ closing) (h b' v' hu hk))

/-- Behind a hyphen: it stands alone before a bracket or another hyphen, and before anything else it makes a range. -/
theorem readRange_hyphen_refuses {s t u r : List Char} {a : Atom} {k : CharSet} (hs : readItem fl s = some (a, t))
    (ht : fl.skip t = '-' :: u) (h : ∀ k' r', readRange fl s = some (k', r') → r' = [])
    (hc : readRange fl (s ++ closing) = some (k, r)) : Unfinished r := by
  rw [readRange_hyphen hs ht] at h
  rw [readRange_hyphen (stops_readItem s _ _ hs) (skip_closing_of_cons ht)] at hc
  cases hpeek : peek fl.spacing false u with
  | none =>
    rw [peek_closing_of_none hpeek, if_neg (by decide)] at hc
    obtain ⟨⟨b, v⟩, hb, hc⟩ := Option.bind_eq_some_iff.1 hc
    obtain ⟨k', -, heq⟩ := Option.map_eq_some_iff.1 hc
    obtain ⟨-, rfl⟩ := Prod.mk.inj heq
    exact .inr (readItem_skip_of_nil (skip_of_peek hpeek) hb)
  | some d =>
    rw [hpeek] at h
    rw [peek_closing hpeek] at hc
    split at hc
    · rw [if_pos ‹_›] at h
      obtain ⟨k', hk, -⟩ := Option.map_eq_some_iff.1 hc
      cases h k' _ (by rw [hk]; rfl)
    · rw [if_neg ‹_›] at h
      obtain ⟨⟨b, v⟩, hb, hc⟩ := Option.bind_eq_some_iff.1 hc
      obtain ⟨k', hk, heq⟩ := Option.map_eq_some_iff.1 hc
      obtain ⟨-, rfl⟩ := Prod.mk.inj heq
      refine rangeEnd_refuses (fun b' v' hu hk' => h k' v' ?_) hb hk
      rw [hu, Option.bind_some]
      exact congrArg (Option.map _) hk'

/-- With no hyphen behind it an item stands alone. -/
theorem readRange_single_refuses {s t r : List Char} {a : Atom} {k : CharSet} (hs : readItem fl s = some (a, t))
    (ht : ∀ u, fl.skip t ≠ '-' :: u) (h : ∀ k' r', readRange fl s = some (k', r') → r' = [])
    (hc : readRange fl (s ++ closing) = some (k, r)) : Unfinished r := by
  have hitem := stops_readItem s _ _ hs
  rw [readRange_single hs ht] at h
  by_cases hnil : fl.skip t = []
  · rcases skip_closing_of_nil hnil with hclosing | hclosing
    · rw [readRange_single hitem (by rw [hclosing]; simp [closing]), hclosing] at hc
      obtain ⟨k', -, heq⟩ := Option.map_eq_some_iff.1 hc
      exact .inl (Prod.mk.inj heq).2.symm
    · rw [readRange_single hitem (by rw [hclosing]; simp), hclosing] at hc
      obtain ⟨k', -, heq⟩ := Option.map_eq_some_iff.1 hc
      exact .inr (.inr (Prod.mk.inj heq).2.symm)
  · have htclosing : ∀ u, fl.skip (t ++ closing) ≠ '-' :: u := by
      intro u hu
      rw [skip_closing hnil] at hu
      obtain ⟨v, hv⟩ := prefix_of_append_closing (p := ['-']) hu (by decide)
      exact ht v hv
    rw [readRange_single hitem htclosing] at hc
    obtain ⟨k', hk, -⟩ := Option.map_eq_some_iff.1 hc
    exact absurd (h k' _ (by rw [hk]; rfl)) hnil

/-- A range that is refused, or behind which the text ends. -/
theorem readRange_refuses {s r : List Char} {k : CharSet} (h : ∀ k' r', readRange fl s = some (k', r') → r' = [])
    (hc : readRange fl (s ++ closing) = some (k, r)) : Unfinished r := by
  cases hs : readItem fl s with
  | none =>
    obtain ⟨⟨a, t⟩, hitem, -⟩ := Option.bind_eq_some_iff.1 hc
    exact readRange_of_broken hitem (readItem_refuses hs hitem) hc
  | some p =>
    obtain ⟨a, t⟩ := p
    by_cases hhyphen : ∃ u, fl.skip t = '-' :: u
    · obtain ⟨u, ht⟩ := hhyphen
      exact readRange_hyphen_refuses hs ht h hc
    · exact readRange_single_refuses hs (not_exists.1 hhyphen) h hc

/-! ## The opening bracket -/

/-- Behind hyphens at the end of a text, blanks and a comment are skipped. -/
theorem readHyphens_rest {spacing : Bool} : ∀ {b : Bool} {s : List Char}, (readHyphens spacing b s).2 = [] →
    (readHyphens spacing b (s ++ closing)).2 = closing ∨ (readHyphens spacing b (s ++ closing)).2 = []
  | b, [], _ => by cases spacing <;> cases b <;> decide
  | b, c :: s, h => by
    have ih := fun b => @readHyphens_rest spacing b s
    rw [List.cons_append]
    unfold readHyphens at h ⊢
    split at h
    · rw [if_pos ‹_›]
      exact ih _ h
    rw [if_neg ‹_›]
    split at h
    · rw [if_pos ‹_›]
      exact ih _ h
    rw [if_neg ‹_›]
    split at h
    · rw [if_pos ‹_›]
      exact ih _ h
    rw [if_neg ‹_›]
    split at h
    · rw [if_pos ‹_›]
      exact ih _ h
    · cases h

/-- A bracket in the place of hyphens is all that can stand at the end of a text. -/
theorem openLevel_rest {negated : Bool} {n : Nat} {s : List Char} (h : (openLevel negated n s).2 = []) (hs : s ≠ []) :
    (openLevel negated n (s ++ closing)).2 = closing := by
  obtain ⟨c, t, rfl⟩ := List.exists_cons_of_ne_nil hs
  unfold openLevel at h ⊢
  rw [List.cons_append, List.head?_cons]
  split at h
  · rw [if_pos ‹_›]
    obtain rfl : t = [] := h
    rfl
  · cases h

theorem openLevel_closing_self (negated : Bool) (n : Nat) : (openLevel negated n closing).2 = closing := by
  unfold openLevel
  rw [if_neg (fun h => absurd h.2 (by decide))]

theorem readOpening_rest {s : List Char} (h : (readOpening fl s).2 = []) :
    Unfinished (readOpening fl (s ++ closing)).2 := by
  rw [readOpening_eq] at h ⊢
  cases hskip : fl.skip s with
  | nil =>
    rcases skip_closing_of_nil hskip with hclosing | hclosing
    · rw [hclosing]
      have hhyphens : readHyphens fl.spacing false (afterCaret closing) = (0, closing) := by
        cases fl.spacing <;> decide
      rw [hhyphens]
      exact .inl (openLevel_closing_self _ _)
    · rw [hclosing]
      exact .inr (.inr (openLevel_nil _ _))
  | cons c t =>
    have hclosing : fl.skip (s ++ closing) = c :: t ++ closing := skip_closing_of_cons hskip
    rw [hskip] at h
    rw [hclosing, afterCaret_closing]
    by_cases hnil : (readHyphens fl.spacing false (afterCaret (c :: t))).2 = []
    · rcases readHyphens_rest hnil with hrest | hrest
      · rw [hrest]
        exact .inl (openLevel_closing_self _ _)
      · rw [hrest]
        exact .inr (.inr (openLevel_nil _ _))
    · rw [readHyphens_closing (Prod.eta _).symm hnil]
      exact .inl (openLevel_rest h hnil)

/-! ## Levels -/

section

variable {outer : List Level} {level : Level}

/-- A character that stands alone is an item of its own. -/
theorem readPart_char {c : Char} {s t : List Char} (hs : fl.skip s = c :: t) (hbegin : BeginsItem (c :: t))
    (hc : c ≠ '\\') (ht : fl.skip t = t) (hhyphen : ∀ u, t ≠ '-' :: u) : readPart fl outer level s =
      ((Atom.literal c).toSet? fl).map fun k => (.more outer (level.push ⟨k, 0⟩), t) := by
  have hitem : readItem fl (c :: t) = some (.literal c, t) := by simp [readItem]
  rw [readPart_item (by rw [hs]; exact List.cons_ne_nil c t) (by rw [hs]; exact hbegin), hs,
    readRange_single hitem (by rw [ht]; exact hhyphen), ht, Option.map_map]
  rfl

theorem readPart_closing_self {s : List Char} (hs : fl.skip s = closing) : readPart fl outer level s =
    ((Atom.literal ')').toSet? fl).map fun k => (.more outer (level.push ⟨k, 0⟩), ['$']) :=
  readPart_char hs (fun t => ⟨nofun, nofun, fun op h => by cases op <;> cases h⟩) (by decide) skip_dollar nofun

theorem readPart_dollar : readPart fl outer level ['$'] =
    ((Atom.literal '$').toSet? fl).map fun k => (.more outer (level.push ⟨k, 0⟩), []) :=
  readPart_char skip_dollar (fun t => ⟨nofun, nofun, fun op h => by cases op <;> cases h⟩) (by decide) skip_nil nofun

theorem readLevels_of_part {s r : List Char} {k : Option CharSet}
    (h : readPart fl outer level s = k.map fun k => (.more outer (level.push ⟨k, 0⟩), r))
    (hr : ∀ level', readLevels fl outer level' r = none) : readLevels fl outer level s = none := by
  rw [readLevels, h]
  cases k with
  | none => rfl
  | some k =>
    dsimp only [Option.map_some]
    split
    · exact hr _
    · rfl

/-- What is left of an unfinished bracket has no bracket that could close it. -/
theorem readLevels_unfinished {r : List Char} (h : Unfinished r) : readLevels fl outer level r = none := by
  have hdollar : ∀ level', readLevels fl outer level' ['$'] = none := fun _ =>
    readLevels_of_part readPart_dollar fun _ => readLevels_nil _ _
  rcases h with rfl | rfl | rfl
  · exact readLevels_of_part (readPart_closing_self skip_closing_self) hdollar
  · exact hdollar level
  · exact readLevels_nil _ _

/-- A part behind which the text ends, the bracket being open still. -/
def EndsOpen (p : Option (Progress × List Char)) : Prop :=
  ∀ x r, p = some (x, r) → (∃ o l, x = .more o l) ∧ r = []

/-- A bracket that opens, or a named class. -/
theorem readPart_open_refuses {s t r : List Char} {x : Progress} (hs : fl.skip s = '[' :: t)
    (h : EndsOpen (readPart fl outer level s)) (hc : readPart fl outer level (s ++ closing) = some (x, r)) :
    (∃ o l, x = .more o l) ∧ Unfinished r := by
  rw [readPart_open hs] at h
  rw [readPart_open (skip_closing_of_cons hs), readAsciiClass_closing] at hc
  cases hclass : readAsciiClass t with
  | none =>
    rw [hclass] at h hc
    obtain ⟨rfl, rfl⟩ := Prod.mk.inj (Option.some.inj hc)
    exact ⟨⟨_, _, rfl⟩, readOpening_rest (h _ _ rfl).2⟩
  | some y =>
    obtain ⟨negated, k, u⟩ := y
    rw [hclass] at h hc
    dsimp only [Option.map_some] at h hc
    split at hc
    · cases hc
    · rw [if_neg ‹_›] at h
      obtain ⟨rfl, rfl⟩ := Prod.mk.inj (Option.some.inj hc)
      obtain ⟨-, rfl⟩ := h _ _ rfl
      exact ⟨⟨_, _, rfl⟩, .inl rfl⟩

/-- A bracket that closes is not the outermost. -/
theorem readPart_close_refuses {s t r : List Char} {x : Progress} (hs : fl.skip s = ']' :: t)
    (h : EndsOpen (readPart fl outer level s)) (hc : readPart fl outer level (s ++ closing) = some (x, r)) :
    (∃ o l, x = .more o l) ∧ Unfinished r := by
  rw [readPart_close hs] at h
  rw [readPart_close (skip_closing_of_cons hs)] at hc
  split at hc
  · cases hc
  · rename_i k hk
    rw [hk] at h
    obtain ⟨⟨_, _, hdone⟩, -⟩ := h _ _ rfl
    cases hdone
  · rename_i k l ls hk
    rw [hk] at h
    obtain ⟨rfl, rfl⟩ := Prod.mk.inj (Option.some.inj hc)
    obtain ⟨-, rfl⟩ := h _ _ rfl
    exact ⟨⟨_, _, rfl⟩, .inl rfl⟩

/-- A part that is refused, or behind which the text ends. -/
theorem readPart_refuses {s r : List Char} {x : Progress} (h : EndsOpen (readPart fl outer level s))
    (hc : readPart fl outer level (s ++ closing) = some (x, r)) : (∃ o l, x = .more o l) ∧ Unfinished r := by
  rcases part_cases (fl.skip s) with hnil | ⟨t, ht⟩ | ⟨t, ht⟩ | ⟨op, t, ht⟩ | ⟨hne, hitem⟩
  · rcases skip_closing_of_nil hnil with hclosing | hclosing
    · rw [readPart_closing_self hclosing] at hc
      obtain ⟨k, -, heq⟩ := Option.map_eq_some_iff.1 hc
      obtain ⟨rfl, rfl⟩ := Prod.mk.inj heq
      exact ⟨⟨_, _, rfl⟩, .inr (.inl rfl)⟩
    · rw [readPart, hclosing] at hc
      cases hc
  · exact readPart_open_refuses ht h hc
  · exact readPart_close_refuses ht h hc
  · rw [readPart_combine op ht] at h
    rw [readPart_combine op (skip_closing_of_cons ht)] at hc
    obtain ⟨rfl, rfl⟩ := Prod.mk.inj (Option.some.inj hc)
    obtain ⟨-, rfl⟩ := h _ _ rfl
    exact ⟨⟨_, _, rfl⟩, .inl rfl⟩
  · have hclosing := skip_closing hne
    rw [readPart_item hne hitem] at h
    rw [readPart_item (by rw [hclosing]; simp [hne]) (by rw [hclosing]; exact hitem.closing), hclosing] at hc
    obtain ⟨⟨k, u⟩, hk, heq⟩ := Option.map_eq_some_iff.1 hc
    obtain ⟨rfl, rfl⟩ := Prod.mk.inj heq
    refine ⟨⟨_, _, rfl⟩, readRange_refuses (fun k' r' hk' => ?_) hk⟩
    exact (h _ r' (by rw [hk']; rfl)).2

theorem refuses_readLevels (outer : List Level) (level : Level) : Refuses (readLevels fl outer level) := by
  intro s
  induction hn : s.length using Nat.strongRecOn generalizing s outer level with
  | _ n ih =>
    subst hn
    intro h
    cases hc : readPart fl outer level (s ++ closing) with
    | none => rw [readLevels, hc]
    | some p =>
      obtain ⟨x, r⟩ := p
      by_cases hkept : ∃ x' r', readPart fl outer level s = some (x', r') ∧ (r' ≠ [] ∨ ∃ k, x' = .done k)
      · obtain ⟨x', r', hs, hr⟩ := hkept
        have hclosing := readPart_closing hs hr
        cases x' with
        | done k =>
          rw [readLevels_done hs] at h
          cases h
        | more outer' level' =>
          rw [readLevels, hclosing]
          dsimp only
          split
          · rename_i hshorter
            have hlt : r'.length < s.length := by simpa using hshorter
            rw [readLevels_more hs hlt] at h
            exact ih _ hlt outer' level' r' rfl h
          · rfl
      · have hlast : EndsOpen (readPart fl outer level s) := by
          intro x' r' hs
          cases x' with
          | done k => exact absurd ⟨_, _, hs, .inr ⟨k, rfl⟩⟩ hkept
          | more o l => exact ⟨⟨o, l, rfl⟩, by_contra fun hr => hkept ⟨_, _, hs, .inl hr⟩⟩
        obtain ⟨⟨o, l, rfl⟩, hr⟩ := readPart_refuses hlast hc
        rw [readLevels, hc]
        dsimp only
        split
        · exact readLevels_unfinished hr
        · rfl

end

theorem refuses_readBracket : Refuses (readBracket fl) := by
  intro s h
  unfold readBracket at h ⊢
  by_cases hne : (readOpening fl s).2 = []
  · exact readLevels_unfinished (readOpening_rest hne)
  · rw [readOpening_closing (Prod.eta _).symm hne]
    exact refuses_readLevels [] _ _ h

/-! ## Tokens -/

theorem readNamed_ne_close {s r : List Char} : readNamed s ≠ some (.close, r) := by
  intro h
  unfold readNamed at h
  split at h <;> cases h

theorem readOpen_ne_close {s r : List Char} : readOpen fl s ≠ some (.close, r) := by
  intro h
  unfold readOpen at h
  split at h
  case h_5 | h_6 => exact readNamed_ne_close h
  case h_7 =>
    split at h
    · cases h
    · split at h <;> cases h
    · cases h
  all_goals cases h

theorem readCounted_ne_close {s r : List Char} : readCounted fl s ≠ some (.close, r) := by
  intro h
  rw [readCounted_eq] at h
  obtain ⟨⟨min, t⟩, -, h⟩ := Option.bind_eq_some_iff.1 h
  obtain ⟨⟨max, u⟩, -, h⟩ := Option.map_eq_some_iff.1 h
  cases h

/-- Only a parenthesis closes a group. -/
theorem readToken_ne_close {c : Char} {s r : List Char} (hc : c ≠ ')') : readToken fl c s ≠ some (.close, r) := by
  intro h
  unfold readToken at h
  split at h
  case h_1 => exact readOpen_ne_close h
  case h_2 => exact hc rfl
  case h_4 | h_9 | h_10 =>
    obtain ⟨x, -, heq⟩ := Option.map_eq_some_iff.1 h
    cases heq
  case h_8 => exact readCounted_ne_close h
  all_goals cases h

/-- **Tokens.**  A token that is refused at the end of a text and is read with the end of a group behind it takes the
parenthesis, and is none itself; or it is a boundary before a brace, and the brace is no repetition. -/
theorem readToken_refuses {c : Char} {s r : List Char} {tok : Token} (h : readToken fl c s = none)
    (hc : readToken fl c (s ++ closing) = some (tok, r)) :
    tok ≠ .close ∧ Spent r ∨ (∃ x, tok = .part x) ∧ ∃ t, r = '{' :: t ∧ readCounted fl t = none := by
  have hne : c ≠ ')' := by
    rintro rfl
    cases h
  have hclose : tok ≠ .close := by
    rintro rfl
    exact readToken_ne_close hne hc
  unfold readToken at h hc
  split at h
  case h_1 => exact .inl ⟨hclose, spends_readOpen _ _ _ h hc⟩
  case h_4 =>
    have hbracket := refuses_readBracket s (Option.map_eq_none_iff.1 h)
    dsimp only at hc
    rw [hbracket] at hc
    cases hc
  case h_8 =>
    have hcounted := refuses_readCounted s h
    dsimp only at hc
    rw [hcounted] at hc
    cases hc
  case h_9 =>
    obtain ⟨⟨a, t⟩, ha, heq⟩ := Option.map_eq_some_iff.1 hc
    obtain ⟨rfl, rfl⟩ := Prod.mk.inj heq
    rcases readEscape_refuses (Option.map_eq_none_iff.1 h) ha with hspent | ⟨-, hbrace⟩
    · exact .inl ⟨hclose, hspent⟩
    · exact .inr ⟨⟨_, rfl⟩, hbrace⟩
  case h_10 =>
    obtain ⟨k, hk, -⟩ := Option.map_eq_some_iff.1 hc
    cases hk.symm.trans (Option.map_eq_none_iff.1 h)
  all_goals cases h

end PathRouter.Regex
