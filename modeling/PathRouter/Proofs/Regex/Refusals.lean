import PathRouter.Proofs.Regex.Enclosed
/-!
# What readers refuse

What cannot be read at the end of a text cannot be read with the end of a group behind the text either (`Refuses`), unless
the parenthesis itself is taken: as a character behind a backslash, as the end of a directive, as the name of a property.
Then no more is left than the dollar behind it (`Spends`), and the group is never closed.

One reader looks further than it reads.  A brace behind `\b` is refused at the end of a text; with more behind it, it is
left for a repetition, and then that is refused (`readBoundary_refuses`).
-/
namespace PathRouter.Regex

variable {fl : Flags}

/-- A reader that refuses a text refuses it with the end of a group behind it. -/
def Refuses {α : Type} (f : List Char → Option α) : Prop :=
  ∀ s, f s = none → f (s ++ closing) = none

/-- What is left where the parenthesis was taken. -/
def Spent (r : List Char) : Prop :=
  r = ['$'] ∨ r = []

/-- A reader that refuses a text refuses it with the end of a group behind it, or takes the parenthesis. -/
def Spends {α : Type} (f : List Char → Option (α × List Char)) : Prop :=
  ∀ s x r, f s = none → f (s ++ closing) = some (x, r) → Spent r

theorem Refuses.spends {α : Type} {f : List Char → Option (α × List Char)} (h : Refuses f) : Spends f := by
  intro s x r hs hc
  rw [h s hs] at hc
  cases hc

theorem Spends.map {α β : Type} {f : List Char → Option (α × List Char)} (h : Spends f) (g : α → β) :
    Spends (fun s => (f s).map (fun (x, r) => (g x, r))) := by
  intro s y r hs hc
  obtain ⟨⟨x, t⟩, hx, heq⟩ := Option.map_eq_some_iff.1 hc
  obtain ⟨-, rfl⟩ := Prod.mk.inj heq
  exact h s x t (Option.map_eq_none_iff.1 hs) hx

/-- To turn down some of what is read spends nothing more. -/
theorem Spends.pick {α β : Type} {f : List Char → Option (α × List Char)} (h : Spends f) (hf : Stops f)
    (g : α → Option β) : Spends (fun s => (f s).bind fun (x, r) => (g x).map (·, r)) := by
  intro s y r hs hc
  obtain ⟨⟨x, t⟩, hx, hc⟩ := Option.bind_eq_some_iff.1 hc
  obtain ⟨y', hy, heq⟩ := Option.map_eq_some_iff.1 hc
  obtain ⟨-, rfl⟩ := Prod.mk.inj heq
  cases hfs : f s with
  | none => exact h s x t hfs hx
  | some p =>
    obtain ⟨rfl, -⟩ := Prod.mk.inj (Option.some.inj ((hf s _ _ hfs).symm.trans hx))
    dsimp only at hs
    rw [hfs] at hs
    cases hy.symm.trans (Option.map_eq_none_iff.1 hs)

theorem skip_dollar : fl.skip ['$'] = ['$'] := by
  unfold Flags.skip
  split
  · decide
  · rfl

theorem skip_closing_self : fl.skip closing = closing := by
  rcases @skip_closing_of_nil fl [] skip_nil with h | h
  · exact h
  · unfold Flags.skip at h
    split at h
    · exact absurd h (by decide)
    · cases h

/-! ## Counts -/

/-- The digits do not change, for the parenthesis is none. -/
theorem readDigits_append {spacing : Bool} : ∀ (b : Bool) (s : List Char),
    (readDigits spacing b (s ++ closing)).1 = (readDigits spacing b s).1
  | b, [] => by cases spacing <;> cases b <;> decide
  | b, c :: s => by
    have ih := fun b => @readDigits_append spacing b s
    rw [List.cons_append]
    unfold readDigits
    split
    · exact ih _
    · split
      · exact congrArg (c :: ·) (ih false)
      · split
        · exact ih _
        · split
          · exact ih _
          · rfl

/-- Behind digits at the end of a text, blanks and a comment are skipped. -/
theorem readDigits_rest {spacing : Bool} : ∀ {b : Bool} {s : List Char}, (readDigits spacing b s).2 = [] →
    (readDigits spacing b (s ++ closing)).2 = closing ∨ (readDigits spacing b (s ++ closing)).2 = []
  | b, [], _ => by cases spacing <;> cases b <;> decide
  | b, c :: s, h => by
    have ih := fun b => @readDigits_rest spacing b s
    rw [List.cons_append]
    unfold readDigits at h ⊢
    split at h
    · rw [if_pos ‹_›]
      exact ih _ h
    · rw [if_neg ‹_›]
      split at h
      · rw [if_pos ‹_›]
        exact ih _ h
      · rw [if_neg ‹_›]
        split at h
        · rw [if_pos ‹_›]
          exact ih _ h
        · rw [if_neg ‹_›]
          split at h
          · rw [if_pos ‹_›]
            exact ih _ h
          · cases h

theorem refuses_readCount : Refuses (readCount fl) := by
  intro s h
  unfold readCount at h ⊢
  have hdigits := @readDigits_append fl.spacing false (Text.trimStart s)
  rw [trimStart_closing]
  generalize readDigits fl.spacing false (Text.trimStart s) = p at h hdigits
  generalize readDigits fl.spacing false (Text.trimStart s ++ closing) = q at hdigits ⊢
  obtain ⟨ds, t⟩ := p
  obtain ⟨ds', t'⟩ := q
  obtain rfl : ds' = ds := hdigits
  cases ds' with
  | nil => rfl
  | cons d ds =>
    dsimp only at h ⊢
    split at h
    · cases h
    · rw [if_neg ‹_›]

/-- Of a count at the end of a text no more is left than the end of the group. -/
theorem readCount_rest {s : List Char} {n : Nat} (h : readCount fl s = some (n, [])) :
    readCount fl (s ++ closing) = some (n, closing) ∨ readCount fl (s ++ closing) = some (n, []) := by
  unfold readCount at h ⊢
  rw [trimStart_closing]
  cases hd : readDigits fl.spacing false (Text.trimStart s) with
  | mk ds t =>
    rw [hd] at h
    cases ds with
    | nil => cases h
    | cons d ds =>
      dsimp only at h
      split at h
      · obtain ⟨rfl, ht⟩ := Prod.mk.inj (Option.some.inj h)
        by_cases hnil : t = []
        · have hdigits := @readDigits_append fl.spacing false (Text.trimStart s)
          have hrest := @readDigits_rest fl.spacing false (Text.trimStart s) (by rw [hd, hnil])
          generalize readDigits fl.spacing false (Text.trimStart s ++ closing) = q at hdigits hrest ⊢
          obtain ⟨ds', t'⟩ := q
          rw [hd] at hdigits
          obtain rfl : ds' = d :: ds := hdigits
          dsimp only at hrest ⊢
          rw [if_pos ‹_›]
          rcases hrest with rfl | rfl
          · exact .inl (by rw [← List.nil_append closing, trimStart_closing]; rfl)
          · exact .inr rfl
        · rw [readDigits_closing hd hnil]
          dsimp only
          rw [if_pos ‹_›, trimStart_closing, ht]
          exact .inl rfl
      · cases h

theorem readCount_closing_self : readCount fl closing = none :=
  refuses_readCount [] rfl

/-- Nothing is counted behind blanks at the end of a text. -/
theorem readCount_skip_of_nil {s : List Char} (h : fl.skip s = []) : readCount fl (fl.skip (s ++ closing)) = none := by
  rcases skip_closing_of_nil h with hc | hc
  · rw [hc, readCount_closing_self]
  · rw [hc]
    rfl

/-- The closing brace behind the two bounds of a repetition. -/
def endBounds (min max : Nat) (s : List Char) : Option (Option Nat × List Char) :=
  match s with
  | '}' :: r => if min ≤ max then some (some max, r) else none
  | _ => none

theorem endBounds_of_ne {min max : Nat} {c : Char} (hc : c ≠ '}') (s : List Char) : endBounds min max (c :: s) = none := by
  simp [endBounds, hc]

theorem readBound_comma_nil {min : Nat} {s : List Char} (h : fl.skip s = []) : readBound fl min (',' :: s) = none := by
  simp only [readBound, h]
  rfl

theorem readBound_comma {min : Nat} {c : Char} {s t : List Char} (h : fl.skip s = c :: t) (hc : c ≠ '}') :
    readBound fl min (',' :: s) = (readCount fl (c :: t)).bind fun (m, r) => endBounds min m r := by
  simp only [readBound, h]
  split
  · exact absurd (List.cons.inj ‹_›).1 hc
  · rfl

/-- The second bound of a repetition, with the brace behind it. -/
theorem refuses_countedBounds (min : Nat) :
    Refuses (fun s => (readCount fl s).bind fun (m, r) => endBounds min m r) := by
  intro s h
  cases hcount : readCount fl s with
  | none =>
    dsimp only
    rw [refuses_readCount s hcount]
    rfl
  | some p =>
    obtain ⟨m, r⟩ := p
    dsimp only at h ⊢
    rw [hcount] at h
    cases r with
    | nil =>
      -- No brace stands behind the second bound, and the parenthesis is none.
      rcases readCount_rest hcount with hc | hc <;> rw [hc] <;> rfl
    | cons e r =>
      rw [readCount_closing hcount (List.cons_ne_nil _ _)]
      by_cases he : e = '}'
      · subst he
        simp only [Option.bind_some, endBounds] at h
        split at h
        · cases h
        · exact if_neg ‹_›
      · exact endBounds_of_ne he _

theorem refuses_readBound (min : Nat) : Refuses (readBound fl min) := by
  intro s h
  rcases s with _ | ⟨c, s⟩
  · rfl
  by_cases hcomma : c = ','
  · subst hcomma
    rw [List.cons_append]
    cases hskip : fl.skip s with
    | nil =>
      rcases skip_closing_of_nil hskip with hc | hc
      · rw [readBound_comma hc (by decide)]
        exact congrArg (Option.bind · _) readCount_closing_self
      · exact readBound_comma_nil hc
    | cons d t =>
      by_cases hbrace : d = '}'
      · subst hbrace
        simp only [readBound, hskip, reduceCtorEq] at h
      · rw [readBound_comma hskip hbrace] at h
        rw [readBound_comma (skip_closing_of_cons hskip) hbrace]
        exact refuses_countedBounds min (d :: t) h
  · by_cases hbrace : c = '}'
    · subst hbrace
      cases h
    · simp [readBound, hcomma, hbrace]

theorem refuses_readCounted : Refuses (readCounted fl) := by
  intro s h
  rw [readCounted_eq, Option.bind_eq_none_iff] at h ⊢
  rintro ⟨min, u⟩ hu
  cases hskip : fl.skip s with
  | nil =>
    rw [readCount_skip_of_nil hskip] at hu
    cases hu
  | cons c t =>
    rw [skip_closing_of_cons hskip] at hu
    rw [hskip] at h
    cases hcount : readCount fl (c :: t) with
    | none => cases (refuses_readCount _ hcount).symm.trans hu
    | some p =>
      obtain ⟨min', r⟩ := p
      have hbound : readBound fl min' r = none := Option.map_eq_none_iff.1 (h _ hcount)
      have hclosing : readBound fl min u = none := by
        cases r with
        | nil =>
          rcases readCount_rest hcount with hc | hc
          · obtain ⟨rfl, rfl⟩ := Prod.mk.inj (Option.some.inj (hc.symm.trans hu))
            exact refuses_readBound min' [] rfl
          · obtain ⟨rfl, rfl⟩ := Prod.mk.inj (Option.some.inj (hc.symm.trans hu))
            rfl
        | cons e r =>
          have hc := readCount_closing hcount (List.cons_ne_nil _ _)
          obtain ⟨rfl, rfl⟩ := Prod.mk.inj (Option.some.inj (hc.symm.trans hu))
          exact refuses_readBound min' _ hbound
      exact Option.map_eq_none_iff.2 hclosing

/-- No count stands behind a brace at the end of a text. -/
theorem readCounted_of_nil {s : List Char} (h : fl.skip s = []) : readCounted fl s = none := by
  rw [readCounted_eq, h]
  rfl

/-! ## Groups -/

theorem refuses_readGroupName (first : Bool) : Refuses (readGroupName first) := by
  intro s
  induction s generalizing first with
  | nil =>
    intro _
    cases first <;> decide
  | cons c s ih =>
    intro h
    rw [List.cons_append]
    unfold readGroupName at h ⊢
    split at h
    · cases h
    rw [if_neg ‹_›]
    split at h
    · rw [if_pos ‹_›]
      rw [Option.map_eq_none_iff] at h ⊢
      exact ih false h
    · rw [if_neg ‹_›]

theorem refuses_readNamed : Refuses readNamed := by
  intro s h
  unfold readNamed at h ⊢
  cases hname : readGroupName true s with
  | none => rw [refuses_readGroupName true s hname]
  | some p =>
    obtain ⟨name, r⟩ := p
    rw [hname] at h
    cases name with
    | nil => rw [stops_readGroupName true _ _ _ hname]
    | cons c name => cases h

/-- A directive that does not end takes the parenthesis for its end. -/
theorem readFlags_spends : ∀ {s : List Char} {off : Bool} {seen : List Flag} {x : List (Flag × Bool) × Char × List Char},
    readFlags off seen s = none → readFlags off seen (s ++ closing) = some x → Spent x.2.2
  | [], _, _, _, _, hc => by
    obtain rfl := Option.some.inj hc
    exact .inl rfl
  | c :: s, off, seen, x, h, hc => by
    rw [List.cons_append] at hc
    unfold readFlags at h hc
    split at h
    · cases h
    rw [if_neg ‹_›] at hc
    split at h
    · rw [if_pos ‹_›] at hc
      cases s with
      | nil =>
        rw [if_pos (by simp [closing])] at hc
        cases hc
      | cons d s =>
        rw [List.cons_append, List.head?_cons] at hc
        rw [List.head?_cons] at h
        split at h
        · rw [if_pos ‹_›] at hc
          cases hc
        · rw [if_neg ‹_›] at hc
          exact readFlags_spends h hc
    rw [if_neg ‹_›] at hc
    cases hf : Flag.ofChar? c with
    | none =>
      rw [hf] at hc
      cases hc
    | some f =>
      rw [hf] at h hc
      dsimp only at h hc
      split at h
      · rw [if_pos ‹_›] at hc
        cases hc
      · rw [if_neg ‹_›] at hc
        obtain ⟨y, hy, rfl⟩ := Option.map_eq_some_iff.1 hc
        exact readFlags_spends (x := y) (Option.map_eq_none_iff.1 h) hy

theorem spends_readDirective : Spends readDirective := by
  intro s tok r h hc
  unfold readDirective at h hc
  obtain ⟨⟨changes, c, t⟩, hflags, hc⟩ := Option.bind_eq_some_iff.1 hc
  have hrest : t = r := by
    dsimp only at hc
    split at hc
    · split at hc
      · cases hc
      · exact (Prod.mk.inj (Option.some.inj hc)).2
    · exact (Prod.mk.inj (Option.some.inj hc)).2
  subst hrest
  cases hs : readFlags false [] s with
  | none => exact readFlags_spends hs hflags
  | some x =>
    -- What is refused then are no changes at all, and there are none with more behind either.
    rw [readFlags_closing hs] at hflags
    obtain ⟨changes', c', t'⟩ := x
    obtain ⟨rfl, rfl, rfl⟩ := by simpa using Option.some.inj hflags
    rw [hs, Option.bind_some] at h
    dsimp only at h hc
    split at h
    · rw [if_pos ‹_›] at hc
      split at h
      · rw [if_pos ‹_›] at hc
        cases hc
      · cases h
    · cases h

section

variable {s t : List Char}

theorem readOpen_look {c : Char} (hskip : fl.skip s = '?' :: c :: t) (hc : c = '=' ∨ c = '!') : readOpen fl s = none := by
  rw [readOpen, hskip]
  rcases hc with rfl | rfl <;> rfl

theorem readOpen_angle (hskip : fl.skip s = '?' :: '<' :: t) :
    readOpen fl s = if t.head? = some '=' ∨ t.head? = some '!' then none else readNamed t := by
  rw [readOpen, hskip]
  rcases t with _ | ⟨d, t⟩
  · rfl
  by_cases heq : d = '='
  · subst heq
    rfl
  · by_cases hbang : d = '!'
    · subst hbang
      rfl
    · simp [heq, hbang]

theorem readOpen_named (hskip : fl.skip s = '?' :: 'P' :: '<' :: t) : readOpen fl s = readNamed t := by
  rw [readOpen, hskip]
  rfl

end

/-- What is no directive behind a question mark is a look around or a name. -/
theorem directive_or (s : List Char) : Directive s ∨
    (∃ c t, s = c :: t ∧ (c = '=' ∨ c = '!')) ∨ (∃ t, s = '<' :: t) ∨ ∃ t, s = 'P' :: '<' :: t := by
  by_cases hlook : ∃ c t, s = c :: t ∧ (c = '=' ∨ c = '!')
  · exact .inr (.inl hlook)
  by_cases hangle : ∃ t, s = '<' :: t
  · exact .inr (.inr (.inl hangle))
  by_cases hnamed : ∃ t, s = 'P' :: '<' :: t
  · exact .inr (.inr (.inr hnamed))
  · exact .inl fun t => ⟨fun e => hlook ⟨_, t, e, .inl rfl⟩, fun e => hlook ⟨_, t, e, .inr rfl⟩,
      fun e => hangle ⟨t, e⟩, fun e => hnamed ⟨t, e⟩⟩

theorem spends_readOpen : Spends (readOpen fl) := by
  intro s tok r h hc
  cases hskip : fl.skip s with
  | nil =>
    rw [readOpen, hskip] at h
    cases h
  | cons c t =>
    have hclosing := skip_closing_of_cons hskip
    by_cases hq : c = '?'
    · subst hq
      rcases directive_or t with ht | ⟨d, u, rfl, hd⟩ | ⟨u, rfl⟩ | ⟨u, rfl⟩
      · rw [readOpen_directive hskip ht] at h
        rw [readOpen_directive hclosing ht.closing] at hc
        exact spends_readDirective t tok r h hc
      · rw [readOpen_look hclosing hd] at hc
        cases hc
      · have hhead : ∀ d, d ≠ ')' → ((u ++ closing).head? = some d ↔ u.head? = some d) := by
          intro d hd
          cases u with
          | nil => simp [closing, Ne.symm hd]
          | cons e u => rfl
        rw [readOpen_angle hskip] at h
        have hangle : fl.skip (s ++ closing) = '?' :: '<' :: (u ++ closing) := hclosing
        rw [readOpen_angle hangle] at hc
        simp only [hhead '=' (by decide), hhead '!' (by decide)] at hc
        split at h
        · rw [if_pos ‹_›] at hc
          cases hc
        · rw [if_neg ‹_›] at hc
          exact refuses_readNamed.spends _ _ _ h hc
      · rw [readOpen_named hskip] at h
        rw [readOpen_named hclosing] at hc
        exact refuses_readNamed.spends _ _ _ h hc
    · rw [readOpen, hskip] at h
      simp [hq] at h

/-! ## Escapes -/

theorem refuses_readBraced {spacing : Bool} (b : Bool) : Refuses (readBraced spacing b) := by
  intro s
  induction s generalizing b with
  | nil =>
    intro _
    cases spacing <;> cases b <;> decide
  | cons c s ih =>
    intro h
    rw [List.cons_append]
    unfold readBraced at h ⊢
    split at h
    · rw [if_pos ‹_›]
      exact ih _ h
    rw [if_neg ‹_›]
    split at h
    · rw [if_pos ‹_›]
      exact ih _ h
    rw [if_neg ‹_›]
    split at h
    · rw [if_pos ‹_›]
      exact ih _ h
    rw [if_neg ‹_›]
    split at h
    · cases h
    · rw [if_neg ‹_›]
      exact Option.map_eq_none_iff.2 (ih false (Option.map_eq_none_iff.1 h))

theorem readExactly_dollar : ∀ {n : Nat} {x r : List Char}, readExactly fl n ['$'] = some (x, r) → Spent r
  | 0, _, _, h => .inl (Prod.mk.inj (Option.some.inj h)).2.symm
  | 1, _, _, h => by
    rw [readExactly, skip_dollar] at h
    obtain ⟨y, hy, heq⟩ := Option.map_eq_some_iff.1 h
    obtain rfl := Option.some.inj hy
    exact .inr (Prod.mk.inj heq).2.symm
  | n + 2, _, _, h => by
    rw [readExactly, skip_dollar] at h
    obtain ⟨y, hy, -⟩ := Option.map_eq_some_iff.1 h
    rw [readExactly, skip_nil] at hy
    cases hy

theorem spends_readExactly : ∀ n : Nat, Spends (readExactly fl n)
  | 0, _, _, _, h, _ => nomatch h
  | n + 1, s, x, r, h, hc => by
    cases hskip : fl.skip s with
    | nil =>
      rw [readExactly] at hc
      rcases skip_closing_of_nil hskip with hclosing | hclosing
      · rw [hclosing] at hc
        obtain ⟨⟨y, t⟩, hy, heq⟩ := Option.map_eq_some_iff.1 hc
        obtain ⟨-, rfl⟩ := Prod.mk.inj heq
        exact readExactly_dollar hy
      · rw [hclosing] at hc
        cases hc
    | cons c t =>
      rw [readExactly, hskip] at h
      rw [readExactly, skip_closing_of_cons hskip] at hc
      exact (spends_readExactly n).map (c :: ·) t x r h hc

/-- The character of counted digits. -/
def countedHex? (fl : Flags) (n : Nat) (ds : List Char) : Option Atom :=
  (charOfHex? ds).bind fun c => if n == 2 && !fl.unicode && 128 ≤ c.toNat then none else some (.literal c)

theorem readHex_braced {n : Nat} {s t : List Char} (h : fl.skip s = '{' :: t) : readHex fl n s =
    (readBraced fl.spacing false t).bind fun (ds, r) => ((charOfHex? ds).map Atom.literal).map (·, r) := by
  unfold readHex
  rw [h]
  dsimp only [bind]
  refine Option.bind_congr fun p _ => ?_
  cases charOfHex? p.1 <;> rfl

theorem readHex_counted {n : Nat} {s : List Char} (h : ∀ t, fl.skip s ≠ '{' :: t) : readHex fl n s =
    (readExactly fl n (fl.skip s)).bind fun (ds, r) => (countedHex? fl n ds).map (·, r) := by
  unfold readHex countedHex?
  split
  · exact absurd ‹_› (h _)
  · dsimp only [bind]
    refine Option.bind_congr fun p _ => ?_
    cases charOfHex? p.1 with
    | none => rfl
    | some c =>
      dsimp only [Option.bind_some]
      split <;> rfl

theorem spends_readHex (n : Nat) : Spends (readHex fl n) := by
  intro s x r h hc
  by_cases hbrace : ∃ t, fl.skip s = '{' :: t
  · obtain ⟨t, ht⟩ := hbrace
    rw [readHex_braced ht] at h
    rw [readHex_braced (skip_closing_of_cons ht)] at hc
    exact (refuses_readBraced _).spends.pick (stops_readBraced _) (fun ds => (charOfHex? ds).map .literal) t x r h hc
  · have hno : ∀ t, fl.skip s ≠ '{' :: t := fun t ht => hbrace ⟨t, ht⟩
    have hcounted := (@spends_readExactly fl n).pick (stops_readExactly n) (countedHex? fl n)
    rw [readHex_counted hno] at h
    by_cases hnil : fl.skip s = []
    · rw [hnil] at h
      rcases skip_closing_of_nil hnil with hclosing | hclosing
      · rw [readHex_counted (by rw [hclosing]; simp [closing]), hclosing] at hc
        exact hcounted [] x r h hc
      · rw [readHex_counted (by rw [hclosing]; simp), hclosing, h] at hc
        cases hc
    · have hclosing := skip_closing hnil
      rw [readHex_counted, hclosing] at hc
      · exact hcounted _ x r h hc
      · intro t ht
        rw [hclosing] at ht
        obtain ⟨u, hu⟩ := prefix_of_append_closing (p := ['{']) ht (by decide)
        exact hno u hu

theorem spends_readPropertyName : Spends (readPropertyName fl) := by
  intro s x r h hc
  unfold readPropertyName at h
  split at h
  · rename_i t hskip
    rw [readPropertyName, skip_closing_of_cons hskip] at hc
    exact (refuses_readBraced _).spends _ _ _ h hc
  · rename_i t hskip
    rw [readPropertyName, skip_closing_of_cons hskip] at hc
    cases hc
  · cases h
  · rename_i hskip
    rcases skip_closing_of_nil hskip with hclosing | hclosing
    · rw [readPropertyName, hclosing] at hc
      exact .inl (Prod.mk.inj (Option.some.inj hc)).2.symm
    · rw [readPropertyName, hclosing] at hc
      cases hc

/-- The class of a property. -/
def propertyOf? (fl : Flags) (negated : Bool) (name : List Char) : Option Atom :=
  if fl.unicode then
    (CharSet.ofPropertyText? name).map fun (outside, set) => .set (.negateIf (negated != outside) (fl.fold set))
  else none

theorem spends_readProperty (negated : Bool) : Spends (readProperty fl negated) := by
  have hread : readProperty fl negated = fun s =>
      (readPropertyName fl s).bind fun (name, r) => (propertyOf? fl negated name).map (·, r) := by
    funext s
    rw [readProperty_eq]
    unfold propertyOf?
    refine Option.bind_congr fun p _ => ?_
    dsimp only
    split
    · cases CharSet.ofPropertyText? p.1 <;> rfl
    · rfl
  rw [hread]
  exact spends_readPropertyName.pick stops_readPropertyName _

/-- **A brace behind a boundary** is looked into, so it is refused at the end of a text.  With more behind it, it is left
for a repetition, of which there is none. -/
theorem readBoundary_refuses {s r : List Char} {a : Atom} (h : readBoundary fl s = none)
    (hc : readBoundary fl (s ++ closing) = some (a, r)) :
    (∃ b, a = .assertion b) ∧ ∃ t, r = '{' :: t ∧ readCounted fl t = none := by
  unfold readBoundary at h
  dsimp only at h
  split at h
  · rename_i t
    rw [List.cons_append, readBoundary] at hc
    split at h
    · rename_i hskip
      rcases skip_closing_of_nil hskip with hclosing | hclosing
      · rw [hclosing] at hc
        obtain ⟨rfl, rfl⟩ := Prod.mk.inj (Option.some.inj hc)
        exact ⟨⟨_, rfl⟩, _, rfl, refuses_readCounted t (readCounted_of_nil hskip)⟩
      · rw [hclosing] at hc
        cases hc
    · rename_i c u hskip
      rw [skip_closing_of_cons hskip] at hc
      dsimp only at hc
      split at h
      · rw [if_pos ‹_›] at hc
        split at h
        · rename_i hbraced
          rw [refuses_readBraced _ _ hbraced] at hc
          cases hc
        · rename_i name v hbraced
          rw [stops_readBraced _ _ _ _ hbraced] at hc
          dsimp only at hc
          split at h
          any_goals cases h
          split at hc
          case h_5 => cases hc
          all_goals contradiction
      · cases h
  · cases h

/-- What an escape leaves that is refused at the end of a text. -/
def Broken (fl : Flags) (a : Atom) (r : List Char) : Prop :=
  Spent r ∨ (∃ b, a = .assertion b) ∧ ∃ t, r = '{' :: t ∧ readCounted fl t = none

theorem readEscape_refuses {s r : List Char} {a : Atom} (h : readEscape fl s = none)
    (hc : readEscape fl (s ++ closing) = some (a, r)) : Broken fl a r := by
  cases s with
  | nil =>
    -- The parenthesis stands for itself then.
    obtain ⟨-, rfl⟩ := Prod.mk.inj (Option.some.inj hc)
    exact .inl (.inl rfl)
  | cons c s =>
    have hsame : ∀ {o : Option CharSet}, o.map (fun k => (Atom.set k, s)) = none →
        o.map (fun k => (Atom.set k, s ++ closing)) ≠ some (a, r) := by
      intro o ho hs
      rw [Option.map_eq_none_iff] at ho
      rw [ho] at hs
      cases hs
    rw [List.cons_append] at hc
    unfold readEscape at h hc
    dsimp only at h hc
    split at h
    case h_1 | h_2 | h_3 => exact .inl (spends_readHex _ s a r h hc)
    case h_4 | h_5 => exact .inl (spends_readProperty _ s a r h hc)
    case h_6 | h_7 | h_8 | h_9 | h_10 | h_11 => exact absurd hc (hsame h)
    case h_20 => exact .inr (readBoundary_refuses h hc)
    case h_24 =>
      split at h
      · cases h
      · rw [if_neg ‹_›] at hc
        split at hc <;> contradiction
    all_goals cases h

end PathRouter.Regex
