import PathRouter.Proofs.Regex.Reader
/-!
# What readers leave

A pattern in a group has the end of the group behind it (`closing`).  Whatever can be read without that is read the same
way with it, and it is left for what comes next: readers stop before it (`Stops`).  None of them stops at the end of a
text but those that skip blanks last, for only a comment can take what follows (`skipSpace_closing`).

Here are the readers of counts, of names, of directives and of escapes.
-/
namespace PathRouter.Regex

/-- What stands behind the pattern: the end of the group around it, and the end of the text. -/
def closing : List Char := [')', '$']

/-! ## Blanks and comments -/

/-- What is skipped goes no further than before, or a comment is open at the end and takes what follows. -/
theorem skipSpace_closing : ∀ (b : Bool) (s : List Char),
    skipSpace b (s ++ closing) = skipSpace b s ++ closing ∨ skipSpace b s = [] ∧ skipSpace b (s ++ closing) = []
  | false, [] => .inl (by decide)
  | true, [] => .inr ⟨rfl, rfl⟩
  | b, c :: s => by
    rw [List.cons_append, skipSpace, skipSpace]
    split
    · exact skipSpace_closing _ s
    · split
      · exact skipSpace_closing _ s
      · split
        · exact skipSpace_closing _ s
        · exact .inl rfl

variable {fl : Flags}

theorem skip_nil : fl.skip [] = [] := by
  unfold Flags.skip
  split <;> rfl

theorem skip_closing {s : List Char} (h : fl.skip s ≠ []) : fl.skip (s ++ closing) = fl.skip s ++ closing := by
  unfold Flags.skip at h ⊢
  split at h
  · rw [if_pos ‹_›, if_pos ‹_›]
    exact (skipSpace_closing false s).resolve_right fun hs => h hs.1
  · rw [if_neg ‹_›, if_neg ‹_›]

theorem skip_closing_of_cons {c : Char} {s r : List Char} (h : fl.skip s = c :: r) :
    fl.skip (s ++ closing) = c :: (r ++ closing) := by
  rw [skip_closing (by rw [h]; exact List.cons_ne_nil c r), h]
  rfl

theorem skip_closing_of_nil {s : List Char} (h : fl.skip s = []) :
    fl.skip (s ++ closing) = closing ∨ fl.skip (s ++ closing) = [] := by
  unfold Flags.skip at h ⊢
  split at h
  · rw [if_pos ‹_›]
    rcases skipSpace_closing false s with hs | ⟨-, hs⟩
    · exact .inl (by rw [hs, h]; rfl)
    · exact .inr hs
  · rw [if_neg ‹_›, h]
    exact .inl rfl

theorem trimStart_closing : ∀ s : List Char, Text.trimStart (s ++ closing) = Text.trimStart s ++ closing
  | [] => by decide
  | c :: s => by
    have ih := trimStart_closing s
    unfold Text.trimStart at ih ⊢
    rw [List.cons_append, List.dropWhile_cons, List.dropWhile_cons]
    split
    · exact ih
    · rfl

/-- What begins with a text that has no parenthesis began with it before. -/
theorem prefix_of_append_closing : ∀ {p s t : List Char}, s ++ closing = p ++ t → ')' ∉ p → ∃ u, s = p ++ u
  | [], s, _, _, _ => ⟨s, rfl⟩
  | c :: p, [], _, h, hp => absurd ((List.cons.inj h).1 ▸ List.mem_cons_self) hp
  | c :: p, d :: s, t, h, hp => by
    obtain ⟨hd, h⟩ := List.cons.inj h
    obtain ⟨u, rfl⟩ := prefix_of_append_closing h fun hm => hp (List.mem_cons_of_mem c hm)
    exact ⟨u, by rw [hd, List.cons_append]⟩

/-! ## Readers -/

/-- A reader that stops before what follows. -/
def Stops {α : Type} (f : List Char → Option (α × List Char)) : Prop :=
  ∀ s x r, f s = some (x, r) → f (s ++ closing) = some (x, r ++ closing)

theorem Stops.map {α β : Type} {f : List Char → Option (α × List Char)} (h : Stops f) (g : α → β) :
    Stops (fun s => (f s).map (fun (x, r) => (g x, r))) := by
  intro s y r' hs
  obtain ⟨⟨x, r⟩, hx, hy⟩ := Option.map_eq_some_iff.1 hs
  obtain ⟨rfl, rfl⟩ := Prod.mk.inj hy
  dsimp only
  rw [h s x r hx]
  rfl

/-- What reads nothing stops. -/
theorem stops_some {α : Type} (x : α) : Stops (fun s => some (x, s)) := by
  intro s y r h
  obtain ⟨rfl, rfl⟩ := Prod.mk.inj (Option.some.inj h)
  rfl

theorem stops_map {α β : Type} (o : Option α) (g : α → β) : Stops (fun s => o.map (fun x => (g x, s))) := by
  intro s y r h
  obtain ⟨x, rfl, hx⟩ := Option.map_eq_some_iff.1 h
  obtain ⟨rfl, rfl⟩ := Prod.mk.inj hx
  rfl

/-! ### Counts -/

theorem readDigits_closing {spacing : Bool} : ∀ {b : Bool} {s ds r : List Char}, readDigits spacing b s = (ds, r) →
    r ≠ [] → readDigits spacing b (s ++ closing) = (ds, r ++ closing)
  | _, [], _, _, h, hr => absurd (Prod.mk.inj h).2.symm hr
  | b, c :: s, ds, r, h, hr => by
    rw [List.cons_append]
    unfold readDigits at h ⊢
    split at h
    · rw [if_pos ‹_›]
      exact readDigits_closing h hr
    rw [if_neg ‹_›]
    split at h
    · rw [if_pos ‹_›]
      obtain ⟨rfl, rfl⟩ := Prod.mk.inj h
      have ih := readDigits_closing (Prod.eta (readDigits spacing false s)).symm hr
      rw [ih]
    rw [if_neg ‹_›]
    split at h
    · rw [if_pos ‹_›]
      exact readDigits_closing h hr
    rw [if_neg ‹_›]
    split at h
    · rw [if_pos ‹_›]
      exact readDigits_closing h hr
    · rw [if_neg ‹_›]
      obtain ⟨rfl, rfl⟩ := Prod.mk.inj h
      rfl

theorem readCount_closing {s r : List Char} {n : Nat} (h : readCount fl s = some (n, r)) (hr : r ≠ []) :
    readCount fl (s ++ closing) = some (n, r ++ closing) := by
  unfold readCount at h ⊢
  rw [trimStart_closing]
  cases hd : readDigits fl.spacing false (Text.trimStart s) with
  | mk ds t =>
    rw [hd] at h
    cases ds with
    | nil => cases h
    | cons d ds =>
      dsimp only at h
      split at h
      · obtain ⟨rfl, rfl⟩ := Prod.mk.inj (Option.some.inj h)
        have ht : t ≠ [] := by
          rintro rfl
          exact hr rfl
        rw [readDigits_closing hd ht]
        dsimp only
        rw [if_pos ‹_›, trimStart_closing]
      · cases h

theorem stops_readBound (min : Nat) : Stops (readBound fl min) := by
  intro s x r h
  unfold readBound at h
  split at h
  · rename_i t
    split at h
    · rename_i t' hskip
      obtain ⟨rfl, rfl⟩ := Prod.mk.inj (Option.some.inj h)
      simp only [List.cons_append, readBound, skip_closing_of_cons hskip]
    · rename_i hbrace
      obtain ⟨⟨m, t'⟩, hcount, h⟩ := Option.bind_eq_some_iff.1 h
      have hne : fl.skip t ≠ [] := by
        intro hnil
        rw [hnil] at hcount
        cases hcount
      dsimp only at h
      split at h
      · rename_i t''
        have hcount := readCount_closing hcount (List.cons_ne_nil _ _)
        rw [List.cons_append, readBound, skip_closing hne]
        split
        · rename_i hskip
          obtain ⟨c, u, hc⟩ := List.exists_cons_of_ne_nil hne
          rw [hc] at hskip
          exact absurd (by rw [hc, (List.cons.inj hskip).1]) (hbrace u)
        · rw [hcount]
          split at h
          · rename_i hle
            obtain ⟨rfl, rfl⟩ := Prod.mk.inj (Option.some.inj h)
            exact if_pos hle
          · cases h
      · cases h
  · obtain ⟨rfl, rfl⟩ := Prod.mk.inj (Option.some.inj h)
    rfl
  · cases h

theorem readGreedy_closing : ∀ s : List Char,
    readGreedy fl (s ++ closing) = ((readGreedy fl s).1, (readGreedy fl s).2 ++ closing)
  | [] => rfl
  | c :: s => by
    by_cases hc : c = '?'
    · subst hc
      rfl
    · have hhead : ∀ t, (c :: t).head? ≠ some '?' := fun t h => hc (Option.some.inj h)
      rw [List.cons_append, ReadState.readGreedy_of_head (hhead _), ReadState.readGreedy_of_head (hhead _)]
      rfl

/-! ### Groups -/

theorem stops_readGroupName (first : Bool) : Stops (readGroupName first) := by
  intro s
  induction s generalizing first with
  | nil => exact fun x r h => nomatch h
  | cons c s ih =>
    intro x r h
    rw [List.cons_append]
    unfold readGroupName at h ⊢
    split at h
    · rw [if_pos ‹_›]
      obtain ⟨rfl, rfl⟩ := Prod.mk.inj (Option.some.inj h)
      rfl
    rw [if_neg ‹_›]
    split at h
    · rw [if_pos ‹_›]
      obtain ⟨⟨t, u⟩, ht, heq⟩ := Option.map_eq_some_iff.1 h
      obtain ⟨rfl, rfl⟩ := Prod.mk.inj heq
      rw [ih false t u ht]
      rfl
    · cases h

theorem stops_readNamed : Stops readNamed := by
  intro s x r h
  unfold readNamed at h ⊢
  split at h
  · rename_i hname
    obtain ⟨rfl, rfl⟩ := Prod.mk.inj (Option.some.inj h)
    rw [stops_readGroupName true _ _ _ hname]
  · cases h

theorem readFlags_closing : ∀ {s : List Char} {off : Bool} {seen : List Flag} {x : List (Flag × Bool) × Char × List Char},
    readFlags off seen s = some x → readFlags off seen (s ++ closing) = some (x.1, x.2.1, x.2.2 ++ closing)
  | [], _, _, _, h => nomatch h
  | c :: s, off, seen, x, h => by
    rw [List.cons_append]
    unfold readFlags at h ⊢
    split at h
    · rw [if_pos ‹_›]
      obtain rfl := Option.some.inj h
      rfl
    rw [if_neg ‹_›]
    split at h
    · rw [if_pos ‹_›]
      split at h
      · cases h
      · rename_i hend
        cases s with
        | nil => cases h
        | cons d s =>
          rw [List.head?_cons] at hend
          rw [List.cons_append, List.head?_cons, if_neg hend]
          exact readFlags_closing h
    rw [if_neg ‹_›]
    cases hf : Flag.ofChar? c with
    | none =>
      rw [hf] at h
      cases h
    | some f =>
      rw [hf] at h
      dsimp only at h ⊢
      split at h
      · cases h
      · rw [if_neg ‹_›]
        obtain ⟨y, hy, rfl⟩ := Option.map_eq_some_iff.1 h
        rw [readFlags_closing hy]
        rfl

/-! ### Escapes -/

theorem stops_readBraced {spacing : Bool} (b : Bool) : Stops (readBraced spacing b) := by
  intro s
  induction s generalizing b with
  | nil => exact fun x r h => nomatch h
  | cons c s ih =>
    intro x r h
    rw [List.cons_append]
    unfold readBraced at h ⊢
    split at h
    · rw [if_pos ‹_›]
      exact ih _ x r h
    rw [if_neg ‹_›]
    split at h
    · rw [if_pos ‹_›]
      exact ih _ x r h
    rw [if_neg ‹_›]
    split at h
    · rw [if_pos ‹_›]
      exact ih _ x r h
    rw [if_neg ‹_›]
    split at h
    · rw [if_pos ‹_›]
      obtain ⟨rfl, rfl⟩ := Prod.mk.inj (Option.some.inj h)
      rfl
    · rw [if_neg ‹_›]
      obtain ⟨⟨t, u⟩, ht, heq⟩ := Option.map_eq_some_iff.1 h
      obtain ⟨rfl, rfl⟩ := Prod.mk.inj heq
      rw [ih false t u ht]
      rfl

theorem stops_readExactly : ∀ n : Nat, Stops (readExactly fl n)
  | 0, s, x, r, h => by
    obtain ⟨rfl, rfl⟩ := Prod.mk.inj (Option.some.inj h)
    rfl
  | n + 1, s, x, r, h => by
    unfold readExactly at h ⊢
    split at h
    · cases h
    · rename_i c t hskip
      rw [skip_closing_of_cons hskip]
      exact (stops_readExactly n).map (c :: ·) t x r h

/-- Of no digits there is no character. -/
theorem readExactly_nil {n : Nat} {ds r : List Char} {c : Char} (h : readExactly fl n [] = some (ds, r)) :
    charOfHex? ds ≠ some c := by
  cases n with
  | zero =>
    obtain ⟨rfl, -⟩ := Prod.mk.inj (Option.some.inj h)
    exact nofun
  | succ n =>
    rw [readExactly, skip_nil] at h
    cases h

theorem stops_readHex (n : Nat) : Stops (readHex fl n) := by
  intro s x r h
  unfold readHex at h ⊢
  split at h
  · rename_i t hskip
    obtain ⟨⟨ds, u⟩, hds, h⟩ := Option.bind_eq_some_iff.1 h
    obtain ⟨c, hc, h⟩ := Option.bind_eq_some_iff.1 h
    obtain ⟨rfl, rfl⟩ := Prod.mk.inj (Option.some.inj h)
    rw [skip_closing_of_cons hskip]
    simp only [stops_readBraced _ _ _ _ hds, Option.bind_eq_bind, Option.bind_some, hc]
  · rename_i hbrace
    obtain ⟨⟨ds, u⟩, hds, h⟩ := Option.bind_eq_some_iff.1 h
    obtain ⟨c, hc, h⟩ := Option.bind_eq_some_iff.1 h
    have hne : fl.skip s ≠ [] := by
      intro hnil
      rw [hnil] at hds
      exact readExactly_nil hds hc
    rw [skip_closing hne]
    split
    · rename_i hskip
      obtain ⟨d, v, hd⟩ := List.exists_cons_of_ne_nil hne
      rw [hd] at hskip
      exact absurd (by rw [hd, (List.cons.inj hskip).1]) (hbrace v)
    · simp only [stops_readExactly n _ _ _ hds, Option.bind_eq_bind, Option.bind_some, hc]
      split at h
      · cases h
      · obtain ⟨rfl, rfl⟩ := Prod.mk.inj (Option.some.inj h)
        rw [if_neg ‹_›]

/-- The name of a property, as one letter or in braces. -/
def readPropertyName (fl : Flags) (s : List Char) : Option (List Char × List Char) :=
  match fl.skip s with
  | '{' :: r => readBraced fl.spacing false r
  | '\\' :: _ => none
  | c :: r => some ([c], r)
  | [] => none

theorem readProperty_eq (negated : Bool) (s : List Char) : readProperty fl negated s =
    (readPropertyName fl s).bind fun (name, r) =>
      if fl.unicode then
        (CharSet.ofPropertyText? name).bind fun (outside, set) =>
          some (.set (.negateIf (negated != outside) (fl.fold set)), r)
      else none := by
  unfold readProperty readPropertyName
  generalize fl.skip s = t
  dsimp only
  split
  case h_3 => simp
  all_goals rfl

theorem stops_readPropertyName : Stops (readPropertyName fl) := by
  intro s x r h
  unfold readPropertyName at h
  split at h
  · rename_i t hskip
    rw [readPropertyName, skip_closing_of_cons hskip]
    exact stops_readBraced _ _ _ _ h
  · cases h
  · rename_i c t hbrace hslash hskip
    obtain ⟨rfl, rfl⟩ := Prod.mk.inj (Option.some.inj h)
    simp [readPropertyName, skip_closing_of_cons hskip]
  · cases h

theorem stops_readProperty (negated : Bool) : Stops (readProperty fl negated) := by
  intro s x r h
  rw [readProperty_eq] at h ⊢
  obtain ⟨⟨name, t⟩, hname, h⟩ := Option.bind_eq_some_iff.1 h
  rw [stops_readPropertyName s name t hname, Option.bind_some]
  dsimp only at h ⊢
  split at h
  · rw [if_pos ‹_›]
    obtain ⟨⟨outside, set⟩, hset, h⟩ := Option.bind_eq_some_iff.1 h
    obtain ⟨rfl, rfl⟩ := Prod.mk.inj (Option.some.inj h)
    rw [hset]
    rfl
  · cases h

theorem stops_readBoundary : Stops (readBoundary fl) := by
  intro s x r h
  unfold readBoundary at h
  dsimp only at h
  split at h
  · rename_i t
    split at h
    · cases h
    · rename_i c u hskip
      rw [List.cons_append, readBoundary, skip_closing_of_cons hskip]
      dsimp only
      split at h
      · rename_i hname
        rw [if_pos hname]
        split at h
        · cases h
        · rename_i name v hread
          rw [stops_readBraced _ _ _ _ hread]
          dsimp only
          split at h
          case h_5 => cases h
          all_goals
            obtain ⟨rfl, rfl⟩ := Prod.mk.inj (Option.some.inj h)
            rfl
      · rename_i hname
        rw [if_neg hname]
        obtain ⟨rfl, rfl⟩ := Prod.mk.inj (Option.some.inj h)
        rfl
  · rename_i hbrace
    obtain ⟨rfl, rfl⟩ := Prod.mk.inj (Option.some.inj h)
    cases s with
    | nil => rfl
    | cons c t =>
      have hc : c ≠ '{' := fun hc => hbrace t (by rw [hc])
      simp [readBoundary, hc]

theorem stops_readEscape : Stops (readEscape fl) := by
  intro s x r h
  cases s with
  | nil => cases h
  | cons c s =>
    rw [List.cons_append]
    unfold readEscape at h ⊢
    dsimp only at h ⊢
    split at h
    case h_1 | h_2 | h_3 => exact stops_readHex _ s x r h
    case h_4 | h_5 => exact stops_readProperty _ s x r h
    case h_6 | h_7 | h_8 | h_9 | h_10 | h_11 => exact stops_map _ _ s x r h
    case h_20 => exact stops_readBoundary s x r h
    case h_24 =>
      split at h
      · rw [if_pos ‹_›]
        exact stops_some _ s x r h
      · cases h
    all_goals exact stops_some _ s x r h

end PathRouter.Regex
