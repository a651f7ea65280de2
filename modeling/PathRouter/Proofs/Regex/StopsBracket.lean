import Mathlib.Data.List.TakeDrop
import Mathlib.Data.List.TakeWhile
import PathRouter.Proofs.Regex.Stops
import PathRouter.Proofs.Text.Separator
/-!
# What readers of brackets leave

A bracket ends with a character of its own, so what is read of one has always more behind it but at the last.  The parts
of a bracket are read the same way with a closing parenthesis behind them as long as something is left to read
(`readPart_closing`), and so is the whole of it (`stops_readBracket`).
-/
namespace PathRouter.Regex

variable {fl : Flags}

theorem readHyphens_closing {spacing : Bool} : ∀ {b : Bool} {s r : List Char} {n : Nat},
    readHyphens spacing b s = (n, r) → r ≠ [] → readHyphens spacing b (s ++ closing) = (n, r ++ closing)
  | _, [], _, _, h, hr => absurd (Prod.mk.inj h).2.symm hr
  | b, c :: s, r, n, h, hr => by
    rw [List.cons_append]
    unfold readHyphens at h ⊢
    split at h
    · rw [if_pos ‹_›]
      exact readHyphens_closing h hr
    rw [if_neg ‹_›]
    split at h
    · rw [if_pos ‹_›]
      exact readHyphens_closing h hr
    rw [if_neg ‹_›]
    split at h
    · rw [if_pos ‹_›]
      exact readHyphens_closing h hr
    rw [if_neg ‹_›]
    split at h
    · rw [if_pos ‹_›]
      obtain ⟨rfl, rfl⟩ := Prod.mk.inj h
      have ih := readHyphens_closing (Prod.eta (readHyphens spacing false s)).symm hr
      rw [ih]
    · rw [if_neg ‹_›]
      obtain ⟨rfl, rfl⟩ := Prod.mk.inj h
      rfl

/-- The level that hyphens, or a bracket in their place, begin. -/
def openLevel (negated : Bool) (n : Nat) (s : List Char) : Level × List Char :=
  if n = 0 ∧ s.head? = some ']' then (⟨negated, none, [⟨.single ']', 0⟩]⟩, s.tail)
  else (⟨negated, none, List.replicate n ⟨.single '-', 0⟩⟩, s)

/-- The text behind an opening bracket, less a caret. -/
def afterCaret (s : List Char) : List Char :=
  if s.head? = some '^' then s.tail else s

/-- Whether a caret stands behind an opening bracket, and what follows. -/
def splitCaret (s : List Char) : Bool × List Char :=
  match s with
  | '^' :: r => (true, r)
  | _ => (false, s)

theorem splitCaret_eq : ∀ s : List Char, splitCaret s = (s.head? == some '^', afterCaret s)
  | [] => rfl
  | c :: t => by
    by_cases hc : c = '^'
    · subst hc
      rfl
    · simp [splitCaret, afterCaret, hc]

/-- The level that begins behind so many hyphens. -/
def levelBehind (negated : Bool) (x : Nat × List Char) : Level × List Char :=
  match x with
  | (0, ']' :: r) => (⟨negated, none, [⟨.single ']', 0⟩]⟩, r)
  | (n, r) => (⟨negated, none, List.replicate n ⟨.single '-', 0⟩⟩, r)

theorem levelBehind_eq (negated : Bool) (x : Nat × List Char) : levelBehind negated x = openLevel negated x.1 x.2 := by
  obtain ⟨_ | n, _ | ⟨c, t⟩⟩ := x
  case zero.cons =>
    by_cases hc : c = ']'
    · subst hc
      rfl
    · simp [levelBehind, openLevel, hc]
  all_goals rfl

theorem readOpening_eq (s : List Char) : readOpening fl s =
    openLevel ((fl.skip s).head? == some '^') (readHyphens fl.spacing false (afterCaret (fl.skip s))).1
      (readHyphens fl.spacing false (afterCaret (fl.skip s))).2 := by
  have hparts : readOpening fl s =
      levelBehind (splitCaret (fl.skip s)).1 (readHyphens fl.spacing false (splitCaret (fl.skip s)).2) := rfl
  rw [hparts, splitCaret_eq, levelBehind_eq]

theorem openLevel_nil (negated : Bool) (n : Nat) : (openLevel negated n []).2 = [] := by
  unfold openLevel
  split <;> rfl

theorem openLevel_closing {negated : Bool} {n : Nat} {s r : List Char} {l : Level} (h : openLevel negated n s = (l, r))
    (hr : r ≠ []) : openLevel negated n (s ++ closing) = (l, r ++ closing) := by
  cases s with
  | nil => exact absurd (by rw [← openLevel_nil negated n, h]) hr
  | cons c s =>
    unfold openLevel at h ⊢
    rw [List.cons_append, List.head?_cons]
    split at h
    · rw [if_pos ‹_›]
      obtain ⟨rfl, rfl⟩ := Prod.mk.inj h
      rfl
    · rw [if_neg ‹_›]
      obtain ⟨rfl, rfl⟩ := Prod.mk.inj h
      rfl

theorem afterCaret_closing {c : Char} {s : List Char} : afterCaret (c :: s ++ closing) = afterCaret (c :: s) ++ closing := by
  unfold afterCaret
  rw [List.cons_append, List.head?_cons, List.head?_cons]
  split <;> rfl

theorem readOpening_closing {s r : List Char} {l : Level} (h : readOpening fl s = (l, r)) (hr : r ≠ []) :
    readOpening fl (s ++ closing) = (l, r ++ closing) := by
  rw [readOpening_eq] at h ⊢
  have hhyphens : (readHyphens fl.spacing false (afterCaret (fl.skip s))).2 ≠ [] := by
    intro hnil
    rw [hnil] at h
    exact hr (by rw [← openLevel_nil _ _, h])
  cases hskip : fl.skip s with
  | nil =>
    rw [hskip] at hhyphens
    exact absurd rfl hhyphens
  | cons c t =>
    rw [hskip] at h hhyphens
    have hclosing : fl.skip (s ++ closing) = c :: t ++ closing := skip_closing_of_cons hskip
    rw [hclosing, afterCaret_closing, readHyphens_closing (Prod.eta _).symm hhyphens]
    exact openLevel_closing h hr

/-- A named class from its name on. -/
def readAsciiName (negated : Bool) (s : List Char) : Option (Bool × CharSet × List Char) :=
  match s.span (· != ':') with
  | (name, ':' :: ']' :: r) => (CharSet.asciiClass? (String.ofList name)).map (negated, ·, r)
  | _ => none

theorem readAsciiName_closing (negated : Bool) (s : List Char) :
    readAsciiName negated (s ++ closing) = (readAsciiName negated s).map (fun (b, k, r) => (b, k, r ++ closing)) := by
  unfold readAsciiName
  by_cases hm : ':' ∈ s
  · obtain ⟨name, t, rfl, hname⟩ := List.eq_append_cons_of_mem hm
    rw [List.append_assoc, List.cons_append, span_append hname, span_append hname]
    cases t with
    | nil => rfl
    | cons c t =>
      by_cases hc : c = ']'
      · subst hc
        simp [Function.comp_def]
      · simp [hc]
  · have hclosing : ':' ∉ s ++ closing := by
      rw [List.mem_append, not_or]
      exact ⟨hm, by decide⟩
    rw [span_of_notMem hm, span_of_notMem hclosing]
    rfl

theorem readAsciiClass_eq (s : List Char) : readAsciiClass s =
    match s with
    | ':' :: '^' :: r => readAsciiName true r
    | ':' :: r => readAsciiName false r
    | _ => none := rfl

theorem readAsciiClass_closing (s : List Char) :
    readAsciiClass (s ++ closing) = (readAsciiClass s).map (fun (b, k, r) => (b, k, r ++ closing)) := by
  rcases s with _ | ⟨c, s⟩
  · rfl
  by_cases hc : c = ':'
  · subst hc
    rcases s with _ | ⟨d, s⟩
    · exact readAsciiName_closing false []
    by_cases hd : d = '^'
    · subst hd
      exact readAsciiName_closing true s
    · simpa [readAsciiClass_eq, hd] using readAsciiName_closing false (d :: s)
  · simp [readAsciiClass_eq, hc]

theorem stops_readItem : Stops (readItem fl) := by
  intro s x r h
  unfold readItem at h
  split at h
  · cases h
  · rename_i t
    exact stops_readEscape t x r h
  · rename_i c t hslash
    obtain ⟨rfl, rfl⟩ := Prod.mk.inj (Option.some.inj h)
    simp [readItem]

/-- What the character behind a hyphen is does not change; without one nothing is left to read. -/
theorem peek_closing {spacing : Bool} : ∀ {b : Bool} {s : List Char} {c : Char}, peek spacing b s = some c →
    peek spacing b (s ++ closing) = some c
  | _, [], _, h => nomatch h
  | b, d :: s, c, h => by
    rw [List.cons_append]
    unfold peek at h ⊢
    split at h
    · rw [if_pos ‹_›]
      exact peek_closing h
    rw [if_neg ‹_›]
    split at h
    · rw [if_pos ‹_›]
      exact peek_closing h
    · rw [if_neg ‹_›]
      exact h

/-- A look ahead that finds nothing has seen blanks, and a comment before it at most. -/
theorem skipSpace_of_peek : ∀ {b b' : Bool} {s : List Char}, peek true b s = none → (b = false → b' = false) →
    skipSpace b' s = []
  | _, _, [], _, _ => rfl
  | b, b', c :: s, h, hb => by
    unfold peek at h
    unfold skipSpace
    split at h
    · split
      · refine skipSpace_of_peek h fun hfalse => ?_
        rw [hb hfalse] at *
        contradiction
      · rw [if_pos (by simpa using ‹_›)]
        exact skipSpace_of_peek h fun _ => rfl
    · split at h
      · rename_i hblank hhash
        simp only [Bool.true_and, Bool.and_eq_true, Bool.not_eq_true'] at hblank hhash
        rw [hb hhash.1, if_neg Bool.false_ne_true, if_neg hblank, if_pos hhash.2]
        exact skipSpace_of_peek h fun hno => absurd hno (by decide)
      · cases h

theorem skip_of_peek {s : List Char} (h : peek fl.spacing false s = none) : fl.skip s = [] := by
  unfold Flags.skip
  split
  · rename_i hs
    rw [hs] at h
    exact skipSpace_of_peek h id
  · rename_i hs
    rw [Bool.not_eq_true] at hs
    rw [hs] at h
    cases s with
    | nil => rfl
    | cons c s => cases h

/-- A range between two items; only literal characters have one. -/
def rangeOf? (fl : Flags) : Atom → Atom → Option CharSet
  | .literal x, .literal y => if x ≤ y && (fl.unicode || y.toNat < 128) then some (.range x y) else none
  | _, _ => none

section

variable {s t u : List Char} {a : Atom}

theorem readRange_hyphen (ha : readItem fl s = some (a, t)) (ht : fl.skip t = '-' :: u) : readRange fl s =
    if peek fl.spacing false u == some ']' || peek fl.spacing false u == some '-' then
      (a.toSet? fl).map (fun k => (k, '-' :: u))
    else (readItem fl (fl.skip u)).bind fun (b, r) => (rangeOf? fl a b).map (fun k => (k, r)) := by
  unfold readRange rangeOf?
  rw [ha]
  dsimp only [Option.bind_eq_bind, Option.bind_some]
  rw [ht]
  split
  case h_1 heq =>
    obtain ⟨-, rfl⟩ := List.cons.inj heq
    refine ite_congr rfl (fun _ => ?_) fun _ => Option.bind_congr fun x _ => ?_
    · cases a.toSet? fl <;> rfl
    · obtain ⟨b, r⟩ := x
      cases a with
      | literal x =>
        cases b with
        | literal y =>
          dsimp only
          split <;> rfl
        | _ => rfl
      | _ => rfl
  case h_2 hhyphen => exact absurd rfl (hhyphen u)

theorem readRange_single (ha : readItem fl s = some (a, t)) (ht : ∀ u, fl.skip t ≠ '-' :: u) :
    readRange fl s = (a.toSet? fl).map (fun k => (k, fl.skip t)) := by
  unfold readRange
  rw [ha]
  dsimp only [Option.bind_eq_bind, Option.bind_some]
  split
  · exact absurd ‹_› (ht _)
  · cases a.toSet? fl <;> rfl

end

theorem readItem_closing {s r : List Char} {a : Atom} (h : readItem fl (fl.skip s) = some (a, r)) :
    readItem fl (fl.skip (s ++ closing)) = some (a, r ++ closing) := by
  have hne : fl.skip s ≠ [] := by
    intro hnil
    rw [hnil] at h
    cases h
  rw [skip_closing hne]
  exact stops_readItem _ _ _ h

theorem readRange_closing {s r : List Char} {k : CharSet} (h : readRange fl s = some (k, r)) (hr : r ≠ []) :
    readRange fl (s ++ closing) = some (k, r ++ closing) := by
  obtain ⟨⟨a, t⟩, ha, -⟩ := Option.bind_eq_some_iff.1 h
  have hitem := stops_readItem _ _ _ ha
  by_cases hhyphen : ∃ u, fl.skip t = '-' :: u
  · obtain ⟨u, ht⟩ := hhyphen
    rw [readRange_hyphen ha ht] at h
    rw [readRange_hyphen hitem (skip_closing_of_cons ht)]
    cases hpeek : peek fl.spacing false u with
    | none =>
      -- Nothing stands behind the hyphen, so there is no second item.
      rw [hpeek, if_neg (by decide), skip_of_peek hpeek] at h
      cases h
    | some d =>
      rw [hpeek] at h
      rw [peek_closing hpeek]
      split at h
      · rw [if_pos ‹_›]
        exact stops_map _ id _ _ _ h
      · rw [if_neg ‹_›]
        obtain ⟨⟨b, v⟩, hb, h⟩ := Option.bind_eq_some_iff.1 h
        rw [readItem_closing hb]
        exact stops_map _ id _ _ _ h
  · have ht : ∀ u, fl.skip t ≠ '-' :: u := fun u hu => hhyphen ⟨u, hu⟩
    rw [readRange_single ha ht] at h
    have hne : fl.skip t ≠ [] := by
      intro hnil
      obtain ⟨k', -, heq⟩ := Option.map_eq_some_iff.1 h
      exact hr ((Prod.mk.inj heq).2.symm.trans hnil)
    have htclosing : ∀ u, fl.skip (t ++ closing) ≠ '-' :: u := by
      intro u hu
      rw [skip_closing hne] at hu
      obtain ⟨v, hv⟩ := prefix_of_append_closing (p := ['-']) hu (by decide)
      exact ht v hv
    rw [readRange_single hitem htclosing, skip_closing hne]
    exact stops_map _ id _ _ _ h

section

variable {outer : List Level} {level : Level} {s t : List Char}

theorem readPart_open (h : fl.skip s = '[' :: t) : readPart fl outer level s =
    match readAsciiClass t with
    | some (negated, k, r) =>
      if negated && !fl.unicode then none
      else some (.more outer (level.push ⟨.negateIf negated (fl.fold k), 0⟩), r)
    | none => some (.more (level :: outer) (readOpening fl t).1, (readOpening fl t).2) := by
  unfold readPart
  rw [h]
  rfl

theorem readPart_close (h : fl.skip s = ']' :: t) : readPart fl outer level s =
    match level.close fl, outer with
    | none, _ => none
    | some k, [] => some (.done k, t)
    | some k, l :: ls => some (.more ls (l.push k), t) := by
  unfold readPart
  rw [h]
  rfl

/-- The signs of the operations. -/
def SetOp.sign : SetOp → Char
  | .inter => '&'
  | .diff => '-'
  | .symmDiff => '~'

theorem readPart_combine (op : SetOp) (h : fl.skip s = op.sign :: op.sign :: t) :
    readPart fl outer level s = some (.more outer (level.combine fl op), t) := by
  unfold readPart
  rw [h]
  cases op <;> rfl

/-- The text begins with an item: neither with a bracket nor with an operation. -/
def BeginsItem (s : List Char) : Prop :=
  ∀ t, s ≠ '[' :: t ∧ s ≠ ']' :: t ∧ ∀ op : SetOp, s ≠ op.sign :: op.sign :: t

theorem BeginsItem.closing {s : List Char} (h : BeginsItem s) : BeginsItem (s ++ closing) := by
  intro t
  refine ⟨fun e => ?_, fun e => ?_, fun op e => ?_⟩
  · obtain ⟨u, hu⟩ := prefix_of_append_closing (p := ['[']) e (by decide)
    exact (h u).1 hu
  · obtain ⟨u, hu⟩ := prefix_of_append_closing (p := [']']) e (by decide)
    exact (h u).2.1 hu
  · obtain ⟨u, hu⟩ := prefix_of_append_closing (p := [op.sign, op.sign]) e (by cases op <;> decide)
    exact (h u).2.2 op hu

theorem readPart_item (hne : fl.skip s ≠ []) (h : BeginsItem (fl.skip s)) : readPart fl outer level s =
    (readRange fl (fl.skip s)).map (fun (k, r) => (.more outer (level.push ⟨k, 0⟩), r)) := by
  unfold readPart
  split
  case h_1 => exact absurd ‹_› hne
  case h_2 => exact absurd ‹_› (h _).1
  case h_3 => exact absurd ‹_› (h _).2.1
  case h_4 => exact absurd ‹_› ((h _).2.2 .inter)
  case h_5 => exact absurd ‹_› ((h _).2.2 .diff)
  case h_6 => exact absurd ‹_› ((h _).2.2 .symmDiff)
  case h_7 => rfl

/-- What a part begins with, behind blanks. -/
theorem part_cases (s : List Char) : s = [] ∨ (∃ t, s = '[' :: t) ∨ (∃ t, s = ']' :: t) ∨
    (∃ (op : SetOp) (t : List Char), s = op.sign :: op.sign :: t) ∨ s ≠ [] ∧ BeginsItem s := by
  by_cases hnil : s = []
  · exact .inl hnil
  by_cases hopen : ∃ t, s = '[' :: t
  · exact .inr (.inl hopen)
  by_cases hclose : ∃ t, s = ']' :: t
  · exact .inr (.inr (.inl hclose))
  by_cases hop : ∃ (op : SetOp) (t : List Char), s = op.sign :: op.sign :: t
  · exact .inr (.inr (.inr (.inl hop)))
  · exact .inr (.inr (.inr (.inr ⟨hnil, fun t =>
      ⟨fun e => hopen ⟨t, e⟩, fun e => hclose ⟨t, e⟩, fun op e => hop ⟨op, t, e⟩⟩⟩)))

end

/-- A part behind which something stands, or the last part. -/
theorem readPart_closing {outer : List Level} {level : Level} {s r : List Char} {x : Progress}
    (h : readPart fl outer level s = some (x, r)) (hr : r ≠ [] ∨ ∃ k, x = .done k) :
    readPart fl outer level (s ++ closing) = some (x, r ++ closing) := by
  rcases part_cases (fl.skip s) with hnil | ⟨t, ht⟩ | ⟨t, ht⟩ | ⟨op, t, ht⟩ | ⟨hne, hitem⟩
  · rw [readPart, hnil] at h
    cases h
  · rw [readPart_open ht] at h
    rw [readPart_open (skip_closing_of_cons ht), readAsciiClass_closing]
    cases hclass : readAsciiClass t with
    | none =>
      rw [hclass] at h
      obtain ⟨rfl, rfl⟩ := Prod.mk.inj (Option.some.inj h)
      have hopening := readOpening_closing (Prod.eta (readOpening fl t)).symm (hr.resolve_right nofun)
      rw [hopening]
      rfl
    | some y =>
      rw [hclass] at h
      dsimp only [Option.map_some] at h ⊢
      split at h
      · cases h
      · rw [if_neg ‹_›]
        exact stops_some _ _ _ _ h
  · rw [readPart_close ht] at h
    rw [readPart_close (skip_closing_of_cons ht)]
    split at h
    · cases h
    · exact stops_some _ _ _ _ h
    · exact stops_some _ _ _ _ h
  · rw [readPart_combine op ht] at h
    rw [readPart_combine op (skip_closing_of_cons ht)]
    exact stops_some _ _ _ _ h
  · rw [readPart_item hne hitem] at h
    obtain ⟨⟨k, u⟩, hk, heq⟩ := Option.map_eq_some_iff.1 h
    obtain ⟨rfl, rfl⟩ := Prod.mk.inj heq
    have hclosing := hitem.closing
    rw [← skip_closing hne] at hclosing
    rw [readPart_item (by rw [skip_closing hne]; simp [hne]) hclosing, skip_closing hne,
      readRange_closing hk (hr.resolve_right nofun)]
    rfl

theorem readLevels_nil (outer : List Level) (level : Level) : readLevels fl outer level [] = none := by
  have hpart : readPart fl outer level [] = none := by rw [readPart, skip_nil]
  rw [readLevels, hpart]

theorem stops_readLevels (outer : List Level) (level : Level) : Stops (readLevels fl outer level) := by
  intro s
  induction hn : s.length using Nat.strongRecOn generalizing s outer level with
  | _ n ih =>
    subst hn
    intro x r h
    rw [readLevels] at h
    split at h
    · cases h
    · rename_i k t hpart
      obtain ⟨rfl, rfl⟩ := Prod.mk.inj (Option.some.inj h)
      exact readLevels_done (readPart_closing hpart (.inr ⟨_, rfl⟩))
    · rename_i outer' level' t hpart
      split at h
      · rename_i hlt
        have ht : t ≠ [] := by
          rintro rfl
          rw [readLevels_nil] at h
          cases h
        rw [readLevels_more (readPart_closing hpart (.inl ht)) (by simpa using hlt)]
        exact ih _ hlt outer' level' t rfl x r h
      · cases h

theorem stops_readBracket : Stops (readBracket fl) := by
  intro s x r h
  unfold readBracket at h ⊢
  have hne : (readOpening fl s).2 ≠ [] := by
    intro hnil
    dsimp only at h
    rw [hnil, readLevels_nil] at h
    cases h
  rw [readOpening_closing (Prod.eta _).symm hne]
  exact stops_readLevels [] _ _ x r h

end PathRouter.Regex
