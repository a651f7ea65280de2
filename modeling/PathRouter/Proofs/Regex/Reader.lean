import PathRouter.Proofs.Regex.Word
import PathRouter.Regex.Reader
/-!
# Reading piece by piece

What a piece of a pattern does to the state of reading, whatever follows the piece.  The pieces are those that compiled
paths are made of: plain characters, escaped dots, the repeated class of name characters, bars, and the parentheses of
the three kinds of groups.  All of it is read without flags.

A named group is opened only if a group can have its name (`IsGroupName`) and none has it yet; otherwise nothing is
read (`read_openNamed`, `read_openNamed_eq_none`).
-/
namespace PathRouter.Regex

/-! ## Plain characters -/

/-- Characters that do not stand for themselves. -/
def specials : List Char := ['(', ')', '|', '[', '?', '*', '+', '{', '\\', '.', '^', '$']

theorem readToken_plain {fl : Flags} {c : Char} {s : List Char} (h : c ∉ specials) :
    readToken fl c s = some (.part ⟨fl.literal c, 0⟩, s) := by
  unfold readToken
  split
  all_goals first | rfl | exact absurd (by decide) h

theorem literal_eq (c : Char) : Flags.literal {} c = .literal [c] := by
  have h : Flags.literal {} c =
      if c.toNat = c.toNat then .literal [Char.ofNat c.toNat] else .set false (.single c) := rfl
  rw [h, if_pos rfl, Char.ofNat_toNat]

/-! ## The class of name characters -/

theorem readLevels_more {fl : Flags} {outer outer' : List Level} {level level' : Level} {s r : List Char}
    (h : readPart fl outer level s = some (.more outer' level', r)) (hr : r.length < s.length) :
    readLevels fl outer level s = readLevels fl outer' level' r := by
  rw [readLevels, h]
  exact dif_pos hr

theorem readLevels_done {fl : Flags} {outer : List Level} {level : Level} {s r : List Char} {k : Nested CharSet}
    (h : readPart fl outer level s = some (.done k, r)) : readLevels fl outer level s = some (k, r) := by
  rw [readLevels, h]

/-- The class as it is written, after its opening bracket and before its closing one. -/
def classText : List Char := ['\\', 'w', '\\', 'd', '\\', '-', '_']

theorem readBracket_classText (s : List Char) :
    readBracket {} (classText ++ ']' :: s) = some (⟨CharSet.nameClass, 2⟩, s) := by
  have hopen : readOpening {} (classText ++ ']' :: s) = (⟨false, none, []⟩, classText ++ ']' :: s) := rfl
  have hword : ∀ l : Level, readPart {} [] l (classText ++ ']' :: s) =
      some (.more [] (l.push ⟨.word, 0⟩), classText.drop 2 ++ ']' :: s) := fun _ => rfl
  have hdigit : ∀ l : Level, readPart {} [] l (classText.drop 2 ++ ']' :: s) =
      some (.more [] (l.push ⟨.decimal, 0⟩), classText.drop 4 ++ ']' :: s) := fun _ => rfl
  have hhyphen : ∀ l : Level, readPart {} [] l (classText.drop 4 ++ ']' :: s) =
      some (.more [] (l.push ⟨.single '-', 0⟩), classText.drop 6 ++ ']' :: s) := fun _ => rfl
  have hunder : ∀ l : Level, readPart {} [] l (classText.drop 6 ++ ']' :: s) =
      some (.more [] (l.push ⟨.single '_', 0⟩), ']' :: s) := fun _ => rfl
  rw [readBracket, hopen]
  dsimp only
  rw [readLevels_more (hword _) (by simp [classText]), readLevels_more (hdigit _) (by simp [classText]),
    readLevels_more (hhyphen _) (by simp [classText]), readLevels_more (hunder _) (by simp [classText])]
  exact readLevels_done rfl

/-- The class is no single character, for it has the hyphen and the underscore. -/
theorem ofSet_nameClass : Form.ofSet false .nameClass = .set false .nameClass := by
  have hhyphen : CharSet.Covers CharSet.nameClass.ranges '-'.toNat :=
    CharSet.mem_iff.1 (CharSet.mem_nameClass.2 (by decide))
  have hunder : CharSet.Covers CharSet.nameClass.ranges '_'.toNat :=
    CharSet.mem_iff.1 (CharSet.mem_nameClass.2 (by decide))
  unfold Form.ofSet
  split
  · rename_i hs
    rw [hs] at hhyphen
    exact absurd hhyphen CharSet.covers_nil
  · rename_i a b hs
    rw [hs, CharSet.covers_cons] at hhyphen hunder
    simp only [CharSet.covers_nil, or_false] at hhyphen hunder
    have hne : a ≠ b := by
      have : '-'.toNat < '_'.toNat := by decide
      omega
    rw [if_neg hne]
  · rfl

/-! ## Repetition counts -/

/-- The upper bound of a repetition count, up to the closing brace. -/
def readBound (fl : Flags) (min : Nat) : List Char → Option (Option Nat × List Char)
  | ',' :: r =>
    match fl.skip r with
    | '}' :: r => some (none, r)
    | r =>
      (readCount fl r).bind fun (m, r) =>
        match r with
        | '}' :: r => if min ≤ m then some (some m, r) else none
        | _ => none
  | '}' :: r => some (some min, r)
  | _ => none

theorem readCounted_eq (fl : Flags) (s : List Char) : readCounted fl s =
    (readCount fl (fl.skip s)).bind fun (min, r) => (readBound fl min r).map fun (max, r) =>
      (.repetition min max (readGreedy fl (fl.skip r)).1, (readGreedy fl (fl.skip r)).2) := by
  unfold readCounted
  refine congrArg _ (funext fun (min, r) => ?_)
  dsimp only
  unfold readBound
  split
  · split
    · simp [*]
    · cases hcount : readCount fl _ with
      | none => simp [*]
      | some q =>
        obtain ⟨m, r⟩ := q
        dsimp only [bind, Option.bind]
        split
        · split <;> simp [*]
        · simp [*]
  · rfl
  · simp [*]

/-! ## Names of groups -/

/-- Whether the characters can stand in a group name, at its start or behind another one. -/
def spellsName : Bool → List Char → Bool
  | _, [] => true
  | first, c :: s => isGroupNameChar first c && spellsName false s

/-- Names that a group can have. -/
def IsGroupName (name : List Char) : Prop :=
  name ≠ [] ∧ spellsName true name = true

theorem readGroupName_append : ∀ {first : Bool} {name s : List Char}, '>' ∉ name →
    readGroupName first (name ++ '>' :: s) = if spellsName first name then some (name, s) else none
  | _, [], _, _ => rfl
  | first, c :: name, s, h => by
    obtain ⟨hc, hname⟩ := List.ne_and_not_mem_of_not_mem_cons h
    have ih := @readGroupName_append false name s hname
    rw [List.cons_append, readGroupName, if_neg (by simpa using hc.symm), ih, spellsName]
    cases isGroupNameChar first c with
    | false => rfl
    | true => cases spellsName false name <;> rfl

theorem readNamed_append {name s : List Char} (h : '>' ∉ name) (hne : name ≠ []) :
    readNamed (name ++ '>' :: s) =
      if spellsName true name then some (.openCapture (some (String.ofList name)), s) else none := by
  rw [readNamed, readGroupName_append h]
  obtain ⟨c, name, rfl⟩ := List.exists_cons_of_ne_nil hne
  cases spellsName true (c :: name) <;> rfl

/-! ## Steps -/

namespace ReadState

variable {st : ReadState}

theorem read_end {s : List Char} (hs : st.flags.skip s = []) : st.read s = st.finish := by
  rw [read]
  split
  · rfl
  · rename_i h
    rw [hs] at h
    cases h

theorem read_next {c : Char} {s r : List Char} (hs : st.flags.skip s = c :: r) :
    st.read s =
      match readToken st.flags c r with
      | none => none
      | some (tok, r') =>
        match st.push tok with
        | none => none
        | some st' => if r'.length < s.length then st'.read r' else none := by
  rw [read]
  split
  · rename_i h
    rw [hs] at h
    cases h
  · rename_i h
    rw [hs] at h
    obtain ⟨rfl, rfl⟩ := List.cons.inj h
    rfl

theorem read_step {st' : ReadState} {c : Char} {s r r' : List Char} {tok : Token} (hs : st.flags.skip s = c :: r)
    (ht : readToken st.flags c r = some (tok, r')) (hp : st.push tok = some st') (hr : r'.length < s.length) :
    st.read s = st'.read r' := by
  rw [read_next hs, ht]
  dsimp only
  rw [hp]
  exact if_pos hr

theorem skip_cons {c : Char} {s : List Char} (hf : st.flags = {}) : st.flags.skip (c :: s) = c :: s := by
  rw [hf]
  rfl

theorem read_cons {st' : ReadState} {c : Char} {s r : List Char} {tok : Token} (hf : st.flags = {})
    (ht : readToken {} c s = some (tok, r)) (hp : st.push tok = some st') (hr : r.length ≤ s.length) :
    st.read (c :: s) = st'.read r :=
  read_step (skip_cons hf) (hf ▸ ht) hp (Nat.lt_succ_of_le hr)

/-- What cannot be read or does not fit ends the reading. -/
theorem read_cons_eq_none {c : Char} {s : List Char} (hf : st.flags = {})
    (h : ∀ tok r, readToken {} c s = some (tok, r) → st.push tok = none) : st.read (c :: s) = none := by
  rw [read_next (skip_cons hf), hf]
  cases ht : readToken {} c s with
  | none => rfl
  | some p =>
    dsimp only
    rw [h _ _ ht]

theorem read_nil (hf : st.flags = {}) : st.read [] = st.finish :=
  read_end (by rw [hf]; rfl)

/-! ### Runs -/

/-- **A run of reading**: the state to which the text leads, token by token. -/
inductive Reads : ReadState → List Char → ReadState → Prop
  | done {st : ReadState} {s : List Char} : st.flags.skip s = [] → Reads st s st
  | token {st st' st'' : ReadState} {c : Char} {s r r' : List Char} {tok : Token} : st.flags.skip s = c :: r →
      readToken st.flags c r = some (tok, r') → st.push tok = some st' → r'.length < s.length → Reads st' r' st'' →
      Reads st s st''

theorem read_eq_some {c : Char} {s t : List Char} {r : Regex} (hs : st.flags.skip s = c :: t) (h : st.read s = some r) :
    ∃ tok t' st', readToken st.flags c t = some (tok, t') ∧ st.push tok = some st' ∧ t'.length < s.length ∧
      st'.read t' = some r := by
  rw [read_next hs] at h
  split at h
  · cases h
  rename_i tok t' ht
  split at h
  · cases h
  rename_i st' hp
  split at h
  · exact ⟨tok, t', st', ht, hp, ‹_›, h⟩
  · cases h

/-- What is read, the state at the end of a run has finished. -/
theorem reads_of_read {s : List Char} {r : Regex} (h : st.read s = some r) :
    ∃ st', Reads st s st' ∧ st'.finish = some r := by
  induction hn : s.length using Nat.strongRecOn generalizing st s with
  | _ n ih =>
    subst hn
    cases hs : st.flags.skip s with
    | nil =>
      rw [read_end hs] at h
      exact ⟨st, .done hs, h⟩
    | cons c t =>
      obtain ⟨tok, t', st', ht, hp, hlt, hread⟩ := read_eq_some hs h
      obtain ⟨last, hrun, hfinish⟩ := ih _ hlt hread rfl
      exact ⟨last, .token hs ht hp hlt hrun, hfinish⟩

theorem Reads.read_eq {s : List Char} {last : ReadState} (h : Reads st s last) : st.read s = last.finish := by
  induction h with
  | done hs => exact read_end hs
  | token hs ht hp hlt _ ih => rw [read_step hs ht hp hlt, ih]

/-! ### Parts -/

/-- The state with another part of the current alternative. -/
def add (st : ReadState) (x : Nested Form) : ReadState :=
  { st with parts := ⟨some x.value, x.depth⟩ :: st.parts }

def addAll (st : ReadState) (xs : List (Nested Form)) : ReadState :=
  xs.foldl add st

theorem addAll_eq : ∀ (xs : List (Nested Form)) (st : ReadState),
    st.addAll xs = { st with parts := (xs.map fun x => ⟨some x.value, x.depth⟩).reverse ++ st.parts }
  | [], _ => rfl
  | x :: xs, st => by
    have ih := addAll_eq xs (st.add x)
    rw [addAll, List.foldl_cons, ← addAll, ih]
    simp [add]

/-- The parts of the current alternative, in order. -/
def forms (st : ReadState) : List Form :=
  st.parts.reverse.filterMap (·.value)

theorem forms_add (x : Nested Form) : (st.add x).forms = st.forms ++ [x.value] := by
  simp [forms, add]

theorem forms_addAll (xs : List (Nested Form)) : (st.addAll xs).forms = st.forms ++ xs.map (·.value) := by
  rw [addAll_eq]
  simp only [forms, List.reverse_append, List.reverse_reverse, List.filterMap_append, List.filterMap_reverse,
    List.filterMap_map, Function.comp_def, List.filterMap_eq_map']

theorem current_value : st.current.value = Form.cats st.forms := by
  simp only [current, Nested.beside, List.map_reverse, List.filterMap_reverse, List.filterMap_map, Function.comp_def,
    id_eq, forms]

/-- The expression at the end, where no alternative was finished before the last. -/
theorem eq_of_finish {r : Regex} (hb : st.branches = []) (h : st.finish = some r) :
    r = (Form.alts [Form.cats st.forms]).toRegex := by
  unfold finish at h
  split at h
  · rw [← Option.some.inj h, body, hb, ← current_value]
    rfl
  · cases h

/-- What an alternative reads as that has these parts and no others. -/
theorem current_addAll {xs : List (Nested Form)} (hp : st.parts = []) :
    (st.addAll xs).current = Nested.beside Form.cats xs := by
  rw [addAll_eq, current, hp, List.append_nil, List.reverse_reverse]
  simp [Nested.beside, Function.comp_def, List.filterMap_map]

theorem read_plain {c : Char} {s : List Char} (hf : st.flags = {}) (hc : c ∉ specials) :
    st.read (c :: s) = (st.add ⟨.literal [c], 0⟩).read s := by
  refine read_cons hf (readToken_plain hc) ?_ (Nat.le_refl _)
  rw [literal_eq]
  rfl

theorem read_dot {s : List Char} (hf : st.flags = {}) :
    st.read ('\\' :: '.' :: s) = (st.add ⟨.literal ['.'], 0⟩).read s := by
  have ht : readToken {} '\\' ('.' :: s) = some (.part ⟨.literal ['.'], 0⟩, s) := by
    have h : readToken {} '\\' ('.' :: s) = some (.part ⟨Flags.literal {} '.', 0⟩, s) := rfl
    rw [h, literal_eq]
  exact read_cons hf ht rfl (Nat.le_succ _)

theorem read_caret {s : List Char} (hf : st.flags = {}) :
    st.read ('^' :: s) = (st.add ⟨.assert .textStart, 0⟩).read s :=
  read_cons hf rfl rfl (Nat.le_refl _)

theorem read_dollar {s : List Char} (hf : st.flags = {}) :
    st.read ('$' :: s) = (st.add ⟨.assert .textEnd, 0⟩).read s :=
  read_cons hf rfl rfl (Nat.le_refl _)

/-- The repeated class: what a wildcard is written as. -/
def repeatedClass (min : Nat) : Nested Form :=
  ⟨.repeated (.set false .nameClass) min none true, 3⟩

theorem read_class {s : List Char} (hf : st.flags = {}) :
    st.read ('[' :: (classText ++ ']' :: s)) = (st.add ⟨.set false .nameClass, 2⟩).read s := by
  have ht : readToken {} '[' (classText ++ ']' :: s) = some (.part ⟨.set false .nameClass, 2⟩, s) := by
    have h : readToken {} '[' (classText ++ ']' :: s) = (readBracket {} (classText ++ ']' :: s)).map
        (fun p => (.part ⟨.ofSet false p.1.value, p.1.depth⟩, p.2)) := rfl
    rw [h, readBracket_classText]
    dsimp only [Option.map_some]
    rw [ofSet_nameClass]
  exact read_cons hf ht rfl (by simp only [List.length_append, List.length_cons]; omega)

theorem readGreedy_of_head {fl : Flags} {s : List Char} (h : s.head? ≠ some '?') :
    readGreedy fl s = (!fl.swapGreed, s) := by
  unfold readGreedy
  split
  · exact absurd rfl h
  · rfl

theorem read_star {s : List Char} (hf : st.flags = {}) (hs : s.head? ≠ some '?') :
    st.read ('[' :: (classText ++ ']' :: '*' :: s)) = (st.add (repeatedClass 0)).read s := by
  have ht : readToken {} '*' s = some (.repetition 0 none true, s) := by
    have h : readToken {} '*' s = some (.repetition 0 none (readGreedy {} s).1, (readGreedy {} s).2) := rfl
    rw [h, readGreedy_of_head hs]
    rfl
  rw [read_class hf]
  exact read_cons hf ht rfl (Nat.le_refl _)

theorem read_plus {s : List Char} (hf : st.flags = {}) (hs : s.head? ≠ some '?') :
    st.read ('[' :: (classText ++ ']' :: '+' :: s)) = (st.add (repeatedClass 1)).read s := by
  have ht : readToken {} '+' s = some (.repetition 1 none true, s) := by
    have h : readToken {} '+' s = some (.repetition 1 none (readGreedy {} s).1, (readGreedy {} s).2) := rfl
    rw [h, readGreedy_of_head hs]
    rfl
  rw [read_class hf]
  exact read_cons hf ht rfl (Nat.le_refl _)

/-- The state with the current alternative finished. -/
def endBranch (st : ReadState) : ReadState :=
  { st with branches := st.current :: st.branches, parts := [] }

theorem read_bar {s : List Char} (hf : st.flags = {}) : st.read ('|' :: s) = st.endBranch.read s :=
  read_cons hf rfl rfl (Nat.le_refl _)

/-! ### Groups -/

/-- The state inside a group that was opened; `number` is that of a group that records. -/
def inGroup (st : ReadState) (number : Option (Nat × Option String)) : ReadState :=
  { st with branches := [], parts := [], outer := ⟨number, {}, st.branches, st.parts⟩ :: st.outer }

/-- The state with another group counted. -/
def count (st : ReadState) (name : Option String) : ReadState :=
  { st with groupCount := st.groupCount + 1, names := name.toList ++ st.names }

theorem read_openPlain {s : List Char} (hf : st.flags = {}) :
    st.read ('(' :: '?' :: ':' :: s) = (st.inGroup none).read s := by
  have hpush : st.push (.openPlain []) = some (st.inGroup none) := by
    rw [push, hf]
    simp [inGroup, hf, Flags.setAll]
  exact read_cons hf rfl hpush (by simp only [List.length_cons]; omega)

theorem readOpen_of_head {s : List Char} (h : s.head? ≠ some '?') : readOpen {} s = some (.openCapture none, s) := by
  unfold readOpen
  have hskip : Flags.skip {} s = s := rfl
  rw [hskip]
  split
  all_goals first | exact absurd rfl h | rfl

theorem read_openCapture {s : List Char} (hf : st.flags = {}) (hs : s.head? ≠ some '?') :
    st.read ('(' :: s) = ((st.count none).inGroup (some (st.groupCount + 1, none))).read s := by
  refine read_cons hf (readOpen_of_head hs) ?_ (Nat.le_refl _)
  rw [push, hf]
  simp [inGroup, count, hf]

theorem readToken_openNamed {name s : List Char} (hgt : '>' ∉ name) (hne : name ≠ [])
    (hhead : name.head? ≠ some '=' ∧ name.head? ≠ some '!') :
    readToken {} '(' ('?' :: '<' :: (name ++ '>' :: s)) =
      if spellsName true name then some (.openCapture (some (String.ofList name)), s) else none := by
  rw [← readNamed_append hgt hne]
  obtain ⟨c, name, rfl⟩ := List.exists_cons_of_ne_nil hne
  have heq : c ≠ '=' := fun h => hhead.1 (by rw [h]; rfl)
  have hbang : c ≠ '!' := fun h => hhead.2 (by rw [h]; rfl)
  have hopen : readToken {} '(' ('?' :: '<' :: (c :: name ++ '>' :: s)) =
      readOpen {} ('?' :: '<' :: (c :: name ++ '>' :: s)) := rfl
  have hskip : Flags.skip {} ('?' :: '<' :: (c :: name ++ '>' :: s)) = '?' :: '<' :: (c :: name ++ '>' :: s) := rfl
  rw [hopen, readOpen, hskip]
  simp [heq, hbang]

/-- A named group is opened if it can have the name. -/
theorem read_openNamed {name s : List Char} (hf : st.flags = {}) (hgt : '>' ∉ name)
    (hhead : name.head? ≠ some '=' ∧ name.head? ≠ some '!') (hname : IsGroupName name)
    (hfree : String.ofList name ∉ st.names) :
    st.read ('(' :: '?' :: '<' :: (name ++ '>' :: s)) =
      ((st.count (some (String.ofList name))).inGroup
        (some (st.groupCount + 1, some (String.ofList name)))).read s := by
  have ht := @readToken_openNamed name s hgt hname.1 hhead
  rw [if_pos hname.2] at ht
  refine read_cons hf ht ?_ (by simp only [List.length_cons, List.length_append]; omega)
  rw [push, hf]
  simp [inGroup, count, hf, hfree]

/-- Otherwise nothing is read. -/
theorem read_openNamed_eq_none {name s : List Char} (hf : st.flags = {}) (hgt : '>' ∉ name) (hne : name ≠ [])
    (hhead : name.head? ≠ some '=' ∧ name.head? ≠ some '!')
    (h : ¬ (IsGroupName name ∧ String.ofList name ∉ st.names)) :
    st.read ('(' :: '?' :: '<' :: (name ++ '>' :: s)) = none := by
  refine read_cons_eq_none hf fun tok r ht => ?_
  rw [readToken_openNamed hgt hne hhead] at ht
  split at ht
  · rename_i hspells
    have hused : String.ofList name ∈ st.names := Decidable.byContradiction fun hfree => h ⟨⟨hne, hspells⟩, hfree⟩
    obtain ⟨rfl, rfl⟩ := Prod.mk.inj (Option.some.inj ht)
    rw [push]
    exact if_pos (List.contains_iff_mem.2 hused)
  · cases ht

/-- What a group makes of its body. -/
def enclosed : Option (Nat × Option String) → Form → Form
  | some (i, name), r => .group i name r
  | none, r => r

/-- The group that is closed becomes a part of what surrounds it. -/
theorem read_close {number : Option (Nat × Option String)} {branches : List (Nested Form)}
    {parts : List (Nested (Option Form))} {outer : List Frame} {s : List Char} (hf : st.flags = {})
    (ho : st.outer = ⟨number, {}, branches, parts⟩ :: outer) :
    st.read (')' :: s) = (({ st with branches := branches, parts := parts, outer := outer }).add
      (st.body.inside (enclosed number))).read s := by
  refine read_cons hf rfl ?_ (Nat.le_refl _)
  rw [push, ho]
  simp only [hf, add, Nested.inside]
  cases number <;> rfl

end ReadState
end PathRouter.Regex
