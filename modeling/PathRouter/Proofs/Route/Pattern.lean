import PathRouter.Proofs.Regex.Reader
import PathRouter.Proofs.Route.Variable
/-!
# Compiled paths read back

What the pattern of a declared path reads as.  A piece is a character of an alternative: it is `written` as a part of
the pattern and reads as its `piece`.  From pieces the reading of alternatives, segments and whole paths is put
together: `read_pattern` says what a segment does to the state of reading, and `parse?_pattern` what is left of a path.

Only the names of variables can fail to read: a name must be one that a group can have, and no other segment may have
it.
-/
namespace PathRouter.Segment

open Regex (Form Nested ReadState)

/-! ## Pieces -/

/-- A text with every run of the same wildcard as one wildcard. -/
def squeeze : List Char → List Char
  | a :: b :: s => if a = b ∧ isWildcard a = true then squeeze (b :: s) else a :: squeeze (b :: s)
  | s => s

/-- A character of an alternative as the pattern writes it. -/
def written (c : Char) : List Char :=
  if isWildcard c then nameClass.toList ++ [c] else if c = '.' then ['\\', '.'] else [c]

theorem written_append_expand : ∀ (a : Char) (s : List Char),
    written a ++ expand (some a) s = (squeeze (a :: s)).flatMap written
  | a, [] => by simp [expand, squeeze]
  | a, b :: s => by
    rw [squeeze, expand]
    by_cases hb : isWildcard b = true
    · rw [if_pos hb]
      by_cases hab : a = b
      · subst hab
        rw [if_pos (beq_self_eq_true (some a)), if_pos ⟨rfl, hb⟩, written_append_expand a s]
      · have hprevious : ¬ (some a == some b) = true := by simpa using hab
        rw [if_neg hprevious, if_neg (fun h => hab h.1), List.flatMap_cons, ← written_append_expand b s]
        simp [written, hb]
    · have hab : ¬ (a = b ∧ isWildcard a = true) := fun h => hb (h.1 ▸ h.2)
      rw [if_neg hb, if_neg hab, List.flatMap_cons, ← written_append_expand b s]
      by_cases hdot : b = '.'
      · subst hdot
        simp [written, isWildcard]
      · simp [written, hb, hdot]

/-- **What an alternative is written as**, piece by piece. -/
theorem expand_none : ∀ w : List Char, expand none w = (squeeze w).flatMap written
  | [] => rfl
  | a :: s => by
    rw [← written_append_expand, expand]
    by_cases ha : isWildcard a = true
    · simp [written, ha]
    · by_cases hdot : a = '.'
      · subst hdot
        simp [written, isWildcard]
      · simp [written, ha, hdot]

theorem mem_squeeze_iff {c : Char} : ∀ {w : List Char}, c ∈ squeeze w ↔ c ∈ w
  | [] | [_] => Iff.rfl
  | a :: b :: w => by
    have ih := @mem_squeeze_iff c (b :: w)
    rw [squeeze]
    split
    · rename_i h
      rw [ih, h.1]
      simp
    · rw [List.mem_cons, ih]
      exact List.mem_cons.symm

/-- What a character of an alternative reads as. -/
def piece (c : Char) : Nested Form :=
  if c = '*' then ReadState.repeatedClass 0
  else if c = '+' then ReadState.repeatedClass 1
  else ⟨.literal [c], 0⟩

theorem isNameChar_special : ∀ c ∈ Regex.specials, isNameChar c = false := by
  have hall : Regex.specials.all (fun c => !isNameChar c) = true := by decide
  intro c hc
  simpa using List.all_eq_true.1 hall c hc

theorem notMem_specials {c : Char} (h : isNameChar c = true) : c ∉ Regex.specials := fun hm => by
  rw [isNameChar_special c hm] at h
  cases h

theorem isWildcard_of_isNameChar {c : Char} (h : isNameChar c = true) : isWildcard c = false := by
  have hstar : c ≠ '*' := fun heq => notMem_specials h (heq ▸ by decide)
  have hplus : c ≠ '+' := fun heq => notMem_specials h (heq ▸ by decide)
  simp [isWildcard, hstar, hplus]

theorem isSpecChar_iff {c : Char} : isSpecChar c = true ↔ isNameChar c = true ∨ c = '*' ∨ c = '+' ∨ c = '.' := by
  simp [isSpecChar, isWildcard, or_assoc]

theorem nameClass_toList : nameClass.toList = '[' :: (Regex.classText ++ [']']) := by decide

/-- No question mark stands where a piece begins, so it cannot turn the preference of the piece before. -/
theorem head?_written {c : Char} (hc : isSpecChar c = true) (s : List Char) :
    (written c ++ s).head? ≠ some '?' := by
  rcases isSpecChar_iff.1 hc with h | rfl | rfl | rfl
  · have hne : c ≠ '?' := fun h' => notMem_specials h (h' ▸ by decide)
    have hwild : isWildcard c = false := isWildcard_of_isNameChar h
    have hdot : c ≠ '.' := fun h' => notMem_specials h (h' ▸ by decide)
    simp [written, hwild, hdot, hne]
  all_goals simp [written, isWildcard, nameClass_toList]

section

variable {st : ReadState} {s : List Char}

theorem read_written {c : Char} (hf : st.flags = {}) (hc : isSpecChar c = true) (hs : s.head? ≠ some '?') :
    st.read (written c ++ s) = (st.add (piece c)).read s := by
  rcases isSpecChar_iff.1 hc with h | rfl | rfl | rfl
  · have hspecial := notMem_specials h
    have hstar : c ≠ '*' := fun h' => hspecial (h' ▸ by decide)
    have hplus : c ≠ '+' := fun h' => hspecial (h' ▸ by decide)
    have hdot : c ≠ '.' := fun h' => hspecial (h' ▸ by decide)
    have hw : written c = [c] := by simp [written, isWildcard, hstar, hplus, hdot]
    have hp : piece c = ⟨.literal [c], 0⟩ := by simp [piece, hstar, hplus]
    rw [hw, hp]
    exact ReadState.read_plain hf hspecial
  · have hw : written '*' ++ s = '[' :: (Regex.classText ++ ']' :: '*' :: s) := by
      simp [written, isWildcard, nameClass_toList]
    rw [hw, ReadState.read_star hf hs]
    rfl
  · have hw : written '+' ++ s = '[' :: (Regex.classText ++ ']' :: '+' :: s) := by
      simp [written, isWildcard, nameClass_toList]
    rw [hw, ReadState.read_plus hf hs]
    rfl
  · exact ReadState.read_dot hf

theorem read_flatMap_written : ∀ {w : List Char} {st : ReadState}, st.flags = {} → (∀ c ∈ w, isSpecChar c = true) →
    s.head? ≠ some '?' → st.read (w.flatMap written ++ s) = (st.addAll (w.map piece)).read s
  | [], _, _, _, _ => rfl
  | c :: w, st, hf, hw, hs => by
    have hrest : ∀ d ∈ w, isSpecChar d = true := fun d hd => hw d (List.mem_cons_of_mem _ hd)
    have hhead : (w.flatMap written ++ s).head? ≠ some '?' := by
      cases w with
      | nil => exact hs
      | cons d w =>
        rw [List.flatMap_cons, List.append_assoc]
        exact head?_written (hrest d List.mem_cons_self) _
    rw [List.flatMap_cons, List.append_assoc, read_written hf (hw c List.mem_cons_self) hhead]
    exact read_flatMap_written hf hrest hs

/-- **An alternative reads as its pieces.** -/
theorem read_expand {w : List Char} (hf : st.flags = {}) (hw : ∀ c ∈ w, isSpecChar c = true)
    (hs : s.head? ≠ some '?') :
    st.read (expand none w ++ s) = (st.addAll ((squeeze w).map piece)).read s := by
  rw [expand_none]
  exact read_flatMap_written hf (fun c hc => hw c (mem_squeeze_iff.1 hc)) hs

end

/-! ## Alternatives -/

/-- What an alternative reads as by itself. -/
def word (w : List Char) : Nested Form :=
  Nested.beside Form.cats ((squeeze w).map piece)

/-- What alternatives read as between parentheses. -/
def wordsBody (ws : List (List Char)) : Nested Form :=
  Nested.beside Form.alts (ws.map word)

theorem squeeze_ne_nil : ∀ {w : List Char}, w ≠ [] → squeeze w ≠ []
  | [a], _ => by simp [squeeze]
  | a :: b :: s, _ => by
    rw [squeeze]
    split
    · exact squeeze_ne_nil (List.cons_ne_nil b s)
    · exact List.cons_ne_nil _ _

theorem head?_expand {w : List Char} (hw : IsAlternative w) (s : List Char) :
    (expand none w ++ s).head? ≠ some '?' := by
  rw [expand_none]
  have hall : ∀ c ∈ squeeze w, isSpecChar c = true := fun c hc => hw.2 c (mem_squeeze_iff.1 hc)
  obtain ⟨c, v, hv⟩ := List.exists_cons_of_ne_nil (squeeze_ne_nil hw.1)
  rw [hv] at hall ⊢
  rw [List.flatMap_cons, List.append_assoc]
  exact head?_written (hall c List.mem_cons_self) _

/-- The state at the end of alternatives: as it was, but for what was read in the group. -/
structure AfterWords (st st' : ReadState) (ws : List (List Char)) : Prop where
  flags : st'.flags = {}
  outer : st'.outer = st.outer
  groupCount : st'.groupCount = st.groupCount
  names : st'.names = st.names
  body : st'.body = Nested.beside Form.alts (st.branches.reverse ++ ws.map word)

theorem read_words : ∀ {ws : List (List Char)} {st : ReadState} (s : List Char), st.flags = {} → st.parts = [] →
    ws ≠ [] → (∀ w ∈ ws, IsAlternative w) →
    ∃ st', AfterWords st st' ws ∧
      st.read (['|'].intercalate (ws.map (expand none)) ++ ')' :: s) = st'.read (')' :: s)
  | [w], st, s, hf, hp, _, hw => by
    refine ⟨st.addAll ((squeeze w).map piece), ⟨?_, ?_, ?_, ?_, ?_⟩, ?_⟩
    · rw [ReadState.addAll_eq]
      exact hf
    · rw [ReadState.addAll_eq]
    · rw [ReadState.addAll_eq]
    · rw [ReadState.addAll_eq]
    · rw [ReadState.body, ReadState.current_addAll hp, ReadState.addAll_eq, List.reverse_cons]
      rfl
    · rw [List.map_singleton, List.intercalate_singleton]
      exact read_expand hf (hw w List.mem_cons_self).2 (by simp)
  | w :: v :: ws, st, s, hf, hp, _, hw => by
    have hbranch : ((st.addAll ((squeeze w).map piece)).endBranch).branches = word w :: st.branches := by
      rw [ReadState.endBranch, ReadState.current_addAll hp, ReadState.addAll_eq]
      rfl
    obtain ⟨st', ha, hr⟩ := @read_words (v :: ws) (st.addAll ((squeeze w).map piece)).endBranch s
      (by rw [ReadState.addAll_eq]; exact hf) rfl (List.cons_ne_nil _ _) (fun u hu => hw u (List.mem_cons_of_mem _ hu))
    rw [ReadState.addAll_eq] at ha
    refine ⟨st', ⟨ha.flags, ha.outer, ha.groupCount, ha.names, ?_⟩, ?_⟩
    · rw [ReadState.addAll_eq] at hbranch
      rw [ha.body, hbranch, List.reverse_cons, List.append_assoc]
      rfl
    · rw [List.map_cons, List.map_cons, List.intercalate_cons_cons, List.append_assoc, List.append_assoc,
        read_expand hf (hw w List.mem_cons_self).2 (by simp)]
      rw [List.singleton_append, ReadState.read_bar (by rw [ReadState.addAll_eq]; exact hf), ← List.map_cons, hr]

/-- **A group of alternatives reads as one part.** -/
theorem read_group {st : ReadState} {ws : List (List Char)} {s : List Char} (number : Option (Nat × Option String))
    (hf : st.flags = {}) (hne : ws ≠ []) (hw : ∀ w ∈ ws, IsAlternative w) :
    (st.inGroup number).read (['|'].intercalate (ws.map (expand none)) ++ ')' :: s) =
      (st.add ((wordsBody ws).inside (ReadState.enclosed number))).read s := by
  obtain ⟨st', ha, hr⟩ := @read_words ws (st.inGroup number) s hf rfl hne hw
  have hbody : st'.body = wordsBody ws := ha.body
  rw [hr, ReadState.read_close ha.flags ha.outer, hbody]
  congr 1
  rw [ReadState.add, ReadState.add]
  simp only [ha.flags, ha.groupCount, ha.names, ReadState.inGroup, ← hf]

/-! ## Segments -/

/-- **What holds of every segment that is read**: its name is one, and it has alternatives. -/
structure Proper (g : Segment) : Prop where
  name : ∀ n ∈ g.name, IsName n
  alternatives_ne : g.alternatives ≠ []
  alternatives : ∀ w ∈ g.alternatives, IsAlternative w

theorem proper_of_words {name : Option (List Char)} {words : List (List Char)} (hn : ∀ n ∈ name, IsName n)
    (hne : words ≠ []) (hw : ∀ w ∈ words, IsAlternative w) : Proper ⟨name, words.eraseDups⟩ := by
  refine ⟨hn, fun h => ?_, fun w h => hw w (List.mem_eraseDups.1 h)⟩
  obtain ⟨w, ws, rfl⟩ := List.exists_cons_of_ne_nil hne
  have hm : w ∈ (w :: ws).eraseDups := List.mem_eraseDups.2 List.mem_cons_self
  rw [show (w :: ws).eraseDups = [] from h] at hm
  cases hm

theorem proper_default {name : List Char} (hn : IsName name) : Proper ⟨some name, [defaultSpec.toList]⟩ := by
  have hword : IsAlternative defaultSpec.toList := by
    refine ⟨by decide, fun c hc => ?_⟩
    have hplus : c = '+' := List.mem_singleton.1 hc
    rw [hplus]
    decide
  refine ⟨fun n h => ?_, List.cons_ne_nil _ _, fun w h => ?_⟩
  · rwa [← Option.some.inj h]
  · rwa [List.mem_singleton.1 h]

theorem proper_of_read? {s : List Char} {g : Segment} (h : read? s = some g) : g.Proper := by
  have hspec : ∀ {t}, (readSpec? t).map (fun alts => (⟨none, alts⟩ : Segment)) = some g → g.Proper := by
    intro t ht
    obtain ⟨alts, ha, rfl⟩ := Option.map_eq_some_iff.1 ht
    obtain ⟨words, hne, hw, -, rfl⟩ := readSpec?_eq_some_iff.1 ha
    exact proper_of_words (fun n hn => nomatch hn) hne hw
  unfold read? at h
  split at h
  · have hname : ∀ {name : List Char}, IsName name → ∀ n ∈ some name, IsName n := fun hn n h =>
      Option.some.inj h ▸ hn
    cases form_of_readVariable? h with
    | plain hn | loneDollar hn => exact proper_default hn
    | spec hn hne hw => exact proper_of_words (hname hn) hne hw
    | noDollar hn _ _ hne hw => exact proper_of_words (hname hn) hne hw
    | bar hn hc hne hw =>
      refine proper_of_words (hname hn) (List.cons_ne_nil _ _) (List.forall_mem_cons.2 ⟨⟨by simp, ?_⟩, hw⟩)
      simpa using isSpecChar_of_isNameChar hc
  · exact hspec h

def captures (g : Segment) : Bool :=
  g.name.isSome || g.hasWildcard

def groupName? (g : Segment) : Option String :=
  g.name.map String.ofList

/-- The state of reading after a segment. -/
def after (st : ReadState) (g : Segment) : ReadState :=
  if g.captures then
    (st.count g.groupName?).add ((wordsBody g.alternatives).inside (.group (st.groupCount + 1) g.groupName?))
  else if 2 ≤ g.alternatives.length then st.add ((wordsBody g.alternatives).inside id)
  else st.addAll ((g.alternatives.flatMap squeeze).map piece)

/-- The name of a segment is one that a group can have and no group has yet. -/
def NameFits (st : ReadState) (g : Segment) : Prop :=
  ∀ n ∈ g.name, Regex.IsGroupName n ∧ String.ofList n ∉ st.names

section

variable {st : ReadState} {g : Segment} {s : List Char}

theorem head?_choice (hg : g.Proper) (s : List Char) : (g.choice ++ s).head? ≠ some '?' := by
  unfold choice
  obtain ⟨w, ws, hws⟩ := List.exists_cons_of_ne_nil hg.alternatives_ne
  have hw := hg.alternatives w (hws ▸ List.mem_cons_self)
  rw [hws]
  cases ws with
  | nil =>
    rw [List.map_singleton, List.intercalate_singleton]
    exact head?_expand hw s
  | cons v ws =>
    rw [List.map_cons, List.map_cons, List.intercalate_cons_cons, List.append_assoc, List.append_assoc]
    exact head?_expand hw _

theorem head?_name {n : List Char} (hn : IsName n) : n.head? ≠ some '=' ∧ n.head? ≠ some '!' ∧ '>' ∉ n := by
  have hnot : ∀ c ∈ n, c ≠ '=' ∧ c ≠ '!' ∧ c ≠ '>' := by
    intro c hc
    have h := hn.2 c hc
    refine ⟨?_, ?_, ?_⟩ <;> rintro rfl <;> exact absurd h (by decide)
  exact ⟨fun h => (hnot _ (List.mem_of_mem_head? h)).1 rfl, fun h => (hnot _ (List.mem_of_mem_head? h)).2.1 rfl,
    fun h => (hnot _ h).2.2 rfl⟩

theorem pattern_of_name {n : List Char} (h : g.name = some n) :
    g.pattern ++ s = '(' :: '?' :: '<' :: (n ++ '>' :: (g.choice ++ ')' :: s)) := by
  simp [pattern, h]

/-- **What a segment does to the state of reading.** -/
theorem read_pattern (hg : g.Proper) (hf : st.flags = {}) (hs : s.head? ≠ some '?') (hn : NameFits st g) :
    st.read (g.pattern ++ s) = (after st g).read s := by
  unfold after
  cases hname : g.name with
  | some n =>
    obtain ⟨heq, hbang, hgt⟩ := head?_name (hg.name n hname)
    obtain ⟨hgroup, hfree⟩ := hn n hname
    have hcap : g.captures = true := by simp [captures, hname]
    have hvar : g.groupName? = some (String.ofList n) := by simp [groupName?, hname]
    rw [if_pos hcap, pattern_of_name hname, ReadState.read_openNamed hf hgt ⟨heq, hbang⟩ hgroup hfree, hvar]
    exact read_group _ hf hg.alternatives_ne hg.alternatives
  | none =>
    have hvar : g.groupName? = none := by simp [groupName?, hname]
    unfold pattern
    simp only [hname, captures, Option.isSome_none, Bool.false_or]
    split
    · have happ : '(' :: g.choice ++ [')'] ++ s = '(' :: (g.choice ++ ')' :: s) := by simp
      rw [happ, ReadState.read_openCapture hf (head?_choice hg _), hvar]
      exact read_group _ hf hg.alternatives_ne hg.alternatives
    · split
      · have happ : "(?:".toList ++ g.choice ++ [')'] ++ s = '(' :: '?' :: ':' :: (g.choice ++ ')' :: s) := by simp
        rw [happ, ReadState.read_openPlain hf]
        exact read_group none hf hg.alternatives_ne hg.alternatives
      · rename_i hlen
        obtain ⟨w, ws, hws⟩ := List.exists_cons_of_ne_nil hg.alternatives_ne
        obtain rfl : ws = [] := by
          rw [hws, List.length_cons] at hlen
          exact List.length_eq_zero_iff.1 (by omega)
        have hw := hg.alternatives w (hws ▸ List.mem_cons_self)
        rw [choice, hws, List.map_singleton, List.intercalate_singleton, read_expand hf hw.2 hs]
        simp

theorem read_pattern_eq_none (hg : g.Proper) (hf : st.flags = {}) (hn : ¬ NameFits st g) :
    st.read (g.pattern ++ s) = none := by
  cases hname : g.name with
  | none => exact absurd (fun n h => by rw [hname] at h; cases h) hn
  | some n =>
    obtain ⟨heq, hbang, hgt⟩ := head?_name (hg.name n hname)
    rw [pattern_of_name hname]
    refine ReadState.read_openNamed_eq_none hf hgt (hg.name n hname).1 ⟨heq, hbang⟩ fun h => hn fun m hm => ?_
    rw [hname] at hm
    rwa [← Option.some.inj hm]

end

/-! ### What stays and what is added -/

/-- The parts that a segment adds; `k` is the number of its group, if it has one. -/
def forms (k : Nat) (g : Segment) : List Form :=
  if g.captures then [.group k g.groupName? (wordsBody g.alternatives).value]
  else if 2 ≤ g.alternatives.length then [(wordsBody g.alternatives).value]
  else (g.alternatives.flatMap squeeze).map (fun c => (piece c).value)

theorem groupName?_eq_none {g : Segment} (h : ¬ g.captures = true) : g.groupName? = none := by
  rw [captures, Bool.or_eq_true, not_or] at h
  rw [groupName?, Option.map_eq_none_iff]
  simpa using h.1

structure Adds (st st' : ReadState) (g : Segment) : Prop where
  flags : st'.flags = st.flags
  branches : st'.branches = st.branches
  names : st'.names = g.groupName?.toList ++ st.names
  groupCount : st'.groupCount = st.groupCount + g.captures.toNat
  forms : st'.forms = st.forms ++ g.forms (st.groupCount + 1)

theorem adds_after (st : ReadState) (g : Segment) : Adds st (after st g) g := by
  unfold after
  by_cases hcap : g.captures = true
  · rw [if_pos hcap]
    refine ⟨rfl, rfl, rfl, ?_, ?_⟩
    · rw [hcap]
      rfl
    · rw [forms, if_pos hcap]
      exact ReadState.forms_add _
  · have hname := groupName?_eq_none hcap
    have hcount : g.captures = false := by simpa using hcap
    rw [if_neg hcap]
    by_cases hlen : 2 ≤ g.alternatives.length
    · rw [if_pos hlen]
      refine ⟨rfl, rfl, ?_, ?_, ?_⟩
      · rw [hname]
        rfl
      · rw [hcount]
        rfl
      · rw [forms, if_neg hcap, if_pos hlen]
        exact ReadState.forms_add _
    · rw [if_neg hlen]
      refine ⟨?_, ?_, ?_, ?_, ?_⟩
      · rw [ReadState.addAll_eq]
      · rw [ReadState.addAll_eq]
      · rw [ReadState.addAll_eq, hname]
        rfl
      · rw [ReadState.addAll_eq, hcount]
        rfl
      · rw [forms, if_neg hcap, if_neg hlen, ReadState.forms_addAll, List.map_map]
        rfl

end PathRouter.Segment

namespace PathRouter.Route

open Regex (Form ReadState)

/-! ## Paths -/

def afterAll : ReadState → List Segment → ReadState
  | st, [] => st
  | st, g :: gs => afterAll (Segment.after (st.add ⟨.literal ['/'], 0⟩) g) gs

/-- Every name is one that a group can have and that is not used before. -/
def NamesFit : List String → List Segment → Prop
  | _, [] => True
  | used, g :: gs =>
    (∀ n ∈ g.name, Regex.IsGroupName n ∧ String.ofList n ∉ used) ∧ NamesFit (g.groupName?.toList ++ used) gs

def variableNames (gs : List Segment) : List String :=
  gs.filterMap Segment.groupName?

theorem namesFit_iff : ∀ {gs : List Segment} {used : List String}, NamesFit used gs ↔
    (∀ g ∈ gs, ∀ n ∈ g.name, Regex.IsGroupName n) ∧ (variableNames gs).Nodup ∧ ∀ v ∈ variableNames gs, v ∉ used
  | [], used => by simp [NamesFit, variableNames]
  | g :: gs, used => by
    rw [NamesFit, namesFit_iff]
    cases hname : g.name with
    | none =>
      have hvar : g.groupName? = none := by simp [Segment.groupName?, hname]
      have hvars : variableNames (g :: gs) = variableNames gs := List.filterMap_cons_none hvar
      rw [hvars, hvar]
      simp [hname]
    | some n =>
      have hvar : g.groupName? = some (String.ofList n) := by simp [Segment.groupName?, hname]
      have hvars : variableNames (g :: gs) = String.ofList n :: variableNames gs := List.filterMap_cons_some hvar
      rw [hvars, hvar, List.nodup_cons]
      simp only [Option.mem_def, Option.some.injEq, forall_eq', Option.toList_some, List.singleton_append,
        List.mem_cons, not_or, forall_eq_or_imp, hname]
      constructor
      · rintro ⟨⟨hlegal, hfree⟩, hrest, hnodup, hfresh⟩
        exact ⟨⟨hlegal, hrest⟩, ⟨fun h => (hfresh _ h).1 rfl, hnodup⟩, hfree, fun v hv => (hfresh v hv).2⟩
      · rintro ⟨⟨hlegal, hrest⟩, ⟨hnew, hnodup⟩, hfree, hfresh⟩
        exact ⟨⟨hlegal, hfree⟩, hrest, hnodup, fun v hv => ⟨fun h => hnew (h ▸ hv), hfresh v hv⟩⟩

def slashed (gs : List Segment) : List Char :=
  gs.flatMap (fun g => '/' :: g.pattern)

theorem pattern_eq {gs : List Segment} (hne : gs ≠ []) : pattern gs = '^' :: (slashed gs ++ ['$']) := by
  have hslash : ∀ gs : List Segment, gs ≠ [] →
      '/' :: ['/'].intercalate (gs.map Segment.pattern) = slashed gs := by
    intro gs
    induction gs with
    | nil => exact fun h => absurd rfl h
    | cons g gs ih =>
      intro _
      cases gs with
      | nil => simp [slashed]
      | cons h gs =>
        rw [List.map_cons, List.map_cons, List.intercalate_cons_cons, ← List.map_cons, slashed, List.flatMap_cons,
          ← slashed, ← ih (List.cons_ne_nil _ _)]
        simp
  rw [pattern, ← hslash gs hne]
  rfl

theorem slash_notMem_specials : '/' ∉ Regex.specials := by decide

section

variable {st : ReadState} {s : List Char}

theorem head?_slashed (gs : List Segment) (hs : s.head? ≠ some '?') : (slashed gs ++ s).head? ≠ some '?' := by
  cases gs with
  | nil => exact hs
  | cons g gs => simp [slashed]

theorem read_slash (g : Segment) (gs : List Segment) (hf : st.flags = {}) :
    st.read (slashed (g :: gs) ++ s) = (st.add ⟨.literal ['/'], 0⟩).read (g.pattern ++ (slashed gs ++ s)) := by
  rw [slashed, List.flatMap_cons, List.cons_append, List.cons_append, ReadState.read_plain hf slash_notMem_specials,
    List.append_assoc, ← slashed]

/-- **What segments do to the state of reading.** -/
theorem read_slashed : ∀ {gs : List Segment} {st : ReadState}, (∀ g ∈ gs, g.Proper) → st.flags = {} →
    s.head? ≠ some '?' → NamesFit st.names gs → st.read (slashed gs ++ s) = (afterAll st gs).read s
  | [], _, _, _, _, _ => rfl
  | g :: gs, st, hg, hf, hs, hn => by
    have hadds := Segment.adds_after (st.add ⟨.literal ['/'], 0⟩) g
    have hslash : (st.add ⟨.literal ['/'], 0⟩).flags = {} := hf
    have hfit : Segment.NameFits (st.add ⟨.literal ['/'], 0⟩) g := hn.1
    have hrest : NamesFit (Segment.after (st.add ⟨.literal ['/'], 0⟩) g).names gs := by
      rw [hadds.names]
      exact hn.2
    rw [read_slash g gs hf, Segment.read_pattern (hg g List.mem_cons_self) hslash (head?_slashed gs hs) hfit]
    exact read_slashed (fun h hm => hg h (List.mem_cons_of_mem _ hm)) (hadds.flags.trans hf) hs hrest

theorem read_slashed_eq_none : ∀ {gs : List Segment} {st : ReadState}, (∀ g ∈ gs, g.Proper) → st.flags = {} →
    s.head? ≠ some '?' → ¬ NamesFit st.names gs → st.read (slashed gs ++ s) = none
  | [], _, _, _, _, hn => absurd trivial hn
  | g :: gs, st, hg, hf, hs, hn => by
    have hadds := Segment.adds_after (st.add ⟨.literal ['/'], 0⟩) g
    have hslash : (st.add ⟨.literal ['/'], 0⟩).flags = {} := hf
    rw [read_slash g gs hf]
    by_cases hfit : Segment.NameFits (st.add ⟨.literal ['/'], 0⟩) g
    · rw [Segment.read_pattern (hg g List.mem_cons_self) hslash (head?_slashed gs hs) hfit]
      refine read_slashed_eq_none (fun h hm => hg h (List.mem_cons_of_mem _ hm)) (hadds.flags.trans hf) hs
        fun hrest => hn ⟨hfit, ?_⟩
      rwa [hadds.names] at hrest
    · exact Segment.read_pattern_eq_none (hg g List.mem_cons_self) hslash hfit

end

/-- The parts that segments add, where `k` groups stand before them. -/
def forms : Nat → List Segment → List Form
  | _, [] => []
  | k, g :: gs => .literal ['/'] :: (g.forms (k + 1) ++ forms (k + g.captures.toNat) gs)

theorem forms_afterAll : ∀ (gs : List Segment) (st : ReadState),
    (afterAll st gs).forms = st.forms ++ forms st.groupCount gs ∧ (afterAll st gs).branches = st.branches ∧
      (afterAll st gs).flags = st.flags
  | [], st => by simp [afterAll, forms]
  | g :: gs, st => by
    have hadds := Segment.adds_after (st.add ⟨.literal ['/'], 0⟩) g
    obtain ⟨hforms, hbranches, hflags⟩ := forms_afterAll gs (Segment.after (st.add ⟨.literal ['/'], 0⟩) g)
    rw [afterAll]
    refine ⟨?_, hbranches.trans hadds.branches, hflags.trans hadds.flags⟩
    rw [hforms, hadds.forms, hadds.groupCount, ReadState.forms_add, forms]
    simp [ReadState.add]

def pathForms (gs : List Segment) : List Form :=
  .assert .textStart :: (forms 0 gs ++ [.assert .textEnd])

/-- **What the pattern of a path reads as.** -/
theorem parse?_pattern {gs : List Segment} {r : Regex} (hg : ∀ g ∈ gs, g.Proper) (hne : gs ≠ [])
    (h : Regex.parse? (String.ofList (pattern gs)) = some r) :
    NamesFit [] gs ∧ r = (Form.alts [Form.cats (pathForms gs)]).toRegex := by
  rw [Regex.parse?, String.toList_ofList, pattern_eq hne, ReadState.read_caret rfl] at h
  generalize hst : (({} : ReadState).add ⟨.assert .textStart, 0⟩) = st at h
  have hflags : st.flags = {} := by rw [← hst]; rfl
  have hnames : st.names = [] := by rw [← hst]; rfl
  have hfit : NamesFit st.names gs := Classical.byContradiction fun hn => by
    rw [read_slashed_eq_none hg hflags (by simp) hn] at h
    cases h
  obtain ⟨hforms, hbranches, hkeep⟩ := forms_afterAll gs st
  have hdollar : ((afterAll st gs).add ⟨.assert .textEnd, 0⟩).flags = {} := hkeep.trans hflags
  have hfinished : ((afterAll st gs).add ⟨.assert .textEnd, 0⟩).branches = [] := by
    refine hbranches.trans ?_
    rw [← hst]
    rfl
  rw [read_slashed hg hflags (by simp) hfit, ReadState.read_dollar (hkeep.trans hflags),
    ReadState.read_nil hdollar] at h
  refine ⟨hnames ▸ hfit, ?_⟩
  rw [ReadState.eq_of_finish hfinished h, ReadState.forms_add, hforms, ← hst]
  rfl

end PathRouter.Route
