import Mathlib.Data.List.Induction
import Mathlib.Data.List.Nodup
import PathRouter.Proofs.Route.Spelling
/-!
# Runs of wildcards

A run of the same wildcard is written in a pattern as one wildcard, so a path should be compiled to the same pattern
with all its runs squeezed.  It reads as the same segments with squeezed alternatives (`read?_squeeze`), and squeezed
alternatives are written alike (`expand_squeeze`).

But repeated alternatives are dropped before runs are squeezed.  Two alternatives that differ in their runs alone are
both written, and in the squeezed path they are one.  `compile_squeezed` says that this is the only difference.
-/
namespace PathRouter

/-! ## Lists without repetitions -/

section

variable {α β : Type} [BEq α] [LawfulBEq α] [BEq β] [LawfulBEq β]

theorem eraseDups_concat (l : List α) (a : α) :
    (l ++ [a]).eraseDups = l.eraseDups ++ if a ∈ l then [] else [a] := by
  rw [List.eraseDups_append]
  split <;> rename_i ha <;> simp [List.removeAll, ha, List.eraseDups_cons]

theorem nodup_eraseDups (l : List α) : l.eraseDups.Nodup := by
  induction l using List.reverseRecOn with
  | nil => exact List.nodup_nil
  | append_singleton l a ih =>
    rw [eraseDups_concat]
    split
    · rwa [List.append_nil]
    · rename_i ha
      refine List.nodup_append.2 ⟨ih, List.nodup_singleton a, fun b hb c hc hbc => ha ?_⟩
      rwa [← List.mem_singleton.1 hc, ← hbc, ← List.mem_eraseDups]

theorem eraseDups_of_nodup {l : List α} (h : l.Nodup) : l.eraseDups = l := by
  induction l using List.reverseRecOn with
  | nil => rfl
  | append_singleton l a ih =>
    obtain ⟨hl, -, hdisjoint⟩ := List.nodup_append.1 h
    have ha : a ∉ l := fun hm => hdisjoint a hm a (List.mem_singleton_self a) rfl
    rw [eraseDups_concat, ih hl, if_neg ha]

theorem eraseDups_sublist (l : List α) : l.eraseDups.Sublist l := by
  induction l using List.reverseRecOn with
  | nil => exact List.Sublist.refl []
  | append_singleton l a ih =>
    rw [eraseDups_concat]
    split
    · exact ih.append (List.nil_sublist _)
    · exact ih.append (List.Sublist.refl _)

/-- Where nothing is dropped, nothing was repeated. -/
theorem nodup_of_length_eraseDups {l : List α} (h : l.eraseDups.length = l.length) : l.Nodup := by
  rw [← (eraseDups_sublist l).eq_of_length h]
  exact nodup_eraseDups l

theorem eraseDups_map_eraseDups (f : α → β) (l : List α) : (l.eraseDups.map f).eraseDups = (l.map f).eraseDups := by
  induction l using List.reverseRecOn with
  | nil => rfl
  | append_singleton l a ih =>
    rw [eraseDups_concat, List.map_append, List.map_append, List.map_singleton, eraseDups_concat]
    split
    · rename_i ha
      rw [List.map_nil, List.append_nil, ih, if_pos (List.mem_map_of_mem ha), List.append_nil]
    · have hmem : f a ∈ l.eraseDups.map f ↔ f a ∈ l.map f := by simp only [List.mem_map, List.mem_eraseDups]
      rw [List.map_singleton, eraseDups_concat, ih, if_congr hmem rfl rfl]

end

namespace Segment

/-! ## Squeezed texts -/

section

variable {c : Char} {s w : List Char}

theorem squeeze_cons (hc : isWildcard c = false) (s : List Char) : squeeze (c :: s) = c :: squeeze s := by
  cases s with
  | nil => rfl
  | cons b s => simp [squeeze, hc]

/-- A character that is no wildcard stands between runs. -/
theorem squeeze_append_cons (hc : isWildcard c = false) (s : List Char) :
    ∀ a : List Char, squeeze (a ++ c :: s) = squeeze a ++ c :: squeeze s
  | [] => squeeze_cons hc s
  | [x] => by
    have hne : ¬ (x = c ∧ isWildcard x = true) := fun ⟨heq, hx⟩ => by simp [heq, hc] at hx
    rw [List.singleton_append, squeeze, if_neg hne, squeeze_cons hc]
    rfl
  | x :: y :: a => by
    have ih := squeeze_append_cons hc s (y :: a)
    rw [List.cons_append, List.cons_append, squeeze, squeeze, ← List.cons_append, ih]
    split <;> rfl

theorem squeeze_append_left {n : List Char} (hn : ∀ c ∈ n, isWildcard c = false) (s : List Char) :
    squeeze (n ++ s) = n ++ squeeze s := by
  induction n with
  | nil => rfl
  | cons c n ih =>
    obtain ⟨hc, hn⟩ := List.forall_mem_cons.1 hn
    rw [List.cons_append, squeeze_cons hc, ih hn, List.cons_append]

theorem squeeze_eq_self {n : List Char} (hn : ∀ c ∈ n, isWildcard c = false) : squeeze n = n := by
  have hname := squeeze_append_left hn []
  rwa [List.append_nil, show squeeze [] = [] from rfl, List.append_nil] at hname

theorem squeeze_intercalate {sep : Char} (hsep : isWildcard sep = false) :
    ∀ ws : List (List Char), squeeze ([sep].intercalate ws) = [sep].intercalate (ws.map squeeze)
  | [] => rfl
  | [w] => by rw [List.intercalate_singleton, List.map_singleton, List.intercalate_singleton]
  | w :: v :: ws => by
    have ih := squeeze_intercalate hsep (v :: ws)
    rw [List.intercalate_cons_cons, List.append_assoc, List.singleton_append, squeeze_append_cons hsep, ih]
    rw [List.map_cons, List.map_cons, List.map_cons, List.intercalate_cons_cons, List.append_assoc]
    rfl

/-- **Squeezing does not go over a separator**, so the parts of a squeezed text are the squeezed parts. -/
theorem splitOn_squeeze {sep : Char} (hsep : isWildcard sep = false) (s : List Char) :
    (squeeze s).splitOn sep = (s.splitOn sep).map squeeze := by
  have hjoin := squeeze_intercalate hsep (s.splitOn sep)
  rw [List.intercalate_splitOn] at hjoin
  rw [hjoin, List.splitOn_intercalate]
  · intro w hw
    obtain ⟨part, hpart, rfl⟩ := List.mem_map.1 hw
    rw [mem_squeeze_iff]
    exact notMem_of_mem_splitOn hpart
  · rw [ne_eq, List.map_eq_nil_iff]
    exact List.splitOn_ne_nil _ _

theorem head?_squeeze : ∀ s : List Char, (squeeze s).head? = s.head?
  | [] | [_] => rfl
  | a :: b :: s => by
    rw [squeeze]
    split
    · rename_i h
      rw [head?_squeeze (b :: s), h.1]
      rfl
    · rfl

theorem getLast?_squeeze : ∀ s : List Char, (squeeze s).getLast? = s.getLast?
  | [] | [_] => rfl
  | a :: b :: s => by
    have ih := getLast?_squeeze (b :: s)
    rw [squeeze, List.getLast?_cons_cons, ← ih]
    split
    · rfl
    · obtain ⟨t, ht⟩ := List.head?_eq_some_iff.1 (head?_squeeze (b :: s))
      rw [ht, List.getLast?_cons_cons]

theorem squeeze_squeeze : ∀ s : List Char, squeeze (squeeze s) = squeeze s
  | [] | [_] => rfl
  | a :: b :: s => by
    have ih := squeeze_squeeze (b :: s)
    rw [squeeze]
    split
    · exact ih
    · rename_i h
      obtain ⟨t, ht⟩ := List.head?_eq_some_iff.1 (head?_squeeze (b :: s))
      rw [ht] at ih ⊢
      rw [squeeze, if_neg h, ih]

theorem expand_squeeze (w : List Char) : expand none (squeeze w) = expand none w := by
  rw [expand_none, expand_none, squeeze_squeeze]

theorem isAlternative_squeeze (hw : IsAlternative w) : IsAlternative (squeeze w) :=
  ⟨squeeze_ne_nil hw.1, fun c hc => hw.2 c (mem_squeeze_iff.1 hc)⟩

end

/-! ## Squeezed segments -/

/-- A segment with its alternatives squeezed, and each once. -/
def squeezed (g : Segment) : Segment :=
  ⟨g.name, (g.alternatives.map squeeze).eraseDups⟩

theorem squeezed_words (name : Option (List Char)) (words : List (List Char)) :
    squeezed ⟨name, words.eraseDups⟩ = ⟨name, (words.map squeeze).eraseDups⟩ := by
  rw [squeezed, eraseDups_map_eraseDups]

section

variable {s : List Char} {words : List (List Char)} {g : Segment}

theorem isAlternative_map_squeeze (hw : ∀ w ∈ words, IsAlternative w) : ∀ w ∈ words.map squeeze, IsAlternative w :=
  List.forall_mem_map.2 fun w h => isAlternative_squeeze (hw w h)

theorem form_squeeze (h : VariableForm s g) : VariableForm (squeeze s) g.squeezed := by
  have hbar : isWildcard '|' = false := by decide
  have hdollar : isWildcard '$' = false := by decide
  -- A name has no runs, so it ends where it ended before.
  have hplain : ∀ {n : List Char}, IsName n → ∀ c ∈ n, isWildcard c = false := fun hn c hc =>
    isWildcard_of_isNameChar (hn.2 c hc)
  cases h with
  | plain hn =>
    rw [squeeze_eq_self (hplain hn)]
    exact .plain hn
  | loneDollar hn =>
    rw [squeeze_append_left (hplain hn)]
    exact .loneDollar hn
  | @spec name words hn hne hw =>
    rw [squeeze_append_left (hplain hn), squeeze_cons hdollar, squeeze_intercalate hbar, squeezed_words]
    exact .spec hn (by simpa using hne) (isAlternative_map_squeeze hw)
  | @noDollar name c s words hn hc hs hne hw =>
    obtain ⟨t, ht⟩ := List.head?_eq_some_iff.1 (head?_squeeze (c :: s))
    have hjoin := squeeze_intercalate hbar words
    rw [hs, ht] at hjoin
    rw [squeeze_append_left (hplain hn), ht, squeezed_words]
    exact .noDollar hn hc hjoin.symm (by simpa using hne) (isAlternative_map_squeeze hw)
  | @bar name c words hn hc hne hw =>
    rw [squeeze_append_left (hplain hn), squeeze_cons (isWildcard_of_isNameChar hc), squeeze_cons hbar,
      squeeze_intercalate hbar, squeezed_words]
    exact .bar hn hc (by simpa using hne) (isAlternative_map_squeeze hw)

/-- **A squeezed segment reads as the segment with squeezed alternatives.** -/
theorem read?_squeeze (h : read? s = some g) : read? (squeeze s) = some g.squeezed := by
  unfold read? at h
  split at h
  · rw [squeeze_cons (by decide), read?]
    exact readVariable?_of_form (form_squeeze (form_of_readVariable? h))
  · rename_i hcolon
    obtain ⟨alts, ha, rfl⟩ := Option.map_eq_some_iff.1 h
    obtain ⟨words, hne, hw, rfl, rfl⟩ := readSpec?_eq_some_iff.1 ha
    have hspec := readSpec?_eq_some_iff.2 ⟨_, by simpa using hne, isAlternative_map_squeeze hw,
      squeeze_intercalate (by decide) words, rfl⟩
    have hhead : (squeeze (['|'].intercalate words)).head? ≠ some ':' := by
      rw [head?_squeeze]
      intro hh
      obtain ⟨t, ht⟩ := List.head?_eq_some_iff.1 hh
      exact hcolon t ht
    rw [read?_unnamed hhead, hspec, squeezed_words]
    rfl

end

/-! ## Patterns of squeezed segments -/

/-- No two alternatives differ in their runs alone. -/
def ToldApart (g : Segment) : Prop :=
  (g.alternatives.map squeeze).Nodup

instance : DecidablePred ToldApart := fun g => inferInstanceAs (Decidable (g.alternatives.map squeeze).Nodup)

section

variable {g : Segment}

theorem bar_notMem_expand {w : List Char} (hw : IsAlternative w) : '|' ∉ expand none w :=
  notMem_expand isSpecChar_bar (by decide) hw

theorem map_expand_squeeze (ws : List (List Char)) : (ws.map squeeze).map (expand none) = ws.map (expand none) := by
  rw [List.map_map]
  exact List.map_congr_left fun w _ => expand_squeeze w

theorem proper_squeezed (hg : g.Proper) : g.squeezed.Proper :=
  proper_of_words hg.name (by simpa using hg.alternatives_ne) (isAlternative_map_squeeze hg.alternatives)

theorem hasWildcard_squeezed (g : Segment) : g.squeezed.hasWildcard = g.hasWildcard := by
  rw [hasWildcard, hasWildcard, Bool.eq_iff_iff, List.any_eq_true, List.any_eq_true]
  simp [squeezed, mem_squeeze_iff]

theorem squeeze_alternatives (h : g.hasWildcard = false) : g.alternatives.map squeeze = g.alternatives := by
  rw [hasWildcard, List.any_eq_false] at h
  refine (List.map_congr_left fun w hw => ?_).trans (List.map_id _)
  have hplain := h w hw
  rw [Bool.not_eq_true, List.any_eq_false] at hplain
  exact squeeze_eq_self fun c hc => by simpa using hplain c hc

/-- The alternatives can be told from what is written for them, so none was dropped. -/
theorem toldApart_of_choice (hg : g.Proper) (h : g.squeezed.choice = g.choice) : g.ToldApart := by
  -- Bars stand between alternatives only, so they count them.
  have hwritten : ∀ {g : Segment}, g.Proper → g.choice.splitOn '|' = g.alternatives.map (expand none) := fun hg => by
    refine List.splitOn_intercalate _ (List.forall_mem_map.2 fun w hw => ?_) (by simpa using hg.alternatives_ne)
    exact bar_notMem_expand (hg.alternatives w hw)
  have hlength := congrArg List.length (congrArg (List.splitOn '|') h)
  rw [hwritten (proper_squeezed hg), hwritten hg, List.length_map, List.length_map] at hlength
  exact nodup_of_length_eraseDups (by rwa [List.length_map])

/-- **A segment and the squeezed one have one pattern** exactly if the alternatives can be told apart when squeezed. -/
theorem pattern_squeezed_iff (hg : g.Proper) (hnodup : g.alternatives.Nodup) :
    g.squeezed.pattern = g.pattern ↔ g.ToldApart := by
  constructor
  · intro h
    unfold pattern at h
    rw [hasWildcard_squeezed] at h
    cases hname : g.name with
    | some n =>
      have hname' : g.squeezed.name = some n := hname
      simp only [hname, hname'] at h
      exact toldApart_of_choice hg (by simpa using h)
    | none =>
      have hname' : g.squeezed.name = none := hname
      simp only [hname, hname'] at h
      by_cases hwild : g.hasWildcard = true
      · rw [if_pos hwild, if_pos hwild] at h
        exact toldApart_of_choice hg (by simpa using h)
      · -- Without wildcards there is nothing to squeeze.
        rwa [ToldApart, squeeze_alternatives (by simpa using hwild)]
  · intro h
    have halternatives : g.squeezed.alternatives = g.alternatives.map squeeze := eraseDups_of_nodup h
    have hchoice : g.squeezed.choice = g.choice := by rw [choice, choice, halternatives, map_expand_squeeze]
    have hlength : g.squeezed.alternatives.length = g.alternatives.length := by rw [halternatives, List.length_map]
    rw [pattern, pattern, hasWildcard_squeezed, hchoice, hlength]
    rfl

theorem nodup_of_read? {s : List Char} (h : read? s = some g) : g.alternatives.Nodup := by
  unfold read? at h
  split at h
  · cases form_of_readVariable? h with
    | plain | loneDollar => exact List.nodup_singleton _
    | spec | noDollar | bar => exact nodup_eraseDups _
  · obtain ⟨alts, ha, rfl⟩ := Option.map_eq_some_iff.1 h
    obtain ⟨words, -, -, -, rfl⟩ := readSpec?_eq_some_iff.1 ha
    exact nodup_eraseDups words

end

end Segment

namespace Route

open Segment (squeeze)

/-! ## Squeezed paths -/

theorem segments_squeeze (path : List Char) : segments (squeeze path) = (segments path).map squeeze := by
  have hempty : (fun s : List Char => !s.isEmpty) ∘ squeeze = fun s => !s.isEmpty := by
    funext s
    cases s with
    | nil => rfl
    | cons c s => simp [Segment.squeeze_ne_nil]
  rw [segments, Segment.splitOn_squeeze (by decide), List.filter_map, hempty]
  rfl

/-- **A squeezed path reads as the squeezed segments.** -/
theorem declared_squeeze {path : List Char} {gs : List Segment} (h : declared path = .ok gs) :
    declared (squeeze path) = .ok (gs.map Segment.squeezed) := by
  obtain ⟨hroot, hlast, hmap⟩ := declared_eq_ok_iff.1 h
  refine declared_eq_ok_iff.2 ⟨by rwa [Segment.head?_squeeze], by rwa [Segment.getLast?_squeeze], ?_⟩
  have hread : ∀ s ∈ segments path, Segment.read? (squeeze s) = (Segment.read? s).map Segment.squeezed := by
    intro s hs
    obtain ⟨g, -, hg⟩ := (partners_of_read hmap).1 s hs
    rw [hg, Segment.read?_squeeze hg]
    rfl
  have hsqueezed := congrArg (List.map (Option.map Segment.squeezed)) hmap
  rw [List.map_map, List.map_map] at hsqueezed
  rw [segments_squeeze, List.map_map, List.map_map]
  exact (List.map_congr_left hread).trans hsqueezed

/-- The pattern of a path shows the patterns of its segments. -/
theorem pattern_inj {gs gs' : List Segment} (hne : gs ≠ []) (hne' : gs' ≠ []) (hg : ∀ g ∈ gs, g.Proper)
    (hg' : ∀ g ∈ gs', g.Proper) : pattern gs = pattern gs' ↔ gs.map Segment.pattern = gs'.map Segment.pattern := by
  have hparts : ∀ {gs : List Segment}, gs ≠ [] → (∀ g ∈ gs, g.Proper) →
      (['/'].intercalate (gs.map Segment.pattern)).splitOn '/' = gs.map Segment.pattern := fun hne hg =>
    List.splitOn_intercalate _ (List.forall_mem_map.2 fun g hm => Segment.slash_notMem_pattern (hg g hm))
      (by simpa using hne)
  constructor
  · intro h
    have hjoined := List.append_cancel_left (List.append_cancel_right h)
    rw [← hparts hne hg, hjoined, hparts hne' hg']
  · intro h
    rw [pattern, pattern, h]

/-- **What becomes of a path with squeezed runs.**  The squeezed path of a path that is compiled is compiled as well: its
segments have the same names and the squeezed alternatives, each once.  It is compiled to the same pattern exactly if no
segment has two alternatives that differ in their runs alone. -/
theorem compile_squeezed {path pattern : String} (h : compile path = .ok pattern) :
    ∃ gs, declared path.toList = .ok gs ∧
      compile (String.ofList (squeeze path.toList)) = .ok (String.ofList (Route.pattern (gs.map Segment.squeezed))) ∧
      (compile (String.ofList (squeeze path.toList)) = .ok pattern ↔ ∀ g ∈ gs, g.ToldApart) := by
  obtain ⟨gs, hdeclared, rfl⟩ := declared_of_compile h
  obtain ⟨hmap, hne, hproper⟩ := segments_of_declared hdeclared
  have hsqueezed : compile (String.ofList (squeeze path.toList)) =
      .ok (String.ofList (Route.pattern (gs.map Segment.squeezed))) :=
    compile_of_ok (by rw [String.toList_ofList, declared_squeeze hdeclared])
  have hproper' : ∀ g ∈ gs.map Segment.squeezed, g.Proper :=
    List.forall_mem_map.2 fun g hg => Segment.proper_squeezed (hproper g hg)
  have hnodup : ∀ g ∈ gs, g.alternatives.Nodup := by
    intro g hg
    obtain ⟨s, -, hs⟩ := (partners_of_read hmap).2 g hg
    exact Segment.nodup_of_read? hs
  refine ⟨gs, hdeclared, hsqueezed, ?_⟩
  rw [hsqueezed, Except.ok.injEq, String.ofList_inj, pattern_inj (by simpa using hne) hne hproper' hproper, List.map_map,
    List.map_inj_left]
  exact forall₂_congr fun g hg => Segment.pattern_squeezed_iff (hproper g hg) (hnodup g hg)

theorem pages_squeezed :
    compile "/a**b|c++/:n$d***" = .ok "^/(a[\\w\\d\\-_]*b|c[\\w\\d\\-_]+)/(?<n>d[\\w\\d\\-_]*)$" ∧
      compile "/a*b|c+/:n$d*" = compile "/a**b|c++/:n$d***" := by
  have haccepted :
      compile "/a**b|c++/:n$d***" = .ok "^/(a[\\w\\d\\-_]*b|c[\\w\\d\\-_]+)/(?<n>d[\\w\\d\\-_]*)$" := by
    decide +kernel
  have hread : declared "/a**b|c++/:n$d***".toList =
      .ok [⟨none, ["a**b".toList, "c++".toList]⟩, ⟨some "n".toList, ["d***".toList]⟩] := by
    decide +kernel
  have hpath : String.ofList (squeeze "/a**b|c++/:n$d***".toList) = "/a*b|c+/:n$d*" := by decide +kernel
  obtain ⟨gs, hdeclared, -, hiff⟩ := compile_squeezed haccepted
  obtain rfl := Except.ok.inj (hdeclared.symm.trans hread)
  rw [hpath] at hiff
  exact ⟨haccepted, (hiff.2 (by decide +kernel)).trans haccepted.symm⟩

/-- One alternative with a run and without one is written twice. -/
theorem run_written_twice :
    compile "/a**|a*" = .ok "^/(a[\\w\\d\\-_]*|a[\\w\\d\\-_]*)$" ∧
      String.ofList (squeeze "/a**|a*".toList) = "/a*|a*" ∧
      compile "/a*|a*" = .ok "^/(a[\\w\\d\\-_]*)$" ∧ compile "/a*|a*" ≠ compile "/a**|a*" := by
  decide +kernel

end Route
end PathRouter
