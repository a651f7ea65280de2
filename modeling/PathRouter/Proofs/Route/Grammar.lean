import PathRouter.Proofs.Route.Pattern
/-!
# The language of segments

A segment is written as a heading, which may be missing, and then as alternatives between bars, which may be missing as
well (`InGrammar`).  The heading is a colon and a name, and it may end with a dollar.

Reading a segment has to decide where the heading ends, for names and alternatives share characters.  It loses nothing by
the way it decides: `isSome_read?_iff` says that a segment is read exactly when there is some place for the heading to
end.  `compile_outcome` says what becomes of a path: which of its faults is reported, that every segment outside the
language is reported, and what the pattern of an accepted path is made of.
-/
namespace PathRouter.Segment

/-! ## Written segments -/

/-- What can stand before the alternatives. -/
inductive Heading : List Char → Prop
  | missing : Heading []
  | name {n : List Char} : IsName n → Heading (':' :: n)
  | dollar {n : List Char} : IsName n → Heading (':' :: (n ++ ['$']))

/-- Alternatives between bars, or nothing. -/
inductive Choices : List Char → Prop
  | missing : Choices []
  | words {ws : List (List Char)} : ws ≠ [] → (∀ w ∈ ws, IsAlternative w) → Choices (['|'].intercalate ws)

/-- **The language of segments.** -/
def InGrammar (s : List Char) : Prop :=
  ∃ heading choices, s = heading ++ choices ∧ Heading heading ∧ Choices choices

theorem isSpecChar_colon : isSpecChar ':' = false := by decide

/-- Joining by bars begins with the first of what is joined. -/
theorem intercalate_append (a w : List Char) (ws : List (List Char)) :
    ['|'].intercalate ((a ++ w) :: ws) = a ++ ['|'].intercalate (w :: ws) := by
  cases ws with
  | nil => rw [List.intercalate_singleton, List.intercalate_singleton]
  | cons v ws =>
    rw [List.intercalate_cons_cons, List.intercalate_cons_cons, List.append_assoc, List.append_assoc, List.append_assoc]

theorem choices_cons_bar {c : Char} {words : List (List Char)} (hc : isNameChar c = true) (hne : words ≠ [])
    (hw : ∀ w ∈ words, IsAlternative w) : Choices (c :: '|' :: ['|'].intercalate words) := by
  have hword : IsAlternative [c] := ⟨by simp, by simpa using isSpecChar_of_isNameChar hc⟩
  have hjoin : ['|'].intercalate ([c] :: words) = c :: '|' :: ['|'].intercalate words := by
    rw [List.intercalate_cons_of_ne_nil hne]
    rfl
  rw [← hjoin]
  exact .words (List.cons_ne_nil _ _) (List.forall_mem_cons.2 ⟨hword, hw⟩)

/-! ## What is read is in the language -/

theorem inGrammar_of_form {s : List Char} {g : Segment} (h : VariableForm s g) : InGrammar (':' :: s) := by
  cases h with
  | plain hn => exact ⟨_, [], by rw [List.append_nil], .name hn, .missing⟩
  | spec hn hne hw => exact ⟨_, _, by simp, .dollar hn, .words hne hw⟩
  | loneDollar hn => exact ⟨_, [], by rw [List.append_nil], .dollar hn, .missing⟩
  | noDollar hn hc hs hne hw => exact ⟨_, _, rfl, .name hn, hs ▸ .words hne hw⟩
  | bar hn hc hne hw => exact ⟨_, _, rfl, .name hn, choices_cons_bar hc hne hw⟩

theorem inGrammar_of_read? {s : List Char} {g : Segment} (h : read? s = some g) : InGrammar s := by
  unfold read? at h
  split at h
  · exact inGrammar_of_form (form_of_readVariable? h)
  · obtain ⟨alts, ha, -⟩ := Option.map_eq_some_iff.1 h
    obtain ⟨words, hne, hw, rfl, -⟩ := readSpec?_eq_some_iff.1 ha
    exact ⟨[], _, rfl, .missing, .words hne hw⟩

/-! ## What is in the language is read -/

theorem isName_append {n u : List Char} (hn : IsName n) (hu : ∀ c ∈ u, isNameChar c = true) : IsName (n ++ u) :=
  ⟨List.append_ne_nil_of_left_ne_nil hn.1 u, fun c hc => (List.mem_append.1 hc).elim (hn.2 c) (hu c)⟩

/-- A name and the alternatives after it have a form, wherever the name was taken to end. -/
theorem form_of_name_words {n : List Char} {ws : List (List Char)} (hn : IsName n) (hne : ws ≠ [])
    (hw : ∀ w ∈ ws, IsAlternative w) : ∃ g, VariableForm (n ++ ['|'].intercalate ws) g := by
  obtain ⟨w, ws, rfl⟩ := List.exists_cons_of_ne_nil hne
  obtain ⟨hword, hrest⟩ := List.forall_mem_cons.1 hw
  -- The name goes on to where the name characters of the first alternative end.
  have hsplit : w.takeWhile isNameChar ++ w.dropWhile isNameChar = w := List.takeWhile_append_dropWhile
  have htail := head?_dropWhile w
  have hu : ∀ c ∈ w.takeWhile isNameChar, isNameChar c = true := fun c hc => List.mem_takeWhile_imp hc
  generalize w.takeWhile isNameChar = u at hsplit hu
  generalize w.dropWhile isNameChar = v at hsplit htail
  subst hsplit
  have hname := isName_append hn hu
  cases v with
  | cons c v =>
    have hv : IsAlternative (c :: v) := ⟨List.cons_ne_nil c v, fun d hd => hword.2 d (List.mem_append_right u hd)⟩
    obtain ⟨s, hs⟩ : ∃ s, ['|'].intercalate ((c :: v) :: ws) = c :: s :=
      ⟨_, intercalate_append [c] v ws⟩
    rw [intercalate_append, ← List.append_assoc, hs]
    exact ⟨_, .noDollar hname (htail c rfl) hs (List.cons_ne_nil _ _) (List.forall_mem_cons.2 ⟨hv, hrest⟩)⟩
  | nil =>
    rw [List.append_nil] at hword ⊢
    cases ws with
    | nil =>
      rw [List.intercalate_singleton]
      exact ⟨_, .plain hname⟩
    | cons v ws =>
      -- All of the first alternative belongs to the name but its last character.
      obtain ⟨init, c, rfl⟩ : ∃ init c, u = init ++ [c] := ⟨_, _, (List.dropLast_concat_getLast hword.1).symm⟩
      have hinit : IsName (n ++ init) := isName_append hn fun d hd => hu d (List.mem_append_left _ hd)
      have hjoin : n ++ ['|'].intercalate ((init ++ [c]) :: v :: ws) =
          n ++ init ++ c :: '|' :: ['|'].intercalate (v :: ws) := by
        rw [List.intercalate_cons_cons]
        simp
      rw [hjoin]
      exact ⟨_, .bar hinit (hu c (by simp)) (List.cons_ne_nil _ _) hrest⟩

theorem form_of_name {n choices : List Char} (hn : IsName n) (h : Choices choices) :
    ∃ g, VariableForm (n ++ choices) g := by
  cases h with
  | missing =>
    rw [List.append_nil]
    exact ⟨_, .plain hn⟩
  | words hne hw => exact form_of_name_words hn hne hw

theorem form_of_dollar {n choices : List Char} (hn : IsName n) (h : Choices choices) :
    ∃ g, VariableForm (n ++ (['$'] ++ choices)) g := by
  cases h with
  | missing => exact ⟨_, .loneDollar hn⟩
  | words hne hw => exact ⟨_, .spec hn hne hw⟩

theorem isSome_read?_of_form {s : List Char} (h : ∃ g, VariableForm s g) : (read? (':' :: s)).isSome = true := by
  obtain ⟨g, hg⟩ := h
  rw [read?, readVariable?_of_form hg]
  rfl

theorem isSome_read?_of_words {ws : List (List Char)} (hne : ws ≠ []) (hw : ∀ w ∈ ws, IsAlternative w) :
    (read? (['|'].intercalate ws)).isSome = true := by
  have hspec := readSpec?_eq_some_iff.2 ⟨ws, hne, hw, rfl, rfl⟩
  unfold read?
  split
  · rename_i heq
    have hcolon := isSpecChar_of_intercalate hne hw heq
    rw [isSpecChar_colon] at hcolon
    cases hcolon
  · rw [hspec]
    rfl

/-- **A segment is read exactly when it is in the language.** -/
theorem isSome_read?_iff {s : List Char} (hs : s ≠ []) : (read? s).isSome = true ↔ InGrammar s := by
  constructor
  · intro h
    obtain ⟨g, hg⟩ := Option.isSome_iff_exists.1 h
    exact inGrammar_of_read? hg
  · rintro ⟨heading, choices, rfl, hheading, hchoices⟩
    cases hheading with
    | missing =>
      cases hchoices with
      | missing => exact absurd rfl hs
      | words hne hw => exact isSome_read?_of_words hne hw
    | name hn => exact isSome_read?_of_form (form_of_name hn hchoices)
    | dollar hn =>
      rw [List.cons_append, List.append_assoc]
      exact isSome_read?_of_form (form_of_dollar hn hchoices)

instance : DecidablePred InGrammar := fun s =>
  decidable_of_iff (s = [] ∨ (read? s).isSome = true) <| by
    by_cases hs : s = []
    · subst hs
      exact iff_of_true (.inl rfl) ⟨[], [], rfl, .missing, .missing⟩
    · rw [isSome_read?_iff hs, or_iff_right hs]

/-! ## The pattern of a segment -/

theorem notMem_expand {a : Char} (hspec : isSpecChar a = false) (hclass : a ∉ nameClass.toList) {w : List Char}
    (hw : IsAlternative w) : a ∉ expand none w := by
  rw [expand_none, List.mem_flatMap]
  rintro ⟨c, hc, ha⟩
  have hne : a ≠ c := by
    rintro rfl
    rw [hw.2 a (mem_squeeze_iff.1 hc)] at hspec
    cases hspec
  unfold written at ha
  split at ha
  · rcases List.mem_append.1 ha with h | h
    · exact hclass h
    · exact hne (List.mem_singleton.1 h)
  · split at ha
    · rename_i hdot
      rcases List.mem_cons.1 ha with rfl | h
      · exact hclass (by decide)
      · exact hne ((List.mem_singleton.1 h).trans hdot.symm)
    · exact hne (List.mem_singleton.1 ha)

theorem notMem_intercalate {a : Char} (ha : a ≠ '|') : ∀ {ws : List (List Char)}, (∀ w ∈ ws, a ∉ w) →
    a ∉ ['|'].intercalate ws
  | [], _ => List.not_mem_nil
  | [w], h => by
    rw [List.intercalate_singleton]
    exact h w List.mem_cons_self
  | w :: v :: ws, h => by
    have ih := notMem_intercalate ha fun u hu => h u (List.mem_cons_of_mem w hu)
    rw [List.intercalate_cons_cons, List.mem_append, List.mem_append, List.mem_singleton]
    rintro ((hm | hm) | hm)
    · exact h w List.mem_cons_self hm
    · exact ha hm
    · exact ih hm

theorem slash_notMem_choice {g : Segment} (hg : g.Proper) : '/' ∉ g.choice := by
  refine notMem_intercalate (by decide) fun w hw => ?_
  obtain ⟨a, ha, rfl⟩ := List.mem_map.1 hw
  exact notMem_expand (by decide) (by decide) (hg.alternatives a ha)

theorem slash_notMem_pattern {g : Segment} (hg : g.Proper) : '/' ∉ g.pattern := by
  have hchoice := slash_notMem_choice hg
  unfold pattern
  split
  · rename_i n hn
    have hname : '/' ∉ n := fun h => by
      have := (hg.name n hn).2 _ h
      exact absurd this (by decide)
    simp [hname, hchoice]
  · split
    · simp [hchoice]
    · split
      · simp [hchoice]
      · exact hchoice

theorem choice_ne_nil {g : Segment} (hg : g.Proper) : g.choice ≠ [] := by
  obtain ⟨w, ws, hws⟩ := List.exists_cons_of_ne_nil hg.alternatives_ne
  have hw := (hg.alternatives w (hws ▸ List.mem_cons_self)).1
  obtain ⟨c, v, hv⟩ := List.exists_cons_of_ne_nil (squeeze_ne_nil hw)
  have hne : written c ≠ [] := by
    unfold written
    split
    · simp
    · split <;> simp
  have hexpand : expand none w ≠ [] := by
    rw [expand_none, hv, List.flatMap_cons]
    exact List.append_ne_nil_of_left_ne_nil hne _
  obtain ⟨d, u, hu⟩ := List.exists_cons_of_ne_nil hexpand
  have hjoin : ['|'].intercalate ((d :: u) :: ws.map (expand none)) = d :: ['|'].intercalate (u :: ws.map (expand none)) :=
    intercalate_append [d] u _
  rw [choice, hws, List.map_cons, hu, hjoin]
  exact List.cons_ne_nil _ _

theorem pattern_ne_nil {g : Segment} (hg : g.Proper) : g.pattern ≠ [] := by
  unfold pattern
  split
  · simp
  · split
    · simp
    · split
      · simp
      · exact choice_ne_nil hg

end PathRouter.Segment

namespace PathRouter.Route

open Segment (InGrammar)

/-! ## Paths -/

theorem badSegments_eq (path : List Char) : badSegments path = (segments path).filter (fun s => ¬ InGrammar s) := by
  refine List.filter_congr fun s hs => ?_
  have hne : s ≠ [] := by
    obtain ⟨-, h⟩ := List.mem_filter.1 hs
    simpa using h
  have hiff := Segment.isSome_read?_iff hne
  cases hread : Segment.read? s with
  | none =>
    rw [hread] at hiff
    have hnot : ¬ InGrammar s := fun h => by simpa using hiff.2 h
    simp [hnot]
  | some g =>
    rw [hread] at hiff
    simp [hiff.1 rfl]

theorem eq_slash_of_mem_intercalate : ∀ {parts : List (List Char)}, (∀ s ∈ parts, s = []) →
    ∀ c ∈ ['/'].intercalate parts, c = '/'
  | [], _, c, hc => absurd hc List.not_mem_nil
  | [s], h, c, hc => by
    rw [List.intercalate_singleton, h s List.mem_cons_self] at hc
    cases hc
  | s :: t :: parts, h, c, hc => by
    rw [List.intercalate_cons_cons, h s List.mem_cons_self, List.nil_append] at hc
    rcases List.mem_append.1 hc with hc | hc
    · exact List.mem_singleton.1 hc
    · exact eq_slash_of_mem_intercalate (fun u hu => h u (List.mem_cons_of_mem _ hu)) c hc

theorem segments_ne_nil {path : List Char} (hne : path ≠ []) (hlast : path.getLast? ≠ some '/') :
    segments path ≠ [] := by
  intro h
  have hparts : ∀ s ∈ path.splitOn '/', s = [] := by
    rw [segments, List.filter_eq_nil_iff] at h
    intro s hs
    simpa using h s hs
  have hslash := eq_slash_of_mem_intercalate hparts
  rw [List.intercalate_splitOn] at hslash
  refine hlast ?_
  rw [List.getLast?_eq_some_getLast hne, hslash _ (List.getLast_mem hne)]

/-- **What a declared path reads as.** -/
theorem segments_of_declared {path : List Char} {gs : List Segment} (h : declared path = .ok gs) :
    (segments path).map Segment.read? = gs.map some ∧ gs ≠ [] ∧ ∀ g ∈ gs, g.Proper := by
  unfold declared at h
  split at h
  · cases h
  rename_i hroot
  split at h
  · cases h
  rename_i hlast
  split at h
  · cases h
  rename_i hbad
  obtain rfl := Except.ok.inj h
  have hne : path ≠ [] := by
    rintro rfl
    exact hroot (by simp)
  have hread : ∀ s ∈ segments path, ∃ g, Segment.read? s = some g := by
    rw [ne_eq, Decidable.not_not, badSegments, List.filter_eq_nil_iff] at hbad
    intro s hs
    have := hbad s hs
    rw [← Option.isSome_iff_exists]
    simpa [Option.isSome_iff_ne_none] using this
  have hmap : (segments path).map Segment.read? = ((segments path).filterMap Segment.read?).map some := by
    generalize segments path = ss at hread
    induction ss with
    | nil => rfl
    | cons s ss ih =>
      obtain ⟨g, hg⟩ := hread s List.mem_cons_self
      rw [List.map_cons, List.filterMap_cons_some hg, List.map_cons, hg,
        ih fun t ht => hread t (List.mem_cons_of_mem _ ht)]
  refine ⟨hmap, fun hnil => ?_, fun g hg => ?_⟩
  · rw [hnil, List.map_nil, List.map_eq_nil_iff] at hmap
    exact segments_ne_nil hne hlast hmap
  · obtain ⟨s, _, hs⟩ := List.mem_filterMap.1 hg
    exact Segment.proper_of_read? hs

/-- Segments and what they read as are partners. -/
theorem partners_of_read {ss : List (List Char)} {gs : List Segment} (hmap : ss.map Segment.read? = gs.map some) :
    (∀ s ∈ ss, ∃ g ∈ gs, Segment.read? s = some g) ∧ ∀ g ∈ gs, ∃ s ∈ ss, Segment.read? s = some g := by
  constructor
  · intro s hs
    have hread : Segment.read? s ∈ gs.map some := hmap ▸ List.mem_map_of_mem hs
    obtain ⟨g, hg, heq⟩ := List.mem_map.1 hread
    exact ⟨g, hg, heq.symm⟩
  · intro g hg
    have hread : some g ∈ ss.map Segment.read? := hmap ▸ List.mem_map_of_mem hg
    exact List.mem_map.1 hread

/-- **How the pattern of a path is built**: one part for each of its segments, between slashes. -/
structure BuiltFrom (path pattern : List Char) (parts : List (List Char)) : Prop where
  /-- The pattern is bound to both ends, and its parts stand between slashes. -/
  frame : pattern = ['^', '/'] ++ ['/'].intercalate parts ++ ['$']
  /-- There is one part for each segment, in the order of the path: the pattern of that segment. -/
  segments : parts.map some = (segments path).map (fun s => (Segment.read? s).map Segment.pattern)
  /-- No part is empty, and none goes over a slash. -/
  whole : ∀ part ∈ parts, part ≠ [] ∧ '/' ∉ part

theorem builtFrom_of_declared {path : List Char} {gs : List Segment} (h : declared path = .ok gs) :
    BuiltFrom path (pattern gs) (gs.map Segment.pattern) := by
  obtain ⟨hmap, -, hproper⟩ := segments_of_declared h
  refine ⟨rfl, ?_, fun part hpart => ?_⟩
  · have hpatterns := congrArg (List.map (Option.map Segment.pattern)) hmap
    rw [List.map_map, List.map_map] at hpatterns
    rw [List.map_map]
    exact hpatterns.symm
  · obtain ⟨g, hg, rfl⟩ := List.mem_map.1 hpart
    exact ⟨Segment.pattern_ne_nil (hproper g hg), Segment.slash_notMem_pattern (hproper g hg)⟩

/-! ## Results -/

/-- The result is a fault of this kind. -/
def Fails {α : Type} (result : Except RouteFault α) (kind : RouteErrorKind) : Prop :=
  ∃ f, result = .error f ∧ f.kind = kind

theorem fails_error_iff {α : Type} {f : RouteFault} {kind : RouteErrorKind} :
    Fails (.error f : Except RouteFault α) kind ↔ f.kind = kind := by
  constructor
  · rintro ⟨g, hg, hk⟩
    rwa [Except.error.inj hg]
  · intro hk
    exact ⟨f, rfl, hk⟩

theorem not_fails_ok {α : Type} {a : α} {kind : RouteErrorKind} : ¬ Fails (.ok a : Except RouteFault α) kind :=
  fun ⟨_, h, _⟩ => nomatch h

theorem compile_of_error {path : String} {f : RouteFault} (h : declared path.toList = .error f) :
    compile path = .error f := by
  rw [compile, h]
  rfl

theorem compile_of_ok {path : String} {gs : List Segment} (h : declared path.toList = .ok gs) :
    compile path = .ok (String.ofList (pattern gs)) := by
  rw [compile, h]
  rfl

theorem declared_of_bad {path : List Char} (hroot : path.head? = some '/') (hlast : path.getLast? ≠ some '/')
    (hbad : badSegments path ≠ []) :
    declared path = .error (.badSegments ((badSegments path).map String.ofList)) := by
  rw [declared, if_neg (not_not_intro hroot), if_neg hlast, if_pos hbad]

theorem declared_of_good {path : List Char} (hroot : path.head? = some '/') (hlast : path.getLast? ≠ some '/')
    (hbad : badSegments path = []) : declared path = .ok ((segments path).filterMap Segment.read?) := by
  rw [declared, if_neg (not_not_intro hroot), if_neg hlast, if_neg (not_not_intro hbad)]

/-- **What compiling a path comes to.**  A path without a slash in front is reported for that, any other path that ends
with a slash for that, and any other path with a segment outside the language for its segments; every other path is
compiled.  The report of segments names all of those outside the language, each as often as it stands in the path and in
the order of the path, and no others. -/
theorem compile_outcome (path : String) :
    (Fails (compile path) .rootMissing ↔ path.toList.head? ≠ some '/') ∧
    (path.toList.head? = some '/' → (Fails (compile path) .endsWithSlash ↔ path.toList.getLast? = some '/')) ∧
    (path.toList.head? = some '/' → path.toList.getLast? ≠ some '/' →
      (Fails (compile path) .badSegment ↔ ∃ s ∈ segments path.toList, ¬ InGrammar s) ∧
      ((∃ pattern, compile path = .ok pattern) ↔ ∀ s ∈ segments path.toList, InGrammar s)) ∧
    (∀ f, compile path = .error f → f.kind = .badSegment →
      f.message = "Syntax failed to parse the following components:\n\t\t" ++
        "\n\t\t".intercalate (((segments path.toList).filter (fun s => ¬ InGrammar s)).map String.ofList)) ∧
    (∀ pattern, compile path = .ok pattern → ∃ parts, BuiltFrom path.toList pattern.toList parts) := by
  rw [← badSegments_eq]
  have hnil : badSegments path.toList = [] ↔ ∀ s ∈ segments path.toList, InGrammar s := by
    rw [badSegments_eq, List.filter_eq_nil_iff]
    simp
  by_cases hroot : path.toList.head? = some '/'
  · by_cases hlast : path.toList.getLast? = some '/'
    · have hd : declared path.toList = .error .trailingSlash := by
        rw [declared, if_neg (not_not_intro hroot), if_pos hlast]
      rw [compile_of_error hd]
      simp [fails_error_iff, RouteFault.kind, hroot, hlast]
    · by_cases hbad : badSegments path.toList = []
      · have hd := declared_of_good hroot hlast hbad
        have hall := hnil.1 hbad
        rw [compile_of_ok hd]
        refine ⟨by simp [not_fails_ok, hroot], fun _ => by simp [not_fails_ok, hlast], fun _ _ => ⟨?_, ?_⟩, ?_, ?_⟩
        · refine iff_of_false not_fails_ok fun ⟨s, hs, hn⟩ => hn (hall s hs)
        · exact iff_of_true ⟨_, rfl⟩ hall
        · intro f hf
          cases hf
        · intro pattern hp
          obtain rfl := Except.ok.inj hp
          rw [String.toList_ofList]
          exact ⟨_, builtFrom_of_declared hd⟩
      · have hd := declared_of_bad hroot hlast hbad
        have hex : ∃ s ∈ segments path.toList, ¬ InGrammar s := by
          rw [hnil] at hbad
          simpa using hbad
        rw [compile_of_error hd]
        refine ⟨?_, fun _ => ?_, fun _ _ => ⟨?_, ?_⟩, ?_, ?_⟩
        · simp [fails_error_iff, RouteFault.kind, hroot]
        · simp [fails_error_iff, RouteFault.kind, hlast]
        · exact iff_of_true (fails_error_iff.2 rfl) hex
        · exact iff_of_false (fun ⟨_, h⟩ => nomatch h) fun hall => hbad (hnil.2 hall)
        · intro f hf _
          rw [← Except.error.inj hf]
          rfl
        · intro pattern hp
          cases hp
  · have hd : declared path.toList = .error .noRoot := by rw [declared, if_pos hroot]
    rw [compile_of_error hd]
    simp [fails_error_iff, RouteFault.kind, hroot]

end PathRouter.Route
