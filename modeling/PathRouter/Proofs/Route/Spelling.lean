import PathRouter.Proofs.Route.Grammar
import PathRouter.Proofs.Text.Separator
/-!
# Spellings that make no difference

Some things can be written in a path or left out of it: a slash after a slash, a spec that says what is taken without
one, and an alternative that the segment has already (`Respelled`).  Slashes leave the segments of the path as they are
(`segments_squeezeSlashes`), and the others leave what a segment reads as (`read?_respelled`).  A path is compiled from
what its segments read as, so the pattern is the same (`compile_respelled`).
-/
namespace PathRouter

theorem eraseDups_repeated {α : Type} [BEq α] [LawfulBEq α] {xs ys : List α} {a : α} (h : a ∈ xs) :
    (xs ++ a :: ys).eraseDups = (xs ++ ys).eraseDups := by
  rw [List.eraseDups_append, List.eraseDups_append]
  have hremove : (a :: ys).removeAll xs = ys.removeAll xs := by simp [List.removeAll, h]
  rw [hremove]

namespace Segment

/-- **A segment written in another way**: a variable with the default spec, and a segment without one of its
alternatives that has stood before. -/
inductive Respelled : List Char → List Char → Prop
  | plain {name : List Char} : IsName name → Respelled (':' :: name) (':' :: (name ++ '$' :: defaultSpec.toList))
  | loneDollar {name : List Char} : IsName name →
      Respelled (':' :: (name ++ ['$'])) (':' :: (name ++ '$' :: defaultSpec.toList))
  | unnamed {spec w : List Char} {ws vs : List (List Char)} : spec.head? ≠ some ':' →
      spec.splitOn '|' = ws ++ w :: vs → w ∈ ws → Respelled spec (['|'].intercalate (ws ++ vs))
  | named {name spec w : List Char} {ws vs : List (List Char)} : IsName name →
      spec.splitOn '|' = ws ++ w :: vs → w ∈ ws →
      Respelled (':' :: (name ++ '$' :: spec)) (':' :: (name ++ '$' :: ['|'].intercalate (ws ++ vs)))

section

variable {spec w : List Char} {ws vs : List (List Char)}

/-- A text without a bar has one alternative, and that one is in front of no other. -/
theorem ne_nil_of_repeated (hspec : spec.splitOn '|' = ws ++ w :: vs) (hw : w ∈ ws) : spec ≠ [] := by
  rintro rfl
  have hlength := congrArg List.length hspec
  have hpos := List.length_pos_of_mem hw
  simp only [List.splitOn_nil, List.length_append, List.length_cons, List.length_nil] at hlength
  omega

theorem Respelled.ne_nil {s s' : List Char} (h : Respelled s s') : s ≠ [] := by
  cases h with
  | unnamed _ hspec hw => exact ne_nil_of_repeated hspec hw
  | _ => exact List.cons_ne_nil _ _

/-- Alternatives read the same without one that has stood before. -/
theorem readSpec?_repeated (hspec : spec.splitOn '|' = ws ++ w :: vs) (hw : w ∈ ws) :
    readSpec? (['|'].intercalate (ws ++ vs)) = readSpec? spec := by
  have hbar : ∀ v ∈ ws ++ vs, '|' ∉ v := fun v hv => notMem_of_mem_splitOn (s := spec) <| by
    rw [hspec]
    rcases List.mem_append.1 hv with hv | hv
    · exact List.mem_append_left _ hv
    · exact List.mem_append_right _ (List.mem_cons_of_mem _ hv)
  have hne : ws ++ vs ≠ [] := List.append_ne_nil_of_left_ne_nil (List.ne_nil_of_mem hw) vs
  have hall : ∀ p : List Char → Bool, (ws ++ w :: vs).all p = (ws ++ vs).all p := by
    intro p
    rw [Bool.eq_iff_iff, List.all_eq_true, List.all_eq_true]
    simp only [List.mem_append, List.mem_cons]
    constructor
    · exact fun h v hv => h v (hv.imp_right .inr)
    · rintro h v (hv | rfl | hv)
      · exact h v (.inl hv)
      · exact h v (.inl hw)
      · exact h v (.inr hv)
  rw [readSpec?, readSpec?, List.splitOn_intercalate _ hbar hne, hspec, eraseDups_repeated hw, hall]

theorem head?_intercalate_colon (v : List Char) (vs : List (List Char)) :
    (['|'].intercalate (v :: vs)).head? = some ':' ↔ v.head? = some ':' := by
  cases vs with
  | nil => rw [List.intercalate_singleton]
  | cons u vs =>
    rw [List.intercalate_cons_cons]
    cases v with
    | nil => simp
    | cons c v => simp

theorem head?_repeated (hspec : spec.splitOn '|' = ws ++ w :: vs) (hw : w ∈ ws) :
    (['|'].intercalate (ws ++ vs)).head? = some ':' ↔ spec.head? = some ':' := by
  obtain ⟨v, ws, rfl⟩ := List.exists_cons_of_ne_nil (List.ne_nil_of_mem hw)
  have hjoin : ['|'].intercalate (spec.splitOn '|') = spec := List.intercalate_splitOn _
  rw [← hjoin, hspec, List.cons_append, List.cons_append, head?_intercalate_colon, head?_intercalate_colon]

theorem read?_unnamed {s : List Char} (h : s.head? ≠ some ':') :
    read? s = (readSpec? s).map (fun alts => ⟨none, alts⟩) := by
  unfold read?
  split
  · exact absurd rfl h
  · rfl

theorem readVariable?_dollar {name : List Char} (hn : IsName name) (hspec : spec ≠ []) :
    readVariable? (name ++ '$' :: spec) = (readSpec? spec).map (fun alts => ⟨some name, alts⟩) := by
  have hdollar : ∀ c ∈ ('$' :: spec).head?, isNameChar c = false := by simp [isNameChar_dollar]
  obtain ⟨c, spec, rfl⟩ := List.exists_cons_of_ne_nil hspec
  unfold readVariable?
  rw [takeWhile_name hn hdollar, dropWhile_name hn hdollar]
  simp [hn.1]

end

theorem readSpec?_nil : readSpec? [] = none := by decide

/-- **A segment written in another way reads the same.** -/
theorem read?_respelled {s s' : List Char} {g : Segment} (h : Respelled s s') (hs : read? s = some g) :
    read? s' = some g := by
  have hdefault : ∀ {name : List Char}, IsName name →
      readVariable? (name ++ '$' :: defaultSpec.toList) = some ⟨some name, [defaultSpec.toList]⟩ := fun hn =>
    readVariable?_dollar hn (by decide)
  cases h with
  | plain hn =>
    rw [read?, readVariable?_of_form (.plain hn)] at hs
    rw [read?, hdefault hn, hs]
  | loneDollar hn =>
    rw [read?, readVariable?_of_form (.loneDollar hn)] at hs
    rw [read?, hdefault hn, hs]
  | unnamed hcolon hspec hw =>
    have hcolon' := fun h => hcolon ((head?_repeated hspec hw).1 h)
    rw [read?_unnamed hcolon', readSpec?_repeated hspec hw, ← read?_unnamed hcolon, hs]
  | @named name spec w ws vs hn hspec hw =>
    rw [read?, readVariable?_dollar hn (ne_nil_of_repeated hspec hw)] at hs
    have hne' : ['|'].intercalate (ws ++ vs) ≠ [] := by
      intro hnil
      rw [← readSpec?_repeated hspec hw, hnil, readSpec?_nil] at hs
      cases hs
    rw [read?, readVariable?_dollar hn hne', readSpec?_repeated hspec hw, hs]

theorem slash_notMem_of_read? {s : List Char} {g : Segment} (h : read? s = some g) : '/' ∉ s := by
  obtain ⟨heading, choices, rfl, hheading, hchoices⟩ := inGrammar_of_read? h
  have hname : ∀ {n : List Char}, IsName n → '/' ∉ n := fun hn hmem => absurd (hn.2 _ hmem) (by decide)
  have hword : ∀ {w : List Char}, IsAlternative w → '/' ∉ w := fun hw hmem => absurd (hw.2 _ hmem) (by decide)
  rw [List.mem_append, not_or]
  constructor
  · cases hheading with
    | missing => exact List.not_mem_nil
    | name hn => simp [hname hn]
    | dollar hn => simp [hname hn]
  · cases hchoices with
    | missing => exact List.not_mem_nil
    | words _ hw => exact notMem_intercalate (by decide) fun w hmem => hword (hw w hmem)

end Segment

namespace Route

/-! ## Slashes -/

/-- Makes one slash of slashes that follow each other. -/
def squeezeSlashes : List Char → List Char
  | [] => []
  | c :: s => if c = '/' ∧ s.head? = some '/' then squeezeSlashes s else c :: squeezeSlashes s

theorem segments_append (a b : List Char) : segments (a ++ '/' :: b) = segments a ++ segments b := by
  rw [segments, List.splitOn_append_cons_self, List.filter_append]
  rfl

theorem segments_squeezeSlashes (s a : List Char) : segments (a ++ squeezeSlashes s) = segments (a ++ s) := by
  induction s generalizing a with
  | nil => rfl
  | cons c s ih =>
    unfold squeezeSlashes
    split
    · rename_i h
      obtain ⟨rfl, hs⟩ := h
      obtain ⟨s, rfl⟩ := List.head?_eq_some_iff.1 hs
      have hempty : segments ('/' :: s) = segments s := segments_append [] s
      rw [ih, segments_append, segments_append, hempty]
    · have hnext := ih (a ++ [c])
      rwa [List.append_assoc, List.append_assoc] at hnext

theorem head?_squeezeSlashes (s : List Char) : (squeezeSlashes s).head? = s.head? := by
  induction s with
  | nil => rfl
  | cons c s ih =>
    unfold squeezeSlashes
    split
    · rename_i h
      rw [ih, h.2, h.1]
      rfl
    · rfl

theorem getLast?_squeezeSlashes (s : List Char) : (squeezeSlashes s).getLast? = s.getLast? := by
  induction s with
  | nil => rfl
  | cons c s ih =>
    unfold squeezeSlashes
    split
    · rename_i h
      obtain ⟨s, rfl⟩ := List.head?_eq_some_iff.1 h.2
      rw [ih, List.getLast?_cons_cons]
    · rw [List.getLast?_cons, List.getLast?_cons, ih]

theorem declared_congr {path path' : List Char} (hhead : path'.head? = path.head?)
    (hlast : path'.getLast? = path.getLast?) (hsegments : segments path' = segments path) :
    declared path' = declared path := by
  unfold declared badSegments
  rw [hhead, hlast, hsegments]

/-- **A slash after a slash makes no difference**, to patterns or to faults. -/
theorem compile_squeezeSlashes (path : String) :
    compile (String.ofList (squeezeSlashes path.toList)) = compile path := by
  have hsegments := segments_squeezeSlashes path.toList []
  rw [compile, compile, String.toList_ofList,
    declared_congr (head?_squeezeSlashes _) (getLast?_squeezeSlashes _) hsegments]

/-! ## Segments -/

theorem declared_eq_ok_iff {path : List Char} {gs : List Segment} : declared path = .ok gs ↔
    path.head? = some '/' ∧ path.getLast? ≠ some '/' ∧ (segments path).map Segment.read? = gs.map some := by
  constructor
  · intro h
    have hmap := (segments_of_declared h).1
    unfold declared at h
    split at h
    · cases h
    rename_i hroot
    split at h
    · cases h
    rename_i hlast
    exact ⟨Decidable.not_not.1 hroot, hlast, hmap⟩
  · rintro ⟨hroot, hlast, hmap⟩
    have hgood : badSegments path = [] := by
      refine List.filter_eq_nil_iff.2 fun s hs => ?_
      obtain ⟨g, -, hg⟩ := (partners_of_read hmap).1 s hs
      simp [hg]
    have hall : (segments path).filterMap Segment.read? = gs := by
      have hid := congrArg (List.filterMap id) hmap
      simpa [List.filterMap_map, Function.comp_def] using hid
    rw [declared_of_good hroot hlast hgood, hall]

section

variable {before after s s' : List Char}

/-- The text after a segment begins with a slash, if there is any. -/
def EndsSegment (after : List Char) : Prop :=
  ∀ c ∈ after.head?, c = '/'

theorem segments_around (hs : '/' ∉ s) (hne : s ≠ []) (hafter : EndsSegment after) :
    segments (before ++ '/' :: (s ++ after)) = segments before ++ s :: segments after := by
  have hone : segments s = [s] := by
    rw [segments, List.splitOn_eq_singleton hs]
    simp [hne]
  rw [segments_append]
  cases after with
  | nil =>
    rw [List.append_nil, hone]
    rfl
  | cons c after =>
    obtain rfl := hafter c rfl
    have hslash : segments ('/' :: after) = segments after := segments_append [] after
    rw [segments_append, hone, hslash]
    rfl

theorem getLast?_around (hs : '/' ∉ s) (hne : s ≠ []) :
    (before ++ '/' :: (s ++ after)).getLast? ≠ some '/' ↔ after.getLast? ≠ some '/' := by
  have hlast : s.getLast? ≠ some '/' := fun h => hs (List.mem_of_getLast? h)
  obtain ⟨c, hc⟩ := Option.isSome_iff_exists.1 (List.getLast?_isSome.2 hne)
  rw [List.getLast?_append, List.getLast?_cons, List.getLast?_append, hc]
  rw [hc] at hlast
  cases after.getLast? <;> simp [hlast]

theorem head?_around : (before ++ '/' :: (s ++ after)).head? = some (before.head?.getD '/') := by
  cases before <;> rfl

theorem declared_of_compile {path pattern : String} (h : compile path = .ok pattern) :
    ∃ gs, declared path.toList = .ok gs ∧ pattern = String.ofList (Route.pattern gs) := by
  unfold compile at h
  cases hd : declared path.toList with
  | error f =>
    rw [hd] at h
    cases h
  | ok gs =>
    rw [hd] at h
    exact ⟨gs, rfl, (Except.ok.inj h).symm⟩

/-- **A segment written in another way** makes no difference to the pattern of its path. -/
theorem compile_respelled {pattern : String} (h : Segment.Respelled s s') (hs : '/' ∉ s) (hafter : EndsSegment after)
    (hpattern : compile (String.ofList (before ++ '/' :: (s ++ after))) = .ok pattern) :
    compile (String.ofList (before ++ '/' :: (s' ++ after))) = .ok pattern := by
  obtain ⟨gs, hdeclared, rfl⟩ := declared_of_compile hpattern
  rw [String.toList_ofList] at hdeclared
  obtain ⟨hroot, hlast, hmap⟩ := declared_eq_ok_iff.1 hdeclared
  rw [segments_around hs h.ne_nil hafter] at hmap
  rw [getLast?_around hs h.ne_nil] at hlast
  obtain ⟨g, -, hg⟩ := (partners_of_read hmap).1 s (List.mem_append_right _ List.mem_cons_self)
  have hg' := Segment.read?_respelled h hg
  have hs' := Segment.slash_notMem_of_read? hg'
  have hne' : s' ≠ [] := by
    rintro rfl
    cases hg'
  refine compile_of_ok (declared_eq_ok_iff.2 ⟨?_, ?_, ?_⟩) <;> rw [String.toList_ofList]
  · rw [head?_around] at hroot ⊢
    exact hroot
  · rwa [getLast?_around hs' hne']
  · rw [segments_around hs' hne' hafter, List.map_append, List.map_cons, hg', ← hg, ← List.map_cons, ← List.map_append,
      hmap]

end

/-- **Redundant spelling makes no difference.**  A path with its runs of slashes squeezed to one is compiled to the same
pattern or refused for the same fault.  An accepted path keeps its pattern where a variable without a spec is given the
default one, and where a segment loses an alternative that has stood in it before. -/
theorem redundant_spelling :
    (∀ path, compile (String.ofList (squeezeSlashes path.toList)) = compile path) ∧
    ∀ before s s' after pattern, Segment.Respelled s s' → '/' ∉ s → EndsSegment after →
      compile (String.ofList (before ++ '/' :: (s ++ after))) = .ok pattern →
      compile (String.ofList (before ++ '/' :: (s' ++ after))) = .ok pattern :=
  ⟨compile_squeezeSlashes, fun _ _ _ _ _ h hs hafter hpattern => compile_respelled h hs hafter hpattern⟩

theorem user_pages_respelled :
    compile "/user//:id$/a*|b|a*" = .ok "^/user/(?<id>[\\w\\d\\-_]+)/(a[\\w\\d\\-_]*|b)$" ∧
      compile "/user/:id$+/a*|b" = compile "/user//:id$/a*|b|a*" := by
  have haccepted : compile "/user//:id$/a*|b|a*" = .ok "^/user/(?<id>[\\w\\d\\-_]+)/(a[\\w\\d\\-_]*|b)$" := by
    decide +kernel
  have hid : Segment.Respelled ":id$".toList ":id$+".toList :=
    @Segment.Respelled.loneDollar "id".toList ⟨by decide, List.all_eq_true.1 (by decide)⟩
  have hword : Segment.Respelled "a*|b|a*".toList "a*|b".toList :=
    @Segment.Respelled.unnamed _ "a*".toList ["a*".toList, "b".toList] [] (by decide) (by decide) (by decide)
  obtain ⟨hsqueeze, hsegment⟩ := redundant_spelling
  have hslash := hsqueeze "/user//:id$/a*|b|a*"
  have hid := fun pattern =>
    hsegment "/user".toList _ _ "/a*|b|a*".toList pattern hid (by decide) (by simp [EndsSegment])
  have hword := fun pattern =>
    hsegment "/user/:id$+".toList _ _ [] pattern hword (by decide) (by simp [EndsSegment])
  have htexts : String.ofList (squeezeSlashes "/user//:id$/a*|b|a*".toList) = "/user/:id$/a*|b|a*" ∧
      String.ofList ("/user".toList ++ '/' :: (":id$".toList ++ "/a*|b|a*".toList)) = "/user/:id$/a*|b|a*" ∧
      String.ofList ("/user".toList ++ '/' :: (":id$+".toList ++ "/a*|b|a*".toList)) = "/user/:id$+/a*|b|a*" ∧
      String.ofList ("/user/:id$+".toList ++ '/' :: ("a*|b|a*".toList ++ [])) = "/user/:id$+/a*|b|a*" ∧
      String.ofList ("/user/:id$+".toList ++ '/' :: ("a*|b".toList ++ [])) = "/user/:id$+/a*|b" := by
    decide +kernel
  obtain ⟨hsqueezed, hbefore, hafter, hbefore', hafter'⟩ := htexts
  rw [hsqueezed, haccepted] at hslash
  rw [hbefore, hafter] at hid
  rw [hbefore', hafter'] at hword
  rw [hword _ (hid _ hslash), haccepted]
  exact ⟨rfl, rfl⟩

end Route
end PathRouter
