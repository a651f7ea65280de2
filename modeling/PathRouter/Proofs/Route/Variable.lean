import Mathlib.Data.List.TakeWhile
import PathRouter.Route.Compile
/-!
# How a variable reads

A variable is documented in two forms: a colon and a name, or a colon, a name, a dollar and alternatives between bars
(`Declares`).  More is accepted.  `VariableForm` lists what is, and `readVariable?_eq_some_iff` says that the list is
complete.

The main statement is `variable_reads_as_written`: a variable means what it says exactly when its name, taken as far as
name characters go, is followed by the end of the segment or by a dollar and something after it.  Otherwise a lone
dollar counts for nothing, alternatives begin without a dollar, or the name loses its last character to them.
-/
namespace PathRouter.Segment

def IsName (s : List Char) : Prop :=
  s ≠ [] ∧ ∀ c ∈ s, isNameChar c = true

def IsAlternative (w : List Char) : Prop :=
  w ≠ [] ∧ ∀ c ∈ w, isSpecChar c = true

/-- **The documented forms of a variable**, with the name and the alternatives that are written. -/
inductive Declares : List Char → List Char → List (List Char) → Prop
  | plain {name : List Char} : IsName name → Declares (':' :: name) name [defaultSpec.toList]
  | spec {name : List Char} {words : List (List Char)} : IsName name → words ≠ [] → (∀ w ∈ words, IsAlternative w) →
      Declares (':' :: (name ++ '$' :: ['|'].intercalate words)) name words.eraseDups

/-- What can follow the colon of a variable, and the segment it reads as.  The first two forms are the documented ones.
In the last the name ends before the character that the first bar follows. -/
inductive VariableForm : List Char → Segment → Prop
  | plain {name : List Char} : IsName name → VariableForm name ⟨some name, [defaultSpec.toList]⟩
  | spec {name : List Char} {words : List (List Char)} : IsName name → words ≠ [] → (∀ w ∈ words, IsAlternative w) →
      VariableForm (name ++ '$' :: ['|'].intercalate words) ⟨some name, words.eraseDups⟩
  | loneDollar {name : List Char} : IsName name → VariableForm (name ++ ['$']) ⟨some name, [defaultSpec.toList]⟩
  | noDollar {name : List Char} {c : Char} {s : List Char} {words : List (List Char)} : IsName name →
      isNameChar c = false → ['|'].intercalate words = c :: s → words ≠ [] → (∀ w ∈ words, IsAlternative w) →
      VariableForm (name ++ c :: s) ⟨some name, words.eraseDups⟩
  | bar {name : List Char} {c : Char} {words : List (List Char)} : IsName name → isNameChar c = true → words ≠ [] →
      (∀ w ∈ words, IsAlternative w) →
      VariableForm (name ++ c :: '|' :: ['|'].intercalate words) ⟨some name, ([c] :: words).eraseDups⟩

/-! ## Characters -/

theorem isNameChar_dollar : isNameChar '$' = false := by decide

theorem isNameChar_bar : isNameChar '|' = false := by decide

theorem isSpecChar_dollar : isSpecChar '$' = false := by decide

theorem isSpecChar_bar : isSpecChar '|' = false := by decide

theorem isSpecChar_of_isNameChar {c : Char} (h : isNameChar c = true) : isSpecChar c = true := by
  simp [isSpecChar, h]

theorem bar_notMem {w : List Char} (h : IsAlternative w) : '|' ∉ w := fun hm => by
  have := h.2 _ hm
  rw [isSpecChar_bar] at this
  cases this

/-! ## Alternatives -/

/-- **Reading alternatives undoes joining them by bars.** -/
theorem readSpec?_eq_some_iff {s : List Char} {alts : List (List Char)} :
    readSpec? s = some alts ↔
      ∃ words, words ≠ [] ∧ (∀ w ∈ words, IsAlternative w) ∧ s = ['|'].intercalate words ∧ alts = words.eraseDups := by
  have hall : ∀ words : List (List Char),
      words.all (fun w => !w.isEmpty && w.all isSpecChar) = true ↔ ∀ w ∈ words, IsAlternative w := by
    intro words
    simp [IsAlternative]
  rw [readSpec?]
  constructor
  · intro h
    split at h
    · rename_i hw
      exact ⟨_, List.splitOn_ne_nil _ _, (hall _).1 hw, (List.intercalate_splitOn _).symm, (Option.some.inj h).symm⟩
    · cases h
  · rintro ⟨words, hne, hw, rfl, rfl⟩
    rw [List.splitOn_intercalate _ (fun w h => bar_notMem (hw w h)) hne, if_pos ((hall _).2 hw)]

/-- Joined alternatives begin with a character of theirs. -/
theorem isSpecChar_of_intercalate {words : List (List Char)} {c : Char} {s : List Char} (hne : words ≠ [])
    (hw : ∀ w ∈ words, IsAlternative w) (h : ['|'].intercalate words = c :: s) : isSpecChar c = true := by
  cases words with
  | nil => exact absurd rfl hne
  | cons w ws =>
    obtain ⟨hw0, hall⟩ := hw w List.mem_cons_self
    obtain ⟨a, w', rfl⟩ := List.exists_cons_of_ne_nil hw0
    have hac : a = c := by
      cases ws with
      | nil =>
        rw [List.intercalate_singleton] at h
        exact (List.cons.inj h).1
      | cons v ws =>
        rw [List.intercalate_cons_cons] at h
        exact (List.cons.inj h).1
    exact hac ▸ hall a List.mem_cons_self

theorem readSpec?_cons_bar {c : Char} {s : List Char} {alts : List (List Char)} (hc : c ≠ '|')
    (h : readSpec? (c :: '|' :: s) = some alts) :
    ∃ words, words ≠ [] ∧ (∀ w ∈ words, IsAlternative w) ∧ s = ['|'].intercalate words ∧
      alts = ([c] :: words).eraseDups := by
  obtain ⟨words, hne, hw, hs, rfl⟩ := readSpec?_eq_some_iff.1 h
  have hwords : words = [c] :: s.splitOn '|' := by
    rw [← List.splitOn_intercalate _ (fun w h => bar_notMem (hw w h)) hne, ← hs]
    have hmem : '|' ∉ [c] := by simpa using Ne.symm hc
    exact List.splitOn_append_cons_self_of_not_mem hmem s
  subst hwords
  exact ⟨_, List.splitOn_ne_nil _ _, fun w h => hw w (List.mem_cons_of_mem _ h), (List.intercalate_splitOn _).symm,
    rfl⟩

/-! ## Variables -/

theorem takeWhile_name {name tail : List Char} (hn : IsName name) (ht : ∀ c ∈ tail.head?, isNameChar c = false) :
    (name ++ tail).takeWhile isNameChar = name := by
  rw [List.takeWhile_append_of_pos hn.2]
  cases tail with
  | nil => exact List.append_nil _
  | cons c s => rw [List.takeWhile_cons_of_neg (by simp [ht c rfl]), List.append_nil]

theorem dropWhile_name {name tail : List Char} (hn : IsName name) (ht : ∀ c ∈ tail.head?, isNameChar c = false) :
    (name ++ tail).dropWhile isNameChar = tail := by
  rw [List.dropWhile_append_of_pos hn.2]
  cases tail with
  | nil => rfl
  | cons c s => exact List.dropWhile_cons_of_neg (by simp [ht c rfl])

theorem takeWhile_eq_self {name : List Char} (hn : IsName name) : name.takeWhile isNameChar = name := by
  simpa using @takeWhile_name name [] hn (by simp)

theorem dropWhile_eq_nil {name : List Char} (hn : IsName name) : name.dropWhile isNameChar = [] := by
  simpa using @dropWhile_name name [] hn (by simp)

theorem head?_dropWhile (s : List Char) : ∀ c ∈ (s.dropWhile isNameChar).head?, isNameChar c = false := by
  intro c hc
  have hne : s.dropWhile isNameChar ≠ [] := by
    intro h
    rw [h] at hc
    cases hc
  rw [List.head?_eq_some_head hne, Option.mem_some] at hc
  exact hc ▸ List.head_dropWhile_not isNameChar hne

theorem isName_takeWhile {s : List Char} (h : s.takeWhile isNameChar ≠ []) : IsName (s.takeWhile isNameChar) :=
  ⟨h, fun _ hc => List.mem_takeWhile_imp hc⟩

/-- **Every variable that is read has one of the forms.** -/
theorem form_of_readVariable? {s : List Char} {g : Segment} (h : readVariable? s = some g) : VariableForm s g := by
  have hsplit : s.takeWhile isNameChar ++ s.dropWhile isNameChar = s := List.takeWhile_append_dropWhile
  have htail := head?_dropWhile s
  have hname := @isName_takeWhile s
  unfold readVariable? at h
  simp only at h
  generalize s.takeWhile isNameChar = name at h hsplit hname
  generalize s.dropWhile isNameChar = tail at h hsplit htail
  subst hsplit
  split at h
  · cases h
  rename_i hne
  replace hname := hname (by simpa using hne)
  split at h
  · obtain rfl := Option.some.inj h
    rw [List.append_nil]
    exact .plain hname
  · obtain rfl := Option.some.inj h
    exact .loneDollar hname
  · obtain ⟨alts, ha, rfl⟩ := Option.map_eq_some_iff.1 h
    obtain ⟨words, hw0, hw, rfl, rfl⟩ := readSpec?_eq_some_iff.1 ha
    exact .spec hname hw0 hw
  · rename_i spec
    split at h
    · rename_i last b init hrev
      obtain ⟨alts, ha, rfl⟩ := Option.map_eq_some_iff.1 h
      have hsplit : name = (b :: init).reverse ++ [last] := by
        rw [← List.reverse_reverse name, hrev, List.reverse_cons]
      have hlast : isNameChar last = true := hname.2 _ (by rw [hsplit]; simp)
      obtain ⟨words, hw0, hw, rfl, rfl⟩ :=
        readSpec?_cons_bar (fun hb => by rw [hb, isNameChar_bar] at hlast; cases hlast) ha
      rw [hsplit, List.append_assoc]
      exact .bar ⟨by simp, fun c hc => hname.2 c (hsplit ▸ List.mem_append_left _ hc)⟩ hlast hw0 hw
    · cases h
  · rename_i hnil _ _ _
    obtain ⟨alts, ha, rfl⟩ := Option.map_eq_some_iff.1 h
    obtain ⟨words, hw0, hw, htw, rfl⟩ := readSpec?_eq_some_iff.1 ha
    obtain ⟨c, s, rfl⟩ := List.exists_cons_of_ne_nil hnil
    exact .noDollar hname (htail c rfl) htw.symm hw0 hw

theorem readVariable?_of_form {s : List Char} {g : Segment} (h : VariableForm s g) : readVariable? s = some g := by
  unfold readVariable?
  cases h with
  | @plain name hn =>
    simp [takeWhile_eq_self hn, dropWhile_eq_nil hn, hn.1]
  | @spec name words hn hne hw =>
    have hdollar : ∀ c ∈ ('$' :: ['|'].intercalate words).head?, isNameChar c = false := by
      simp [isNameChar_dollar]
    rw [takeWhile_name hn hdollar, dropWhile_name hn hdollar]
    obtain ⟨c, s, hs⟩ : ∃ c s, ['|'].intercalate words = c :: s := by
      obtain ⟨w, ws, rfl⟩ := List.exists_cons_of_ne_nil hne
      obtain ⟨a, w', rfl⟩ := List.exists_cons_of_ne_nil (hw w List.mem_cons_self).1
      cases ws with
      | nil => exact ⟨a, w', List.intercalate_singleton⟩
      | cons v ws => exact ⟨a, _, List.intercalate_cons_cons⟩
    simp only [List.isEmpty_eq_false_iff.2 hn.1, Bool.false_eq_true, if_false, hs]
    rw [← hs, readSpec?_eq_some_iff.2 ⟨words, hne, hw, rfl, rfl⟩]
    rfl
  | @loneDollar name hn =>
    have hdollar : ∀ c ∈ ['$'].head?, isNameChar c = false := by simp [isNameChar_dollar]
    rw [takeWhile_name hn hdollar, dropWhile_name hn hdollar]
    simp [hn.1]
  | @noDollar name c s words hn hc hs hne hw =>
    have htail : ∀ a ∈ (c :: s).head?, isNameChar a = false := by simp [hc]
    have hspec := isSpecChar_of_intercalate hne hw hs
    have hd : c ≠ '$' := fun h => by rw [h, isSpecChar_dollar] at hspec; cases hspec
    have hb : c ≠ '|' := fun h => by rw [h, isSpecChar_bar] at hspec; cases hspec
    rw [takeWhile_name hn htail, dropWhile_name hn htail]
    simp only [List.isEmpty_eq_false_iff.2 hn.1, Bool.false_eq_true, if_false]
    split
    · rename_i heq; cases heq
    · rename_i heq; exact absurd (List.cons.inj heq).1 hd
    · rename_i heq; exact absurd (List.cons.inj heq).1 hd
    · rename_i heq; exact absurd (List.cons.inj heq).1 hb
    · rw [readSpec?_eq_some_iff.2 ⟨words, hne, hw, hs.symm, rfl⟩]
      rfl
  | @bar name c words hn hc hne hw =>
    have hname : IsName (name ++ [c]) :=
      ⟨by simp, fun a ha => (List.mem_append.1 ha).elim (hn.2 a) (fun h => List.mem_singleton.1 h ▸ hc)⟩
    have hbar : ∀ a ∈ ('|' :: ['|'].intercalate words).head?, isNameChar a = false := by simp [isNameChar_bar]
    have hsplit : name ++ c :: '|' :: ['|'].intercalate words = name ++ [c] ++ '|' :: ['|'].intercalate words := by simp
    rw [hsplit, takeWhile_name hname hbar, dropWhile_name hname hbar]
    obtain ⟨b, init, hrev⟩ := List.exists_cons_of_ne_nil (List.reverse_ne_nil_iff.2 hn.1)
    have hword : IsAlternative [c] := ⟨by simp, by simpa using isSpecChar_of_isNameChar hc⟩
    have hspec : readSpec? (c :: '|' :: ['|'].intercalate words) = some ([c] :: words).eraseDups := by
      refine readSpec?_eq_some_iff.2 ⟨_, by simp, List.forall_mem_cons.2 ⟨hword, hw⟩, ?_, rfl⟩
      rw [List.intercalate_cons_of_ne_nil hne]
      rfl
    simp [hrev, hspec, ← List.reverse_eq_iff.1 hrev]

/-- **A variable reads as a segment exactly when it has a form of that segment.** -/
theorem readVariable?_eq_some_iff {s : List Char} {g : Segment} : readVariable? s = some g ↔ VariableForm s g :=
  ⟨form_of_readVariable?, readVariable?_of_form⟩

/-! ## Variables of accepted paths -/

/-- Whether a name, read as far as it goes, is followed by nothing or by a dollar and something more. -/
def EndsPlainly (s : List Char) : Prop :=
  s.dropWhile isNameChar = [] ∨ ∃ spec, spec ≠ [] ∧ s.dropWhile isNameChar = '$' :: spec

theorem endsPlainly_of_declares {s name : List Char} {alts : List (List Char)} (h : Declares (':' :: s) name alts) :
    EndsPlainly s := by
  cases h with
  | plain hn => exact .inl (dropWhile_eq_nil hn)
  | spec hn hne hw =>
    rename_i words
    refine .inr ⟨_, fun h => ?_, dropWhile_name hn (by simp [isNameChar_dollar])⟩
    have hs := List.splitOn_intercalate '|' (fun w hm => bar_notMem (hw w hm)) hne
    rw [h, List.splitOn_nil] at hs
    exact (hw [] (hs ▸ List.mem_singleton_self [])).1 rfl

/-- A form whose name ends plainly is one of the two documented ones. -/
theorem declares_of_form {s : List Char} {g : Segment} (h : VariableForm s g) (he : EndsPlainly s) :
    ∃ alts, Declares (':' :: s) (s.takeWhile isNameChar) alts ∧ g = ⟨some (s.takeWhile isNameChar), alts⟩ := by
  unfold EndsPlainly at he
  cases h with
  | plain hn =>
    rw [takeWhile_eq_self hn]
    exact ⟨_, .plain hn, rfl⟩
  | spec hn hne hw =>
    rw [takeWhile_name hn (by simp [isNameChar_dollar])]
    exact ⟨_, .spec hn hne hw, rfl⟩
  | loneDollar hn =>
    rw [dropWhile_name hn (by simp [isNameChar_dollar])] at he
    rcases he with he | ⟨spec, hne, he⟩
    · cases he
    · exact absurd (List.cons.inj he).2.symm hne
  | @noDollar name c s words hn hc hs hne hw =>
    rw [dropWhile_name hn (by simp [hc])] at he
    rcases he with he | ⟨spec, -, he⟩
    · cases he
    · have hspec := isSpecChar_of_intercalate hne hw hs
      rw [(List.cons.inj he).1, isSpecChar_dollar] at hspec
      cases hspec
  | @bar name c words hn hc hne hw =>
    have hname : IsName (name ++ [c]) :=
      ⟨by simp, fun a ha => (List.mem_append.1 ha).elim (hn.2 a) (fun h => List.mem_singleton.1 h ▸ hc)⟩
    have hsplit : name ++ c :: '|' :: ['|'].intercalate words = name ++ [c] ++ '|' :: ['|'].intercalate words := by simp
    rw [hsplit, dropWhile_name hname (by simp [isNameChar_bar])] at he
    rcases he with he | ⟨spec, -, he⟩
    · cases he
    · exact absurd (List.cons.inj he).1 (by decide)

theorem isSome_read?_of_compile {path pattern : String} (h : Route.compile path = .ok pattern) {s : List Char}
    (hs : s ∈ Route.segments path.toList) : (read? s).isSome = true := by
  unfold Route.compile Route.declared at h
  split at h
  · cases h
  split at h
  · cases h
  split at h
  · cases h
  · rename_i hbad
    rw [ne_eq, Decidable.not_not, Route.badSegments, List.filter_eq_nil_iff] at hbad
    have := hbad s hs
    simpa [Option.isSome_iff_ne_none] using this

/-- **What a variable of an accepted path means.**  It has one of the five forms and reads as that form says.  Where its
name ends plainly it has a documented form, and it reads as exactly the written name, taken whole, with exactly the
written alternatives.  Where it does not, it has no documented form. -/
theorem variable_reads_as_written {path pattern : String} (h : Route.compile path = .ok pattern) {s : List Char}
    (hs : ':' :: s ∈ Route.segments path.toList) :
    ∃ g, read? (':' :: s) = some g ∧ VariableForm s g ∧
      (EndsPlainly s → ∃ alts, Declares (':' :: s) (s.takeWhile isNameChar) alts ∧
        g = ⟨some (s.takeWhile isNameChar), alts⟩) ∧
      (¬ EndsPlainly s → ¬ ∃ name alts, Declares (':' :: s) name alts) := by
  obtain ⟨g, hg⟩ := Option.isSome_iff_exists.1 (isSome_read?_of_compile h hs)
  have hform := form_of_readVariable? hg
  exact ⟨g, hg, hform, declares_of_form hform, fun hn ⟨_, _, hd⟩ => hn (endsPlainly_of_declares hd)⟩

theorem kind_reads_as_written : ∃ g, read? ":kind$user|admin|user".toList = some g ∧
    g.name = some "kind".toList := by
  have hc : Route.compile "/a/:kind$user|admin|user" = .ok "^/a/(?<kind>user|admin)$" := by decide +kernel
  have hs : ':' :: "kind$user|admin|user".toList ∈ Route.segments "/a/:kind$user|admin|user".toList := by
    decide +kernel
  obtain ⟨g, hg, -, hplain, -⟩ := variable_reads_as_written hc hs
  obtain ⟨alts, -, rfl⟩ := hplain (.inr ⟨"user|admin|user".toList, by decide, by decide +kernel⟩)
  refine ⟨_, hg, ?_⟩
  show some ("kind$user|admin|user".toList.takeWhile isNameChar) = some "kind".toList
  decide +kernel

/-- An accepted variable in no documented form: a bar directly after the name takes the name's last character. -/
theorem bar_takes_last_of_name : Route.compile "/:ab|c" = .ok "^/(?<a>b|c)$" ∧
    ":ab|c".toList ∈ Route.segments "/:ab|c".toList ∧ ¬ ∃ name alts, Declares ":ab|c".toList name alts := by
  refine ⟨by decide +kernel, by decide +kernel, fun ⟨name, alts, hd⟩ => ?_⟩
  rcases endsPlainly_of_declares hd with he | ⟨spec, -, he⟩
  · exact absurd he (by decide)
  · have : "ab|c".toList.dropWhile isNameChar = ['|', 'c'] := by decide
    exact absurd (List.cons.inj (this.symm.trans he)).1 (by decide)

end PathRouter.Segment
