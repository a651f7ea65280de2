import Mathlib.Data.List.Infix
import PathRouter.Files.Snapshot
/-!
# What reading a file finds

A path is read where its walk ends (`look_eq_ok_iff`), and a text is read exactly where its bytes stand
(`readText_eq_ok_iff`).  A file that is looked for by its name is the one in the working directory, or else in the nearest
directory around it that has one (`finds_iff`).
-/
namespace PathRouter.Snapshot

variable {s : Snapshot} {path : FilePath} {place : Place} {name : String} {content : List UInt8}

theorem look_eq_ok_iff {entry : FileEntry} :
    s.look path = .ok entry ↔ ∃ place, s.walk path = .ok place ∧ s.at? place = some entry := by
  unfold look
  cases s.walk path with
  | error e => simp
  | ok place =>
    simp only [Except.ok.injEq, exists_eq_left']
    cases s.at? place <;> simp

/-- **A text is read** where its bytes stand at the end of the path. -/
theorem readText_eq_ok_iff {t : String} : s.readText path = .ok t ↔ s.look path = .ok (.file (Text.toBytes t)) := by
  unfold readText readBytes
  cases s.look path with
  | error e => simp
  | ok entry =>
    cases entry with
    | directory => simp
    | file content =>
      simp only [Except.ok.injEq, FileEntry.file.injEq]
      rw [← Text.ofBytes?_eq_some_iff]
      cases Text.ofBytes? content <;> simp

/-! ## The nearest file of a name -/

theorem fileAt?_eq_some_iff : s.fileAt? place = some content ↔ s.at? place = some (.file content) := by
  unfold fileAt?
  split <;> simp_all

theorem fileAt?_eq_none_iff : s.fileAt? place = none ↔ ∀ content, s.at? place ≠ some (.file content) := by
  simp only [Option.eq_none_iff_forall_ne_some, ne_eq, fileAt?_eq_some_iff]

/-- Neither a directory nor those around it have a file of a name, up to one that is left out. -/
def NoneBelow (s : Snapshot) (name : String) (place outer : Place) : Prop :=
  ∀ names, outer <:+ names → names <:+ place → names ≠ outer → ∀ content, s.at? (name :: names) ≠ some (.file content)

/-- **The nearest file of a name**: it stands in a directory around a place, and no directory between the two has one. -/
def IsNearest (s : Snapshot) (name : String) (place : Place) (content : List UInt8) : Prop :=
  ∃ outer, outer <:+ place ∧ s.at? (name :: outer) = some (.file content) ∧ s.NoneBelow name place outer

theorem isNearest_here (h : s.at? (name :: place) = some (.file content)) : s.IsNearest name place content :=
  ⟨place, List.suffix_refl place, h, fun _ hin hout hne => absurd (hout.eq_of_length_le hin.length_le) hne⟩

theorem isNearest_cons {inner : String} (hnone : ∀ c, s.at? (name :: inner :: place) ≠ some (.file c)) :
    s.IsNearest name (inner :: place) content ↔ s.IsNearest name place content := by
  constructor
  · rintro ⟨outer, houter, hat, hbelow⟩
    rcases List.suffix_cons_iff.1 houter with rfl | houter
    · exact absurd hat (hnone content)
    · exact ⟨outer, houter, hat, fun names hin hout => hbelow names hin (hout.trans (List.suffix_cons _ _))⟩
  · rintro ⟨outer, houter, hat, hbelow⟩
    refine ⟨outer, houter.trans (List.suffix_cons _ _), hat, fun names hin hout hne => ?_⟩
    rcases List.suffix_cons_iff.1 hout with rfl | hout
    · exact hnone
    · exact hbelow names hin hout hne

theorem nearest?_eq_some_iff : ∀ {place : Place},
    s.nearest? name place = some content ↔ s.IsNearest name place content
  | [] => by
    rw [nearest?, fileAt?_eq_some_iff]
    refine ⟨isNearest_here, ?_⟩
    rintro ⟨outer, houter, hat, -⟩
    rwa [List.suffix_nil.1 houter] at hat
  | inner :: outer => by
    rw [nearest?]
    cases hhere : s.fileAt? (name :: inner :: outer) with
    | none => rw [Option.none_or, nearest?_eq_some_iff, isNearest_cons (fileAt?_eq_none_iff.1 hhere)]
    | some c =>
      have hat := fileAt?_eq_some_iff.1 hhere
      rw [Option.some_or, Option.some.injEq]
      constructor
      · rintro rfl
        exact isNearest_here hat
      · rintro ⟨names, hnames, hat', hbelow⟩
        by_cases heq : names = inner :: outer
        · rw [heq, hat] at hat'
          exact FileEntry.file.inj (Option.some.inj hat')
        · exact absurd hat (hbelow _ hnames (List.suffix_refl _) (Ne.symm heq) c)

theorem nearest?_eq_none_iff : ∀ {place : Place}, s.nearest? name place = none ↔
    ∀ names, names <:+ place → ∀ content, s.at? (name :: names) ≠ some (.file content)
  | [] => by
    rw [nearest?, fileAt?_eq_none_iff]
    simp only [List.suffix_nil, forall_eq]
  | inner :: outer => by
    rw [nearest?, Option.or_eq_none_iff, fileAt?_eq_none_iff, nearest?_eq_none_iff]
    simp only [List.suffix_cons_iff, forall_eq_or_imp]

/-- **What a search for a name finds**: the nearest file of the name to the working directory, if there is one. -/
def Finds (s : Snapshot) (name : String) : Option (List UInt8) → Prop
  | some content => ∃ place, s.home? = some place ∧ s.IsNearest name place content
  | none => ∀ place, s.home? = some place →
      ∀ names, names <:+ place → ∀ content, s.at? (name :: names) ≠ some (.file content)

theorem finds_iff {found : Option (List UInt8)} : s.Finds name found ↔ s.findUp? name = found := by
  unfold findUp?
  cases found with
  | some content => simp only [Finds, Option.bind_eq_some_iff, nearest?_eq_some_iff]
  | none => simp only [Finds, Option.bind_eq_none_iff, nearest?_eq_none_iff]

/-- A file in the working directory is the nearest. -/
theorem findUp?_of_readText {part : List Char} {t : String} (hpath : path = ⟨.bare, [part]⟩)
    (hstill : FilePath.isStill part = false) (hdots : part ≠ ['.', '.']) (h : s.readText path = .ok t) :
    s.findUp? (String.ofList part) = some (Text.toBytes t) := by
  subst hpath
  obtain ⟨place, hwalk, hat⟩ := look_eq_ok_iff.1 (readText_eq_ok_iff.1 h)
  unfold walk at hwalk
  split at hwalk
  · cases hwalk
  unfold origin at hwalk
  rw [if_neg (by simp)] at hwalk
  cases hhome : s.home? with
  | none =>
    rw [hhome] at hwalk
    cases hwalk
  | some home =>
    rw [hhome] at hwalk
    have henter : s.enter home part = .ok place := by simpa [Except.bind] using hwalk
    have hplace : place = String.ofList part :: home := by
      unfold enter at henter
      rw [if_neg (by simp [hstill]), if_neg hdots] at henter
      split at henter
      · cases henter
      · cases henter
      split at henter
      · cases henter
      · exact (Except.ok.inj henter).symm
    rw [findUp?, hhome, Option.bind_some, nearest?_eq_some_iff]
    exact isNearest_here (hplace ▸ hat)

end PathRouter.Snapshot
