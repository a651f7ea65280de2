import PathRouter.Proofs.Files.Reading
import PathRouter.Proofs.Settings.Entries
import PathRouter.Proofs.Text.Separator
/-!
# What opening a file leaves

A file that is opened for writing at its end is made if it is missing, and nothing else is.  A walk only looks at
directories on its way, so it leads where it led before as long as the directories are the same (`walk_mono`).  What stood
at the end of a path then still stands there (`Opened.look_kept`), and what is new stands at the end of every path that
leads to the file, and nowhere else (`Opened.look_added`).
-/
namespace PathRouter

/-! ## Parts and keys -/

namespace FilePath

theorem cut_eq_splitOn : ∀ s : List Char, cut s = s.splitOn '/'
  | [] => rfl
  | c :: s => by
    rw [cut, cut_eq_splitOn s, List.splitOn_cons_eq_if_modifyHead]
    split
    · rfl
    · obtain ⟨p, ps, hs⟩ := List.exists_cons_of_ne_nil (List.splitOn_ne_nil '/' s)
      rw [hs]
      rfl

theorem notMem_of_mem_parts {text : String} {part : List Char} (h : part ∈ (ofText text).parts) : '/' ∉ part := by
  have hcut : ∀ s, part ∈ cut s → '/' ∉ part := fun s hs => notMem_of_mem_splitOn (cut_eq_splitOn s ▸ hs)
  unfold ofText at h
  split at h
  · cases h
  · cases h
  · exact hcut _ h
  · exact hcut _ h
  · exact hcut _ h

end FilePath

namespace Snapshot

/-- **A key tells the place.** -/
theorem key_inj {names names' : Place} (hne : names ≠ []) (hne' : names' ≠ [])
    (h : ∀ name ∈ names, '/' ∉ name.toList) (h' : ∀ name ∈ names', '/' ∉ name.toList)
    (hkey : key names = key names') : names = names' := by
  have hsplit : ∀ {ns : Place}, ns ≠ [] → (∀ name ∈ ns, '/' ∉ name.toList) →
      (key ns).toList.splitOn '/' = ns.reverse.map String.toList := by
    intro ns hns hclean
    rw [key, String.toList_intercalate]
    refine List.splitOn_intercalate '/' (fun l hl => ?_) (by simpa using hns)
    obtain ⟨name, hname, rfl⟩ := List.mem_map.1 hl
    exact hclean name (List.mem_reverse.1 hname)
  have hnames : names.reverse.map String.toList = names'.reverse.map String.toList := by
    rw [← hsplit hne h, ← hsplit hne' h', hkey]
  exact List.reverse_inj.1 ((List.map_inj_right fun _ _ => String.toList_inj.1).1 hnames)

/-! ## Walks -/

variable {s s' : Snapshot} {path : FilePath} {place next : Place} {part : List Char}

theorem at?_of_enter_ok (h : s.enter place part = .ok next) : s.at? place = some .directory := by
  unfold enter at h
  split at h
  · cases h
  · cases h
  · assumption

theorem enter_congr (h : s.at? place = s'.at? place) (part : List Char) : s.enter place part = s'.enter place part := by
  unfold enter
  rw [h]

theorem foldlM_enter_mono (hdirs : ∀ place, s.at? place = some .directory → s'.at? place = some .directory) :
    ∀ {parts : List (List Char)} {place last : Place}, parts.foldlM s.enter place = .ok last →
      parts.foldlM s'.enter place = .ok last
  | [], _, _, h => h
  | part :: parts, place, last, h => by
    obtain ⟨next, hstep, hrest⟩ := foldlM_cons_eq_ok.1 h
    have hdir := at?_of_enter_ok hstep
    rw [enter_congr (hdir.trans (hdirs place hdir).symm)] at hstep
    exact foldlM_cons_eq_ok.2 ⟨next, hstep, foldlM_enter_mono hdirs hrest⟩

theorem home?_mono (hdirs : ∀ place, s.at? place = some .directory → s'.at? place = some .directory)
    (hwork : s'.workingDirectory = s.workingDirectory) (h : s.home? = some place) : s'.home? = some place := by
  unfold home? at h ⊢
  rw [hwork]
  split at h
  · cases h
  rename_i hwalk
  split at h
  · rename_i hdir
    obtain rfl := Option.some.inj h
    rw [foldlM_enter_mono hdirs hwalk]
    exact if_pos (hdirs _ hdir)
  · cases h

/-- **A walk leads to the same place** where all its directories still are. -/
theorem walk_mono (hdirs : ∀ place, s.at? place = some .directory → s'.at? place = some .directory)
    (hwork : s'.workingDirectory = s.workingDirectory) (h : s.walk path = .ok place) : s'.walk path = .ok place := by
  unfold walk at h ⊢
  split at h
  · cases h
  obtain ⟨start, hstart, hwalk⟩ := bind_eq_ok.1 h
  have hstart : s'.origin path = .ok start := by
    unfold origin at hstart ⊢
    by_cases hroot : path.start = .root
    · rwa [if_pos hroot] at hstart ⊢
    · rw [if_neg hroot] at hstart ⊢
      cases hhome : s.home? with
      | none =>
        rw [hhome] at hstart
        cases hstart
      | some home => rwa [home?_mono hdirs hwork hhome, ← hhome]
  rw [hstart]
  exact foldlM_enter_mono hdirs hwalk

/-- The names of a place have no slash in them. -/
def Unslashed (place : Place) : Prop :=
  ∀ name ∈ place, '/' ∉ name.toList

theorem unslashed_nil : Unslashed [] :=
  fun _ hname => absurd hname List.not_mem_nil

theorem unslashed_of_enter (hpart : '/' ∉ part) (hplace : Unslashed place) (h : s.enter place part = .ok next) :
    Unslashed next := by
  unfold enter at h
  split at h
  · cases h
  · cases h
  split at h
  · rwa [← Except.ok.inj h]
  split at h
  · rw [← Except.ok.inj h]
    exact fun name hname => hplace name (List.mem_of_mem_tail hname)
  split at h
  · cases h
  · rw [← Except.ok.inj h]
    refine List.forall_mem_cons.2 ⟨?_, hplace⟩
    rwa [String.toList_ofList]

theorem unslashed_of_foldlM : ∀ {parts : List (List Char)} {place last : Place}, (∀ part ∈ parts, '/' ∉ part) →
    Unslashed place → parts.foldlM s.enter place = .ok last → Unslashed last
  | [], _, _, _, hplace, h => Except.ok.inj h ▸ hplace
  | part :: parts, place, last, hparts, hplace, h => by
    obtain ⟨hpart, hparts⟩ := List.forall_mem_cons.1 hparts
    obtain ⟨next, hstep, hrest⟩ := foldlM_cons_eq_ok.1 h
    exact unslashed_of_foldlM hparts (unslashed_of_enter hpart hplace hstep) hrest

theorem unslashed_home (h : s.home? = some place) : Unslashed place := by
  unfold home? at h
  split at h
  · cases h
  rename_i hwalk
  split at h
  · obtain rfl := Option.some.inj h
    exact unslashed_of_foldlM (fun part hpart => FilePath.notMem_of_mem_parts hpart) unslashed_nil hwalk
  · cases h

theorem unslashed_of_walk {text : String} (h : s.walk (.ofText text) = .ok place) : Unslashed place := by
  unfold walk at h
  split at h
  · cases h
  obtain ⟨start, hstart, hwalk⟩ := bind_eq_ok.1 h
  refine unslashed_of_foldlM (fun part hpart => FilePath.notMem_of_mem_parts hpart) ?_ hwalk
  unfold origin at hstart
  split at hstart
  · exact Except.ok.inj hstart ▸ unslashed_nil
  split at hstart
  · cases hstart
  · exact Except.ok.inj hstart ▸ unslashed_home ‹_›

/-! ## Opening -/

/-- **A path leads to a file**, which may be missing: it does not ask for a directory, all directories on the way are
there, there is none at the end, and the process may write the file, or make it in its directory. -/
structure LeadsToFile (s : Snapshot) (path : FilePath) (names : Place) : Prop where
  asksForFile : asksForDirectory path = false
  walk : s.walk path = .ok names
  noDirectory : s.at? names ≠ some .directory
  writable : s.mayWrite names = true

/-- The file of a path can be opened for writing. -/
def CanOpen (s : Snapshot) (path : FilePath) : Prop :=
  ∃ names, s.LeadsToFile path names

variable {names : Place}

theorem target_eq_ok_iff : s.target path = .ok names ↔ s.LeadsToFile path names := by
  unfold target
  constructor
  · intro h
    split at h
    · cases h
    split at h
    · split at h <;> cases h
    rename_i hasks
    split at h
    · cases h
    rename_i hwalk
    split at h
    · cases h
    rename_i hdir
    split at h
    · rename_i hwrite
      obtain rfl := Except.ok.inj h
      exact ⟨Bool.eq_false_iff.2 hasks, hwalk, hdir, hwrite⟩
    · cases h
  · rintro ⟨hasks, hwalk, hdir, hwrite⟩
    have hrefusal : refusal? path = none := by
      unfold Snapshot.walk at hwalk
      split at hwalk
      · cases hwalk
      · assumption
    simp [hrefusal, hasks, hwalk, hdir, hwrite]

theorem openForAppend_of_not_canOpen (h : ¬ s.CanOpen path) : ∃ fault, s.openForAppend path = .error fault := by
  unfold openForAppend
  cases htarget : s.target path with
  | error fault => exact ⟨fault, rfl⟩
  | ok names => exact absurd ⟨names, target_eq_ok_iff.1 htarget⟩ h

/-- **What opening the file at a place leaves**: all that was anywhere, and the file, which is new only if nothing was at
its place. -/
structure Opened (s s' : Snapshot) (names : Place) : Prop where
  home : s'.workingDirectory = s.workingDirectory
  kept : ∀ place entry, s.at? place = some entry → s'.at? place = some entry
  added : ∀ place entry, s'.at? place = some entry → s.at? place = some entry ∨
    entry = .file [] ∧ names ≠ [] ∧ place ≠ [] ∧ key place = key names
  there : ∃ content, s'.at? names = some (.file content)

theorem at?_put (hnone : s.at? names = none) (entry : FileEntry) (place : Place) :
    (s.put names entry).at? place = s.at? place ∨ s.at? place = none ∧ (s.put names entry).at? place = some entry ∧
      place ≠ [] ∧ key place = key names := by
  cases place with
  | nil => exact .inl rfl
  | cons name rest =>
    have hput : (s.put names entry).at? (name :: rest) =
        if key (name :: rest) = key names then some entry else s.at? (name :: rest) := Dict.get?_insert _ _ _ _
    by_cases hkey : key (name :: rest) = key names
    · have hold : s.at? (name :: rest) = s.at? names := by
        cases names with
        | nil => cases hnone
        | cons => exact congrArg s.entries.get? hkey
      exact .inr ⟨hold.trans hnone, hput.trans (if_pos hkey), List.cons_ne_nil _ _, hkey⟩
    · exact .inl (hput.trans (if_neg hkey))

theorem opened_put (hnone : s.at? names = none) : Opened s (s.put names (.file [])) names where
  home := rfl
  kept place entry h := by
    rcases at?_put hnone (.file []) place with heq | ⟨hfree, -⟩
    · exact heq.trans h
    · rw [hfree] at h
      cases h
  added place entry h := by
    have hne : names ≠ [] := by
      rintro rfl
      cases hnone
    rcases at?_put hnone (.file []) place with heq | ⟨-, hnew, hplace⟩
    · exact .inl (heq.symm.trans h)
    · exact .inr ⟨Option.some.inj (h.symm.trans hnew), hne, hplace⟩
  there := by
    cases names with
    | nil => cases hnone
    | cons name rest => exact ⟨[], (Dict.get?_insert _ _ _ _).trans (if_pos rfl)⟩

theorem opened_openForAppend (h : s.LeadsToFile path names) :
    ∃ s', s.openForAppend path = .ok s' ∧ Opened s s' names := by
  unfold openForAppend
  rw [target_eq_ok_iff.2 h]
  refine ⟨_, rfl, ?_⟩
  cases hplace : s.at? names with
  | none => exact opened_put hplace
  | some entry =>
    cases entry with
    | directory => exact absurd hplace h.noDirectory
    | file content => exact ⟨rfl, fun _ _ h => h, fun _ _ h => .inl h, content, hplace⟩

namespace Opened

variable {log : FilePath} {entry : FileEntry}

theorem walk_iff (h : Opened s s' names) : s'.walk path = .ok place ↔ s.walk path = .ok place := by
  refine ⟨walk_mono (fun place hdir => ?_) h.home.symm, walk_mono (fun place hdir => h.kept place _ hdir) h.home⟩
  rcases h.added place _ hdir with hold | ⟨hfile, -⟩
  · exact hold
  · cases hfile

/-- What stood at the end of a path still stands there. -/
theorem look_kept (h : Opened s s' names) (hlook : s.look path = .ok entry) : s'.look path = .ok entry := by
  obtain ⟨place, hwalk, hat⟩ := look_eq_ok_iff.1 hlook
  exact look_eq_ok_iff.2 ⟨place, h.walk_iff.2 hwalk, h.kept place entry hat⟩

/-- What is new is an empty file, at the end of a path that leads where the file is. -/
theorem look_added {log text : String} (h : Opened s s' names) (hlog : s.walk (.ofText log) = .ok names)
    (hlook : s'.look (.ofText text) = .ok entry) : s.look (.ofText text) = .ok entry ∨
      entry = .file [] ∧ s'.walk (.ofText text) = s'.walk (.ofText log) := by
  obtain ⟨place, hwalk, hat⟩ := look_eq_ok_iff.1 hlook
  rw [h.walk_iff] at hwalk
  rcases h.added place entry hat with hold | ⟨hentry, hne, hne', hkey⟩
  · exact .inl (look_eq_ok_iff.2 ⟨place, hwalk, hold⟩)
  · obtain rfl := key_inj hne' hne (unslashed_of_walk hwalk) (unslashed_of_walk hlog) hkey
    exact .inr ⟨hentry, (h.walk_iff.2 hwalk).trans (h.walk_iff.2 hlog).symm⟩

theorem look_there (h : Opened s s' names) (hlog : s.walk log = .ok names) :
    ∃ content, s'.look log = .ok (.file content) := by
  obtain ⟨content, hat⟩ := h.there
  exact ⟨content, look_eq_ok_iff.2 ⟨_, h.walk_iff.2 hlog, hat⟩⟩

end Opened

end Snapshot
end PathRouter
