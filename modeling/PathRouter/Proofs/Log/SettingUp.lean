import PathRouter.Log.Config
import PathRouter.Proofs.Files.Opening
/-!
# What setting up a log leaves

Setting up a log can fail at its filter, at its output and where it is installed.  Only the output has to do with files,
and it is opened when the filter is known to be right.  `setUp_keeps_files` says what is left of the files in each case:
all of them, and at most one more.
-/
namespace PathRouter

namespace LogOutput

variable {o : LogOutput} {files : Snapshot}

/-- The output is a stream, or a file that can be opened. -/
def CanOpen (files : Snapshot) : LogOutput → Prop
  | .stdout | .stderr => True
  | .file log => files.CanOpen (.ofText log)
  | .rolling _ _ _ => False

theorem openOutput_of_canOpen (h : o.CanOpen files) : ∃ after, LogConfig.openOutput o files = .ok after ∧
    ((∀ log, o ≠ .file log) ∧ after = files ∨
      ∃ log names, o = .file log ∧ files.LeadsToFile (.ofText log) names ∧ files.Opened after names) := by
  cases o with
  | stdout | stderr => exact ⟨files, rfl, .inl ⟨nofun, rfl⟩⟩
  | file log =>
    obtain ⟨names, hleads⟩ := h
    obtain ⟨after, hopen, hopened⟩ := Snapshot.opened_openForAppend hleads
    exact ⟨after, hopen, .inr ⟨log, names, rfl, hleads, hopened⟩⟩
  | rolling => exact h.elim

end LogOutput

namespace LogConfig

variable {c : LogConfig} {files after : Snapshot}

/-- The directives of the configuration, if it has any, make a filter. -/
def HasFilter (c : LogConfig) : Prop :=
  ∀ directives, c.directives = some directives → LogFilter.ofText? directives ≠ none

theorem filter_of_hasFilter (h : c.HasFilter) (env : Environment) : ∃ f, c.filter env = .ok f := by
  unfold filter
  cases hdirectives : c.directives with
  | none => exact ⟨_, rfl⟩
  | some directives =>
    obtain ⟨f, hf⟩ := Option.ne_none_iff_exists'.1 (h directives hdirectives)
    exact ⟨f, by simp only [hf]⟩

theorem setUp_of_not_hasFilter (h : ¬ c.HasFilter) (env : Environment) (files : Snapshot) (installed : Bool) :
    ∃ directives, c.directives = some directives ∧
      c.setUp env files installed = (.error (.badDirectives directives), files) := by
  unfold HasFilter at h
  push Not at h
  obtain ⟨directives, hdirectives, hnone⟩ := h
  exact ⟨directives, hdirectives, by simp [setUp, filter, hdirectives, hnone]⟩

theorem setUp_of_hasFilter (h : c.HasFilter) (env : Environment) (files : Snapshot) (installed : Bool) :
    c.setUp env files installed = match openOutput c.output files with
      | .error fault => (.error (.cannotOpen fault), files)
      | .ok files => (if installed then .error .installedBefore else .ok (), files) := by
  obtain ⟨f, hf⟩ := filter_of_hasFilter h env
  cases houtput : openOutput c.output files <;> simp only [setUp, hf, houtput]

/-- **Setting up a log damages no files**, whatever the configuration, the environment and the files are.  Directives that
make no filter are reported, and a file that cannot be opened is, both with the files as they were.  In all other cases
what stood at the end of any path still stands there, file or directory.  Only the file of the log may be new, and then
it is empty; no file is new with a stream.  This is so whether the process has a log already, which is reported, or
gets one. -/
theorem setUp_keeps_files (c : LogConfig) (env : Environment) (files : Snapshot) (installed : Bool) :
    let result := (c.setUp env files installed).1
    let after := (c.setUp env files installed).2
    (¬ c.HasFilter → (∃ fault directives, result = .error fault ∧ c.directives = some directives ∧
      fault.report = .logging ("invalid filter '" ++ directives ++ "': *")) ∧ after = files) ∧
    (c.HasFilter → ∀ log, c.output = .file log → ¬ files.CanOpen (.ofText log) →
      (∃ fault message, result = .error fault ∧ fault.report = .io message) ∧ after = files) ∧
    (c.HasFilter → c.output.CanOpen files →
      (∀ path entry, files.look path = .ok entry → after.look path = .ok entry) ∧
      (∀ path entry, after.look (.ofText path) = .ok entry → files.look (.ofText path) = .ok entry ∨
        entry = .file [] ∧ ∃ log, c.output = .file log ∧ after.walk (.ofText path) = after.walk (.ofText log)) ∧
      (∀ log, c.output = .file log → ∃ content, after.look (.ofText log) = .ok (.file content)) ∧
      (installed = false → result = .ok ()) ∧
      (installed = true → ∃ fault message, result = .error fault ∧ fault.report = .logging message)) := by
  refine ⟨fun hfilter => ?_, fun hfilter log hlog hclosed => ?_, fun hfilter hopen => ?_⟩
  · obtain ⟨directives, hdirectives, hsetUp⟩ := setUp_of_not_hasFilter hfilter env files installed
    rw [hsetUp]
    exact ⟨⟨_, directives, rfl, hdirectives, rfl⟩, rfl⟩
  · obtain ⟨fault, hfault⟩ := Snapshot.openForAppend_of_not_canOpen hclosed
    have houtput : openOutput c.output files = .error fault := by
      rw [hlog]
      exact hfault
    rw [setUp_of_hasFilter hfilter, houtput]
    exact ⟨⟨_, _, rfl, rfl⟩, rfl⟩
  · obtain ⟨after, houtput, hafter⟩ := LogOutput.openOutput_of_canOpen hopen
    rw [setUp_of_hasFilter hfilter, houtput]
    refine ⟨fun path entry hlook => ?_, fun path entry hlook => ?_, fun log hlog => ?_, ?_, ?_⟩
    · rcases hafter with ⟨-, rfl⟩ | ⟨log, names, -, -, hopened⟩
      · exact hlook
      · exact hopened.look_kept hlook
    · rcases hafter with ⟨-, rfl⟩ | ⟨log, names, hlog, hleads, hopened⟩
      · exact .inl hlook
      · rcases hopened.look_added hleads.walk hlook with hold | ⟨hentry, hwalk⟩
        · exact .inl hold
        · exact .inr ⟨hentry, log, hlog, hwalk⟩
    · rcases hafter with ⟨hstream, -⟩ | ⟨log', names, hlog', hleads, hopened⟩
      · exact absurd hlog (hstream log)
      · obtain rfl := LogOutput.file.inj (hlog'.symm.trans hlog)
        exact hopened.look_there hleads.walk
    · rintro rfl
      rfl
    · rintro rfl
      exact ⟨_, _, rfl, rfl⟩

/-- Entries go to a file that is still missing, by a path from the root with a detour. -/
def missingLog : LogConfig := { output := .file "/tmp/../tmp/app.log" }

/-- The process works in `srv`, beside the directory of the log. -/
def logFiles : Snapshot where
  entries := Dict.ofList [("srv", .directory), ("srv/old.log", .file [10]), ("tmp", .directory)]
  workingDirectory := "/srv"

/-- The process has a log already: the file is made nevertheless, where it is found from the working directory too, and the
old one is left alone. -/
theorem setUp_missingLog : missingLog.HasFilter ∧ missingLog.output.CanOpen logFiles ∧
    (missingLog.setUp {} logFiles true).2.look (.ofText "old.log") = .ok (.file [10]) ∧
    (missingLog.setUp {} logFiles true).2.look (.ofText "/tmp/../tmp/app.log") = .ok (.file []) ∧
    (missingLog.setUp {} logFiles true).2.look (.ofText "../tmp/app.log") = .ok (.file []) := by
  have hfilter : missingLog.HasFilter := fun _ hdirectives => nomatch hdirectives
  have hopen : missingLog.output.CanOpen logFiles :=
    ⟨["app.log", "tmp"], by decide +kernel, by decide +kernel, by decide +kernel, by decide +kernel⟩
  obtain ⟨-, -, hsetUp⟩ := setUp_keeps_files missingLog {} logFiles true
  obtain ⟨hkept, hadded, hthere, -, -⟩ := hsetUp hfilter hopen
  refine ⟨hfilter, hopen, hkept _ _ (by decide +kernel), ?_, by decide +kernel⟩
  obtain ⟨content, hcontent⟩ := hthere _ rfl
  rcases hadded _ _ hcontent with hold | ⟨hempty, -⟩
  · have hmissing : logFiles.look (.ofText "/tmp/../tmp/app.log") = .error .notFound := by decide +kernel
    rw [hmissing] at hold
    cases hold
  · rw [hcontent, hempty]

end LogConfig
end PathRouter
