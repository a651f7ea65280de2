import Mathlib.Data.List.Basic
import Mathlib.Tactic.MkIffOfInductiveProp
import PathRouter.Settings.Load
/-!
# The page of settings that keep the rules

The rules ask that the file of a page is a file, and what is put to use is its text.  So settings that keep the rules can be
put to use exactly if the file of the page, where they have one, holds a text, and then the page is the one that they name
(`apply_validated`).
-/
namespace PathRouter
namespace Settings

variable {s : Settings} {files : Snapshot}

/-- The rules, each for its field. -/
@[mk_iff]
structure KeepsRules (s : Settings) (files : Snapshot) : Prop where
  onePage : s.router.notFoundTemplate = none ∨ s.router.notFoundTemplateFile = none
  pageFile : ∀ path, s.router.notFoundTemplateFile = some path → files.isFile (.ofText path) = true
  logFile : ∀ path, s.log.file = some path → Text.trim path.toList ≠ [] ∧
    ∀ directory, (FilePath.ofText path).parent? = some directory →
      (directory.text.isEmpty || files.isDirectory directory) = true
  envFilter : ∀ directives, s.log.envFilter = some directives → Text.trim directives.toList ≠ []

theorem exclusive_eq_ok_iff {α β : Type} {a : Option α} {b : Option β} {fieldA fieldB : String} :
    Rule.exclusive a b fieldA fieldB = .ok () ↔ a = none ∨ b = none := by
  unfold Rule.exclusive
  cases a <;> cases b <;> simp

theorem isFile_eq_ok_iff {path field : String} :
    Rule.isFile files path field = .ok () ↔ files.isFile (.ofText path) = true := by
  unfold Rule.isFile
  cases files.isFile (.ofText path) <;> simp

theorem notEmpty_eq_ok_iff {value field : String} :
    Rule.notEmpty value field = .ok () ↔ Text.trim value.toList ≠ [] := by
  unfold Rule.notEmpty
  cases h : Text.trim value.toList <;> simp

theorem parentExists_eq_ok_iff {path field : String} :
    Rule.parentExists files path field = .ok () ↔ ∀ directory, (FilePath.ofText path).parent? = some directory →
      (directory.text.isEmpty || files.isDirectory directory) = true := by
  unfold Rule.parentExists
  cases (FilePath.ofText path).parent? with
  | none => simp
  | some directory =>
    simp only [Option.some.injEq, forall_eq']
    cases directory.text.isEmpty || files.isDirectory directory <;> simp

theorem bind_eq_ok_iff {ε : Type} {x y : Except ε Unit} : (x >>= fun _ => y) = .ok () ↔ x = .ok () ∧ y = .ok () := by
  cases x <;> simp [bind, Except.bind]

/-- **Settings pass the check exactly if they keep every rule.** -/
theorem validate_eq_ok_iff : s.validate files = .ok () ↔ s.KeepsRules files := by
  have hcheck : s.validate files = .ok () ↔ s.check files = .ok () := by
    unfold validate
    cases s.check files <;> simp [Except.mapError]
  have hdone : (pure () : Except RuleFault Unit) = .ok () := rfl
  rw [hcheck, check, bind_eq_ok_iff, exclusive_eq_ok_iff, keepsRules_iff]
  -- Each of the three optional fields has rules of its own, so each is present or not.
  cases hpage : s.router.notFoundTemplateFile <;> cases hfile : s.log.file <;> cases hfilter : s.log.envFilter <;>
    simp only [bind_eq_ok_iff, isFile_eq_ok_iff, notEmpty_eq_ok_iff, parentExists_eq_ok_iff] <;>
    simp [hdone, and_assoc]

/-- **Settings that keep the rules can be put to use**, whatever the service, unless the file of their page holds no text.
The page is the one that they name or else the text of the file that they name, and without either the service keeps
what it had. -/
theorem apply_validated (h : s.validate files = .ok ()) (service : Service) :
    (∀ page, s.router.notFoundTemplate = some page → s.apply files service = .ok (service.setNotFoundPage page)) ∧
    (∀ path, s.router.notFoundTemplateFile = some path → ∃ content, files.readBytes (.ofText path) = .ok content ∧
      s.apply files service = match Text.ofBytes? content with
        | some page => .ok (service.setNotFoundPage page)
        | none => .error (.io .notText)) ∧
    (s.router.notFoundTemplate = none → s.router.notFoundTemplateFile = none → s.apply files service = .ok service) := by
  obtain ⟨hone, hfile, -, -⟩ := validate_eq_ok_iff.1 h
  refine ⟨fun page hpage => ?_, fun path hpath => ?_, fun hpage hpath => ?_⟩
  · simp [apply, notFoundPage, hpage, Except.map]
  · obtain ⟨content, hcontent⟩ := Snapshot.isFile_iff.1 (hfile path hpath)
    have hpage : s.router.notFoundTemplate = none := hone.resolve_right (by simp [hpath])
    refine ⟨content, hcontent, ?_⟩
    have htext := Snapshot.readText_of_readBytes hcontent
    cases hpage' : Text.ofBytes? content <;> simp [apply, notFoundPage, hpage, hpath, htext, hpage', Except.map]
  · simp [apply, notFoundPage, hpage, hpath, Except.map]

/-- Settings with their page in a file. -/
def pageInFile : Settings where
  router := { notFoundTemplateFile := some "404.html" }

def pageFiles (content : List UInt8) : Snapshot where
  entries := Dict.ofList [("work", .directory), ("work/404.html", .file content)]

/-- A page of two bytes that spell one letter. -/
theorem apply_page_of_file : pageInFile.validate (pageFiles [0xc3, 0xa9]) = .ok () ∧
    pageInFile.apply (pageFiles [0xc3, 0xa9]) {} = .ok (Service.setNotFoundPage {} "é") := by
  have hvalid : pageInFile.validate (pageFiles [0xc3, 0xa9]) = .ok () := by decide +kernel
  obtain ⟨content, hcontent, happly⟩ := (apply_validated hvalid {}).2.1 "404.html" rfl
  have hbytes : (pageFiles [0xc3, 0xa9]).readBytes (.ofText "404.html") = .ok [0xc3, 0xa9] := by decide +kernel
  obtain rfl := Except.ok.inj (hbytes.symm.trans hcontent)
  have htext : Text.ofBytes? [0xc3, 0xa9] = some "é" := by decide +kernel
  rw [htext] at happly
  exact ⟨hvalid, happly⟩

/-- A page of one byte that spells nothing: the settings keep the rules and cannot be put to use. -/
theorem apply_fails_validated : pageInFile.validate (pageFiles [0xff]) = .ok () ∧
    ∀ service, pageInFile.apply (pageFiles [0xff]) service = .error (.io .notText) := by
  have hpage : pageInFile.notFoundPage (pageFiles [0xff]) = .error (.io .notText) := by decide +kernel
  refine ⟨by decide +kernel, fun service => ?_⟩
  rw [apply, hpage]
  rfl

end Settings
end PathRouter
