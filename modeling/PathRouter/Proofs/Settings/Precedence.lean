import PathRouter.Proofs.Settings.Overridden
import PathRouter.Proofs.Settings.Variables
/-!
# Which source counts

A service starts with settings from four sources: the variables of its process, the file of assignments, the settings file
and the defaults.  The first of them that has a value for a setting decides it, and no later one is asked; a value that says
nothing for its setting fails the start, whatever a later source has.

What each source holds is said by the texts in the tree of files: `DotEnvAssigns` for the file of assignments, `Holds` for
the settings file.  `load_precedence` says which of them counts, setting by setting.
-/
namespace PathRouter

open Override (first? keyed Distinct setAll)
open Shape

/-! ## The settings file -/

/-- What a settings file holds: a document, or assignments.  Without a file it is nothing. -/
inductive FileContents where
  | absent
  | document (v : Value)
  | assignments (bindings : List (String × String))

namespace FileContents

/-- The settings that the file makes of the defaults. -/
def settings (o : Listing) : FileContents → Except SettingsError Settings
  | .absent => .ok {}
  | .document v => (Settings.ofValue v).mapError .shape
  | .assignments bs => Settings.overrideBy o {} (Override.collect (some Override.nameStart) bs)

/-- **The value of a setting by the file alone**: what the file says, in the way its format does, or the default. -/
def Gives {β : Type} (file : FileContents) (x : LogSetting β) (b : β) : Prop :=
  match file with
  | .absent => b = x.get {}
  | .document v =>
    Decided ((part? Settings.fields "log" v).bind (part? LogSettings.fields x.field)) (fun w b => x.ofValue w = .ok b)
      (x.get {}) b
  | .assignments bs => Decided (last? x.key (keyed bs)) (fun text b => x.ofText? text = some b) (x.get {}) b

/-- **The page and its file by the settings file alone.** -/
def GivesPage (file : FileContents) (r : RouterSettings) : Prop :=
  match file with
  | .absent => r = {}
  | .document v =>
    Decided ((part? Settings.fields "router" v).bind (part? RouterSettings.fields "not_found_template"))
      (fun w page => optionalText w = .ok page) none r.notFoundTemplate ∧
    Decided ((part? Settings.fields "router" v).bind (part? RouterSettings.fields "not_found_template_file"))
      (fun w path => optionalText w = .ok path) none r.notFoundTemplateFile
  | .assignments bs =>
    Settings.PageFrom (last? "not_found_template" (keyed bs)) (last? "not_found_template_file" (keyed bs)) {} r

variable {o : Listing} {file : FileContents} {base : Settings}

/-- A field of a part is decided by what the document says for it, if it says anything for the part. -/
theorem decided_bind {α β : Type} {v? : Option Value} {inner : Value → Option Value} {outer : Reader α} {read : Reader β}
    {get : α → β} {d r : α} (hpart : Decided v? (fun w a => outer w = .ok a) d r)
    (hinner : ∀ w a, outer w = .ok a → Decided (inner w) (fun u b => read u = .ok b) (get d) (get a)) :
    Decided (v?.bind inner) (fun u b => read u = .ok b) (get d) (get r) := by
  cases v? with
  | none => exact congrArg get hpart
  | some w => exact hinner w r hpart

theorem document_eq_ok {v : Value} (h : (Settings.ofValue v).mapError SettingsError.shape = .ok base) :
    Settings.ofValue v = .ok base := by
  cases hv : Settings.ofValue v with
  | error e =>
    rw [hv] at h
    cases h
  | ok s =>
    rw [hv] at h
    exact congrArg _ (Except.ok.inj h)

theorem isField_log : IsField Settings.fields "log" LogSettings.ofValue Settings.log := by
  refine .own ?_ (.other ?_ ?_ isField_nil)
  all_goals first | exact fun _ _ => rfl | decide

theorem isField_router : IsField Settings.fields "router" RouterSettings.ofValue Settings.router := by
  refine .other ?_ ?_ (.own ?_ isField_nil)
  all_goals first | exact fun _ _ => rfl | decide

theorem isField_page :
    IsField RouterSettings.fields "not_found_template" optionalText RouterSettings.notFoundTemplate := by
  refine .own ?_ (.other ?_ ?_ isField_nil)
  all_goals first | exact fun _ _ => rfl | decide

theorem isField_pageFile :
    IsField RouterSettings.fields "not_found_template_file" optionalText RouterSettings.notFoundTemplateFile := by
  refine .other ?_ ?_ (.own ?_ isField_nil)
  all_goals first | exact fun _ _ => rfl | decide

theorem gives_of_settings {β : Type} (x : LogSetting β) (h : file.settings o = .ok base) :
    file.Gives x (x.get base.log) := by
  cases file with
  | absent =>
    obtain rfl := Except.ok.inj h
    exact rfl
  | document v =>
    have hlog := record_field isField_log (document_eq_ok h)
    exact decided_bind hlog fun w l hl => record_field x.isField hl
  | assignments bs =>
    have hlog := Settings.overrideAll_log o.mem_entries_iff x h
    rwa [Override.collect, Dict.get?_ofList] at hlog

theorem givesPage_of_settings (h : file.settings o = .ok base) : file.GivesPage base.router := by
  cases file with
  | absent =>
    obtain rfl := Except.ok.inj h
    exact rfl
  | document v =>
    have hrouter := record_field isField_router (document_eq_ok h)
    exact ⟨decided_bind hrouter fun w r hr => record_field isField_page hr,
      decided_bind hrouter fun w r hr => record_field isField_pageFile hr⟩
  | assignments bs =>
    have hrouter := Settings.overrideAll_router o.mem_entries_iff h
    rwa [Override.collect, Dict.get?_ofList, Dict.get?_ofList] at hrouter

end FileContents

namespace Settings

/-- The name of the file at a path is one for an extension: the file has it, in any case, or it is `.env` alone. -/
def NamedFor (path extension : String) : Prop :=
  (FilePath.ofText path).name? = some ".env".toList ∧ extension = "env" ∨
    (FilePath.ofText path).name? ≠ some ".env".toList ∧
      ∃ e, (FilePath.ofText path).extension? = some e ∧ Text.lower e.toList = extension.toList

/-- **What the settings file holds**: the text at the end of its path, read in the way that its name tells.  Of several
assignments of one variable the last is left. -/
inductive Holds (env : Environment) (files : Snapshot) : Option String → FileContents → Prop
  | absent : Holds env files none .absent
  | json {path t : String} {v : Value} : NamedFor path "json" →
      files.look (.ofText path) = .ok (.file (Text.toBytes t)) → Json.parse? t = some v →
      Holds env files (some path) (.document v)
  | toml {path t : String} {v : Value} : NamedFor path "toml" →
      files.look (.ofText path) = .ok (.file (Text.toBytes t)) → Toml.parse? t = some v →
      Holds env files (some path) (.document v)
  | env {path t : String} {as : List (String × String)} : NamedFor path "env" →
      files.look (.ofText path) = .ok (.file (Text.toBytes t)) → DotEnv.assignments? env t = some as →
      Holds env files (some path) (.assignments (Dict.ofList as).toList)

section

variable {o o' : Listing} {env : Environment} {files : Snapshot} {path : String} {base : Settings}

theorem ofExtension?_eq_some_iff {extension : String} {format : SettingsFormat} :
    SettingsFormat.ofExtension? extension = some format ↔ Text.lower extension.toList = format.name.toList := by
  unfold SettingsFormat.ofExtension? SettingsFormat.all
  generalize Text.lower extension.toList = lowered
  constructor
  · intro h
    have hname := List.find?_some h
    exact (beq_iff_eq.1 hname).symm
  · rintro rfl
    cases format <;> decide

theorem ofPath_eq_ok_iff {format : SettingsFormat} : SettingsFormat.ofPath path = .ok format ↔
    NamedFor path format.name := by
  have henv : format.name = "env" ↔ format = .env := by cases format <;> decide
  unfold SettingsFormat.ofPath NamedFor
  dsimp only
  by_cases hname : (FilePath.ofText path).name? = some ".env".toList
  · rw [if_pos hname]
    simp [hname, henv, eq_comm]
  · rw [if_neg hname]
    simp only [hname, false_and, ne_eq, not_false_eq_true, true_and, false_or, ← ofExtension?_eq_some_iff]
    cases (FilePath.ofText path).extension? with
    | none => simp
    | some e =>
      simp only [Option.some.injEq, exists_eq_left']
      cases SettingsFormat.ofExtension? e <;> simp

/-- **Assignments as a document** are the texts of the map that they make. -/
theorem texts_ofMembers (as : List (String × String)) :
    (Value.ofMembers (as.map fun (k, v) => (k, .text v))).texts = (Dict.ofList as).toList := by
  have hput : ∀ (as : List (String × String)) (m : Dict String),
      (as.map fun (k, v) => (k, Value.text v)).foldl (fun es m => Entries.put m.1 m.2 es)
          (m.toList.map fun e => (e.1, Value.text e.2)) =
        (as.foldl (fun m p => m.insert p.1 p.2) m).toList.map fun e => (e.1, Value.text e.2) := by
    intro as
    induction as with
    | nil => exact fun _ => rfl
    | cons a as ih =>
      intro m
      rw [List.map_cons, List.foldl_cons, List.foldl_cons]
      dsimp only
      rw [Entries.put_map]
      exact ih (m.insert a.1 a.2)
  have hmembers := hput as Dict.empty
  rw [Value.ofMembers, Value.texts]
  dsimp only
  have hstart : (Dict.empty : Dict String).toList.map (fun e => (e.1, Value.text e.2)) = [] := rfl
  rw [hstart] at hmembers
  rw [hmembers, List.filterMap_map]
  exact List.filterMap_some

theorem parseBy_json {t : String} : parseBy o .json env t = .ok base ↔
    ∃ v, Json.parse? t = some v ∧ (FileContents.document v).settings o = .ok base := by
  unfold parseBy SettingsFormat.parse
  dsimp only
  cases Json.parse? t <;> simp [FileContents.settings]

theorem parseBy_toml {t : String} : parseBy o .toml env t = .ok base ↔
    ∃ v, Toml.parse? t = some v ∧ (FileContents.document v).settings o = .ok base := by
  unfold parseBy SettingsFormat.parse
  dsimp only
  cases Toml.parse? t <;> simp [FileContents.settings]

theorem parseBy_env {t : String} : parseBy o .env env t = .ok base ↔ ∃ as, DotEnv.assignments? env t = some as ∧
    (FileContents.assignments (Dict.ofList as).toList).settings o = .ok base := by
  unfold parseBy SettingsFormat.parse DotEnv.parse?
  dsimp only
  cases DotEnv.assignments? env t <;> simp [FileContents.settings, texts_ofMembers]

/-- **A settings file is read** exactly if it holds something that makes settings. -/
theorem ofFileBy_eq_ok_iff : ofFileBy o env files path = .ok base ↔
    ∃ file, Holds env files (some path) file ∧ file.settings o = .ok base := by
  have hread : ∀ {t : String}, SettingsFormat.readFile files path = .ok t ↔
      files.look (.ofText path) = .ok (.file (Text.toBytes t)) := by
    intro t
    rw [← Snapshot.readText_eq_ok_iff, SettingsFormat.readFile]
    cases files.readText (.ofText path) <;> simp
  have hparse : ofFileBy o env files path = .ok base ↔ ∃ format, NamedFor path format.name ∧
      ∃ t, files.look (.ofText path) = .ok (.file (Text.toBytes t)) ∧ parseBy o format env t = .ok base := by
    simp only [← ofPath_eq_ok_iff, ← hread]
    unfold ofFileBy
    cases SettingsFormat.ofPath path with
    | error e => simp
    | ok format => cases SettingsFormat.readFile files path <;> simp
  rw [hparse]
  constructor
  · rintro ⟨format, hname, t, hlook, hbase⟩
    cases format with
    | json =>
      obtain ⟨v, hv, hbase⟩ := parseBy_json.1 hbase
      exact ⟨_, .json hname hlook hv, hbase⟩
    | toml =>
      obtain ⟨v, hv, hbase⟩ := parseBy_toml.1 hbase
      exact ⟨_, .toml hname hlook hv, hbase⟩
    | env =>
      obtain ⟨as, has, hbase⟩ := parseBy_env.1 hbase
      exact ⟨_, .env hname hlook has, hbase⟩
  · rintro ⟨file, hholds, hbase⟩
    cases hholds with
    | json hname hlook hv => exact ⟨.json, hname, _, hlook, parseBy_json.2 ⟨_, hv, hbase⟩⟩
    | toml hname hlook hv => exact ⟨.toml, hname, _, hlook, parseBy_toml.2 ⟨_, hv, hbase⟩⟩
    | env hname hlook has => exact ⟨.env, hname, _, hlook, parseBy_env.2 ⟨_, has, hbase⟩⟩

/-- **The start of a service**, source by source. -/
theorem loadBy_eq {assigned : List (String × String)} {file : FileContents} {path : Option String}
    (ha : DotEnvAssigns env files assigned) (hfile : Holds (setAll env assigned) files path file)
    (hbase : file.settings o = .ok base) : loadBy o o' env files path =
      (base.withEnvironmentBy o' (setAll env assigned)).bind fun s => (s.validate files).bind fun _ => .ok s := by
  unfold loadBy
  rw [loadDotEnv_eq_ok_iff.2 ⟨assigned, ha, rfl⟩]
  cases path with
  | none =>
    cases hfile
    obtain rfl := Except.ok.inj hbase
    rfl
  | some path =>
    dsimp only [bind, Except.bind]
    rw [ofFileBy_eq_ok_iff.2 ⟨file, hfile, hbase⟩]
    rfl

/-- Settings that a service starts with come from sources that can be read. -/
theorem exists_sources {path : Option String} {s : Settings} (h : loadBy o o' env files path = .ok s) :
    ∃ assigned file base, DotEnvAssigns env files assigned ∧ Holds (setAll env assigned) files path file ∧
      file.settings o = .ok base ∧ base.withEnvironmentBy o' (setAll env assigned) = .ok s ∧
      s.validate files = .ok () := by
  obtain ⟨after, hafter, h⟩ := bind_eq_ok.1 h
  obtain ⟨assigned, ha, rfl⟩ := loadDotEnv_eq_ok_iff.1 hafter
  obtain ⟨file, base, hfile, hbase, h⟩ : ∃ file base, Holds (setAll env assigned) files path file ∧
      file.settings o = .ok base ∧ ((base.withEnvironmentBy o' (setAll env assigned)).bind fun s =>
        (s.validate files).bind fun _ => .ok s) = .ok s := by
    cases path with
    | none => exact ⟨.absent, {}, .absent, rfl, h⟩
    | some path =>
      obtain ⟨base, hread, h⟩ := bind_eq_ok.1 h
      obtain ⟨file, hfile, hbase⟩ := ofFileBy_eq_ok_iff.1 hread
      exact ⟨file, base, hfile, hbase, h⟩
  obtain ⟨s', hs, h⟩ := bind_eq_ok.1 h
  obtain ⟨⟨⟩, hvalid, h⟩ := bind_eq_ok.1 h
  obtain rfl := Except.ok.inj h
  exact ⟨assigned, file, base, ha, hfile, hbase, hs, hvalid⟩

end

/-! ## Which source counts -/

/-- The value that counts for a key among variables: that of the process, or else the first assignment. -/
def winner? (p : ProcessVariables) (assigned : List (String × String)) (key : String) : Option String :=
  (first? key p.bindings).or (first? key assigned)

section

variable {o : Listing} {p : ProcessVariables} {assigned : List (String × String)} {files : Snapshot}

/-- **The override for a key is the value that counts.** -/
theorem get?_winner (ha : DotEnvAssigns p.environment files assigned)
    (hdistinct : Distinct (p.bindings.map Prod.fst ++ assigned.map Prod.fst)) (key : String) :
    (Override.ofEnvironment (setAll p.environment assigned)).get? key = winner? p assigned key := by
  obtain ⟨hproper, hfirst⟩ := Override.first?_setAll key p.proper (isKey_of_dotEnvAssigns ha)
  rw [Override.get?_overrides hproper fun n hn n' hn' =>
    hdistinct n (Override.names_setAll hn) n' (Override.names_setAll hn')]
  exact hfirst

/-- The setting is what the variable that counts says; without one it is what the settings file gives. -/
def Chosen (p : ProcessVariables) (assigned : List (String × String)) (file : FileContents) {β : Type}
    (x : LogSetting β) (s : Settings) : Prop :=
  match winner? p assigned x.key with
  | some text => x.ofText? text = some (x.get s.log)
  | none => file.Gives x (x.get s.log)

theorem gives_of_chosen {file : FileContents} {β : Type} {x : LogSetting β} {s : Settings}
    (h : Chosen p assigned file x s) (hnone : winner? p assigned x.key = none) : file.Gives x (x.get s.log) := by
  rwa [Chosen, hnone] at h

/-- **Settings by the order of their sources.** -/
structure ByPrecedence (p : ProcessVariables) (assigned : List (String × String)) (file : FileContents) (s : Settings) :
    Prop where
  level : Chosen p assigned file .level s
  format : Chosen p assigned file .format s
  logFile : Chosen p assigned file .file s
  envFilter : Chosen p assigned file .envFilter s
  spans : Chosen p assigned file .spans s
  /-- A variable for the page leaves no file of the page, -/
  page : ∀ text, winner? p assigned "not_found_template" = some text → s.router = ⟨some text, none⟩
  /-- and one for the file leaves no page. -/
  pageFile : ∀ text, winner? p assigned "not_found_template_file" = some text → s.router = ⟨none, some text⟩
  /-- Without either the two are what the settings file gives. -/
  router : winner? p assigned "not_found_template" = none → winner? p assigned "not_found_template_file" = none →
    file.GivesPage s.router

theorem chosen_of_override {file : FileContents} {base s : Settings} (ha : DotEnvAssigns p.environment files assigned)
    (hdistinct : Distinct (p.bindings.map Prod.fst ++ assigned.map Prod.fst)) {o' : Listing}
    (hbase : file.settings o = .ok base) (hs : base.withEnvironmentBy o' (setAll p.environment assigned) = .ok s)
    {β : Type} (x : LogSetting β) : Chosen p assigned file x s := by
  have hlog := overrideAll_log o'.mem_entries_iff x hs
  rw [get?_winner ha hdistinct] at hlog
  unfold Chosen
  cases hw : winner? p assigned x.key with
  | some text =>
    rw [hw] at hlog
    exact hlog
  | none =>
    rw [hw] at hlog
    have hsame : x.get s.log = x.get base.log := hlog
    dsimp only
    rw [hsame]
    exact file.gives_of_settings x hbase

theorem byPrecedence_of_override {file : FileContents} {base s : Settings}
    (ha : DotEnvAssigns p.environment files assigned)
    (hdistinct : Distinct (p.bindings.map Prod.fst ++ assigned.map Prod.fst))
    (hone : winner? p assigned "not_found_template" = none ∨ winner? p assigned "not_found_template_file" = none)
    {o' : Listing} (hbase : file.settings o = .ok base)
    (hs : base.withEnvironmentBy o' (setAll p.environment assigned) = .ok s) : ByPrecedence p assigned file s := by
  have hrouter := overrideAll_router o'.mem_entries_iff hs
  rw [get?_winner ha hdistinct, get?_winner ha hdistinct] at hrouter
  have hchosen := fun {β : Type} (x : LogSetting β) => chosen_of_override ha hdistinct hbase hs x
  refine ⟨hchosen _, hchosen _, hchosen _, hchosen _, hchosen _, fun text hpage => ?_, fun text hfile => ?_,
    fun hpage hfile => ?_⟩
  · rw [hpage, hone.resolve_left (by rw [hpage]; exact Option.some_ne_none text)] at hrouter
    exact hrouter
  · rw [hfile, hone.resolve_right (by rw [hfile]; exact Option.some_ne_none text)] at hrouter
    exact hrouter
  · rw [hpage, hfile] at hrouter
    have hsame : s.router = base.router := hrouter
    rw [hsame]
    exact file.givesPage_of_settings hbase

end

/-- **Precedence at the start.**  Settings that a service starts with keep the rules, and each of them comes from the first
source that has a value for it, if no two variables stand for one key and not both the page and its file are among them.
If the files are read and the value that counts says nothing for its setting, the start fails over such a value.  The maps
of overrides may be listed in any order. -/
theorem load_precedence (p : ProcessVariables) (files : Snapshot) (path : Option String) (o o' : Listing) :
    (∀ s, loadBy o o' p.environment files path = .ok s → ∃ assigned file,
      DotEnvAssigns p.environment files assigned ∧ Holds (setAll p.environment assigned) files path file ∧
      s.validate files = .ok () ∧
      (Distinct (p.bindings.map Prod.fst ++ assigned.map Prod.fst) →
        winner? p assigned "not_found_template" = none ∨ winner? p assigned "not_found_template_file" = none →
        ByPrecedence p assigned file s)) ∧
    (∀ assigned file base, DotEnvAssigns p.environment files assigned →
      Holds (setAll p.environment assigned) files path file → file.settings o = .ok base →
      Distinct (p.bindings.map Prod.fst ++ assigned.map Prod.fst) →
      (∃ key text, winner? p assigned key = some text ∧ Rejects key text) →
      ∃ key text e, winner? p assigned key = some text ∧ Rejects key text ∧ e = .badOverride key text ∧
        e.kind = .invalidValue ∧ loadBy o o' p.environment files path = .error e) := by
  constructor
  · intro s h
    obtain ⟨assigned, file, base, ha, hfile, hbase, hs, hvalid⟩ := exists_sources h
    exact ⟨assigned, file, ha, hfile, hvalid, fun hdistinct hone => byPrecedence_of_override ha hdistinct hone hbase hs⟩
  · rintro assigned file base ha hfile hbase hdistinct ⟨key, text, hkey, hrejects⟩
    rw [loadBy_eq ha hfile hbase]
    rw [← get?_winner ha hdistinct] at hkey
    cases hs : base.withEnvironmentBy o' (setAll p.environment assigned) with
    | ok s => exact absurd hrejects (not_rejects_of_overrideAll o'.mem_entries_iff hs hkey)
    | error e =>
      obtain ⟨key', text', hkey', hrejects', rfl⟩ := overrideAll_error o'.mem_entries_iff hs
      rw [get?_winner ha hdistinct] at hkey'
      exact ⟨key', text', _, hkey', hrejects', rfl, rfl, rfl⟩

/-- A level for the process. -/
def debugVariables : ProcessVariables where
  bindings := [("PATH", "/bin"), ("WAYMARK_LOG_LEVEL", "debug")]
  names := by decide +kernel
  nodup := by decide +kernel

def startDocument : String :=
  "[log]\nlevel = \"warn\"\nformat = \"plain\"\n[router]\nnot_found_template = \"gone\""

def startText (spans : String) : String :=
  "WAYMARK_LOG_LEVEL=error\nWAYMARK_LOG_SPANS=" ++ spans

/-- Assignments of a level and of spans, and a settings file with a level, a format and a page.  The process works below the
directory of the assignments. -/
def startFiles (spans : String) : Snapshot where
  entries := Dict.ofList [
    ("etc", .directory),
    ("etc/start.toml", .file (Text.toBytes startDocument)),
    ("srv", .directory),
    ("srv/.env", .file (Text.toBytes (startText spans))),
    ("srv/log", .directory)]
  workingDirectory := "/srv/log"

def startAssigned (spans : String) : List (String × String) :=
  [("WAYMARK_LOG_LEVEL", "error"), ("WAYMARK_LOG_SPANS", spans)]

/-- Each source decides a setting: the process the level, the assignments spans, the settings file the format and the page,
and the default the file of the log.  A text for spans that says nothing fails the start. -/
theorem sources_in_order :
    (∃ s file, loadBy .descending .ascending debugVariables.environment (startFiles "true") (some "/etc/start.toml") =
        .ok s ∧
      Holds (setAll debugVariables.environment (startAssigned "true")) (startFiles "true") (some "/etc/start.toml")
        file ∧
      ByPrecedence debugVariables (startAssigned "true") file s ∧
      winner? debugVariables (startAssigned "true") "log_level" = some "debug" ∧ s.log.level = .debug ∧
      winner? debugVariables (startAssigned "true") "log_spans" = some "true" ∧ s.log.spans = true ∧
      file.Gives .format .plain ∧ s.log.format = .plain ∧ file.Gives .file none ∧ s.log.file = none ∧
      file.GivesPage ⟨some "gone", none⟩ ∧ s.router = ⟨some "gone", none⟩) ∧
    ∃ key text, Rejects key text ∧ loadBy .descending .ascending debugVariables.environment (startFiles "yes")
      (some "/etc/start.toml") = .error (.badOverride key text) := by
  constructor
  · have hload : loadBy .descending .ascending debugVariables.environment (startFiles "true")
        (some "/etc/start.toml") =
          .ok { log := { level := .debug, format := .plain, spans := true }, router := ⟨some "gone", none⟩ } := by
      decide +kernel
    have hassigned : DotEnvAssigns debugVariables.environment (startFiles "true") (startAssigned "true") :=
      .read (t := startText "true") (Snapshot.finds_iff.2 (by decide +kernel)) (by decide +kernel)
    obtain ⟨assigned, file, ha, hfile, -, hsources⟩ := (load_precedence _ _ _ _ _).1 _ hload
    obtain rfl := hassigned.unique ha
    have hwinner : winner? debugVariables (startAssigned "true") "log_format" = none ∧
        winner? debugVariables (startAssigned "true") "log_file" = none ∧
        winner? debugVariables (startAssigned "true") "not_found_template" = none ∧
        winner? debugVariables (startAssigned "true") "not_found_template_file" = none := by decide +kernel
    obtain ⟨hformat, hlogFile, hpage, hpageFile⟩ := hwinner
    have hsources := hsources (by unfold Distinct; decide +kernel) (.inl hpage)
    exact ⟨_, file, hload, hfile, hsources, by decide +kernel, rfl, by decide +kernel, rfl,
      gives_of_chosen hsources.format hformat, rfl, gives_of_chosen hsources.logFile hlogFile, rfl,
      hsources.router hpage hpageFile, rfl⟩
  · have hassigned : DotEnvAssigns debugVariables.environment (startFiles "yes") (startAssigned "yes") :=
      .read (t := startText "yes") (Snapshot.finds_iff.2 (by decide +kernel)) (by decide +kernel)
    have hread : ofFileBy .descending (setAll debugVariables.environment (startAssigned "yes")) (startFiles "yes")
        "/etc/start.toml" =
          .ok { log := { level := .warn, format := .plain }, router := ⟨some "gone", none⟩ } := by decide +kernel
    obtain ⟨file, hfile, hbase⟩ := ofFileBy_eq_ok_iff.1 hread
    obtain ⟨key, text, e, -, hrejects, rfl, -, hfails⟩ :=
      (load_precedence _ _ _ _ .ascending).2 _ file _ hassigned hfile hbase (by unfold Distinct; decide +kernel)
        ⟨"log_spans", "yes", by decide +kernel, .inr (.inr ⟨rfl, by decide +kernel⟩)⟩
    exact ⟨key, text, hrejects, hfails⟩

end Settings
end PathRouter
