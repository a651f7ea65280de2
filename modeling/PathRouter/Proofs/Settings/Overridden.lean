import PathRouter.Proofs.Settings.Document
import PathRouter.Settings.Override
/-!
# What overrides change

Each setting of the log has a key among overrides and a field in documents (`LogSetting`).  Overrides change it exactly if
they have its key, and then to what their text says (`overrideAll_log`); the page for requests that no route takes and the
file with that page are one setting with two keys (`overrideAll_router`).  Overrides fail only over a text that says nothing
for its key, and then over one of those (`overrideAll_error`).  None of this hangs on the order in which a map is listed.
-/
namespace PathRouter

open Shape

namespace Listing

/-- Lists entries in descending order of keys. -/
def descending : Listing := ⟨fun values => values.toList.reverse, fun values => List.reverse_perm values.toList⟩

theorem mem_entries_iff (o : Listing) {values : Dict String} {b : String × String} :
    b ∈ o.entries values ↔ values.get? b.1 = some b.2 :=
  (o.perm values).mem_iff.trans Dict.mem_toList_iff

theorem nodup_keys (o : Listing) (values : Dict String) : ((o.entries values).map Prod.fst).Nodup :=
  ((o.perm values).map Prod.fst).nodup_iff.2 values.nodup_keys

end Listing

/-- What a text says for a truth value. -/
def boolOfText? (text : String) : Option Bool :=
  if text = "true" then some true else if text = "false" then some false else none

namespace Settings

/-- The keys of settings. -/
def settingKeys : List String :=
  ["log_level", "log_format", "log_file", "log_env_filter", "log_spans", "not_found_template",
    "not_found_template_file"]

/-- Texts that say nothing for their keys. -/
def Rejects (key text : String) : Prop :=
  key = "log_level" ∧ LogLevel.ofName? text = none ∨ key = "log_format" ∧ LogFormat.ofName? text = none ∨
    key = "log_spans" ∧ boolOfText? text = none

/-! ## One override -/

/-- **What one override changes**, key by key. -/
inductive Changes (s : Settings) : String → String → Settings → Prop
  | level {text : String} {l : LogLevel} : LogLevel.ofName? text = some l →
      Changes s "log_level" text { s with log := { s.log with level := l } }
  | format {text : String} {f : LogFormat} : LogFormat.ofName? text = some f →
      Changes s "log_format" text { s with log := { s.log with format := f } }
  | file (text : String) : Changes s "log_file" text { s with log := { s.log with file := some text } }
  | envFilter (text : String) : Changes s "log_env_filter" text { s with log := { s.log with envFilter := some text } }
  | spans {text : String} {b : Bool} : boolOfText? text = some b →
      Changes s "log_spans" text { s with log := { s.log with spans := b } }
  | page (text : String) : Changes s "not_found_template" text { s with router := ⟨some text, none⟩ }
  | pageFile (text : String) : Changes s "not_found_template_file" text { s with router := ⟨none, some text⟩ }
  | other {key : String} (text : String) : key ∉ settingKeys → Changes s key text s

section

variable {s s' : Settings} {key text : String}

theorem boolOfText?_eq_none (htrue : text ≠ "true") (hfalse : text ≠ "false") : boolOfText? text = none := by
  rw [boolOfText?, if_neg htrue, if_neg hfalse]

theorem not_rejects (h : key ∉ settingKeys) : ¬ Rejects key text := by
  rintro (⟨rfl, -⟩ | ⟨rfl, -⟩ | ⟨rfl, -⟩) <;> exact h (by decide)

theorem beq_settingKey {k : String} (hk : k ∉ settingKeys) (hkey : key ∈ settingKeys) : (k == key) = false :=
  beq_false_of_ne fun h => hk (h ▸ hkey)

/-- **One override** changes what its key is for, unless its text says nothing. -/
theorem overrideOne_spec (s : Settings) (key text : String) :
    (∃ s', s.overrideOne key text = .ok s' ∧ Changes s key text s' ∧ ¬ Rejects key text) ∨
      s.overrideOne key text = .error (.badOverride key text) ∧ Rejects key text := by
  unfold overrideOne Rejects
  split
  · cases h : LogLevel.ofName? text with
    | some l => exact .inl ⟨_, rfl, .level h, by simp⟩
    | none => exact .inr ⟨rfl, .inl ⟨rfl, rfl⟩⟩
  · cases h : LogFormat.ofName? text with
    | some f => exact .inl ⟨_, rfl, .format h, by simp⟩
    | none => exact .inr ⟨rfl, .inr (.inl ⟨rfl, rfl⟩)⟩
  · exact .inl ⟨_, rfl, .file text, by simp⟩
  · exact .inl ⟨_, rfl, .envFilter text, by simp⟩
  · split
    · exact .inl ⟨_, rfl, .spans rfl, by simp [boolOfText?]⟩
    · exact .inl ⟨_, rfl, .spans rfl, by simp [boolOfText?]⟩
    · exact .inr ⟨rfl, .inr (.inr ⟨rfl, boolOfText?_eq_none ‹_› ‹_›⟩)⟩
  · exact .inl ⟨_, rfl, .page text, by simp⟩
  · exact .inl ⟨_, rfl, .pageFile text, by simp⟩
  · rename_i hlevel hformat hfile hfilter hspans hpage hpageFile
    have hkey : key ∉ settingKeys := by
      simp only [settingKeys, List.mem_cons, List.not_mem_nil, or_false, not_or]
      exact ⟨hlevel, hformat, hfile, hfilter, hspans, hpage, hpageFile⟩
    exact .inl ⟨_, rfl, .other text hkey, not_rejects hkey⟩

theorem changes_of_overrideOne (h : s.overrideOne key text = .ok s') : Changes s key text s' ∧ ¬ Rejects key text := by
  rcases overrideOne_spec s key text with ⟨t, ht, hchanges⟩ | ⟨herror, -⟩
  · obtain rfl := Except.ok.inj (h.symm.trans ht)
    exact hchanges
  · cases h.symm.trans herror

theorem rejects_of_overrideOne {e : SettingsError} (h : s.overrideOne key text = .error e) :
    Rejects key text ∧ e = .badOverride key text := by
  rcases overrideOne_spec s key text with ⟨t, ht, -⟩ | ⟨herror, hrejects⟩
  · cases h.symm.trans ht
  · exact ⟨hrejects, Except.error.inj (h.symm.trans herror)⟩

end

end Settings

/-! ## Settings of the log -/

/-- A setting of the log: its key among overrides and what their texts say for it, and its field in documents and how that
is read.  Nothing else changes it. -/
structure LogSetting (β : Type) where
  key : String
  field : String
  ofText? : String → Option β
  ofValue : Reader β
  get : LogSettings → β
  changes : ∀ {s s' : Settings} {k text : String}, s.Changes k text s' →
    if k == key then ofText? text = some (get s'.log) else get s'.log = get s.log
  isField : IsField LogSettings.fields field ofValue get

namespace LogSetting

open Settings (beq_settingKey)

def level : LogSetting LogLevel where
  key := "log_level"
  field := "level"
  ofText? := LogLevel.ofName?
  ofValue := choice LogLevel.all LogLevel.name
  get := LogSettings.level
  changes h := by
    cases h with
    | level h => exact h
    | other _ hk =>
      rw [beq_settingKey hk (by decide)]
      rfl
    | _ => rfl
  isField := by
    refine .own ?_ (.other ?_ ?_ (.other ?_ ?_ (.other ?_ ?_ (.other ?_ ?_ isField_nil))))
    all_goals first | exact fun _ _ => rfl | decide

def format : LogSetting LogFormat where
  key := "log_format"
  field := "format"
  ofText? := LogFormat.ofName?
  ofValue := choice LogFormat.all LogFormat.name
  get := LogSettings.format
  changes h := by
    cases h with
    | format h => exact h
    | other _ hk =>
      rw [beq_settingKey hk (by decide)]
      rfl
    | _ => rfl
  isField := by
    refine .other ?_ ?_ (.own ?_ (.other ?_ ?_ (.other ?_ ?_ (.other ?_ ?_ isField_nil))))
    all_goals first | exact fun _ _ => rfl | decide

def file : LogSetting (Option String) where
  key := "log_file"
  field := "file"
  ofText? text := some (some text)
  ofValue := optionalText
  get := LogSettings.file
  changes h := by
    cases h with
    | other _ hk =>
      rw [beq_settingKey hk (by decide)]
      rfl
    | _ => rfl
  isField := by
    refine .other ?_ ?_ (.other ?_ ?_ (.own ?_ (.other ?_ ?_ (.other ?_ ?_ isField_nil))))
    all_goals first | exact fun _ _ => rfl | decide

def envFilter : LogSetting (Option String) where
  key := "log_env_filter"
  field := "env_filter"
  ofText? text := some (some text)
  ofValue := optionalText
  get := LogSettings.envFilter
  changes h := by
    cases h with
    | other _ hk =>
      rw [beq_settingKey hk (by decide)]
      rfl
    | _ => rfl
  isField := by
    refine .other ?_ ?_ (.other ?_ ?_ (.other ?_ ?_ (.own ?_ (.other ?_ ?_ isField_nil))))
    all_goals first | exact fun _ _ => rfl | decide

def spans : LogSetting Bool where
  key := "log_spans"
  field := "spans"
  ofText? := boolOfText?
  ofValue := Shape.bool
  get := LogSettings.spans
  changes h := by
    cases h with
    | spans h => exact h
    | other _ hk =>
      rw [beq_settingKey hk (by decide)]
      rfl
    | _ => rfl
  isField := by
    refine .other ?_ ?_ (.other ?_ ?_ (.other ?_ ?_ (.other ?_ ?_ (.own ?_ isField_nil))))
    all_goals first | exact fun _ _ => rfl | decide

end LogSetting

/-! ## All overrides -/

namespace Settings

/-- What stands for the page after overrides for the page and for its file.  Either takes the place of both, and which of
them stays if there are both is left open. -/
def PageFrom (page file : Option String) (before after : RouterSettings) : Prop :=
  match page, file with
  | none, none => after = before
  | some page, none => after = ⟨some page, none⟩
  | none, some file => after = ⟨none, some file⟩
  | some page, some file => after = ⟨some page, none⟩ ∨ after = ⟨none, some file⟩

def isPageKey (key : String) : Bool :=
  key == "not_found_template" || key == "not_found_template_file"

def pageSettings (key text : String) : RouterSettings :=
  if key = "not_found_template" then ⟨some text, none⟩ else ⟨none, some text⟩

variable {s s' : Settings} {values : Dict String}

section

variable {es : List (String × String)} (hes : ∀ {key text}, (key, text) ∈ es ↔ values.get? key = some text)

include hes

theorem overrideAll_log {β : Type} (x : LogSetting β) (h : s.overrideAll es = .ok s') :
    Decided (values.get? x.key) (fun text b => x.ofText? text = some b) (x.get s.log) (x.get s'.log) := by
  rw [← last?_of_mem_iff fun _ => hes]
  refine decided_map.2 (foldlM_view (fun s : Settings => x.get s.log) ?_ h)
  rintro ⟨k, text⟩ - t t' ht
  exact x.changes (changes_of_overrideOne ht).1

theorem overrideAll_router (h : s.overrideAll es = .ok s') :
    PageFrom (values.get? "not_found_template") (values.get? "not_found_template_file") s.router s'.router := by
  have hview : Decided (lastWhere? (fun e => isPageKey e.1) es)
      (fun e r => r = pageSettings e.1 e.2) s.router s'.router := by
    refine foldlM_view Settings.router ?_ h
    rintro ⟨key, text⟩ - t t' ht
    cases (changes_of_overrideOne ht).1 with
    | other _ hk =>
      rw [isPageKey, beq_settingKey hk (by decide), beq_settingKey hk (by decide)]
      rfl
    | _ => rfl
  cases hlast : lastWhere? (fun e => isPageKey e.1) es with
  | none =>
    rw [hlast] at hview
    have hnone : ∀ key, isPageKey key = true → values.get? key = none := by
      intro key hkey
      refine Option.eq_none_iff_forall_ne_some.2 fun text htext => ?_
      have hm := List.mem_reverse.2 (hes.2 htext)
      exact List.find?_eq_none.1 hlast _ hm hkey
    rw [hnone _ rfl, hnone _ rfl]
    exact hview
  | some e =>
    obtain ⟨key, text⟩ := e
    rw [hlast] at hview
    obtain ⟨hm, hkey⟩ := of_lastWhere? hlast
    have hkey : isPageKey key = true := hkey
    have hget := hes.1 hm
    have hview : s'.router = pageSettings key text := hview
    rcases Bool.or_eq_true_iff.1 hkey with hpage | hfile
    · rw [beq_iff_eq.1 hpage] at hget hview
      rw [hget]
      cases values.get? "not_found_template_file" with
      | none => exact hview
      | some _ => exact .inl hview
    · rw [beq_iff_eq.1 hfile] at hget hview
      rw [hget]
      cases values.get? "not_found_template" with
      | none => exact hview
      | some _ => exact .inr hview

theorem overrideAll_error {e : SettingsError} (h : s.overrideAll es = .error e) :
    ∃ key text, values.get? key = some text ∧ Rejects key text ∧ e = .badOverride key text := by
  obtain ⟨⟨key, text⟩, hm, t, ht⟩ := foldlM_steps.2 e h
  obtain ⟨hrejects, he⟩ := rejects_of_overrideOne ht
  exact ⟨key, text, hes.1 hm, hrejects, he⟩

theorem not_rejects_of_overrideAll {key text : String} (h : s.overrideAll es = .ok s')
    (hget : values.get? key = some text) : ¬ Rejects key text := by
  obtain ⟨t, t', ht⟩ := foldlM_steps.1 s' h (key, text) (hes.2 hget)
  exact (changes_of_overrideOne ht).2

end

end Settings
end PathRouter
