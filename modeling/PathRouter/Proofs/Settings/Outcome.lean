import Mathlib.Data.List.Nodup
import PathRouter.Proofs.Settings.AnyOrder
/-!
# What overrides come to

Overrides are put into settings in whatever order their map is listed (`overrideBy`).  They succeed exactly if each text
that can be refused says something (`Accepted`), and then each setting is what its override says or what it was (`Obeyed`).
Overrides under other keys can be added or dropped (`overrideAll_filter`).
-/
namespace PathRouter
namespace Settings

section

variable {s : Settings} {key text : String} {es : List (String × String)} {values values' : Dict String}

theorem of?_eq_none_iff : Effect.of? key text = none ↔ Rejects key text := by
  rcases overrideOne_spec {} key text with ⟨s', hok, -, hsays⟩ | ⟨herror, hrejects⟩
  · rw [overrideOne_eq] at hok
    refine iff_of_false (fun hnone => ?_) hsays
    rw [hnone] at hok
    cases hok
  · rw [overrideOne_eq] at herror
    refine iff_of_true (Option.eq_none_iff_forall_ne_some.2 fun e he => ?_) hrejects
    rw [he] at herror
    cases herror

/-! ## Whether overrides succeed -/

/-- The texts that can be refused say something. -/
structure Accepted (values : Dict String) : Prop where
  level : ∀ text, values.get? "log_level" = some text → ∃ l, LogLevel.ofName? text = some l
  format : ∀ text, values.get? "log_format" = some text → ∃ f, LogFormat.ofName? text = some f
  spans : ∀ text, values.get? "log_spans" = some text → text = "true" ∨ text = "false"

theorem boolOfText?_ne_none_iff : boolOfText? text ≠ none ↔ text = "true" ∨ text = "false" := by
  constructor
  · intro h
    by_contra hneither
    exact h (boolOfText?_eq_none (fun ht => hneither (.inl ht)) fun hf => hneither (.inr hf))
  · rintro (rfl | rfl)
    · decide
    · decide

theorem accepted_iff : Accepted values ↔ ∀ key text, values.get? key = some text → ¬ Rejects key text := by
  constructor
  · rintro ⟨hlevel, hformat, hspans⟩ key text hget (⟨rfl, hnone⟩ | ⟨rfl, hnone⟩ | ⟨rfl, hnone⟩)
    · exact Option.ne_none_iff_exists'.2 (hlevel text hget) hnone
    · exact Option.ne_none_iff_exists'.2 (hformat text hget) hnone
    · exact boolOfText?_ne_none_iff.2 (hspans text hget) hnone
  · intro h
    exact {
      level := fun text hget => Option.ne_none_iff_exists'.1 fun hnone => h _ text hget (.inl ⟨rfl, hnone⟩)
      format := fun text hget => Option.ne_none_iff_exists'.1 fun hnone => h _ text hget (.inr (.inl ⟨rfl, hnone⟩))
      spans := fun text hget => boolOfText?_ne_none_iff.1 fun hnone => h _ text hget (.inr (.inr ⟨rfl, hnone⟩)) }

theorem overrideBy_ok_iff (o : Listing) (s : Settings) (values : Dict String) :
    (∃ s', s.overrideBy o values = .ok s') ↔ Accepted values := by
  rw [accepted_iff]
  constructor
  · rintro ⟨s', h⟩ key text hget
    exact not_rejects_of_overrideAll o.mem_entries_iff h hget
  · intro h
    refine ⟨_, overrideAll_eq_ok fun b hb hnone => ?_⟩
    exact h b.1 b.2 (o.mem_entries_iff.1 hb) (of?_eq_none_iff.1 hnone)

/-! ## What overrides change -/

/-- Settings are what their overrides say, or else what they were; the page and its file are never both set by overrides. -/
structure Obeyed (values : Dict String) (before after : Settings) : Prop where
  level : Decided (values.get? "log_level") (fun text l => LogLevel.ofName? text = some l) before.log.level after.log.level
  format : Decided (values.get? "log_format") (fun text f => LogFormat.ofName? text = some f) before.log.format
    after.log.format
  file : Decided (values.get? "log_file") (fun text path => some text = path) before.log.file after.log.file
  envFilter : Decided (values.get? "log_env_filter") (fun text directives => some text = directives) before.log.envFilter
    after.log.envFilter
  spans : Decided (values.get? "log_spans") (fun text b => boolOfText? text = some b) before.log.spans after.log.spans
  router : PageFrom (values.get? "not_found_template") (values.get? "not_found_template_file") before.router after.router
  onePage : before.router.notFoundTemplate = none ∨ before.router.notFoundTemplateFile = none →
    after.router.notFoundTemplate = none ∨ after.router.notFoundTemplateFile = none

/-- Where the router changes, the page or its file is left out. -/
theorem PageFrom.onePage {page file : Option String} {before after : RouterSettings} (h : PageFrom page file before after) :
    after = before ∨ after.notFoundTemplate = none ∨ after.notFoundTemplateFile = none := by
  cases page with
  | none =>
    cases file with
    | none => exact .inl h
    | some file =>
      obtain rfl : after = ⟨none, some file⟩ := h
      exact .inr (.inl rfl)
  | some page =>
    cases file with
    | none =>
      obtain rfl : after = ⟨some page, none⟩ := h
      exact .inr (.inr rfl)
    | some file =>
      rcases h with rfl | rfl
      · exact .inr (.inr rfl)
      · exact .inr (.inl rfl)

theorem obeyed_of_overrideBy (o : Listing) {s' : Settings} (h : s.overrideBy o values = .ok s') : Obeyed values s s' := by
  have hlog := fun {β : Type} (x : LogSetting β) => overrideAll_log o.mem_entries_iff x h
  have hrouter := overrideAll_router o.mem_entries_iff h
  exact {
    level := hlog .level
    format := hlog .format
    file := (hlog .file).imp fun h => Option.some.inj h
    envFilter := (hlog .envFilter).imp fun h => Option.some.inj h
    spans := hlog .spans
    router := hrouter
    onePage := fun hbefore => by
      rcases hrouter.onePage with hsame | hone
      · rw [hsame]
        exact hbefore
      · exact hone }

/-! ## Other keys -/

theorem of?_other (hkey : key ∉ settingKeys) : Effect.of? key text = some .nothing := by
  cases he : Effect.of? key text with
  | none => exact absurd (of?_eq_none_iff.1 he) (not_rejects hkey)
  | some e =>
    have hnone := Effect.key?_of_of? he
    rw [if_neg hkey] at hnone
    cases e with
    | nothing => rfl
    | _ => cases hnone

def isForSetting (b : String × String) : Bool :=
  decide (b.1 ∈ settingKeys)

/-- **Overrides under other keys change nothing.** -/
theorem overrideAll_filter (s : Settings) (es : List (String × String)) :
    s.overrideAll (es.filter isForSetting) = s.overrideAll es := by
  induction es generalizing s with
  | nil => rfl
  | cons b es ih =>
    by_cases hkey : b.1 ∈ settingKeys
    · have hfor : isForSetting b = true := decide_eq_true hkey
      rw [List.filter_cons_of_pos hfor, overrideAll_cons, overrideAll_cons]
      cases Effect.of? b.1 b.2 with
      | none => rfl
      | some e => exact ih (e.on s)
    · have hfor : ¬ isForSetting b = true := fun h => hkey (of_decide_eq_true h)
      rw [List.filter_cons_of_neg hfor, overrideAll_cons, of?_other hkey]
      exact ih s

/-- The entries for settings, in the order in which they are listed. -/
def settingEntries (o : Listing) (values : Dict String) : List (String × String) :=
  (o.entries values).filter isForSetting

/-- Maps that have the same for each setting can have it listed in the same order. -/
theorem exists_settingEntries (o : Listing) (h : ∀ key ∈ settingKeys, values'.get? key = values.get? key) :
    ∃ o', settingEntries o' values' = settingEntries o values := by
  let others := values'.toList.filter (fun b => !isForSetting b)
  have hnodup : ∀ (o : Listing) (values : Dict String), (settingEntries o values).Nodup := fun o values =>
    (List.Nodup.of_map Prod.fst (o.nodup_keys values)).filter isForSetting
  have hmem : ∀ b, b ∈ settingEntries o values ↔ b ∈ settingEntries .ascending values' := by
    intro b
    rw [settingEntries, settingEntries, List.mem_filter, List.mem_filter, o.mem_entries_iff,
      Listing.ascending.mem_entries_iff]
    exact and_congr_left fun hfor => by rw [h b.1 (of_decide_eq_true hfor)]
  have hsame : (settingEntries o values).Perm (settingEntries .ascending values') :=
    (List.perm_ext_iff_of_nodup (hnodup o values) (hnodup .ascending values')).2 hmem
  have hperm : (settingEntries o values ++ others).Perm values'.toList :=
    (hsame.append_right others).trans (List.filter_append_perm _ _)
  refine ⟨.ofPerm hperm, ?_⟩
  have hothers : others.filter isForSetting = [] := List.filter_eq_nil_iff.2 fun b hb => by
    simpa using (List.mem_filter.1 hb).2
  rw [settingEntries, Listing.entries_ofPerm, List.filter_append, hothers, List.append_nil, settingEntries,
    List.filter_filter]
  simp only [Bool.and_self]

theorem overrideBy_congr {o o' : Listing} (s : Settings) (h : settingEntries o' values' = settingEntries o values) :
    s.overrideBy o' values' = s.overrideBy o values := by
  rw [overrideBy, overrideBy, ← overrideAll_filter, ← overrideAll_filter s (o.entries values)]
  exact congrArg s.overrideAll h

end

/-- **Overrides change what they are told to.**  In whatever order a map of overrides is listed, they succeed exactly if the
texts that can be refused say something, they fail only over one that says nothing, and where they succeed each setting is
what its override says or what it was.  What is under other keys does not count: two maps that list the same entries for
settings in the same order come to the same, and what a map can come to, so can every map with these entries for settings.
-/
theorem overrideBy_outcome (o : Listing) (s : Settings) (values : Dict String) :
    ((∃ s', s.overrideBy o values = .ok s') ↔ Accepted values) ∧
    (∀ e, s.overrideBy o values = .error e → ∃ key text, e = .badOverride key text ∧ e.kind = .invalidValue ∧
      values.get? key = some text ∧ Rejects key text) ∧
    (∀ s', s.overrideBy o values = .ok s' → Obeyed values s s') ∧
    (∀ o' values', settingEntries o' values' = settingEntries o values →
      s.overrideBy o' values' = s.overrideBy o values) ∧
    ∀ values', (∀ key ∈ settingKeys, values'.get? key = values.get? key) →
      ∃ o', s.overrideBy o' values' = s.overrideBy o values := by
  refine ⟨overrideBy_ok_iff o s values, fun e h => ?_, fun s' h => obeyed_of_overrideBy o h,
    fun o' values' h => overrideBy_congr s h, fun values' h => ?_⟩
  · obtain ⟨key, text, hget, hrejects, rfl⟩ := overrideAll_error o.mem_entries_iff h
    exact ⟨key, text, rfl, rfl, hget, hrejects⟩
  · obtain ⟨o', ho'⟩ := exists_settingEntries o h
    exact ⟨o', overrideBy_congr s ho'⟩

example : overrideBy .descending { router := ⟨some "lost", some "lost.html"⟩ }
    (Dict.ofList [("colour", "red"), ("log_level", "Warning"), ("not_found_template_file", "404.html")]) =
    .ok { log := { level := .warn }, router := ⟨none, some "404.html"⟩ } := by decide +kernel

end Settings
end PathRouter
