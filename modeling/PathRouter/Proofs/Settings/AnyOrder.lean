import Mathlib.Data.List.Basic
import PathRouter.Proofs.Settings.Overridden
import PathRouter.Proofs.Settings.Variables
/-!
# Overrides in any order

Neither the variables of an environment nor the entries of a map have an order that settings should hang on.  An override
is an effect on settings or says nothing for its key (`Effect.of?`); effects under different keys commute, but for those of
the page and of its file.  So overrides that pick their values from the same variables give the same settings in every
order if the variables for a key agree in their effects (`overrideBy_eq`), and what more there is to say is
`orderFree_iff`.
-/
namespace PathRouter

namespace Listing

/-- Lists the entries of one map in a given order. -/
def ofPerm {values : Dict String} {es : List (String × String)} (h : es.Perm values.toList) : Listing where
  entries values' := if values' = values then es else values'.toList
  perm values' := by
    by_cases heq : values' = values
    · rw [if_pos heq, heq]
      exact h
    · rw [if_neg heq]

theorem entries_ofPerm {values : Dict String} {es : List (String × String)} (h : es.Perm values.toList) :
    (ofPerm h).entries values = es := if_pos rfl

end Listing

/-! ## Effects -/

/-- What an override makes of settings. -/
inductive Effect where
  | level (l : LogLevel)
  | format (f : LogFormat)
  | file (path : String)
  | envFilter (directives : String)
  | spans (b : Bool)
  | page (text : String)
  | pageFile (path : String)
  | nothing
deriving DecidableEq

namespace Effect

open Settings (isPageKey)

def on : Effect → Settings → Settings
  | .level l, s => { s with log := { s.log with level := l } }
  | .format f, s => { s with log := { s.log with format := f } }
  | .file path, s => { s with log := { s.log with file := some path } }
  | .envFilter directives, s => { s with log := { s.log with envFilter := some directives } }
  | .spans b, s => { s with log := { s.log with spans := b } }
  | .page text, s => { s with router := ⟨some text, none⟩ }
  | .pageFile path, s => { s with router := ⟨none, some path⟩ }
  | .nothing, s => s

/-- The effect of a text for a key; none if the text says nothing for the key. -/
def of? (key text : String) : Option Effect :=
  match key with
  | "log_level" => (LogLevel.ofName? text).map .level
  | "log_format" => (LogFormat.ofName? text).map .format
  | "log_file" => some (.file text)
  | "log_env_filter" => some (.envFilter text)
  | "log_spans" => (boolOfText? text).map .spans
  | "not_found_template" => some (.page text)
  | "not_found_template_file" => some (.pageFile text)
  | _ => some .nothing

/-- The key that an effect belongs to. -/
def key? : Effect → Option String
  | .level _ => some "log_level"
  | .format _ => some "log_format"
  | .file _ => some "log_file"
  | .envFilter _ => some "log_env_filter"
  | .spans _ => some "log_spans"
  | .page _ => some "not_found_template"
  | .pageFile _ => some "not_found_template_file"
  | .nothing => none

theorem key?_of_of? {key text : String} {e : Effect} (h : of? key text = some e) :
    e.key? = if key ∈ Settings.settingKeys then some key else none := by
  unfold of? at h
  split at h
  all_goals try obtain ⟨_, -, rfl⟩ := Option.map_eq_some_iff.1 h
  all_goals try obtain rfl := Option.some.inj h
  all_goals try rfl
  rename_i hlevel hformat hfile hfilter hspans hpage hpageFile
  have hkey : key ∉ Settings.settingKeys := by
    simp only [Settings.settingKeys, List.mem_cons, List.not_mem_nil, or_false, not_or]
    exact ⟨hlevel, hformat, hfile, hfilter, hspans, hpage, hpageFile⟩
  rw [if_neg hkey]
  rfl

/-- **Effects commute** that belong to different keys, if they are not those of the page and of its file. -/
theorem on_comm {e e' : Effect} (hkey : ∀ k ∈ e.key?, ∀ k' ∈ e'.key?, k ≠ k' ∧ ¬ (isPageKey k ∧ isPageKey k'))
    (s : Settings) : e'.on (e.on s) = e.on (e'.on s) := by
  cases e <;> cases e' <;> first | rfl | exact absurd (hkey _ rfl _ rfl) (by decide)

theorem on_inj {e e' : Effect} (hkey : e.key? = e'.key?) {s s' : Settings} (h : e.on s = e'.on s') : e = e' := by
  cases e <;> cases e' <;> simp_all [key?, on]

/-- The effects of overrides that say something for their keys. -/
def all (es : List (String × String)) : List Effect :=
  es.filterMap (fun b => of? b.1 b.2)

end Effect

namespace Settings

/-! ## One listing -/

section

variable {s : Settings} {es : List (String × String)}

theorem overrideOne_eq (s : Settings) (key text : String) : s.overrideOne key text =
    match Effect.of? key text with
    | some e => .ok (e.on s)
    | none => .error (.badOverride key text) := by
  unfold overrideOne Effect.of?
  split
  · cases LogLevel.ofName? text <;> rfl
  · cases LogFormat.ofName? text <;> rfl
  · rfl
  · rfl
  · unfold boolOfText?
    split
    · rfl
    · rfl
    · rename_i htrue hfalse
      rw [if_neg htrue, if_neg hfalse]
      rfl
  · rfl
  · rfl
  · simp only
    rfl

theorem overrideAll_cons (b : String × String) : s.overrideAll (b :: es) =
    match Effect.of? b.1 b.2 with
    | some e => (e.on s).overrideAll es
    | none => .error (.badOverride b.1 b.2) := by
  have hone := overrideOne_eq s b.1 b.2
  cases hb : Effect.of? b.1 b.2 with
  | none =>
    rw [hb] at hone
    simp only [overrideAll, List.foldlM_cons, hone]
    rfl
  | some e =>
    rw [hb] at hone
    simp only [overrideAll, List.foldlM_cons, hone]
    rfl

theorem overrideAll_eq_ok : ∀ {es : List (String × String)} {s : Settings},
    (∀ b ∈ es, Effect.of? b.1 b.2 ≠ none) → s.overrideAll es = .ok ((Effect.all es).foldl (fun s e => e.on s) s)
  | [], _, _ => rfl
  | b :: es, s, h => by
    obtain ⟨hb, hes⟩ := List.forall_mem_cons.1 h
    obtain ⟨e, he⟩ := Option.ne_none_iff_exists'.1 hb
    rw [overrideAll_cons, he, Effect.all, List.filterMap_cons, he]
    exact overrideAll_eq_ok hes

theorem overrideAll_eq_error (s : Settings) {b : String × String} (hb : b ∈ es) (hnone : Effect.of? b.1 b.2 = none) :
    ∃ c ∈ es, Effect.of? c.1 c.2 = none ∧ s.overrideAll es = .error (.badOverride c.1 c.2) := by
  induction es generalizing s with
  | nil => exact absurd hb List.not_mem_nil
  | cons c es ih =>
    rw [overrideAll_cons]
    cases hc : Effect.of? c.1 c.2 with
    | none => exact ⟨c, List.mem_cons_self, hc, rfl⟩
    | some e =>
      have hes : b ∈ es := (List.mem_cons.1 hb).resolve_left fun heq => by
        rw [heq, hc] at hnone
        cases hnone
      obtain ⟨c', hc', herror⟩ := ih (e.on s) hes
      exact ⟨c', List.mem_cons_of_mem _ hc', herror⟩

end

/-! ## Every listing -/

/-- All values for a key have one effect. -/
def Agree (bs : List (String × String)) : Prop :=
  ∀ b ∈ bs, ∀ c ∈ bs, b.1 = c.1 → Effect.of? b.1 b.2 = Effect.of? c.1 c.2

/-- There are no values for both the page and its file. -/
def OnePage (bs : List (String × String)) : Prop :=
  ∀ b ∈ bs, ∀ c ∈ bs, isPageKey b.1 = true → isPageKey c.1 = true → b.1 = c.1

/-- A map has one of the values for each key, and nothing else. -/
structure Picks (bs : List (String × String)) (values : Dict String) : Prop where
  mem : ∀ {key text}, values.get? key = some text → (key, text) ∈ bs
  all : ∀ b ∈ bs, (values.get? b.1).isSome = true

section

variable {bs : List (String × String)} {values values' : Dict String}

theorem picks_ofList {ps : List (String × String)} (hmem : ∀ b ∈ ps, b ∈ bs) (hall : ∀ b ∈ bs, b.1 ∈ ps.map Prod.fst) :
    Picks bs (Dict.ofList ps) := by
  refine ⟨fun {key text} hget => ?_, fun b hb => ?_⟩
  · rw [Dict.get?_ofList] at hget
    obtain ⟨e, he, rfl⟩ := Option.map_eq_some_iff.1 hget
    obtain ⟨hm, hkey⟩ := of_lastWhere? he
    rw [← beq_iff_eq.1 hkey]
    exact hmem e hm
  · obtain ⟨c, hc, hkey⟩ := List.mem_map.1 (hall b hb)
    rw [Dict.get?_ofList, last?, Option.isSome_map, lastWhere?, List.find?_isSome]
    exact ⟨c, List.mem_reverse.2 hc, beq_iff_eq.2 hkey⟩

theorem picks_ofList_self : Picks bs (Dict.ofList bs) :=
  picks_ofList (fun _ h => h) fun _ => List.mem_map_of_mem

theorem Picks.isSome_iff (h : Picks bs values) {key : String} :
    (values.get? key).isSome = true ↔ ∃ b ∈ bs, b.1 = key := by
  constructor
  · intro hsome
    obtain ⟨text, htext⟩ := Option.isSome_iff_exists.1 hsome
    exact ⟨_, h.mem htext, rfl⟩
  · rintro ⟨b, hb, rfl⟩
    exact h.all b hb

theorem Picks.effect_eq (hagree : Agree bs) (h : Picks bs values) (h' : Picks bs values') (key : String) :
    (values.get? key).bind (Effect.of? key) = (values'.get? key).bind (Effect.of? key) := by
  cases hget : values.get? key with
  | none =>
    have hnone : ¬ (values'.get? key).isSome = true := by
      rw [h'.isSome_iff, ← h.isSome_iff, hget]
      exact Bool.false_ne_true
    rw [Option.not_isSome_iff_eq_none.1 hnone]
  | some text =>
    have hsome : (values'.get? key).isSome = true := h'.all _ (h.mem hget)
    obtain ⟨text', hget'⟩ := Option.isSome_iff_exists.1 hsome
    rw [hget']
    exact hagree _ (h.mem hget) _ (h'.mem hget') rfl

/-- Maps that pick their values from the same ones have the same effects, in some order. -/
theorem effects_perm (hagree : Agree bs) (h : Picks bs values) (h' : Picks bs values') (o o' : Listing) :
    (Effect.all (o.entries values)).Perm (Effect.all (o'.entries values')) := by
  have hby : ∀ (o : Listing) (values : Dict String), Effect.all (o.entries values) =
      ((o.entries values).map Prod.fst).filterMap (fun key => (values.get? key).bind (Effect.of? key)) := by
    intro o values
    rw [List.filterMap_map]
    refine List.filterMap_congr fun b hb => ?_
    rw [Function.comp_apply, o.mem_entries_iff.1 hb]
    rfl
  have hmem : ∀ (o : Listing) {values : Dict String}, Picks bs values → ∀ key,
      key ∈ (o.entries values).map Prod.fst ↔ ∃ b ∈ bs, b.1 = key := by
    intro o values h key
    rw [← h.isSome_iff, Option.isSome_iff_exists, List.mem_map]
    constructor
    · rintro ⟨b, hb, rfl⟩
      exact ⟨b.2, o.mem_entries_iff.1 hb⟩
    · rintro ⟨text, htext⟩
      exact ⟨(key, text), o.mem_entries_iff.2 htext, rfl⟩
  have hkeys : ((o.entries values).map Prod.fst).Perm ((o'.entries values').map Prod.fst) :=
    (List.perm_ext_iff_of_nodup (o.nodup_keys values) (o'.nodup_keys values')).2 fun key =>
      (hmem o h key).trans (hmem o' h' key).symm
  rw [hby, hby, funext (Picks.effect_eq hagree h h')]
  exact hkeys.filterMap _

/-- **The order of overrides does not matter** if they say something for their keys and agree, and not both the page and its
file are among them. -/
theorem overrideBy_eq (hsay : ∀ b ∈ bs, Effect.of? b.1 b.2 ≠ none) (hagree : Agree bs) (hpage : OnePage bs)
    (h : Picks bs values) (h' : Picks bs values') (o o' : Listing) (s : Settings) :
    s.overrideBy o values = s.overrideBy o' values' := by
  have hmade : ∀ (o : Listing) {values : Dict String}, Picks bs values →
      s.overrideBy o values = .ok ((Effect.all (o.entries values)).foldl (fun s e => e.on s) s) := fun o values h =>
    overrideAll_eq_ok fun b hb => hsay b (h.mem (o.mem_entries_iff.1 hb))
  rw [hmade o h, hmade o' h']
  refine congrArg _ ((effects_perm hagree h h' o o').foldl_eq' (fun e he e' he' s => ?_) s)
  obtain ⟨b, hb, hbe⟩ := List.mem_filterMap.1 he
  obtain ⟨c, hc, hce⟩ := List.mem_filterMap.1 he'
  have hb := o.mem_entries_iff.1 hb
  have hc := o.mem_entries_iff.1 hc
  by_cases hkey : b.1 = c.1
  · -- A map has one value for a key, so the two are one override.
    rw [← hkey, hb] at hc
    rw [← hkey, ← Option.some.inj hc, hbe] at hce
    rw [Option.some.inj hce]
  · refine Effect.on_comm (fun k hk k' hk' => ?_) s
    have hkeys : k = b.1 ∧ k' = c.1 := by
      rw [Effect.key?_of_of? hbe] at hk
      rw [Effect.key?_of_of? hce] at hk'
      constructor
      · by_contra hne
        split at hk <;> simp_all
      · by_contra hne
        split at hk' <;> simp_all
    rw [hkeys.1, hkeys.2]
    exact ⟨hkey, fun hboth => hkey (hpage _ (h.mem hb) _ (h.mem hc) hboth.1 hboth.2)⟩

/-! ## Every enumeration -/

open Override (collect keyed nameStart)

/-- Neither the order of variables nor the order of the map that is made of them counts. -/
def OrderFree (s : Settings) (vars : List (String × String)) : Prop :=
  ∀ vars' vars'', vars'.Perm vars → vars''.Perm vars → ∀ o o' : Listing,
    s.overrideBy o (collect (some nameStart) vars') = s.overrideBy o' (collect (some nameStart) vars'')

/-- Exactly one value says nothing for its key, and it is the only one for the key. -/
def OneRefused (bs : List (String × String)) : Prop :=
  ∃ b ∈ bs, Effect.of? b.1 b.2 = none ∧ ∀ c ∈ bs, c.1 = b.1 ∨ Effect.of? c.1 c.2 = none → c = b

/-- Each value says something for its key, and all values for a key the same. -/
def AllAgree (bs : List (String × String)) : Prop :=
  (∀ b ∈ bs, Effect.of? b.1 b.2 ≠ none) ∧ Agree bs

variable {s : Settings} {vars : List (String × String)} {b c : String × String}

theorem picks_collect {vars' : List (String × String)} (h : vars'.Perm vars) :
    Picks (keyed vars) (collect (some nameStart) vars') :=
  have hkeyed : (keyed vars').Perm (keyed vars) := h.filterMap _
  picks_ofList (fun _ => hkeyed.mem_iff.1) fun _ hb => List.mem_map_of_mem (hkeyed.mem_iff.2 hb)

/-- A value for a key counts if its variable comes last. -/
theorem exists_collect (hb : b ∈ keyed vars) :
    ∃ vars', vars'.Perm vars ∧ (collect (some nameStart) vars').get? b.1 = some b.2 := by
  obtain ⟨v, hv, hkey⟩ := List.mem_filterMap.1 hb
  refine ⟨vars.erase v ++ [v], (List.perm_append_singleton v _).trans (List.perm_cons_erase hv).symm, ?_⟩
  have hlast : keyed (vars.erase v ++ [v]) = keyed (vars.erase v) ++ [b] := by
    rw [keyed, List.filterMap_append, List.filterMap_cons, hkey]
    rfl
  have hcollect : collect (some nameStart) (vars.erase v ++ [v]) = Dict.ofList (keyed (vars.erase v ++ [v])) := rfl
  rw [hcollect, Dict.get?_ofList, hlast, last?, lastWhere?, List.reverse_append]
  simp

theorem exists_reported (s : Settings) (hget : values.get? b.1 = some b.2) (hnone : Effect.of? b.1 b.2 = none) :
    ∃ o : Listing, s.overrideBy o values = .error (.badOverride b.1 b.2) := by
  refine ⟨.ofPerm (List.perm_cons_erase (Dict.mem_toList_iff.2 hget)).symm, ?_⟩
  rw [overrideBy, Listing.entries_ofPerm, overrideAll_cons, hnone]

/-- A value has its effect on what the others left if it is listed last. -/
theorem exists_last {e : Effect} (hget : values.get? b.1 = some b.2) (he : Effect.of? b.1 b.2 = some e)
    (hsay : ∀ c ∈ values.toList, Effect.of? c.1 c.2 ≠ none) :
    ∃ (o : Listing) (s' : Settings), s.overrideBy o values = .ok (e.on s') := by
  have hperm : (values.toList.erase b ++ [b]).Perm values.toList :=
    (List.perm_append_singleton b _).trans (List.perm_cons_erase (Dict.mem_toList_iff.2 hget)).symm
  refine ⟨.ofPerm hperm, (Effect.all (values.toList.erase b)).foldl (fun s e => e.on s) s, ?_⟩
  have hlast : Effect.all (values.toList.erase b ++ [b]) = Effect.all (values.toList.erase b) ++ [e] := by
    rw [Effect.all, List.filterMap_append, List.filterMap_cons, he]
    rfl
  rw [overrideBy, Listing.entries_ofPerm, overrideAll_eq_ok fun c hc => hsay c (hperm.mem_iff.1 hc), hlast,
    List.foldl_append]
  rfl

theorem get?_of_reported {o : Listing} (h : s.overrideBy o values = .error (.badOverride b.1 b.2)) :
    values.get? b.1 = some b.2 := by
  by_cases hsay : ∀ c ∈ o.entries values, Effect.of? c.1 c.2 ≠ none
  · rw [overrideBy, overrideAll_eq_ok hsay] at h
    cases h
  · push Not at hsay
    obtain ⟨c, hc, hnone⟩ := hsay
    obtain ⟨d, hd, -, herror⟩ := overrideAll_eq_error s hc hnone
    obtain ⟨hkey, htext⟩ := SettingsError.badOverride.inj (Except.error.inj (herror.symm.trans h))
    rw [← hkey, ← htext]
    exact o.mem_entries_iff.1 hd

theorem orderFree_of_oneRefused (h : OneRefused (keyed vars)) : s.OrderFree vars := by
  obtain ⟨b, hb, hnone, honly⟩ := h
  have hreported : ∀ vars', vars'.Perm vars → ∀ o : Listing,
      s.overrideBy o (collect (some nameStart) vars') = .error (.badOverride b.1 b.2) := by
    intro vars' hperm o
    have hpicks := picks_collect hperm
    obtain ⟨text, htext⟩ := Option.isSome_iff_exists.1 (hpicks.all b hb)
    have hone : text = b.2 := congrArg Prod.snd (honly _ (hpicks.mem htext) (.inl rfl))
    rw [hone] at htext
    obtain ⟨c, hc, hcnone, herror⟩ := overrideAll_eq_error s (o.mem_entries_iff.2 htext) hnone
    rw [overrideBy, herror, honly c (hpicks.mem (o.mem_entries_iff.1 hc)) (.inr hcnone)]
  intro vars' vars'' h' h'' o o'
  rw [hreported vars' h' o, hreported vars'' h'' o']

theorem oneRefused_of_orderFree (h : s.OrderFree vars) (hb : b ∈ keyed vars) (hnone : Effect.of? b.1 b.2 = none) :
    OneRefused (keyed vars) := by
  refine ⟨b, hb, hnone, fun c hc hsame => ?_⟩
  obtain ⟨vars', hperm, hget⟩ := exists_collect hb
  obtain ⟨o, herror⟩ := exists_reported s hget hnone
  obtain ⟨vars'', hperm', hget'⟩ := exists_collect hc
  rcases hsame with hkey | hnone'
  · have hget := get?_of_reported ((h vars'' vars' hperm' hperm o o).trans herror)
    rw [← hkey, hget'] at hget
    exact Prod.ext hkey (Option.some.inj hget)
  · obtain ⟨o', herror'⟩ := exists_reported s hget' hnone'
    have heq := herror'.symm.trans ((h vars'' vars' hperm' hperm o' o).trans herror)
    obtain ⟨hkey, htext⟩ := SettingsError.badOverride.inj (Except.error.inj heq)
    exact Prod.ext hkey htext

/-- Of values that all say something each can have its effect last. -/
theorem exists_effect_last (s : Settings) (hsay : ∀ b ∈ keyed vars, Effect.of? b.1 b.2 ≠ none) (hb : b ∈ keyed vars) :
    ∃ e, Effect.of? b.1 b.2 = some e ∧ ∃ vars', vars'.Perm vars ∧
      ∃ (o : Listing) (s' : Settings), s.overrideBy o (collect (some nameStart) vars') = .ok (e.on s') := by
  obtain ⟨e, he⟩ := Option.ne_none_iff_exists'.1 (hsay b hb)
  obtain ⟨vars', hperm, hget⟩ := exists_collect hb
  exact ⟨e, he, vars', hperm, exists_last hget he fun c hc =>
    hsay c ((picks_collect hperm).mem (Dict.mem_toList_iff.1 hc))⟩

/-- Where order does not count, either of two effects can have been the last. -/
theorem on_eq_of_orderFree (h : s.OrderFree vars) (hsay : ∀ b ∈ keyed vars, Effect.of? b.1 b.2 ≠ none)
    (hb : b ∈ keyed vars) (hc : c ∈ keyed vars) : ∃ e e', Effect.of? b.1 b.2 = some e ∧
      Effect.of? c.1 c.2 = some e' ∧ ∃ s₁ s₂, e.on s₁ = e'.on s₂ := by
  obtain ⟨e, he, vars', hperm, o, s₁, hs⟩ := exists_effect_last s hsay hb
  obtain ⟨e', he', vars'', hperm', o', s₂, hs'⟩ := exists_effect_last s hsay hc
  have hsame := hs.symm.trans ((h vars' vars'' hperm hperm' o o').trans hs')
  exact ⟨e, e', he, he', s₁, s₂, Except.ok.inj hsame⟩

theorem agree_of_orderFree (h : s.OrderFree vars) (hsay : ∀ b ∈ keyed vars, Effect.of? b.1 b.2 ≠ none) :
    Agree (keyed vars) := by
  intro b hb c hc hkey
  obtain ⟨e, e', he, he', s₁, s₂, hsame⟩ := on_eq_of_orderFree h hsay hb hc
  have hkeys : e.key? = e'.key? := by rw [Effect.key?_of_of? he, Effect.key?_of_of? he', hkey]
  rw [he, he', Effect.on_inj hkeys hsame]

/-- The page and its file each take the place of the other, so order counts with both. -/
theorem onePage_of_orderFree (h : s.OrderFree vars) (hsay : ∀ b ∈ keyed vars, Effect.of? b.1 b.2 ≠ none) :
    OnePage (keyed vars) := by
  intro b hb c hc hpage hpage'
  obtain ⟨e, e', he, he', s₁, s₂, hsame⟩ := on_eq_of_orderFree h hsay hb hc
  have hrouter : ∀ {key text : String} {e : Effect}, isPageKey key = true → Effect.of? key text = some e →
      ∀ s, (e.on s).router = pageSettings key text := by
    intro key text e hkey he s
    rcases Bool.or_eq_true_iff.1 hkey with hkey | hkey <;> obtain rfl := beq_iff_eq.1 hkey
    all_goals
      obtain rfl := Option.some.inj he
      rfl
  by_contra hne
  have hsame : pageSettings b.1 b.2 = pageSettings c.1 c.2 := by
    rw [← hrouter hpage he s₁, ← hrouter hpage' he' s₂, hsame]
  rcases Bool.or_eq_true_iff.1 hpage with hb | hb <;> rcases Bool.or_eq_true_iff.1 hpage' with hc | hc
  all_goals simp_all [pageSettings]

/-- **When order does not count.**  Settings are overridden in one way, whatever the order of the variables and of the map,
exactly if all values for a key agree and say something and not both the page and its file are among the keys, or else one
value is refused in every order. -/
theorem orderFree_iff (s : Settings) {vars : List (String × String)} :
    s.OrderFree vars ↔ OnePage (keyed vars) ∧ AllAgree (keyed vars) ∨ OneRefused (keyed vars) := by
  constructor
  · intro h
    by_cases hsay : ∀ b ∈ keyed vars, Effect.of? b.1 b.2 ≠ none
    · exact .inl ⟨onePage_of_orderFree h hsay, hsay, agree_of_orderFree h hsay⟩
    · push Not at hsay
      obtain ⟨b, hb, hnone⟩ := hsay
      exact .inr (oneRefused_of_orderFree h hb hnone)
  · rintro (⟨hpage, hsay, hagree⟩ | hrefused)
    · intro vars' vars'' h' h'' o o'
      exact overrideBy_eq hsay hagree hpage (picks_collect h') (picks_collect h'') o o' s
    · exact orderFree_of_oneRefused hrefused

def agreeing : List (String × String) :=
  [("WAYMARK_LOG_LEVEL", "debug"), ("WAYMARK_log_level", "DEBUG"), ("WAYMARK_LOG_SPANS", "true")]

/-- Both the page and its file are among the variables, with one value that is refused. -/
def refused : List (String × String) :=
  [("WAYMARK_LOG_SPANS", "yes"), ("WAYMARK_NOT_FOUND_TEMPLATE", "none"), ("WAYMARK_NOT_FOUND_TEMPLATE_FILE", "404.html")]

theorem orderFree_agreeing : OrderFree {} agreeing ∧ OrderFree {} refused := by
  refine ⟨(orderFree_iff {}).2 (.inl ?_), (orderFree_iff {}).2 (.inr ?_)⟩
  · unfold OnePage AllAgree Agree
    decide +kernel
  · unfold OneRefused
    decide +kernel

def twoLevels : List (String × String) :=
  [("WAYMARK_LOG_LEVEL", "error"), ("WAYMARK_log_level", "debug")]

def pageAndFile : List (String × String) :=
  [("WAYMARK_NOT_FOUND_TEMPLATE", "none"), ("WAYMARK_NOT_FOUND_TEMPLATE_FILE", "404.html")]

def twoRefused : List (String × String) :=
  [("WAYMARK_LOG_FORMAT", "xml"), ("WAYMARK_LOG_LEVEL", "loud")]

/-- Order counts among variables for two levels, for the page and its file, and with values that are refused for two keys. -/
theorem order_counts : ((twoLevels.map Prod.fst).Nodup ∧ ¬ OrderFree {} twoLevels) ∧
    ((pageAndFile.map Prod.fst).Nodup ∧ ¬ OrderFree {} pageAndFile) ∧
    (twoRefused.map Prod.fst).Nodup ∧ ¬ OrderFree {} twoRefused := by
  refine ⟨⟨by decide, fun h => ?_⟩, ⟨by decide, fun h => ?_⟩, by decide, fun h => ?_⟩
  · exact absurd (h _ _ (.refl _) (List.reverse_perm _) .ascending .ascending) (by decide +kernel)
  · exact absurd (h _ _ (.refl _) (.refl _) .ascending .descending) (by decide +kernel)
  · exact absurd (h _ _ (.refl _) (.refl _) .ascending .descending) (by decide +kernel)

end

end Settings
end PathRouter
