import PathRouter.Proofs.Settings.Outcome
import PathRouter.Proofs.Settings.Precedence
/-!
# Overrides as edits of a document

An override could as well be written into the document that the settings come from: its text, or for spans its truth
value, becomes a member of the document, and a page takes the place of its file (`edited`).  `overrideBy_eq_edited` says
that both ways give the same settings.

Whether a record can be read hangs on its members one by one (`members_ok_iff`), and each field on the member under its
name.  So an edited document is read because the old members are and the new ones are, and its settings are compared
with the overridden ones field by field.
-/
namespace PathRouter

/-! ## Editing members -/

namespace Entries

variable {α : Type} {k k' : String} {es : List (String × α)}

/-- Gives a key a value, or takes away the one that it has. -/
def change (k : String) (v : Option α) (es : List (String × α)) : List (String × α) :=
  match v with
  | some v => put k v es
  | none => erase k es

def edit (edits : List (String × Option α)) (es : List (String × α)) : List (String × α) :=
  edits.foldl (fun es e => change e.1 e.2 es) es

theorem get?_erase : get? k' (erase k es) = if k' = k then none else get? k' es := by
  induction es with
  | nil => simp [erase, get?]
  | cons e es ih =>
    rw [erase] at ih ⊢
    by_cases he : e.1 = k
    · rw [List.filter_cons_of_neg (by simpa using he), ih, get?, he]
      by_cases hk : k' = k <;> simp [hk]
    · rw [List.filter_cons_of_pos (by simpa using he), get?, get?, ih]
      by_cases hk : k' = e.1
      · simp [hk, he]
      · simp [hk]

theorem get?_change {v : Option α} : get? k' (change k v es) = if k' = k then v else get? k' es := by
  cases v with
  | none => exact get?_erase
  | some v => exact get?_put

/-- **The last change of a key counts.** -/
theorem get?_edit (edits : List (String × Option α)) (es : List (String × α)) :
    get? k (edit edits es) = (last? k edits).getD (get? k es) := by
  induction edits generalizing es with
  | nil => rfl
  | cons e edits ih =>
    have hfold : edit (e :: edits) es = edit edits (change e.1 e.2 es) := rfl
    rw [hfold, ih, get?_change, last?_cons]
    cases last? k edits with
    | some w => rfl
    | none => by_cases hk : e.1 = k <;> simp [hk, Ne.symm]

theorem edit_ascending (edits : List (String × Option α)) (h : Ascending es) : Ascending (edit edits es) := by
  induction edits generalizing es with
  | nil => exact h
  | cons e edits ih =>
    obtain ⟨k, v⟩ := e
    cases v with
    | none => exact ih (filter_ascending _ h)
    | some v => exact ih (put_ascending h)

theorem mem_edit {edits : List (String × Option α)} {e : String × α} (h : e ∈ edit edits es) :
    e ∈ es ∨ (e.1, some e.2) ∈ edits := by
  induction edits generalizing es with
  | nil => exact .inl h
  | cons c edits ih =>
    obtain ⟨k, v⟩ := c
    rcases ih h with h | h
    · cases v with
      | none => exact .inl (List.mem_of_mem_filter h)
      | some v =>
        rcases mem_put h with rfl | h
        · exact .inr List.mem_cons_self
        · exact .inl h
    · exact .inr (List.mem_cons_of_mem _ h)

theorem last?_eq_get? (h : Ascending es) : last? k es = get? k es := by
  have hnodup : (es.map Prod.fst).Nodup := Dict.nodup_keys ⟨es, h⟩
  rw [last?_eq_lookup hnodup, get?_eq_lookup]

end Entries

/-! ## Reading members -/

namespace Shape

variable {α : Type} {fields : List (RecordField α)}

/-- There is a field for the member, and it can read the value. -/
def Readable (fields : List (RecordField α)) (e : String × Value) : Prop :=
  ∃ f, fields.find? (fun f => f.name == e.1) = some f ∧ ∃ a a', f.store e.2 a = .ok a'

theorem Readable.of {β : Type} {name : String} {read : Reader β} {set : β → α → α} {v : Value} {b : β}
    (hfield : fields.find? (fun f => f.name == name) = some (.of name read set)) (h : read v = .ok b) (a : α) :
    Readable fields (name, v) :=
  ⟨_, hfield, a, set b a, by simp [RecordField.of, h, Except.map]⟩

/-- A field that can read a value can read it into any record. -/
def Steady (fields : List (RecordField α)) : Prop :=
  ∀ f ∈ fields, ∀ v a a', f.store v a = .ok a' → ∀ b, ∃ b', f.store v b = .ok b'

theorem steady_nil : Steady ([] : List (RecordField α)) :=
  fun _ h => absurd h List.not_mem_nil

theorem Steady.of {β : Type} {name : String} {read : Reader β} {set : β → α → α} (h : Steady fields) :
    Steady (.of name read set :: fields) := by
  refine List.forall_mem_cons.2 ⟨fun v a a' hs b => ?_, h⟩
  obtain ⟨w, hw, -⟩ := store_of hs
  exact ⟨set w b, by simp [RecordField.of, hw, Except.map]⟩

/-- **A record is read exactly if each of its members can be.** -/
theorem members_ok_iff (hsteady : Steady fields) {a : α} {ms : List (String × Value)} :
    (∃ r, members fields a ms = .ok r) ↔ ∀ e ∈ ms, Readable fields e := by
  constructor
  · rintro ⟨r, hr⟩ e he
    obtain ⟨t, t', hstep⟩ := foldlM_steps.1 r hr e he
    dsimp only at hstep
    split at hstep
    · rename_i f hf
      exact ⟨f, hf, t, t', hstep⟩
    · cases hstep
  · intro h
    induction ms generalizing a with
    | nil => exact ⟨a, rfl⟩
    | cons e ms ih =>
      obtain ⟨key, v⟩ := e
      obtain ⟨⟨f, hf, t, t', hstore⟩, hms⟩ := List.forall_mem_cons.1 h
      obtain ⟨a', ha'⟩ := hsteady f (List.mem_of_find?_eq_some hf) _ _ _ hstore a
      obtain ⟨r, hr⟩ := @ih a' hms
      refine ⟨r, ?_⟩
      unfold members at hr ⊢
      dsimp only at hf ha'
      rw [List.foldlM_cons]
      dsimp only
      rw [hf]
      dsimp only
      rw [ha']
      exact hr

theorem steady_log : Steady LogSettings.fields :=
  steady_nil.of.of.of.of.of

theorem steady_router : Steady RouterSettings.fields :=
  steady_nil.of.of

theorem steady_settings : Steady Settings.fields :=
  steady_nil.of.of

end Shape

/-! ## Documents -/

namespace Value

open Shape Entries

/-- An object, whose members are in ascending order of keys. -/
def IsObject (v : Value) : Prop :=
  ∃ ms, v = .object ms ∧ Ascending ms

def partKeys : List String := ["log", "router"]

/-- An object whose parts, where it has them, are objects. -/
structure HasParts (v : Value) : Prop where
  object : v.IsObject
  parts : ∀ part ∈ partKeys, ∀ w, v.member? part = some w → w.IsObject

def members : Value → List (String × Value)
  | .object ms => ms
  | _ => []

def partMembers (v : Value) (part : String) : List (String × Value) :=
  (v.member? part).elim [] members

/-- What a document says for a key of one of its parts. -/
def at? (v : Value) (part key : String) : Option Value :=
  (v.member? part).bind (·.member? key)

/-- Makes changes in a part of a document, which is added if it is not there. -/
def editPart (part : String) (edits : List (String × Option Value)) (v : Value) : Value :=
  if edits.isEmpty then v else .object (put part (.object (edit edits (v.partMembers part))) v.members)

variable {v : Value} {part part' key : String} {edits : List (String × Option Value)}

theorem member?_eq (v : Value) (key : String) : v.member? key = get? key v.members := by
  cases v <;> rfl

theorem get?_partMembers (v : Value) (part key : String) : get? key (v.partMembers part) = v.at? part key := by
  rw [at?, partMembers]
  cases v.member? part with
  | none => rfl
  | some w => exact (member?_eq w key).symm

theorem at?_editPart : (v.editPart part edits).at? part' key =
    if part' = part then (last? key edits).getD (v.at? part key) else v.at? part' key := by
  unfold editPart
  split
  · rename_i hnil
    rw [List.isEmpty_iff.1 hnil]
    by_cases hpart : part' = part <;> simp [hpart, last?, lastWhere?]
  · have hmember : ∀ ms, (Value.object ms).member? part' = get? part' ms := fun _ => rfl
    rw [at?, hmember, get?_put, ← member?_eq]
    by_cases hpart : part' = part
    · rw [if_pos hpart, if_pos hpart, ← get?_partMembers]
      exact get?_edit _ _
    · rw [if_neg hpart, if_neg hpart]
      rfl

theorem IsObject.members_ascending (h : v.IsObject) : Ascending v.members := by
  obtain ⟨ms, rfl, hms⟩ := h
  exact hms

theorem IsObject.eq_object (h : v.IsObject) : v = .object v.members := by
  obtain ⟨ms, rfl, -⟩ := h
  rfl

theorem HasParts.part_ascending (h : v.HasParts) (hpart : part ∈ partKeys) : Ascending (v.partMembers part) := by
  rw [partMembers]
  cases hw : v.member? part with
  | none => exact List.Pairwise.nil
  | some w => exact (h.parts part hpart w hw).members_ascending

theorem HasParts.editPart (h : v.HasParts) (hpart : part ∈ partKeys) : (v.editPart part edits).HasParts := by
  unfold Value.editPart
  split
  · exact h
  · refine ⟨⟨_, rfl, put_ascending h.object.members_ascending⟩, fun part' hpart' w hw => ?_⟩
    rw [member?_eq, members, get?_put, ← member?_eq] at hw
    split at hw
    · obtain rfl := Option.some.inj hw
      exact ⟨_, rfl, edit_ascending _ (h.part_ascending hpart)⟩
    · exact h.parts part' hpart' w hw

theorem IsObject.part? {α : Type} {fields : List (RecordField α)} (h : v.IsObject) :
    Shape.part? fields key v = v.member? key := by
  obtain ⟨ms, rfl, hms⟩ := h
  exact last?_eq_get? hms

theorem HasParts.part? {α : Type} {fields : List (RecordField α)} (h : v.HasParts) (hpart : part ∈ partKeys) :
    (Shape.part? Settings.fields part v).bind (Shape.part? fields key) = v.at? part key := by
  rw [h.object.part?, at?]
  cases hw : v.member? part with
  | none => rfl
  | some w => exact (h.parts part hpart w hw).part?

theorem IsObject.mem_members_iff (h : v.IsObject) {w : Value} : (key, w) ∈ v.members ↔ v.member? key = some w := by
  have hm := @Dict.mem_toList_iff Value key ⟨v.members, h.members_ascending⟩ w
  rw [member?_eq]
  exact hm

section

variable {α : Type} {fields : List (RecordField α)} {type : String} {a : α} {set : α → Settings → Settings}
  (hfield : Settings.fields.find? (fun f => f.name == part) = some (.of part (record type fields a) set))
  (hsteady : Steady fields) (hv : v.HasParts) (hpart : part ∈ partKeys) (h : ∃ s, Settings.ofValue v = .ok s)

include hfield hsteady hv hpart h

theorem readable_part : ∀ e ∈ v.partMembers part, Readable fields e := by
  rw [partMembers]
  cases hw : v.member? part with
  | none => exact fun _ he => absurd he List.not_mem_nil
  | some w =>
    rw [hv.object.eq_object] at h
    obtain ⟨f, hf, t, t', hstore⟩ := (members_ok_iff steady_settings).1 h _ (hv.object.mem_members_iff.2 hw)
    obtain rfl := Option.some.inj (hfield.symm.trans hf)
    obtain ⟨r, hr, -⟩ := store_of hstore
    obtain ⟨ms, rfl, -⟩ := hv.parts part hpart w hw
    exact (members_ok_iff hsteady).1 ⟨r, hr⟩

/-- **An edited part is read** if the document was read and the new members of the part can be. -/
theorem ofValue_editPart (hedits : ∀ key w, (key, some w) ∈ edits → Readable fields (key, w)) :
    ∃ s, Settings.ofValue (v.editPart part edits) = .ok s := by
  have hinner := readable_part hfield hsteady hv hpart h
  unfold Value.editPart
  split
  · exact h
  · rw [hv.object.eq_object] at h
    refine (members_ok_iff steady_settings).2 fun e he => ?_
    rcases mem_put he with rfl | he
    · have hnew : ∃ r, Shape.members fields a (edit edits (v.partMembers part)) = .ok r := by
        refine (members_ok_iff hsteady).2 fun e he => ?_
        rcases mem_edit he with he | he
        · exact hinner e he
        · exact hedits e.1 e.2 he
      obtain ⟨r, hr⟩ := hnew
      exact .of hfield hr {}
    · exact (members_ok_iff steady_settings).1 h e he

end

end Value

/-! ## Overrides as edits -/

attribute [ext] LogSettings RouterSettings Settings

namespace Settings

open Shape

/-- Texts for the level and the format are names in lower case, one for spans is a truth value, and not both the page and
its file are there. -/
structure Canonical (values : Dict String) : Prop where
  level : ∀ text, values.get? "log_level" = some text → ∃ l : LogLevel, text = l.name
  format : ∀ text, values.get? "log_format" = some text → ∃ f : LogFormat, text = f.name
  spans : ∀ text, values.get? "log_spans" = some text → text = "true" ∨ text = "false"
  onePage : values.get? "not_found_template" = none ∨ values.get? "not_found_template_file" = none

def written (member : String) (toValue : String → Value) (text : Option String) : List (String × Option Value) :=
  text.toList.map (fun text => (member, some (toValue text)))

def spansValue (text : String) : Value :=
  .bool (text == "true")

/-- What overrides change in the part for the log. -/
def logEdits (values : Dict String) : List (String × Option Value) :=
  written "level" .text (values.get? "log_level") ++ written "format" .text (values.get? "log_format") ++
    written "file" .text (values.get? "log_file") ++ written "env_filter" .text (values.get? "log_env_filter") ++
    written "spans" spansValue (values.get? "log_spans")

/-- What overrides change in the part for the router: the page or its file takes the place of both. -/
def routerEdits (values : Dict String) : List (String × Option Value) :=
  match values.get? "not_found_template", values.get? "not_found_template_file" with
  | some text, _ => [("not_found_template", some (.text text)), ("not_found_template_file", none)]
  | none, some path => [("not_found_template_file", some (.text path)), ("not_found_template", none)]
  | none, none => []

/-- The document with overrides written into it. -/
def edited (values : Dict String) (v : Value) : Value :=
  (v.editPart "log" (logEdits values)).editPart "router" (routerEdits values)

section

variable {v : Value} {s : Settings} {values : Dict String}

/-! ### The log -/

theorem last?_append {α : Type} {key : String} (es es' : List (String × α)) :
    last? key (es ++ es') = (last? key es').or (last? key es) := by
  rw [last?, lastWhere?, List.reverse_append, List.find?_append, last?, last?, lastWhere?, lastWhere?]
  cases es'.reverse.find? (fun e => e.1 == key) <;> rfl

theorem last?_written {key member : String} {toValue : String → Value} {text : Option String} :
    last? key (written member toValue text) =
      if member = key then text.map (fun text => some (toValue text)) else none := by
  cases text with
  | none => simp [written, last?, lastWhere?]
  | some text => simp [written, last?, lastWhere?]

/-- How the texts of a setting are written as values that read alike. -/
structure WrittenAs {β : Type} (x : LogSetting β) (toValue : String → Value) : Prop where
  edits : ∀ values, last? x.field (logEdits values) = (values.get? x.key).map (fun text => some (toValue text))
  reads : ∀ {values}, Canonical values → ∀ {text b}, values.get? x.key = some text → x.ofText? text = some b →
    x.ofValue (toValue text) = .ok b

theorem ofName?_level (l : LogLevel) : LogLevel.ofName? l.name = some l := by
  cases l <;> decide

theorem ofName?_format (f : LogFormat) : LogFormat.ofName? f.name = some f := by
  cases f <;> decide

theorem choice_level (l : LogLevel) : choice LogLevel.all LogLevel.name (.text l.name) = .ok l := by
  cases l <;> rfl

theorem choice_format (f : LogFormat) : choice LogFormat.all LogFormat.name (.text f.name) = .ok f := by
  cases f <;> rfl

theorem optionalText_text (text : String) : optionalText (.text text) = .ok (some text) := rfl

theorem bool_spansValue (text : String) : Shape.bool (spansValue text) = .ok (text == "true") := rfl

theorem writtenAs_level : WrittenAs .level .text where
  edits values := by simp [logEdits, LogSetting.level, last?_append, last?_written]
  reads h text b hget hb := by
    obtain ⟨l, rfl⟩ := h.level text hget
    obtain rfl := Option.some.inj ((ofName?_level l).symm.trans hb)
    exact choice_level l

theorem writtenAs_format : WrittenAs .format .text where
  edits values := by simp [logEdits, LogSetting.format, last?_append, last?_written]
  reads h text b hget hb := by
    obtain ⟨f, rfl⟩ := h.format text hget
    obtain rfl := Option.some.inj ((ofName?_format f).symm.trans hb)
    exact choice_format f

theorem writtenAs_file : WrittenAs .file .text where
  edits values := by simp [logEdits, LogSetting.file, last?_append, last?_written]
  reads _ text b _ hb := by
    obtain rfl := Option.some.inj hb
    exact optionalText_text text

theorem writtenAs_envFilter : WrittenAs .envFilter .text where
  edits values := by simp [logEdits, LogSetting.envFilter, last?_append, last?_written]
  reads _ text b _ hb := by
    obtain rfl := Option.some.inj hb
    exact optionalText_text text

theorem writtenAs_spans : WrittenAs .spans spansValue where
  edits values := by simp [logEdits, LogSetting.spans, last?_append, last?_written]
  reads h text b hget hb := by
    rcases h.spans text hget with rfl | rfl
    · obtain rfl : true = b := Option.some.inj hb
      rfl
    · obtain rfl : false = b := Option.some.inj hb
      rfl

theorem decided_unique {β : Type} {said : Option Value} {read : Reader β} {d b b' : β}
    (h : Decided said (fun w b => read w = .ok b) d b) (h' : Decided said (fun w b => read w = .ok b) d b') :
    b = b' := by
  cases said with
  | none => exact Eq.trans h (Eq.symm h')
  | some w => exact Except.ok.inj (Eq.trans (Eq.symm h) h')

theorem accepted_of_canonical (h : Canonical values) : Accepted values where
  level text hget := by
    obtain ⟨l, rfl⟩ := h.level text hget
    exact ⟨l, ofName?_level l⟩
  format text hget := by
    obtain ⟨f, rfl⟩ := h.format text hget
    exact ⟨f, ofName?_format f⟩
  spans := h.spans

theorem at?_edited_log (key : String) :
    (edited values v).at? "log" key = (last? key (logEdits values)).getD (v.at? "log" key) := by
  rw [edited, Value.at?_editPart, if_neg (by decide), Value.at?_editPart, if_pos rfl]

theorem at?_edited_router (key : String) :
    (edited values v).at? "router" key = (last? key (routerEdits values)).getD (v.at? "router" key) := by
  rw [edited, Value.at?_editPart, if_pos rfl, Value.at?_editPart, if_neg (by decide)]

theorem hasParts_edited (hv : v.HasParts) : (edited values v).HasParts :=
  (hv.editPart (by decide)).editPart (by decide)

theorem of_mem_written {key member : String} {toValue : String → Value} {text : Option String} {w : Value}
    (h : (key, some w) ∈ written member toValue text) : key = member ∧ ∃ t, text = some t ∧ w = toValue t := by
  obtain ⟨t, ht, heq⟩ := List.mem_map.1 h
  obtain ⟨rfl, hw⟩ := Prod.mk.inj heq
  exact ⟨rfl, t, Option.mem_toList.1 ht, (Option.some.inj hw).symm⟩

theorem readable_logEdits (h : Canonical values) (key : String) (w : Value) (hmem : (key, some w) ∈ logEdits values) :
    Readable LogSettings.fields (key, w) := by
  simp only [logEdits, List.mem_append] at hmem
  rcases hmem with (((hmem | hmem) | hmem) | hmem) | hmem
  all_goals obtain ⟨rfl, text, hget, rfl⟩ := of_mem_written hmem
  · obtain ⟨l, rfl⟩ := h.level text hget
    exact .of rfl (choice_level l) {}
  · obtain ⟨f, rfl⟩ := h.format text hget
    exact .of rfl (choice_format f) {}
  · exact .of rfl (optionalText_text text) {}
  · exact .of rfl (optionalText_text text) {}
  · exact .of rfl (bool_spansValue text) {}

theorem readable_routerEdits (key : String) (w : Value) (hmem : (key, some w) ∈ routerEdits values) :
    Readable RouterSettings.fields (key, w) := by
  unfold routerEdits at hmem
  split at hmem
  · rename_i text _
    obtain ⟨rfl, rfl⟩ : key = "not_found_template" ∧ w = .text text := by simpa using hmem
    exact .of rfl (optionalText_text text) {}
  · rename_i path _ _
    obtain ⟨rfl, rfl⟩ : key = "not_found_template_file" ∧ w = .text path := by simpa using hmem
    exact .of rfl (optionalText_text path) {}
  · exact absurd hmem List.not_mem_nil

theorem ofValue_edited (hv : v.HasParts) (hvalues : Canonical values) (hs : Settings.ofValue v = .ok s) :
    ∃ s', Settings.ofValue (edited values v) = .ok s' := by
  have hlog : ∃ s', Settings.ofValue (v.editPart "log" (logEdits values)) = .ok s' :=
    Value.ofValue_editPart (by rfl) steady_log hv (by decide) ⟨s, hs⟩ (readable_logEdits hvalues)
  exact Value.ofValue_editPart (by rfl) steady_router (hv.editPart (by decide)) (by decide) hlog readable_routerEdits

/-! ### Settings of both ways -/

theorem settings_document (hs : Settings.ofValue v = .ok s) (o : Listing) :
    (FileContents.document v).settings o = .ok s := by
  rw [FileContents.settings, hs]
  rfl

theorem gives_at? {β : Type} (x : LogSetting β) (hv : v.HasParts) (hs : Settings.ofValue v = .ok s) :
    Decided (v.at? "log" x.field) (fun w b => x.ofValue w = .ok b) (x.get {}) (x.get s.log) := by
  have hgives := FileContents.gives_of_settings x (settings_document hs .ascending)
  rw [FileContents.Gives, hv.part? (by decide)] at hgives
  exact hgives

theorem log_edited {β : Type} {x : LogSetting β} {toValue : String → Value} (hx : WrittenAs x toValue)
    (hvalues : Canonical values) {s' s'' : Settings} (hv : v.HasParts) (hs : Settings.ofValue v = .ok s)
    (hover : Decided (values.get? x.key) (fun text b => x.ofText? text = some b) (x.get s.log) (x.get s'.log))
    (hedited : Settings.ofValue (edited values v) = .ok s'') : x.get s'.log = x.get s''.log := by
  have hbefore := gives_at? x hv hs
  have hafter := gives_at? x (hasParts_edited hv) hedited
  rw [at?_edited_log, hx.edits] at hafter
  cases hget : values.get? x.key with
  | none =>
    rw [hget] at hover hafter
    exact Eq.trans hover (decided_unique hbefore hafter)
  | some text =>
    rw [hget] at hover hafter
    exact Except.ok.inj ((hx.reads hvalues hget hover).symm.trans hafter)

theorem givesPage_at? (hv : v.HasParts) (hs : Settings.ofValue v = .ok s) :
    Decided (v.at? "router" "not_found_template") (fun w page => optionalText w = .ok page) none
      s.router.notFoundTemplate ∧
    Decided (v.at? "router" "not_found_template_file") (fun w path => optionalText w = .ok path) none
      s.router.notFoundTemplateFile := by
  have hgives := FileContents.givesPage_of_settings (settings_document hs .ascending)
  rw [FileContents.GivesPage, hv.part? (by decide), hv.part? (by decide)] at hgives
  exact hgives

theorem router_edited (hvalues : Canonical values) {s' s'' : Settings} (hv : v.HasParts)
    (hs : Settings.ofValue v = .ok s)
    (hover : PageFrom (values.get? "not_found_template") (values.get? "not_found_template_file") s.router s'.router)
    (hedited : Settings.ofValue (edited values v) = .ok s'') : s'.router = s''.router := by
  obtain ⟨hpage, hfile⟩ := givesPage_at? hv hs
  obtain ⟨hpage', hfile'⟩ := givesPage_at? (hasParts_edited hv) hedited
  rw [at?_edited_router, routerEdits] at hpage' hfile'
  cases hpageText : values.get? "not_found_template" with
  | none =>
    cases hfileText : values.get? "not_found_template_file" with
    | none =>
      rw [hpageText, hfileText] at hover hpage' hfile'
      have hsame : s'.router = s.router := hover
      rw [hsame]
      exact RouterSettings.ext (decided_unique hpage hpage') (decided_unique hfile hfile')
    | some path =>
      rw [hpageText, hfileText] at hover hpage' hfile'
      have hset : s'.router = ⟨none, some path⟩ := hover
      rw [hset]
      exact RouterSettings.ext (Eq.symm hpage') (Except.ok.inj hfile')
  | some text =>
    have hnone := hvalues.onePage.resolve_left (by simp [hpageText])
    rw [hpageText, hnone] at hover hpage' hfile'
    have hset : s'.router = ⟨some text, none⟩ := hover
    rw [hset]
    exact RouterSettings.ext (Except.ok.inj hpage') (Eq.symm hfile')

end

/-- **Overriding settings is editing their document.**  Take settings that are read from a document, an object whose
parts are objects, and overrides with canonical texts, in whatever order their map is listed.  The settings with these
overrides are the settings that are read from the document with the overrides written into it. -/
theorem overrideBy_eq_edited (o : Listing) {v : Value} {s : Settings} {values : Dict String} (hv : v.HasParts)
    (hs : ofValue v = .ok s) (hvalues : Canonical values) :
    ∃ s', s.overrideBy o values = .ok s' ∧ ofValue (edited values v) = .ok s' := by
  obtain ⟨s', hover⟩ := (overrideBy_ok_iff o s values).2 (accepted_of_canonical hvalues)
  obtain ⟨s'', hedited⟩ := ofValue_edited hv hvalues hs
  have hset := fun {β : Type} (x : LogSetting β) => overrideAll_log o.mem_entries_iff x hover
  have hlog : s'.log = s''.log := LogSettings.ext
    (log_edited writtenAs_level hvalues hv hs (hset _) hedited)
    (log_edited writtenAs_format hvalues hv hs (hset _) hedited)
    (log_edited writtenAs_file hvalues hv hs (hset _) hedited)
    (log_edited writtenAs_envFilter hvalues hv hs (hset _) hedited)
    (log_edited writtenAs_spans hvalues hv hs (hset _) hedited)
  have hrouter := router_edited hvalues hv hs (overrideAll_router o.mem_entries_iff hover) hedited
  exact ⟨s', hover, hedited.trans (congrArg _ (Settings.ext hlog hrouter).symm)⟩

/-- A level written as an object, a file that is null, and both the page and its file. -/
def oddDocument : Value :=
  .object [("log", .object [("file", .null), ("level", .object [("debug", .null)])]),
    ("router", .object [("not_found_template", .text "lost"), ("not_found_template_file", .text "lost.html")])]

def oddOverrides : Dict String :=
  Dict.ofList [("colour", "red"), ("log_level", "warn"), ("log_spans", "true"), ("not_found_template_file", "404.html")]

def oddSettings : Settings := { log := { level := .debug }, router := ⟨some "lost", some "lost.html"⟩ }

theorem edited_oddDocument :
    ofValue oddDocument = .ok oddSettings ∧
    ∃ s', oddSettings.overrideBy .descending oddOverrides = .ok s' ∧
      ofValue (edited oddOverrides oddDocument) = .ok s' ∧
      s' = { log := { level := .warn, spans := true }, router := ⟨none, some "404.html"⟩ } := by
  have hobject : ∀ ms : List (String × Value), (ms.map Prod.fst).Pairwise (· < ·) → Value.IsObject (.object ms) :=
    fun ms h => ⟨ms, rfl, List.pairwise_map.1 h⟩
  have hparts : oddDocument.HasParts := by
    refine ⟨hobject _ (by decide), fun part hpart w hw => ?_⟩
    rcases List.mem_cons.1 hpart with rfl | hpart
    · obtain rfl := Option.some.inj hw
      exact hobject _ (by decide)
    · obtain rfl := List.mem_singleton.1 hpart
      obtain rfl := Option.some.inj hw
      exact hobject _ (by decide)
  have hread : ofValue oddDocument = .ok oddSettings := by
    decide +kernel
  have hget : oddOverrides.get? "log_level" = some "warn" ∧ oddOverrides.get? "log_format" = none ∧
      oddOverrides.get? "log_spans" = some "true" ∧ oddOverrides.get? "not_found_template" = none := by decide +kernel
  obtain ⟨hlevel, hformat, hspans, hpage⟩ := hget
  have hcanonical : Canonical oddOverrides := by
    refine ⟨fun text h => ⟨.warn, ?_⟩, fun text h => ?_, fun text h => .inl ?_, .inl hpage⟩
    · exact Option.some.inj (h.symm.trans hlevel)
    · cases h.symm.trans hformat
    · exact Option.some.inj (h.symm.trans hspans)
  obtain ⟨s', hover, hedited⟩ := overrideBy_eq_edited .descending hparts hread hcanonical
  have hresult : oddSettings.overrideBy .descending oddOverrides =
      .ok { log := { level := .warn, spans := true }, router := ⟨none, some "404.html"⟩ } := by
    decide +kernel
  exact ⟨hread, s', hover, hedited, Except.ok.inj (hover.symm.trans hresult)⟩

end Settings

end PathRouter
