import PathRouter.Proofs.Settings.Entries
import PathRouter.Settings.Schema
/-!
# What a document says

A record is read field by field.  Each field is what the document says for it, read in the way of the field, or else its
default (`record_field`); this holds of objects, where members have names, and of lists, where items have places.
-/
namespace PathRouter

namespace Shape

variable {α β : Type} {fields : List (RecordField α)} {name : String} {read : Reader β} {get : α → β}

/-- What a record says for a field: the last member of this name, or the item at the place of the field. -/
def part? (fields : List (RecordField α)) (name : String) : Value → Option Value
  | .object ms => last? name ms
  | .array vs => last? name ((fields.map (·.name)).zip vs)
  | _ => none

/-- One field changes what `get` gives, to what `read` makes of the value, and the others leave it. -/
def IsField (fields : List (RecordField α)) (name : String) (read : Reader β) (get : α → β) : Prop :=
  ∀ f ∈ fields, ∀ v a a', f.store v a = .ok a' →
    if f.name == name then read v = .ok (get a') else get a' = get a

theorem isField_nil : IsField ([] : List (RecordField α)) name read get :=
  fun _ h => absurd h List.not_mem_nil

theorem store_of {γ : Type} {n : String} {r : Reader γ} {set : γ → α → α} {v : Value} {a a' : α}
    (h : (RecordField.of n r set).store v a = .ok a') : ∃ b, r v = .ok b ∧ a' = set b a := by
  dsimp only [RecordField.of] at h
  cases hv : r v with
  | error e =>
    rw [hv] at h
    cases h
  | ok b =>
    rw [hv] at h
    exact ⟨b, rfl, (Except.ok.inj h).symm⟩

theorem IsField.own {set : β → α → α} (hset : ∀ b a, get (set b a) = b) (h : IsField fields name read get) :
    IsField (.of name read set :: fields) name read get := by
  refine List.forall_mem_cons.2 ⟨fun v a a' hs => ?_, h⟩
  obtain ⟨b, hb, rfl⟩ := store_of hs
  rw [if_pos (by exact beq_self_eq_true name), hset]
  exact hb

theorem IsField.other {γ : Type} {n : String} {r : Reader γ} {set : γ → α → α} (hn : n ≠ name)
    (hset : ∀ b a, get (set b a) = get a) (h : IsField fields name read get) :
    IsField (.of n r set :: fields) name read get := by
  refine List.forall_mem_cons.2 ⟨fun v a a' hs => ?_, h⟩
  obtain ⟨b, -, rfl⟩ := store_of hs
  rw [if_neg (by simpa [RecordField.of] using hn), hset]

theorem members_field (h : IsField fields name read get) {a r : α} {ms : List (String × Value)}
    (hr : members fields a ms = .ok r) : Decided (last? name ms) (fun w b => read w = .ok b) (get a) (get r) := by
  refine decided_map.2 (foldlM_view get ?_ hr)
  rintro ⟨key, v⟩ - a a' hs
  dsimp only at hs ⊢
  split at hs
  · rename_i f hf
    have hname := List.find?_some hf
    rw [← beq_iff_eq.1 hname]
    exact h f (List.mem_of_find?_eq_some hf) v a a' hs
  · cases hs

theorem items_field (h : IsField fields name read get) {a r : α} {vs : List Value} (hr : items fields a vs = .ok r) :
    Decided (last? name ((fields.map (·.name)).zip vs)) (fun w b => read w = .ok b) (get a) (get r) := by
  have hlast : last? name ((fields.map (·.name)).zip vs) =
      (lastWhere? (fun e => e.1.name == name) (fields.zip vs)).map (·.2) := by
    rw [last?, lastWhere?, lastWhere?, List.zip_map_left, ← List.map_reverse, List.find?_map, Option.map_map]
    rfl
  unfold items at hr
  split at hr
  · cases hr
  rename_i hfold
  split at hr
  · cases hr
  obtain rfl := Except.ok.inj hr
  rw [hlast]
  refine decided_map.2 (foldlM_view get ?_ hfold)
  rintro ⟨f, v⟩ he a a' hs
  exact h f (List.of_mem_zip he).1 v a a' hs

/-- **A field is what the record says for it**, and its default where the record says nothing. -/
theorem record_field (h : IsField fields name read get) {type : String} {a r : α} {v : Value}
    (hr : record type fields a v = .ok r) :
    Decided (part? fields name v) (fun w b => read w = .ok b) (get a) (get r) := by
  cases v with
  | object ms => exact members_field h hr
  | array vs => exact items_field h hr
  | _ => cases hr

end Shape
end PathRouter
