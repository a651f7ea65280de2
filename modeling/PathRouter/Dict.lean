/-!
# Maps keyed by text

A map is its list of entries in ascending order of keys.  Every key occurs once, so two maps with the same look-ups are
the same list, and no order of insertion can be told from a map.  Keys compare by code points, which is also the order
of their UTF-8 bytes.

The operations come first on bare lists, for types whose recursion goes through a list of members; `Dict` adds the
invariant.
-/
namespace PathRouter

namespace Entries

variable {α : Type u}

/-- Keys ascend strictly. -/
def Ascending (es : List (String × α)) : Prop :=
  es.Pairwise (fun a b => a.1 < b.1)

def get? (k : String) : List (String × α) → Option α
  | [] => none
  | (k', v) :: rest => if k = k' then some v else get? k rest

/-- Gives `k` the value `v`, in place of the value it had. -/
def put (k : String) (v : α) : List (String × α) → List (String × α)
  | [] => [(k, v)]
  | (k', v') :: rest =>
    if k < k' then (k, v) :: (k', v') :: rest
    else if k = k' then (k, v) :: rest
    else (k', v') :: put k v rest

def erase (k : String) (es : List (String × α)) : List (String × α) :=
  es.filter (fun e => e.1 ≠ k)

theorem get?_put {k k' : String} {v : α} : ∀ {es : List (String × α)},
    get? k' (put k v es) = if k' = k then some v else get? k' es
  | [] => rfl
  | (k₀, v₀) :: rest => by
    have ih := @get?_put k k' v rest
    unfold put
    split
    · rfl
    · split
      · rename_i hk
        subst hk
        by_cases h : k' = k <;> simp [get?, h]
      · rename_i hk
        rw [get?, get?, ih]
        by_cases h : k' = k
        · subst h
          rw [if_neg hk, if_pos rfl, if_pos rfl]
        · rw [if_neg h, if_neg h]

theorem mem_put {k : String} {v : α} :
    ∀ {es : List (String × α)} {e : String × α}, e ∈ put k v es → e = (k, v) ∨ e ∈ es
  | [], e, h => by simpa [put] using h
  | (k', v') :: rest, e, h => by
    unfold put at h
    split at h
    · simpa using h
    · split at h
      · rcases List.mem_cons.1 h with h | h
        · exact .inl h
        · exact .inr (List.mem_cons_of_mem _ h)
      · rcases List.mem_cons.1 h with h | h
        · exact .inr (h ▸ List.mem_cons_self)
        · rcases mem_put h with h | h
          · exact .inl h
          · exact .inr (List.mem_cons_of_mem _ h)

theorem length_put {k : String} {v : α} :
    ∀ {es : List (String × α)}, get? k es = none → (put k v es).length = es.length + 1
  | [], _ => rfl
  | (k', v') :: rest, h => by
    unfold get? at h
    unfold put
    split at h
    · cases h
    · rename_i hk
      split
      · rfl
      · rw [List.length_cons, List.length_cons, length_put h]

theorem put_ascending {k : String} {v : α} :
    ∀ {es : List (String × α)}, Ascending es → Ascending (put k v es)
  | [], _ => by simp [Ascending, put]
  | (k', v') :: rest, h => by
    obtain ⟨hk, hrest⟩ := List.pairwise_cons.1 h
    unfold put
    split
    · rename_i hlt
      refine List.pairwise_cons.2 ⟨fun e he => ?_, h⟩
      rcases List.mem_cons.1 he with rfl | he
      · exact hlt
      · exact String.lt_trans hlt (hk e he)
    · split
      · rename_i heq
        subst heq
        exact List.pairwise_cons.2 ⟨hk, hrest⟩
      · rename_i hlt hne
        refine List.pairwise_cons.2 ⟨fun e he => ?_, put_ascending hrest⟩
        rcases mem_put he with rfl | he
        · rcases Decidable.em (k' < k) with h' | h'
          · exact h'
          · exact absurd (String.le_antisymm (String.not_lt.1 h') (String.not_lt.1 hlt)) hne
        · exact hk e he

theorem filter_ascending (p : String × α → Bool) {es : List (String × α)} (h : Ascending es) :
    Ascending (es.filter p) :=
  List.Pairwise.filter p h

end Entries

/-- A map from text to `α`. -/
structure Dict (α : Type u) where
  entries : List (String × α)
  ascending : Entries.Ascending entries
deriving DecidableEq

namespace Dict

variable {α : Type u}

def empty : Dict α := ⟨[], List.Pairwise.nil⟩

instance : EmptyCollection (Dict α) := ⟨empty⟩
instance : Inhabited (Dict α) := ⟨empty⟩

def get? (m : Dict α) (k : String) : Option α :=
  Entries.get? k m.entries

def contains (m : Dict α) (k : String) : Bool :=
  (m.get? k).isSome

/-- Gives `k` the value `v`, in place of the value it had. -/
def insert (m : Dict α) (k : String) (v : α) : Dict α :=
  ⟨Entries.put k v m.entries, Entries.put_ascending m.ascending⟩

theorem get?_empty (k : String) : (∅ : Dict α).get? k = none := rfl

theorem get?_insert (m : Dict α) (k k' : String) (v : α) :
    (m.insert k v).get? k' = if k' = k then some v else m.get? k' :=
  Entries.get?_put

def filter (m : Dict α) (p : String → α → Bool) : Dict α :=
  ⟨m.entries.filter (fun e => p e.1 e.2), Entries.filter_ascending _ m.ascending⟩

def erase (m : Dict α) (k : String) : Dict α :=
  m.filter (fun k' _ => k' ≠ k)

/-- Inserts the pairs in turn, so the last value of a key stays. -/
def ofList (ps : List (String × α)) : Dict α :=
  ps.foldl (fun m p => m.insert p.1 p.2) empty

def toList (m : Dict α) : List (String × α) :=
  m.entries

theorem length_insert {m : Dict α} {k : String} (v : α) (h : m.get? k = none) :
    (m.insert k v).toList.length = m.toList.length + 1 :=
  Entries.length_put h

end Dict
end PathRouter
