import PathRouter.Dict
/-!
# Entries in turn

Records and settings are made by taking up entries one after another, each of which changes one part.  Seen through one
part, only the last entry counts that is meant for it (`foldlM_view`), and the last entry under a key is what a map made of
the entries has under the key (`Dict.get?_ofList`).
-/
namespace PathRouter

/-- The last entry with a property. -/
def lastWhere? {ε : Type} (p : ε → Bool) (es : List ε) : Option ε :=
  es.reverse.find? p

/-- The last value under a key. -/
def last? {α : Type} (key : String) (es : List (String × α)) : Option α :=
  (lastWhere? (·.1 == key) es).map (·.2)

/-- What is said counts, and what was there before where nothing is said. -/
def Decided {γ β : Type} (said : Option γ) (Shows : γ → β → Prop) (before after : β) : Prop :=
  match said with
  | some w => Shows w after
  | none => after = before

theorem decided_map {γ δ β : Type} {said : Option δ} {f : δ → γ} {Shows : γ → β → Prop} {before after : β} :
    Decided (said.map f) Shows before after ↔ Decided said (fun w b => Shows (f w) b) before after := by
  cases said <;> exact Iff.rfl

theorem Decided.imp {γ β : Type} {said : Option γ} {Shows Shows' : γ → β → Prop} {before after : β}
    (h : Decided said Shows before after) (himp : ∀ {w b}, Shows w b → Shows' w b) :
    Decided said Shows' before after := by
  cases said with
  | none => exact h
  | some w => exact himp h

/-- Two steps succeed if the first does, and the other from there. -/
theorem bind_eq_ok {φ α β : Type} {x : Except φ α} {f : α → Except φ β} {b : β} :
    x.bind f = .ok b ↔ ∃ a, x = .ok a ∧ f a = .ok b := by
  cases x with
  | error e => simp [Except.bind]
  | ok a => simp [Except.bind]

section

variable {ε : Type} {p : ε → Bool}

theorem lastWhere?_cons (e : ε) (es : List ε) :
    lastWhere? p (e :: es) = (lastWhere? p es).or (if p e then some e else none) := by
  rw [lastWhere?, List.reverse_cons, List.find?_append, List.find?_singleton]
  rfl

theorem lastWhere?_eq_some_iff {es : List ε} {e : ε} : lastWhere? p es = some e ↔
    p e = true ∧ ∃ before after, es = before ++ e :: after ∧ ∀ x ∈ after, p x = false := by
  rw [lastWhere?, List.find?_eq_some_iff_append]
  refine and_congr_right fun _ => ⟨?_, ?_⟩
  · rintro ⟨after, before, hes, hafter⟩
    refine ⟨before.reverse, after.reverse, ?_, fun x hx => ?_⟩
    · rw [← List.reverse_reverse es, hes]
      simp
    · simpa using hafter x (List.mem_reverse.1 hx)
  · rintro ⟨before, after, rfl, hafter⟩
    refine ⟨after.reverse, before.reverse, by simp, fun x hx => ?_⟩
    simpa using hafter x (List.mem_reverse.1 hx)

theorem lastWhere?_eq_none_iff {es : List ε} : lastWhere? p es = none ↔ ∀ e ∈ es, p e = false := by
  simp [lastWhere?]

theorem of_lastWhere? {es : List ε} {e : ε} (h : lastWhere? p es = some e) : e ∈ es ∧ p e = true :=
  ⟨List.mem_reverse.1 (List.mem_of_find?_eq_some h), List.find?_some h⟩

/-- A fold that succeeds takes its first step, and the others from there. -/
theorem foldlM_cons_eq_ok {σ φ : Type} {step : σ → ε → Except φ σ} {e : ε} {es : List ε} {s s' : σ} :
    (e :: es).foldlM step s = .ok s' ↔ ∃ s₁, step s e = .ok s₁ ∧ es.foldlM step s₁ = .ok s' := by
  rw [List.foldlM_cons]
  cases step s e with
  | error f => exact ⟨nofun, fun ⟨_, h, _⟩ => nomatch h⟩
  | ok s₁ => exact ⟨fun h => ⟨s₁, rfl, h⟩, fun ⟨_, h, hrest⟩ => Except.ok.inj h ▸ hrest⟩

/-- **What a fold shows in one part**: what the last entry does that is meant for it, or else what was there before. -/
theorem foldlM_view {σ φ β : Type} {step : σ → ε → Except φ σ} {Shows : ε → β → Prop}
    (get : σ → β) : ∀ {es : List ε} {s s' : σ},
      (∀ e ∈ es, ∀ s s', step s e = .ok s' → if p e then Shows e (get s') else get s' = get s) →
      es.foldlM step s = .ok s' → Decided (lastWhere? p es) Shows (get s) (get s')
  | [], s, s', _, h => by
    obtain rfl := Except.ok.inj h
    exact rfl
  | e :: es, s, s', hstep, h => by
    obtain ⟨he, hes⟩ := List.forall_mem_cons.1 hstep
    rw [List.foldlM_cons] at h
    cases hs : step s e with
    | error f =>
      rw [hs] at h
      cases h
    | ok s₁ =>
      rw [hs] at h
      have hrest := foldlM_view get hes h
      have hfirst := he s s₁ hs
      rw [lastWhere?_cons]
      cases hlast : lastWhere? p es with
      | some e' =>
        rw [hlast] at hrest
        exact hrest
      | none =>
        -- No later entry is meant for the part, so it is as the first one left it.
        rw [hlast] at hrest
        have hsame : get s' = get s₁ := hrest
        rw [← hsame] at hfirst
        cases hp : p e with
        | true =>
          rw [hp, if_pos rfl] at hfirst
          exact hfirst
        | false =>
          rw [hp, if_neg Bool.false_ne_true] at hfirst
          exact hfirst

/-- A fold takes every step or fails with one of them. -/
theorem foldlM_steps {σ φ : Type} {step : σ → ε → Except φ σ} : ∀ {es : List ε} {s : σ},
    (∀ s', es.foldlM step s = .ok s' → ∀ e ∈ es, ∃ t t', step t e = .ok t') ∧
      ∀ f, es.foldlM step s = .error f → ∃ e ∈ es, ∃ t, step t e = .error f
  | [], s => ⟨fun _ _ _ he => absurd he List.not_mem_nil, nofun⟩
  | e :: es, s => by
    rw [List.foldlM_cons]
    cases hs : step s e with
    | error f => exact ⟨nofun, fun f' hf => ⟨e, List.mem_cons_self, s, hs.trans hf⟩⟩
    | ok s₁ =>
      obtain ⟨hok, herror⟩ := @foldlM_steps σ φ step es s₁
      refine ⟨fun s' h => List.forall_mem_cons.2 ⟨⟨s, s₁, hs⟩, hok s' h⟩, fun f h => ?_⟩
      obtain ⟨e', he', ht⟩ := herror f h
      exact ⟨e', List.mem_cons_of_mem _ he', ht⟩

end

/-! ## Keys -/

section

variable {α : Type} {key : String}

theorem last?_cons (e : String × α) (es : List (String × α)) :
    last? key (e :: es) = (last? key es).or (if e.1 = key then some e.2 else none) := by
  rw [last?, last?, lastWhere?_cons]
  by_cases h : e.1 = key
  · cases lastWhere? (fun e => e.1 == key) es <;> simp [h]
  · cases lastWhere? (fun e => e.1 == key) es <;> simp [h]

/-- Where no key stands twice, the last value under a key is the first. -/
theorem last?_eq_lookup : ∀ {es : List (String × α)}, (es.map Prod.fst).Nodup → last? key es = es.lookup key
  | [], _ => rfl
  | (k, v) :: es, h => by
    obtain ⟨hk, hes⟩ := List.nodup_cons.1 h
    rw [last?_cons, last?_eq_lookup hes, List.lookup_cons]
    by_cases heq : k = key
    · subst heq
      have hnone : es.lookup k = none := List.lookup_eq_none_iff.2 fun e he =>
        bne_iff_ne.2 fun heq => hk (List.mem_map.2 ⟨e, he, heq.symm⟩)
      simp [hnone]
    · simp [heq, beq_false_of_ne (Ne.symm heq)]

/-- Where one value at most stands under a key, the last is the one. -/
theorem last?_of_mem_iff {es : List (String × α)} {found : Option α} (h : ∀ v, (key, v) ∈ es ↔ found = some v) :
    last? key es = found := by
  have hlast : ∀ e, lastWhere? (fun e => e.1 == key) es = some e → found = some e.2 := by
    intro e he
    obtain ⟨hm, hkey⟩ := of_lastWhere? he
    rw [← h, ← beq_iff_eq.1 hkey]
    exact hm
  rw [last?]
  cases hes : lastWhere? (fun e => e.1 == key) es with
  | some e => exact (hlast e hes).symm
  | none =>
    refine (Option.eq_none_iff_forall_ne_some.2 fun v hv => ?_).symm
    exact List.find?_eq_none.1 hes _ (List.mem_reverse.2 ((h v).2 hv)) (beq_self_eq_true key)

theorem Entries.get?_eq_lookup (es : List (String × α)) : Entries.get? key es = es.lookup key := by
  induction es with
  | nil => rfl
  | cons e es ih =>
    rw [Entries.get?, List.lookup_cons, ih]
    by_cases h : key = e.1
    · simp [h]
    · simp [h, beq_false_of_ne h]

theorem Entries.put_map {β : Type} {f : α → β} {k : String} {v : α} : ∀ {es : List (String × α)},
    Entries.put k (f v) (es.map fun e => (e.1, f e.2)) = (Entries.put k v es).map fun e => (e.1, f e.2)
  | [] => rfl
  | e :: es => by
    have ih := @put_map β f k v es
    unfold Entries.put
    rw [List.map_cons]
    dsimp only
    rw [ih]
    split
    · rfl
    · split <;> rfl

namespace Dict

theorem nodup_keys (m : Dict α) : (m.toList.map Prod.fst).Nodup := by
  refine List.pairwise_map.2 (m.ascending.imp fun {a b} h heq => ?_)
  rw [heq] at h
  exact String.lt_irrefl _ h

theorem mem_toList_iff {m : Dict α} {v : α} : (key, v) ∈ m.toList ↔ m.get? key = some v := by
  have hget : m.get? key = m.toList.lookup key := Entries.get?_eq_lookup _
  rw [hget]
  constructor
  · intro h
    obtain ⟨l₁, l₂, heq⟩ := List.append_of_mem h
    have hnodup := m.nodup_keys
    rw [heq, List.map_append, List.nodup_append] at hnodup
    refine List.lookup_eq_some_iff.2 ⟨l₁, l₂, heq, fun e he => ?_⟩
    exact bne_iff_ne.2 (hnodup.2.2 e.1 (List.mem_map_of_mem he) key (by simp)).symm
  · intro h
    obtain ⟨l₁, l₂, heq, -⟩ := List.lookup_eq_some_iff.1 h
    rw [heq]
    exact List.mem_append_right _ List.mem_cons_self

theorem get?_foldl_insert (ps : List (String × α)) (m : Dict α) :
    (ps.foldl (fun m p => m.insert p.1 p.2) m).get? key = (last? key ps).or (m.get? key) := by
  induction ps generalizing m with
  | nil => rfl
  | cons p ps ih =>
    rw [List.foldl_cons, ih, get?_insert, last?_cons, Option.or_assoc]
    by_cases h : p.1 = key
    · simp [h]
    · simp [h, Ne.symm h]

/-- **A map has the last value under each key.** -/
theorem get?_ofList (ps : List (String × α)) : (ofList ps).get? key = last? key ps := by
  rw [ofList, get?_foldl_insert]
  exact Option.or_none

/-- **Maps with the same look-ups are the same.** -/
theorem eq_of_get? {m m' : Dict α} (h : ∀ key, m.get? key = m'.get? key) : m = m' := by
  have hnodup : ∀ m : Dict α, m.entries.Nodup := fun m => m.ascending.imp fun {a b} hlt => by
    rintro rfl
    exact String.lt_irrefl _ hlt
  have hmem : ∀ e, e ∈ m.entries ↔ e ∈ m'.entries := fun e => by
    have hsome : m.get? e.1 = some e.2 ↔ m'.get? e.1 = some e.2 := by rw [h]
    exact mem_toList_iff.trans (hsome.trans mem_toList_iff.symm)
  have hperm := (List.perm_ext_iff_of_nodup (hnodup m) (hnodup m')).2 hmem
  have hentries : m.entries = m'.entries :=
    hperm.eq_of_pairwise (fun a b _ _ hab hba => absurd hba (String.lt_asymm hab)) m.ascending m'.ascending
  cases m
  cases m'
  cases hentries
  rfl

end Dict

end
end PathRouter
