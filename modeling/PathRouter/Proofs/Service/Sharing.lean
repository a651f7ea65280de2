import Mathlib.Data.Finset.Card
import PathRouter.Proofs.Service.Build
/-!
# What a build fails on, and what it shares

`build` walks the pending routes once, with the matchers that it has made so far.  What it has made is numbered in the
order of making and lists every text once (`Numbered`); a route gets the matcher under its own text, so two routes have
one matcher exactly when their texts and kinds are equal.  A text that cannot be made is none of those made before, so
the build ends at the first such text, whatever stands before it.

The main statement is `build_ofCalls`.
-/
namespace PathRouter

/-- What is reported of a text that cannot be made into a matcher. -/
def RouteSource.error? (s : RouteSource) : Option RouteError :=
  match s.alone with
  | .error e => some e
  | .ok _ => none

theorem RouteSource.error?_eq_some_iff {s : RouteSource} {e : RouteError} :
    s.error? = some e ↔ s.alone = .error e := by
  unfold error?
  cases s.alone <;> simp

theorem RouteSource.error?_eq_none_iff {s : RouteSource} : s.error? = none ↔ ∃ m, s.alone = .ok m := by
  unfold error?
  cases s.alone <;> simp

namespace Service

open BuilderCall (registered)

/-! ## The first error -/

/-- An error of sharing is one of making: what was made before has none. -/
theorem share_error {w : Workshop} (hf : Faithful w.made) {source : RouteSource} {e : RouteError} :
    w.share source = .error e ↔ source.error? = some e := by
  rw [RouteSource.error?_eq_some_iff, Workshop.share]
  cases hl : w.made.lookup source with
  | some m =>
    have hm : source.alone = .ok m.value := hf _ (mem_of_lookup hl)
    simp [hm]
  | none =>
    have hmake := make_snd w.factory source
    cases hw : w.factory.make source with
    | mk factory result =>
      rw [hw] at hmake
      rw [← hmake]
      cases result <;> simp

/-- **A build fails on the first pending route whose text has an error.** -/
theorem buildTable_error : ∀ {rs : List PendingRoute} {w : Workshop} {t : RouteTable} {e : RouteError},
    Faithful w.made → (buildTable w t rs = .error e ↔ rs.findSome? (·.source.error?) = some e)
  | [], _, _, _, _ => by simp [buildTable]
  | r :: rs, w, t, e, hf => by
    rw [buildTable, List.findSome?_cons]
    cases hs : w.share r.source with
    | error e' =>
      rw [(share_error hf).1 hs]
      simp
    | ok p =>
      obtain ⟨m, w'⟩ := p
      obtain ⟨hm, hf'⟩ := share_ok hf hs
      have hnone : r.source.error? = none := RouteSource.error?_eq_none_iff.2 ⟨_, hm⟩
      rw [hnone]
      exact buildTable_error hf'

theorem methods_ne_nil (c : Registering) : c.methods ≠ [] := by
  cases c <;> simp [Registering.methods, Method.all]

/-- Every registration has a pending route, so the first error of either is the same. -/
theorem findSome?_pending : ∀ (cs : List Registering) (k : Nat),
    ((cs.zipIdx k).flatMap (fun (c, i) => c.methods.map (fun m => PendingRoute.mk i m c.source c.handler))).findSome?
      (·.source.error?) = cs.findSome? (·.source.error?)
  | [], _ => rfl
  | c :: cs, k => by
    have ih := findSome?_pending cs (k + 1)
    obtain ⟨m, ms, hms⟩ := List.exists_cons_of_ne_nil (methods_ne_nil c)
    rw [List.zipIdx_cons, List.flatMap_cons, List.findSome?_append, ih, List.findSome?_cons, List.findSome?_map]
    have hconst : List.findSome? ((fun r : PendingRoute => r.source.error?) ∘
        fun m => PendingRoute.mk k m c.source c.handler) c.methods = c.source.error? := by
      cases hc : c.source.error? with
      | none =>
        rw [List.findSome?_eq_none_iff]
        exact fun _ _ => hc
      | some f =>
        rw [hms, List.findSome?_cons]
        simp [hc]
    rw [hconst]
    cases c.source.error? <;> rfl

theorem build_error {calls : List BuilderCall} {e : RouteError} :
    (ofCalls calls).build = .error e ↔ (registered calls).findSome? (·.source.error?) = some e := by
  have hfaithful : Faithful (Workshop.mk (ofCalls calls).factory []).made := fun p hp => by cases hp
  rw [← findSome?_pending _ 0, ← pending_ofCalls, ← buildTable_error (t := {}) hfaithful]
  unfold build
  cases buildTable ⟨(ofCalls calls).factory, []⟩ {} (ofCalls calls).pending <;> simp

/-! ## What is made -/

/-- **What has been made**: every text once, and each matcher under the number of its making. -/
structure Numbered (made : List (RouteSource × Shared Matcher)) : Prop where
  sources : (made.map Prod.fst).Nodup
  ids : made.map (·.2.id) = List.range made.length

theorem numbered_nil : Numbered [] := ⟨List.nodup_nil, rfl⟩

section

variable {made made' : List (RouteSource × Shared Matcher)} {p q : RouteSource × Shared Matcher}

theorem Numbered.eq_of_source (h : Numbered made) (hp : p ∈ made) (hq : q ∈ made) (hpq : p.1 = q.1) : p = q :=
  List.inj_on_of_nodup_map h.sources hp hq hpq

theorem Numbered.eq_of_id (h : Numbered made) (hp : p ∈ made) (hq : q ∈ made) (hpq : p.2.id = q.2.id) : p = q :=
  List.inj_on_of_nodup_map (h.ids ▸ List.nodup_range) hp hq hpq

theorem source_notMem_of_lookup {source : RouteSource} (h : made.lookup source = none) :
    source ∉ made.map Prod.fst := by
  intro hm
  obtain ⟨p, hp, rfl⟩ := List.mem_map.1 hm
  exact absurd (List.lookup_eq_none_iff.1 h p hp) (by simp)

theorem Numbered.concat (h : Numbered made) {source : RouteSource} (hl : made.lookup source = none)
    {m : Shared Matcher} (hid : m.id = made.length) : Numbered (made ++ [(source, m)]) := by
  refine ⟨?_, ?_⟩
  · rw [List.map_append, List.nodup_append']
    refine ⟨h.sources, by simp, ?_⟩
    rw [List.disjoint_right]
    intro s hs
    obtain rfl := List.mem_singleton.1 hs
    exact source_notMem_of_lookup hl
  · rw [List.map_append, h.ids, List.length_append, List.length_singleton, List.range_succ, ← hid]
    rfl

/-- What a step of a build does to what has been made: a route's matcher is there afterwards, nothing is lost, and no
other text is added. -/
structure Grows (made made' : List (RouteSource × Shared Matcher)) (sources : List RouteSource) : Prop where
  numbered : Numbered made'
  kept : made ⊆ made'
  added : ∀ p ∈ made', p ∈ made ∨ p.1 ∈ sources

theorem share_grows {w w' : Workshop} {source : RouteSource} {m : Shared Matcher} (h : Numbered w.made)
    (hs : w.share source = .ok (m, w')) : Grows w.made w'.made [source] ∧ (source, m) ∈ w'.made := by
  rcases share_cases hs with ⟨hl, rfl⟩ | ⟨hl, -, hid, hmade⟩
  · exact ⟨⟨h, List.Subset.refl _, fun p hp => .inl hp⟩, mem_of_lookup hl⟩
  · rw [hmade]
    refine ⟨⟨h.concat hl hid, List.subset_append_left _ _, fun p hp => ?_⟩, by simp⟩
    rcases List.mem_append.1 hp with hp | hp
    · exact .inl hp
    · obtain rfl := List.mem_singleton.1 hp
      exact .inr List.mem_cons_self

/-- A route that is pushed to a table holds the matcher that was made for its text. -/
def Holds (made : List (RouteSource × Shared Matcher)) (e : Method × RouteEntry) (r : PendingRoute) : Prop :=
  e.2.registration = r.registration ∧ (r.source, e.2.matcher) ∈ made

/-- **A build gives every route the matcher under its text**, and makes no other matchers. -/
theorem buildTable_grows : ∀ {rs : List PendingRoute} {w : Workshop} {t t' : RouteTable},
    Numbered w.made → buildTable w t rs = .ok t' →
      ∃ made' es, Grows w.made made' (rs.map (·.source)) ∧ t' = t.pushAll es ∧ List.Forall₂ (Holds made') es rs
  | [], w, t, t', h, hb =>
    ⟨w.made, [], ⟨h, List.Subset.refl _, fun p hp => .inl hp⟩, (Except.ok.inj hb).symm, .nil⟩
  -- What is made for the first route is kept to the end, so it is there when the table is done.
  | r :: rs, w, t, t', h, hb => by
    rw [buildTable] at hb
    split at hb
    · cases hb
    · rename_i m w₁ hs
      obtain ⟨hstep, hmem⟩ := share_grows h hs
      obtain ⟨made', es, hrun, ht', hall⟩ := buildTable_grows hstep.numbered hb
      refine ⟨made', (r.method, ⟨r.registration, m, r.handler⟩) :: es, ⟨hrun.numbered, ?_, fun p hp => ?_⟩, ht',
        .cons ⟨rfl, hrun.kept hmem⟩ hall⟩
      · exact List.Subset.trans hstep.kept hrun.kept
      · rcases hrun.added p hp with hp | hp
        · rcases hstep.added p hp with hp | hp
          · exact .inl hp
          · exact .inr (List.mem_cons.2 (.inl (List.mem_singleton.1 hp)))
        · exact .inr (List.mem_cons_of_mem _ hp)

end

/-! ## Tables and registrations -/

theorem build_holds {s : Service} {d : Dispatcher} (h : s.build = .ok d) :
    ∃ made es, Numbered made ∧ (∀ p ∈ made, p.1 ∈ s.pending.map (·.source)) ∧
      d.table = RouteTable.pushAll {} es ∧ List.Forall₂ (Holds made) es s.pending := by
  unfold build at h
  split at h
  · cases h
  · rename_i t ht
    obtain rfl := Except.ok.inj h
    obtain ⟨made, es, hgrows, htable, hall⟩ := buildTable_grows numbered_nil ht
    exact ⟨made, es, hgrows.numbered, fun p hp => (hgrows.added p hp).resolve_left List.not_mem_nil, htable, hall⟩

theorem registration_of_pending {calls : List BuilderCall} {r : PendingRoute} (h : r ∈ (ofCalls calls).pending) :
    ∃ c, (registered calls)[r.registration]? = some c ∧ c.source = r.source := by
  rw [pending_ofCalls] at h
  obtain ⟨⟨c, i⟩, hc, hr⟩ := List.mem_flatMap.1 h
  obtain ⟨m, -, rfl⟩ := List.mem_map.1 hr
  exact ⟨c, List.mem_zipIdx_iff_getElem?.1 hc, rfl⟩

theorem mem_sources_pending {calls : List BuilderCall} {source : RouteSource} :
    source ∈ (ofCalls calls).pending.map (·.source) ↔ source ∈ (registered calls).map Registering.source := by
  constructor
  · intro h
    obtain ⟨r, hr, rfl⟩ := List.mem_map.1 h
    obtain ⟨c, hc, hs⟩ := registration_of_pending hr
    exact List.mem_map.2 ⟨c, List.mem_of_getElem? hc, hs⟩
  · intro h
    obtain ⟨c, hc, rfl⟩ := List.mem_map.1 h
    obtain ⟨i, hi⟩ := List.getElem?_of_mem hc
    obtain ⟨m, ms, hms⟩ := List.exists_cons_of_ne_nil (methods_ne_nil c)
    rw [pending_ofCalls]
    refine List.mem_map.2 ⟨⟨i, m, c.source, c.handler⟩, List.mem_flatMap.2 ⟨(c, i), ?_, ?_⟩, rfl⟩
    · exact List.mem_zipIdx_iff_getElem?.2 hi
    · exact List.mem_map.2 ⟨m, hms ▸ List.mem_cons_self, rfl⟩

/-- **How a table shares its matchers** among registrations: every entry stands for one of them, entries hold one matcher
exactly when they stand for one text of one kind, and there are as many matchers as such texts. -/
structure SharesByText (cs : List Registering) (t : RouteTable) : Prop where
  registration : ∀ e ∈ t.entries, ∃ c, cs[e.2.registration]? = some c
  id_iff : ∀ e ∈ t.entries, ∀ e' ∈ t.entries, ∀ c c', cs[e.2.registration]? = some c →
    cs[e'.2.registration]? = some c' → (e.2.matcher.id = e'.2.matcher.id ↔ c.source = c'.source)
  matcher : ∀ e ∈ t.entries, ∀ e' ∈ t.entries, e.2.matcher.id = e'.2.matcher.id → e.2.matcher = e'.2.matcher
  count : (t.entries.map (·.2.matcher.id)).toFinset.card = (cs.map Registering.source).toFinset.card

/-- An entry holds what was made for the text of its registration. -/
theorem mem_made_of_entry {calls : List BuilderCall} {made : List (RouteSource × Shared Matcher)}
    {entries : List (Method × RouteEntry)} (h : List.Forall₂ (Holds made) entries (ofCalls calls).pending)
    {e : Method × RouteEntry} (he : e ∈ entries) :
    ∃ c, (registered calls)[e.2.registration]? = some c ∧ (c.source, e.2.matcher) ∈ made := by
  obtain ⟨i, hi, rfl⟩ := List.getElem_of_mem he
  obtain ⟨hnumber, hmem⟩ := h.get hi (h.length_eq ▸ hi)
  obtain ⟨c, hc, hs⟩ := registration_of_pending (List.getElem_mem (h.length_eq ▸ hi))
  exact ⟨c, hnumber ▸ hc, hs ▸ hmem⟩

/-- Every text of a pending route is that of an entry. -/
theorem entry_of_source {made : List (RouteSource × Shared Matcher)} {entries : List (Method × RouteEntry)}
    {rs : List PendingRoute} (h : List.Forall₂ (Holds made) entries rs) {source : RouteSource}
    (hs : source ∈ rs.map (·.source)) : ∃ e ∈ entries, (source, e.2.matcher) ∈ made := by
  obtain ⟨r, hr, rfl⟩ := List.mem_map.1 hs
  obtain ⟨i, hi, rfl⟩ := List.getElem_of_mem hr
  obtain ⟨-, hmem⟩ := h.get (h.length_eq ▸ hi) hi
  exact ⟨_, List.getElem_mem (h.length_eq ▸ hi), hmem⟩

/-- The entries hold everything that was made, and it is as much as there are texts: what was made is counted once by its
numbers and once by its texts. -/
theorem card_matchers {calls : List BuilderCall} {made : List (RouteSource × Shared Matcher)}
    {entries : List (Method × RouteEntry)} (hnumbered : Numbered made)
    (hsources : ∀ p ∈ made, p.1 ∈ (ofCalls calls).pending.map (·.source))
    (hall : List.Forall₂ (Holds made) entries (ofCalls calls).pending) :
    (entries.map (·.2.matcher.id)).toFinset.card = ((registered calls).map Registering.source).toFinset.card := by
  have hids : (entries.map (·.2.matcher.id)).toFinset = (made.map (·.2.id)).toFinset := by
    ext id
    rw [List.mem_toFinset, List.mem_toFinset, List.mem_map, List.mem_map]
    constructor
    · rintro ⟨e, he, rfl⟩
      obtain ⟨c, -, hm⟩ := mem_made_of_entry hall he
      exact ⟨_, hm, rfl⟩
    · rintro ⟨p, hp, rfl⟩
      obtain ⟨e, he, hm⟩ := entry_of_source hall (hsources p hp)
      exact ⟨e, he, congrArg (·.2.id) (hnumbered.eq_of_source hm hp rfl)⟩
  have htexts : ((registered calls).map Registering.source).toFinset = (made.map Prod.fst).toFinset := by
    ext source
    rw [List.mem_toFinset, List.mem_toFinset, ← mem_sources_pending]
    constructor
    · intro hs
      obtain ⟨e, -, hm⟩ := entry_of_source hall hs
      exact List.mem_map.2 ⟨_, hm, rfl⟩
    · intro hs
      obtain ⟨p, hp, rfl⟩ := List.mem_map.1 hs
      exact hsources p hp
  rw [hids, htexts, List.toFinset_card_of_nodup hnumbered.sources, hnumbered.ids,
    List.toFinset_card_of_nodup List.nodup_range, List.length_range, List.length_map]

theorem sharesByText_of_build {calls : List BuilderCall} {d : Dispatcher} (h : (ofCalls calls).build = .ok d) :
    SharesByText (registered calls) d.table := by
  obtain ⟨made, es, hnumbered, hsources, htable, hall⟩ := build_holds h
  have hmem : ∀ e, e ∈ d.table.entries ↔ e ∈ es := fun e => by rw [htable, RouteTable.mem_entries_pushAll]
  have hentry := fun e he => @mem_made_of_entry calls made _ hall e ((hmem e).1 he)
  have hids : (d.table.entries.map (·.2.matcher.id)).toFinset = (es.map (·.2.matcher.id)).toFinset := by
    ext id
    simp only [List.mem_toFinset, List.mem_map, hmem]
  refine ⟨fun e he => ?_, fun e he e' he' c c' hc hc' => ?_, fun e he e' he' hid => ?_,
    hids ▸ card_matchers hnumbered hsources hall⟩
  · obtain ⟨c, hc, -⟩ := hentry e he
    exact ⟨c, hc⟩
  · obtain ⟨_, hk, hm⟩ := hentry e he
    obtain ⟨_, hk', hm'⟩ := hentry e' he'
    obtain rfl := Option.some.inj (hc.symm.trans hk)
    obtain rfl := Option.some.inj (hc'.symm.trans hk')
    constructor
    · exact fun hid => congrArg Prod.fst (hnumbered.eq_of_id hm hm' hid)
    · exact fun hs => congrArg (·.2.id) (hnumbered.eq_of_source hm hm' hs)
  · obtain ⟨c, -, hm⟩ := hentry e he
    obtain ⟨c', -, hm'⟩ := hentry e' he'
    exact congrArg Prod.snd (hnumbered.eq_of_id hm hm' hid)

/-- **What a build fails on, and what it shares.**  A build of any calls fails exactly if some registered text cannot be
made by a factory of its own.  It then reports what that factory reports of the earliest such registration, whatever its
method and handler and whatever else was called.  A build that succeeds shares its matchers by text and kind. -/
theorem build_ofCalls (calls : List BuilderCall) :
    ((∃ e, (ofCalls calls).build = .error e) ↔ ∃ c ∈ registered calls, ∃ e, c.alone = .error e) ∧
    (∀ e, (ofCalls calls).build = .error e ↔ ∃ before c after, registered calls = before ++ c :: after ∧
      (∀ b ∈ before, ∃ m, b.alone = .ok m) ∧ c.alone = .error e) ∧
    (∀ d, (ofCalls calls).build = .ok d → SharesByText (registered calls) d.table) := by
  have hfirst : ∀ e, (ofCalls calls).build = .error e ↔ ∃ before c after, registered calls = before ++ c :: after ∧
      (∀ b ∈ before, ∃ m, b.alone = .ok m) ∧ c.alone = .error e := by
    intro e
    simp only [build_error, List.findSome?_eq_some_iff, RouteSource.error?_eq_some_iff, RouteSource.error?_eq_none_iff]
    constructor
    · rintro ⟨before, c, after, hsplit, hc, hbefore⟩
      exact ⟨before, c, after, hsplit, hbefore, hc⟩
    · rintro ⟨before, c, after, hsplit, hbefore, hc⟩
      exact ⟨before, c, after, hsplit, hc, hbefore⟩
  refine ⟨⟨?_, ?_⟩, hfirst, fun d => sharesByText_of_build⟩
  · rintro ⟨e, he⟩
    obtain ⟨before, c, after, hsplit, -, hc⟩ := (hfirst e).1 he
    exact ⟨c, hsplit ▸ List.mem_append_right _ List.mem_cons_self, e, hc⟩
  · rintro ⟨c, hm, e, he⟩
    -- A registration with an error is no obstacle to an earlier one: the first of them is reported.
    have hsome : ((registered calls).findSome? (·.source.error?)).isSome = true :=
      List.findSome?_isSome_iff.2 ⟨c, hm, by rw [RouteSource.error?_eq_some_iff.2 he]; rfl⟩
    obtain ⟨e', he'⟩ := Option.isSome_iff_exists.1 hsome
    exact ⟨e', build_error.2 he'⟩

/-- Three texts in seven routes: a declared path and an expression of one text are two matchers. -/
example : (ofCalls overlappingCalls).build.toOption.map (fun d => d.table.entries.map (·.2.matcher.id)) =
    some [0, 1, 2, 1, 0, 0, 0] := by
  decide +kernel

end Service
end PathRouter
