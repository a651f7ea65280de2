import PathRouter.Proofs.Regex.Takes
/-!
# What the search finds

`Step prog text t u` says that thread `u` follows `t`, and `Steps prog text n t u` that it does so in `n` steps.  A
search that gives slots has followed a thread it was given to one that accepts (`run_sound`), and a search that gives
none has left no such thread out (`run_complete`).

For the second the pairs of instruction and place that are noted must stand for themselves: two threads inside the
program and the text share a note only if they share the pair, and a program is `Closed` when no thread leaves it.  What
a thread carries does not matter then, for it decides neither where the thread goes nor whether it accepts.
-/
namespace PathRouter.Regex

variable {prog : List Instr} {text : List Char}

/-! ## Steps -/

/-- **The moves of a thread**, one for each instruction and two for a fork. -/
inductive Step (prog : List Instr) (text : List Char) : Thread → Thread → Prop
  | jump {n : Nat} {t : Thread} : prog[t.pc]? = some (.jump n) → Step prog text t { t with pc := n }
  | read {s : CharSet} {n : Nat} {c : Char} {t : Thread} : prog[t.pc]? = some (.read s n) → text[t.pos]? = some c →
      s.mem c = true → Step prog text t { t with pc := n, pos := t.pos + 1 }
  | check {a : Assertion} {n : Nat} {t : Thread} : prog[t.pc]? = some (.check a n) →
      a.holds (charBefore text t.pos) text[t.pos]? = true → Step prog text t { t with pc := n }
  | forkFirst {a b : Nat} {t : Thread} : prog[t.pc]? = some (.fork a b) → Step prog text t { t with pc := a }
  | forkSecond {a b : Nat} {t : Thread} : prog[t.pc]? = some (.fork a b) → Step prog text t { t with pc := b }
  | mark {k n : Nat} {t : Thread} : prog[t.pc]? = some (.mark k n) →
      Step prog text t { t with pc := n, slots := t.slots.set k (some t.pos) }

theorem mem_next_iff {t u : Thread} : u ∈ t.next prog.toArray text.toArray ↔ Step prog text t u := by
  have hbefore : (if t.pos = 0 then none else text.toArray[t.pos - 1]?) = charBefore text t.pos := by
    rw [charBefore, List.getElem?_toArray]
  unfold Thread.next
  rw [hbefore, List.getElem?_toArray, List.getElem?_toArray]
  constructor
  · intro h
    cases hi : prog[t.pc]? with
    | none => simp [hi] at h
    | some i =>
      simp only [hi] at h
      cases i with
      | jump n => exact List.mem_singleton.1 h ▸ .jump hi
      | fork a b =>
        rcases List.mem_cons.1 h with rfl | h
        · exact .forkFirst hi
        · exact List.mem_singleton.1 h ▸ .forkSecond hi
      | mark k n => exact List.mem_singleton.1 h ▸ .mark hi
      | accept => cases h
      | check a n =>
        dsimp only at h
        by_cases ha : a.holds (charBefore text t.pos) text[t.pos]? = true
        · rw [if_pos ha] at h
          exact List.mem_singleton.1 h ▸ .check hi ha
        · rw [if_neg ha] at h
          cases h
      | read s n =>
        cases hc : text[t.pos]? with
        | none => simp [hc] at h
        | some c =>
          simp only [hc] at h
          by_cases hs : s.mem c = true
          · rw [if_pos hs] at h
            exact List.mem_singleton.1 h ▸ .read hi hc hs
          · rw [if_neg hs] at h
            cases h
  · intro h
    cases h with
    | jump hi | forkFirst hi | forkSecond hi | mark hi => simp [hi]
    | check hi ha => simp [hi, ha]
    | read hi hc hs => simp [hi, hc, hs]

inductive Steps (prog : List Instr) (text : List Char) : Nat → Thread → Thread → Prop
  | refl {t : Thread} : Steps prog text 0 t t
  | head {n : Nat} {t u v : Thread} : Step prog text t u → Steps prog text n u v → Steps prog text (n + 1) t v

theorem Steps.trans {m n : Nat} {t u v : Thread} (h : Steps prog text m t u) (h' : Steps prog text n u v) :
    Steps prog text (m + n) t v := by
  induction h with
  | refl => rwa [Nat.zero_add]
  | head hu _ ih =>
    rw [Nat.add_right_comm]
    exact .head hu (ih h')

theorem accepts_iff {t : Thread} : t.accepts prog.toArray = true ↔ prog[t.pc]? = some .accept := by
  rw [Thread.accepts, List.getElem?_toArray]
  split <;> simp_all

/-! ## What is found is there -/

theorem run_sound {seen : Array Bool} {stack : List Thread} {slots : Slots}
    (h : run prog.toArray text.toArray seen stack = some slots) :
    ∃ t ∈ stack, ∃ n u, Steps prog text n t u ∧ u.accepts prog.toArray = true ∧ u.slots = slots := by
  fun_induction run prog.toArray text.toArray seen stack with
  | case1 => cases h
  | case2 seen t rest hlt hs ih | case5 seen t rest hlt ih =>
    obtain ⟨s, hm, hr⟩ := ih h
    exact ⟨s, List.mem_cons_of_mem _ hm, hr⟩
  | case3 seen t rest hlt hs ha => exact ⟨t, List.mem_cons_self, 0, t, .refl, ha, Option.some.inj h⟩
  | case4 seen t rest hlt hs ha hc ih =>
    obtain ⟨s, hm, n, u, hu, hr⟩ := ih h
    rcases List.mem_append.1 hm with hm | hm
    · exact ⟨t, List.mem_cons_self, n + 1, u, .head (mem_next_iff.1 hm) hu, hr⟩
    · exact ⟨s, List.mem_cons_of_mem _ hm, n, u, hu, hr⟩

/-! ## Places -/

namespace Thread

def SamePlace (t u : Thread) : Prop :=
  t.pc = u.pc ∧ t.pos = u.pos

theorem SamePlace.accepts {t u : Thread} (h : t.SamePlace u) : t.accepts prog.toArray = u.accepts prog.toArray := by
  rw [Thread.accepts, Thread.accepts, h.1]

theorem SamePlace.key {t u : Thread} (h : t.SamePlace u) : t.key prog.toArray = u.key prog.toArray := by
  rw [Thread.key, Thread.key, h.1, h.2]

theorem SamePlace.step {t u v : Thread} (h : t.SamePlace u) (hv : Step prog text t v) :
    ∃ w, Step prog text u w ∧ v.SamePlace w := by
  obtain ⟨hpc, hpos⟩ := h
  cases hv with
  | jump hi =>
    rw [hpc] at hi
    exact ⟨_, .jump hi, rfl, hpos⟩
  | read hi hc hs =>
    rw [hpc] at hi
    rw [hpos] at hc ⊢
    exact ⟨_, .read hi hc hs, rfl, rfl⟩
  | check hi ha =>
    rw [hpc] at hi
    rw [hpos] at ha
    exact ⟨_, .check hi ha, rfl, hpos⟩
  | forkFirst hi =>
    rw [hpc] at hi
    exact ⟨_, .forkFirst hi, rfl, hpos⟩
  | forkSecond hi =>
    rw [hpc] at hi
    exact ⟨_, .forkSecond hi, rfl, hpos⟩
  | mark hi =>
    rw [hpc] at hi
    exact ⟨_, .mark hi, rfl, hpos⟩

def Inside (prog : List Instr) (text : List Char) (t : Thread) : Prop :=
  t.pc < prog.length ∧ t.pos ≤ text.length

theorem key_lt {t : Thread} (h : t.Inside prog text) : t.key prog.toArray < prog.length * (text.length + 1) := by
  calc t.key prog.toArray = t.pos * prog.length + t.pc := rfl
    _ < t.pos * prog.length + prog.length := Nat.add_lt_add_left h.1 _
    _ = (t.pos + 1) * prog.length := (Nat.succ_mul _ _).symm
    _ ≤ (text.length + 1) * prog.length := Nat.mul_le_mul_right _ (Nat.succ_le_succ h.2)
    _ = prog.length * (text.length + 1) := Nat.mul_comm _ _

theorem samePlace_of_key {t u : Thread} (ht : t.Inside prog text) (hu : u.Inside prog text)
    (h : t.key prog.toArray = u.key prog.toArray) : t.SamePlace u := by
  have h : t.pos * prog.length + t.pc = u.pos * prog.length + u.pc := h
  have hpc : t.pc = u.pc := by
    have hmod := congrArg (· % prog.length) h
    simpa only [Nat.mul_add_mod_self_right, Nat.mod_eq_of_lt ht.1, Nat.mod_eq_of_lt hu.1] using hmod
  refine ⟨hpc, ?_⟩
  rw [hpc] at h
  exact Nat.eq_of_mul_eq_mul_right (Nat.zero_lt_of_lt ht.1) (Nat.add_right_cancel h)

end Thread

def Instr.targets : Instr → List Nat
  | .jump n | .read _ n | .check _ n | .mark _ n => [n]
  | .fork a b => [a, b]
  | .accept => []

def Closed (prog : List Instr) : Prop :=
  ∀ i ∈ prog, ∀ n ∈ i.targets, n < prog.length

/-- A step goes where the instruction leads, and forward in the text at most. -/
theorem Step.target {t u : Thread} (h : Step prog text t u) : ∃ i, prog[t.pc]? = some i ∧ u.pc ∈ i.targets := by
  cases h with
  | jump hi | read hi _ _ | check hi _ | mark hi => exact ⟨_, hi, List.mem_singleton.2 rfl⟩
  | forkFirst hi => exact ⟨_, hi, List.mem_cons_self⟩
  | forkSecond hi => exact ⟨_, hi, List.mem_cons_of_mem _ (List.mem_singleton.2 rfl)⟩

theorem Step.pos_le {t u : Thread} (h : Step prog text t u) (ht : t.pos ≤ text.length) : u.pos ≤ text.length := by
  cases h with
  | jump | check | mark | forkFirst | forkSecond => exact ht
  | read _ hc _ => exact (List.getElem?_eq_some_iff.1 hc).1

theorem Step.inside (hc : Closed prog) {t u : Thread} (h : Step prog text t u) (ht : t.Inside prog text) :
    u.Inside prog text := by
  obtain ⟨i, hi, hu⟩ := h.target
  exact ⟨hc i (List.mem_of_getElem? hi) _ hu, h.pos_le ht.2⟩

/-! ## Nothing is left out -/

def Noted (prog : List Instr) (seen : Array Bool) (t : Thread) : Prop :=
  seen[t.key prog.toArray]? = some true

/-- Entered already, or about to be. -/
def Covered (prog : List Instr) (seen : Array Bool) (stack : List Thread) (t : Thread) : Prop :=
  Noted prog seen t ∨ ∃ s ∈ stack, t.SamePlace s

/-- **What the search keeps.**  No noted thread accepts, and what follows one is covered. -/
structure Explored (prog : List Instr) (text : List Char) (seen : Array Bool) (stack : List Thread) : Prop where
  size : seen.size = prog.length * (text.length + 1)
  inside : ∀ t ∈ stack, t.Inside prog text
  refuses : ∀ t, t.Inside prog text → Noted prog seen t → t.accepts prog.toArray = false
  covers : ∀ t, t.Inside prog text → Noted prog seen t → ∀ u, Step prog text t u → Covered prog seen stack u

def Fruitless (prog : List Instr) (text : List Char) (t : Thread) : Prop :=
  ∀ n u, Steps prog text n t u → u.accepts prog.toArray = false

/-- An empty stack leaves nothing to follow. -/
theorem Explored.fruitless (hc : Closed prog) {seen : Array Bool} (he : Explored prog text seen []) {t : Thread}
    (ht : t.Inside prog text) (hn : Noted prog seen t) : Fruitless prog text t := by
  intro n u h
  induction h with
  | refl => exact he.refuses _ ht hn
  | head hu _ ih =>
    refine ih (hu.inside hc ht) ?_
    rcases he.covers _ ht hn _ hu with h | ⟨_, hm, _⟩
    · exact h
    · cases hm

theorem Covered.mono {seen : Array Bool} {s s' : List Thread} {t : Thread} (h : Covered prog seen s t)
    (hs : ∀ u ∈ s, Covered prog seen s' u) : Covered prog seen s' t := by
  rcases h with h | ⟨u, hm, hu⟩
  · exact .inl h
  · rcases hs u hm with h' | ⟨v, hm', hv⟩
    · rw [Noted, ← hu.key] at h'
      exact .inl h'
    · exact .inr ⟨v, hm', hu.1.trans hv.1, hu.2.trans hv.2⟩

/-- A thread that is noted already is dropped. -/
theorem Explored.drop {seen : Array Bool} {t : Thread} {rest : List Thread}
    (he : Explored prog text seen (t :: rest)) (hn : Noted prog seen t) : Explored prog text seen rest where
  size := he.size
  inside u hu := he.inside u (List.mem_cons_of_mem _ hu)
  refuses := he.refuses
  covers u hu hnu v hv := (he.covers u hu hnu v hv).mono fun w hw => by
    rcases List.mem_cons.1 hw with rfl | hw
    · exact .inl hn
    · exact .inr ⟨w, hw, rfl, rfl⟩

theorem noted_set {seen : Array Bool} {t u : Thread} (hlt : t.key prog.toArray < seen.size) :
    Noted prog (seen.set (t.key prog.toArray) true) u ↔
      Noted prog seen u ∨ t.key prog.toArray = u.key prog.toArray := by
  unfold Noted
  rw [Array.getElem?_set]
  split <;> simp_all

/-- A thread that is entered gives way to what follows it. -/
theorem Explored.enter (hc : Closed prog) {seen : Array Bool} {t : Thread} {rest : List Thread}
    (he : Explored prog text seen (t :: rest)) (hlt : t.key prog.toArray < seen.size)
    (ha : t.accepts prog.toArray = false) :
    Explored prog text (seen.set (t.key prog.toArray) true) (t.next prog.toArray text.toArray ++ rest) := by
  have ht := he.inside t List.mem_cons_self
  have hsame : ∀ u, u.Inside prog text → Noted prog (seen.set (t.key prog.toArray) true) u →
      Noted prog seen u ∨ u.SamePlace t := fun u hu hn => by
    rcases (noted_set hlt).1 hn with h | h
    · exact .inl h
    · exact .inr (Thread.samePlace_of_key hu ht h.symm)
  refine ⟨?_, ?_, ?_, ?_⟩
  · rw [Array.size_set, he.size]
  · intro u hu
    rcases List.mem_append.1 hu with hu | hu
    · exact (mem_next_iff.1 hu).inside hc ht
    · exact he.inside u (List.mem_cons_of_mem _ hu)
  · intro u hu hn
    rcases hsame u hu hn with h | h
    · exact he.refuses u hu h
    · rw [h.accepts, ha]
  · intro u hu hn v hv
    rcases hsame u hu hn with h | h
    · rcases he.covers u hu h v hv with hv | ⟨w, hw, hvw⟩
      · exact .inl ((noted_set hlt).2 (.inl hv))
      · rcases List.mem_cons.1 hw with rfl | hw
        · exact .inl ((noted_set hlt).2 (.inr hvw.key.symm))
        · exact .inr ⟨w, List.mem_append_right _ hw, hvw⟩
    · obtain ⟨w, hw, hvw⟩ := h.step hv
      exact .inr ⟨w, List.mem_append_left _ (mem_next_iff.2 hw), hvw⟩

/-- **A search that gives nothing has followed everything.** -/
theorem run_complete (hc : Closed prog) {seen : Array Bool} {stack : List Thread}
    (h : run prog.toArray text.toArray seen stack = none) (he : Explored prog text seen stack) :
    ∀ t, t.Inside prog text → Covered prog seen stack t → Fruitless prog text t := by
  -- Dropping a thread and entering one keep `Explored`, so it holds when the stack is empty.
  fun_induction run prog.toArray text.toArray seen stack with
  | case1 =>
    intro t ht hcov
    rcases hcov with hn | ⟨_, hm, _⟩
    · exact he.fruitless hc ht hn
    · cases hm
  | case2 seen t rest hlt hs ih =>
    have hn : Noted prog seen t := by rw [Noted, Array.getElem?_eq_getElem hlt, hs]
    intro u hu hcov
    refine ih h (he.drop hn) u hu (hcov.mono fun w hw => ?_)
    rcases List.mem_cons.1 hw with rfl | hw
    · exact .inl hn
    · exact .inr ⟨w, hw, rfl, rfl⟩
  | case3 => cases h
  | case4 seen t rest hlt hs ha _ ih =>
    intro u hu hcov
    refine ih h (he.enter hc hlt (by simpa using ha)) u hu ?_
    rcases hcov with hn | ⟨w, hw, huw⟩
    · exact .inl ((noted_set hlt).2 (.inl hn))
    · rcases List.mem_cons.1 hw with rfl | hw
      · exact .inl ((noted_set hlt).2 (.inr huw.key.symm))
      · exact .inr ⟨w, List.mem_append_right _ hw, huw⟩
  | case5 seen t rest hlt ih =>
    have := Thread.key_lt (he.inside t List.mem_cons_self)
    rw [he.size] at hlt
    exact absurd this hlt

/-! ## The search from every place -/

def startAt (slotCount i : Nat) : Thread :=
  ⟨0, i, List.replicate slotCount none⟩

theorem mem_starts_iff {slotCount : Nat} {t : Thread} :
    t ∈ (List.range (text.toArray.size + 1)).map (fun i => (⟨0, i, List.replicate slotCount none⟩ : Thread)) ↔
      ∃ i ≤ text.length, t = startAt slotCount i := by
  simp only [List.mem_map, List.mem_range, List.size_toArray, Nat.lt_succ_iff]
  exact ⟨fun ⟨i, hi, h⟩ => ⟨i, hi, h.symm⟩, fun ⟨i, hi, h⟩ => ⟨i, hi, h.symm⟩⟩

theorem search_sound {slotCount : Nat} {slots : Slots} (h : search prog.toArray slotCount text.toArray = some slots) :
    ∃ i ≤ text.length, ∃ n u, Steps prog text n (startAt slotCount i) u ∧ u.accepts prog.toArray = true ∧
      u.slots = slots := by
  obtain ⟨t, ht, hr⟩ := run_sound h
  obtain ⟨i, hi, rfl⟩ := mem_starts_iff.1 ht
  exact ⟨i, hi, hr⟩

theorem search_complete (hc : Closed prog) (hne : prog ≠ []) {slotCount : Nat}
    (h : search prog.toArray slotCount text.toArray = none) {i : Nat} (hi : i ≤ text.length) :
    Fruitless prog text (startAt slotCount i) := by
  have hin : ∀ i ≤ text.length, (startAt slotCount i).Inside prog text := fun i hi =>
    ⟨List.length_pos_iff.2 hne, hi⟩
  have hnone : ∀ t, ¬ Noted prog (Array.replicate (prog.toArray.size * (text.toArray.size + 1)) false) t := by
    intro t hn
    rw [Noted, Array.getElem?_replicate] at hn
    split at hn <;> cases hn
  refine run_complete hc h ⟨?_, ?_, ?_, ?_⟩ _ (hin i hi) (.inr ⟨_, mem_starts_iff.2 ⟨i, hi, rfl⟩, rfl, rfl⟩)
  · rw [Array.size_replicate, List.size_toArray, List.size_toArray]
  · intro t ht
    obtain ⟨j, hj, rfl⟩ := mem_starts_iff.1 ht
    exact hin j hj
  · intro t _ hn
    exact absurd hn (hnone t)
  · intro t _ hn
    exact absurd hn (hnone t)

end PathRouter.Regex
