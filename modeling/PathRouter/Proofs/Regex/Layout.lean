import PathRouter.Proofs.Regex.Run
/-!
# What a program finds

`Placed prog r base next` says that the layout of `r` stands at `base` in a program and leaves through `next`.  Then the
ways of `r` to match are the ways of a thread from `base` to `next`: `Takes.steps` takes a match to its steps, and
`Placed.takes` finds the match that the steps of a thread began with, for a thread cannot get out of the layout but
through `next`.

The main statement is `search_isSome_iff`, together with `takes_of_search`: the search of a whole program gives slots
exactly when the expression can match somewhere, and the slots it gives are those of a match.
-/
namespace PathRouter.Regex

variable {prog : List Instr} {text : List Char}

/-! ## Layouts in programs -/

def Placed (prog : List Instr) (r : Regex) (base next : Nat) : Prop :=
  r.code base next <+: prog.drop base

section

variable {r s : Regex} {base next : Nat}

theorem Placed.empty (h : Placed prog .empty base next) : prog[base]? = some (.jump next) :=
  (cons_prefix_drop_iff.1 h).1

theorem Placed.one {k : CharSet} (h : Placed prog (.one k) base next) : prog[base]? = some (.read k next) :=
  (cons_prefix_drop_iff.1 h).1

theorem Placed.assert {a : Assertion} (h : Placed prog (.assert a) base next) :
    prog[base]? = some (.check a next) :=
  (cons_prefix_drop_iff.1 h).1

theorem Placed.cat (h : Placed prog (.cat r s) base next) :
    prog[base]? = some (.jump (base + 1)) ∧ Placed prog r (base + 1) (base + 1 + r.size) ∧
      Placed prog s (base + 1 + r.size) next := by
  obtain ⟨hi, ht⟩ := cons_prefix_drop_iff.1 h
  obtain ⟨hr, hs⟩ := append_prefix_drop_iff.1 ht
  rw [length_code] at hs
  exact ⟨hi, hr, hs⟩

theorem Placed.alt (h : Placed prog (.alt r s) base next) :
    prog[base]? = some (.fork (base + 1) (base + 1 + r.size)) ∧ Placed prog r (base + 1) next ∧
      Placed prog s (base + 1 + r.size) next := by
  obtain ⟨hi, ht⟩ := cons_prefix_drop_iff.1 h
  obtain ⟨hr, hs⟩ := append_prefix_drop_iff.1 ht
  rw [length_code] at hs
  exact ⟨hi, hr, hs⟩

theorem Placed.plus {greedy : Bool} (h : Placed prog (.plus r greedy) base next) :
    Placed prog r base (base + r.size) ∧
      prog[base + r.size]? = some (if greedy then .fork base next else .fork next base) := by
  obtain ⟨hr, hi⟩ := append_prefix_drop_iff.1 h
  rw [length_code] at hi
  exact ⟨hr, (cons_prefix_drop_iff.1 hi).1⟩

theorem Placed.star {greedy : Bool} (h : Placed prog (.star r greedy) base next) :
    prog[base]? = some (if greedy then .fork (base + 1) next else .fork next (base + 1)) ∧
      Placed prog r (base + 1) base :=
  cons_prefix_drop_iff.1 h

theorem Placed.group {i : Nat} {name : Option String} (h : Placed prog (.group i name r) base next) :
    prog[base]? = some (.mark (2 * i) (base + 1)) ∧ Placed prog r (base + 1) (base + 1 + r.size) ∧
      prog[base + 1 + r.size]? = some (.mark (2 * i + 1) next) := by
  obtain ⟨hi, ht⟩ := cons_prefix_drop_iff.1 h
  obtain ⟨hr, hm⟩ := append_prefix_drop_iff.1 ht
  rw [length_code] at hm
  exact ⟨hi, hr, (cons_prefix_drop_iff.1 hm).1⟩

end

theorem size_pos : ∀ r : Regex, 0 < r.size
  | .empty | .one _ | .assert _ => Nat.one_pos
  | .cat _ _ | .alt _ _ | .plus _ _ | .star _ _ => Nat.succ_pos _
  | .group _ _ _ => Nat.succ_pos _

/-! ## Single steps -/

section

variable {t u : Thread}

theorem step_jump_iff {n : Nat} (hi : prog[t.pc]? = some (.jump n)) :
    Step prog text t u ↔ u = { t with pc := n } := by
  rw [← mem_next_iff]
  simp [Thread.next, hi]

theorem step_mark_iff {k n : Nat} (hi : prog[t.pc]? = some (.mark k n)) :
    Step prog text t u ↔ u = { t with pc := n, slots := t.slots.set k (some t.pos) } := by
  rw [← mem_next_iff]
  simp [Thread.next, hi]

theorem step_fork_iff {a b : Nat} (hi : prog[t.pc]? = some (.fork a b)) :
    Step prog text t u ↔ u = { t with pc := a } ∨ u = { t with pc := b } := by
  rw [← mem_next_iff]
  simp [Thread.next, hi]

/-- The fork of a loop leads on and out, whichever it prefers. -/
theorem step_loop_iff {a b : Nat} {greedy : Bool}
    (hi : prog[t.pc]? = some (if greedy then .fork a b else .fork b a)) :
    Step prog text t u ↔ u = { t with pc := a } ∨ u = { t with pc := b } := by
  cases greedy with
  | true => exact step_fork_iff hi
  | false => exact (step_fork_iff hi).trans or_comm

theorem not_step_of_accept (hi : prog[t.pc]? = some .accept) : ¬ Step prog text t u := by
  rw [← mem_next_iff]
  simp [Thread.next, hi]

theorem Steps.first {n : Nat} {v : Thread} (h : Steps prog text n t v) (hne : t.pc ≠ v.pc) :
    ∃ m w, n = m + 1 ∧ Step prog text t w ∧ Steps prog text m w v := by
  cases h with
  | refl => exact absurd rfl hne
  | head hs hr => exact ⟨_, _, rfl, hs, hr⟩

end

/-! ## From matches to steps -/

/-- **A match is a way through the layout.** -/
theorem Takes.steps {r : Regex} {p q : Nat} {t u : Slots} (h : Takes text r p t q u) :
    ∀ {base next : Nat}, Placed prog r base next → ∃ n, Steps prog text n ⟨base, p, t⟩ ⟨next, q, u⟩ := by
  induction h with
  | empty =>
    intro base next hp
    exact ⟨1, .head ((step_jump_iff hp.empty).2 rfl) .refl⟩
  | one hc hk =>
    intro base next hp
    exact ⟨1, .head (@Step.read prog text _ _ _ ⟨base, _, _⟩ hp.one hc hk) .refl⟩
  | assert ha =>
    intro base next hp
    exact ⟨1, .head (@Step.check prog text _ _ ⟨base, _, _⟩ hp.assert ha) .refl⟩
  | cat _ _ ih₁ ih₂ =>
    intro base next hp
    obtain ⟨hi, hr, hs⟩ := hp.cat
    obtain ⟨m, hm⟩ := ih₁ hr
    obtain ⟨n, hn⟩ := ih₂ hs
    exact ⟨m + n + 1, .head ((step_jump_iff hi).2 rfl) (hm.trans hn)⟩
  | altLeft _ ih =>
    intro base next hp
    obtain ⟨hi, hr, _⟩ := hp.alt
    obtain ⟨n, hn⟩ := ih hr
    exact ⟨n + 1, .head ((step_fork_iff hi).2 (.inl rfl)) hn⟩
  | altRight _ ih =>
    intro base next hp
    obtain ⟨hi, _, hs⟩ := hp.alt
    obtain ⟨n, hn⟩ := ih hs
    exact ⟨n + 1, .head ((step_fork_iff hi).2 (.inr rfl)) hn⟩
  | plusLast _ ih =>
    intro base next hp
    obtain ⟨hr, hi⟩ := hp.plus
    obtain ⟨n, hn⟩ := ih hr
    exact ⟨n + 1, hn.trans (.head ((step_loop_iff hi).2 (.inr rfl)) .refl)⟩
  | plusMore _ _ ih₁ ih₂ =>
    intro base next hp
    obtain ⟨hr, hi⟩ := hp.plus
    obtain ⟨m, hm⟩ := ih₁ hr
    obtain ⟨n, hn⟩ := ih₂ hp
    exact ⟨m + (n + 1), hm.trans (.head ((step_loop_iff hi).2 (.inl rfl)) hn)⟩
  | starLast =>
    intro base next hp
    exact ⟨1, .head ((step_loop_iff hp.star.1).2 (.inr rfl)) .refl⟩
  | starMore _ _ ih₁ ih₂ =>
    intro base next hp
    obtain ⟨hi, hr⟩ := hp.star
    obtain ⟨m, hm⟩ := ih₁ hr
    obtain ⟨n, hn⟩ := ih₂ hp
    exact ⟨m + n + 1, .head ((step_loop_iff hi).2 (.inl rfl)) (hm.trans hn)⟩
  | group _ ih =>
    intro base next hp
    obtain ⟨hi, hr, hm⟩ := hp.group
    obtain ⟨n, hn⟩ := ih hr
    exact ⟨n + 1 + 1, .head ((step_mark_iff hi).2 rfl) (hn.trans (.head ((step_mark_iff hm).2 rfl) .refl))⟩

/-! ## From steps to matches -/

def Outside (r : Regex) (base pc : Nat) : Prop :=
  pc < base ∨ base + r.size ≤ pc

/-- `n` steps to `v` begin with a match of `r`, and fewer are left after it. -/
def Begins (prog : List Instr) (text : List Char) (r : Regex) (next n p : Nat) (t : Slots) (v : Thread) : Prop :=
  ∃ m q u, Takes text r p t q u ∧ Steps prog text m ⟨next, q, u⟩ v ∧ m < n

theorem Placed.takes : ∀ (r : Regex) {base next n p : Nat} {t : Slots} {v : Thread}, Placed prog r base next →
    Steps prog text n ⟨base, p, t⟩ v → Outside r base v.pc → Begins prog text r next n p t v
  | .empty, base, next, n, p, t, v, hp, h, ho => by
    have hne : base ≠ v.pc := by unfold Outside size at ho; omega
    obtain ⟨m, w, rfl, hs, hm⟩ := h.first hne
    rw [step_jump_iff hp.empty] at hs
    exact ⟨m, p, t, .empty, hs ▸ hm, Nat.lt_succ_self m⟩
  | .one k, base, next, n, p, t, v, hp, h, ho => by
    have hne : base ≠ v.pc := by unfold Outside size at ho; omega
    obtain ⟨m, w, rfl, hs, hm⟩ := h.first hne
    cases hs with
    | read hi hc hk =>
      obtain ⟨rfl, rfl⟩ := Instr.read.inj (Option.some.inj (hp.one.symm.trans hi))
      exact ⟨m, p + 1, t, .one hc hk, hm, Nat.lt_succ_self m⟩
    | jump hi | check hi _ | forkFirst hi | forkSecond hi | mark hi => cases hp.one.symm.trans hi
  | .assert a, base, next, n, p, t, v, hp, h, ho => by
    have hne : base ≠ v.pc := by unfold Outside size at ho; omega
    obtain ⟨m, w, rfl, hs, hm⟩ := h.first hne
    cases hs with
    | check hi ha =>
      obtain ⟨rfl, rfl⟩ := Instr.check.inj (Option.some.inj (hp.assert.symm.trans hi))
      exact ⟨m, p, t, .assert ha, hm, Nat.lt_succ_self m⟩
    | jump hi | read hi _ _ | forkFirst hi | forkSecond hi | mark hi => cases hp.assert.symm.trans hi
  | .cat r s, base, next, n, p, t, v, hp, h, ho => by
    obtain ⟨hi, hr, hs⟩ := hp.cat
    have hout : base ≠ v.pc ∧ Outside r (base + 1) v.pc ∧ Outside s (base + 1 + r.size) v.pc := by
      unfold Outside size at ho
      unfold Outside
      omega
    obtain ⟨m, w, rfl, hw, hm⟩ := h.first hout.1
    rw [step_jump_iff hi] at hw
    subst hw
    obtain ⟨m', q, u, htr, hm', hlt⟩ := Placed.takes r hr hm hout.2.1
    obtain ⟨m'', q', u', hts, hm'', hlt'⟩ := Placed.takes s hs hm' hout.2.2
    exact ⟨m'', q', u', .cat htr hts, hm'', by omega⟩
  | .alt r s, base, next, n, p, t, v, hp, h, ho => by
    obtain ⟨hi, hr, hs⟩ := hp.alt
    have hout : base ≠ v.pc ∧ Outside r (base + 1) v.pc ∧ Outside s (base + 1 + r.size) v.pc := by
      unfold Outside size at ho
      unfold Outside
      omega
    obtain ⟨m, w, rfl, hw, hm⟩ := h.first hout.1
    rcases (step_fork_iff hi).1 hw with rfl | rfl
    · obtain ⟨m', q, u, ht, hm', hlt⟩ := Placed.takes r hr hm hout.2.1
      exact ⟨m', q, u, .altLeft ht, hm', by omega⟩
    · obtain ⟨m', q, u, ht, hm', hlt⟩ := Placed.takes s hs hm hout.2.2
      exact ⟨m', q, u, .altRight ht, hm', by omega⟩
  | .plus r greedy, base, next, n, p, t, v, hp, h, ho => by
    obtain ⟨hr, hi⟩ := hp.plus
    have hout : base + r.size ≠ v.pc ∧ Outside r base v.pc := by
      unfold Outside size at ho
      unfold Outside
      omega
    -- Each pass takes a step at least, so the passes are counted by the steps that are left.
    induction n using Nat.strongRecOn generalizing p t with
    | _ n ih =>
      obtain ⟨m, q, u, htr, hm, hlt⟩ := Placed.takes r hr h hout.2
      obtain ⟨m', w, rfl, hw, hm'⟩ := hm.first hout.1
      rcases (step_loop_iff hi).1 hw with rfl | rfl
      · obtain ⟨m'', q', u', ht, hm'', hlt'⟩ := ih m' (by omega) _ _ hm'
        exact ⟨m'', q', u', .plusMore htr ht, hm'', by omega⟩
      · exact ⟨m', q, u, .plusLast htr, hm', by omega⟩
  | .star r greedy, base, next, n, p, t, v, hp, h, ho => by
    obtain ⟨hi, hr⟩ := hp.star
    have hout : base ≠ v.pc ∧ Outside r (base + 1) v.pc := by
      unfold Outside size at ho
      unfold Outside
      omega
    induction n using Nat.strongRecOn generalizing p t with
    | _ n ih =>
      obtain ⟨m, w, rfl, hw, hm⟩ := h.first hout.1
      rcases (step_loop_iff hi).1 hw with rfl | rfl
      · obtain ⟨m', q, u, htr, hm', hlt⟩ := Placed.takes r hr hm hout.2
        obtain ⟨m'', q', u', ht, hm'', hlt'⟩ := ih m' (by omega) _ _ hm'
        exact ⟨m'', q', u', .starMore htr ht, hm'', by omega⟩
      · exact ⟨m, p, t, .starLast, hm, Nat.lt_succ_self m⟩
  | .group i name r, base, next, n, p, t, v, hp, h, ho => by
    obtain ⟨hi, hr, hj⟩ := hp.group
    have hout : base ≠ v.pc ∧ base + 1 + r.size ≠ v.pc ∧ Outside r (base + 1) v.pc := by
      unfold Outside size at ho
      unfold Outside
      omega
    obtain ⟨m, w, rfl, hw, hm⟩ := h.first hout.1
    rw [step_mark_iff hi] at hw
    subst hw
    obtain ⟨m', q, u, htr, hm', hlt⟩ := Placed.takes r hr hm hout.2.2
    obtain ⟨m'', w, rfl, hw, hm''⟩ := hm'.first hout.2.1
    rw [step_mark_iff hj] at hw
    subst hw
    exact ⟨m'', q, _, .group htr, hm'', by omega⟩

/-! ## Whole programs -/

theorem targets_loop {a b n : Nat} {greedy : Bool}
    (h : n ∈ (if greedy then Instr.fork a b else .fork b a).targets) : n = a ∨ n = b := by
  cases greedy with
  | true =>
    rcases List.mem_cons.1 h with h | h
    · exact .inl h
    · exact .inr (List.mem_singleton.1 h)
  | false =>
    rcases List.mem_cons.1 h with h | h
    · exact .inr h
    · exact .inl (List.mem_singleton.1 h)

/-- The addresses of a layout lie in it or are its way out. -/
theorem targets_code : ∀ (r : Regex) (base next : Nat), ∀ i ∈ r.code base next, ∀ n ∈ i.targets,
    base ≤ n ∧ n < base + r.size ∨ n = next
  | .empty, base, next, i, hi, n, hn | .one _, base, next, i, hi, n, hn | .assert _, base, next, i, hi, n, hn => by
    rw [List.mem_singleton.1 hi] at hn
    exact .inr (List.mem_singleton.1 hn)
  | .cat r s, base, next, i, hi, n, hn => by
    have hr := targets_code r (base + 1) (base + 1 + r.size)
    have hs := targets_code s (base + 1 + r.size) next
    have hs0 := size_pos s
    have hr0 := size_pos r
    unfold size
    rcases List.mem_cons.1 hi with rfl | hi
    · have := List.mem_singleton.1 hn
      omega
    · rcases List.mem_append.1 hi with hi | hi
      · have := hr i hi n hn
        omega
      · have := hs i hi n hn
        omega
  | .alt r s, base, next, i, hi, n, hn => by
    have hr := targets_code r (base + 1) next
    have hs := targets_code s (base + 1 + r.size) next
    have hs0 := size_pos s
    have hr0 := size_pos r
    unfold size
    rcases List.mem_cons.1 hi with rfl | hi
    · simp only [Instr.targets, List.mem_cons, List.not_mem_nil, or_false] at hn
      omega
    · rcases List.mem_append.1 hi with hi | hi
      · have := hr i hi n hn
        omega
      · have := hs i hi n hn
        omega
  | .plus r greedy, base, next, i, hi, n, hn => by
    have hr := targets_code r base (base + r.size)
    have hr0 := size_pos r
    unfold size
    rcases List.mem_append.1 hi with hi | hi
    · have := hr i hi n hn
      omega
    · rw [List.mem_singleton.1 hi] at hn
      have := targets_loop hn
      omega
  | .star r greedy, base, next, i, hi, n, hn => by
    have hr := targets_code r (base + 1) base
    have hr0 := size_pos r
    unfold size
    rcases List.mem_cons.1 hi with rfl | hi
    · have := targets_loop hn
      omega
    · have := hr i hi n hn
      omega
  | .group _ _ r, base, next, i, hi, n, hn => by
    have hr := targets_code r (base + 1) (base + 1 + r.size)
    have hr0 := size_pos r
    unfold size
    rcases List.mem_cons.1 hi with rfl | hi
    · have := List.mem_singleton.1 hn
      omega
    · rcases List.mem_append.1 hi with hi | hi
      · have := hr i hi n hn
        omega
      · rw [List.mem_singleton.1 hi] at hn
        exact .inr (List.mem_singleton.1 hn)

theorem accept_notMem_code : ∀ (r : Regex) (base next : Nat), Instr.accept ∉ r.code base next
  | .empty, _, _ | .one _, _, _ | .assert _, _, _ => by simp [code]
  | .cat r s, base, next | .alt r s, base, next => by
    simp [code, accept_notMem_code r, accept_notMem_code s]
  | .plus r greedy, base, next | .star r greedy, base, next => by
    cases greedy <;> simp [code, accept_notMem_code r]
  | .group _ _ r, base, next => by simp [code, accept_notMem_code r]

theorem placed_program (r : Regex) : Placed r.program (.group 0 none r) 0 (r.size + 2) :=
  List.prefix_append _ _

theorem length_program (r : Regex) : r.program.length = r.size + 2 + 1 := by
  rw [program, List.length_append, length_code]
  rfl

theorem closed_program (r : Regex) : Closed r.program := by
  intro i hi n hn
  rw [length_program]
  rcases List.mem_append.1 hi with hi | hi
  · have hsize : (Regex.group 0 none r).size = r.size + 2 := rfl
    have := targets_code _ _ _ i hi n hn
    omega
  · rw [List.mem_singleton.1 hi] at hn
    cases hn

/-- The only instruction that accepts is the last. -/
theorem program_accept_iff (r : Regex) (pc : Nat) : r.program[pc]? = some .accept ↔ pc = r.size + 2 := by
  have hlen : ((Regex.group 0 none r).code 0 (r.size + 2)).length = r.size + 2 := length_code _ _ _
  unfold program
  constructor
  · intro h
    rcases Nat.lt_trichotomy pc (r.size + 2) with hlt | heq | hgt
    · rw [List.getElem?_append_left (by omega)] at h
      exact absurd (List.mem_of_getElem? h) (accept_notMem_code _ _ _)
    · exact heq
    · rw [List.getElem?_append_right (by omega), List.getElem?_eq_none (by simp; omega)] at h
      cases h
  · rintro rfl
    rw [List.getElem?_append_right (by omega), hlen, Nat.sub_self]
    rfl

/-- **An accepting thread has matched.** -/
theorem takes_of_steps {r : Regex} {n i : Nat} {t : Slots} {v : Thread}
    (h : Steps r.program text n ⟨0, i, t⟩ v) (hv : v.accepts r.program.toArray = true) :
    Takes text (.group 0 none r) i t v.pos v.slots := by
  rw [accepts_iff, program_accept_iff] at hv
  -- The steps leave the layout, so they began with a match; from the accepting end there are none left.
  obtain ⟨m, q, u, ht, hm, _⟩ := (placed_program r).takes _ h (by unfold Outside size; omega)
  cases hm with
  | refl => exact ht
  | head hs _ => exact absurd hs (not_step_of_accept ((program_accept_iff r _).2 rfl))

/-- **The slots that a search gives are those of a match.** -/
theorem takes_of_search {r : Regex} {slotCount : Nat} {slots : Slots}
    (h : search r.program.toArray slotCount text.toArray = some slots) :
    ∃ i ≤ text.length, ∃ q, Takes text (.group 0 none r) i (List.replicate slotCount none) q slots := by
  obtain ⟨i, hi, n, v, hs, hv, rfl⟩ := search_sound h
  exact ⟨i, hi, v.pos, takes_of_steps hs hv⟩

/-- **A search finds a match wherever there is one.** -/
theorem search_isSome_iff {r : Regex} {slotCount : Nat} :
    (search r.program.toArray slotCount text.toArray).isSome = true ↔
      ∃ i ≤ text.length, ∃ q u, Takes text (.group 0 none r) i (List.replicate slotCount none) q u := by
  constructor
  · intro h
    obtain ⟨slots, hs⟩ := Option.isSome_iff_exists.1 h
    obtain ⟨i, hi, q, ht⟩ := takes_of_search hs
    exact ⟨i, hi, q, slots, ht⟩
  · rintro ⟨i, hi, q, u, ht⟩
    cases hnone : search r.program.toArray slotCount text.toArray with
    | some _ => rfl
    | none =>
      have hne : r.program ≠ [] := List.length_pos_iff.1 (by rw [length_program]; omega)
      obtain ⟨n, hn⟩ := ht.steps (placed_program r)
      have hfalse := search_complete (closed_program r) hne hnone hi n _ hn
      have htrue : (⟨r.size + 2, q, u⟩ : Thread).accepts r.program.toArray = true :=
        accepts_iff.2 ((program_accept_iff r _).2 rfl)
      rw [hfalse] at htrue
      cases htrue

end PathRouter.Regex
