import Mathlib.Data.List.Nodup
import PathRouter.Proofs.Regex.Form
import PathRouter.Proofs.Regex.Reader
/-!
# The groups of what is read

Groups are numbered as they are opened, and a table has the name of each (`StandsIn`).  A group can be lost, as what is
repeated no times is, and it can be written more than once, as what is counted is; but none changes its number or its
name, and no two in the table have one name.  This is kept from token to token (`Listed`), whatever the flags are.

The main statement is `nodup_names`: no name is that of two groups of a pattern.
-/
namespace PathRouter.Regex

/-! ## Repetitions -/

section

variable {x : Nat × Option String} {r : Regex} {greedy : Bool}

theorem groups_opt (r : Regex) (greedy : Bool) : (opt r greedy).groups = r.groups := by
  cases greedy <;> simp [opt, groups]

theorem groups_many (r : Regex) (greedy : Bool) : (many r greedy).groups = r.groups := by
  unfold many
  split
  · exact groups_opt _ greedy
  · rfl

theorem mem_groups_times {n : Nat} (h : x ∈ (times r n).groups) : x ∈ r.groups := by
  rw [times, Form.groups_regexCats] at h
  obtain ⟨s, hs, hx⟩ := List.mem_flatMap.1 h
  rwa [List.eq_of_mem_replicate hs] at hx

theorem mem_groups_upTo : ∀ {n : Nat}, x ∈ (upTo r greedy n).groups → x ∈ r.groups
  | 0, h => absurd h List.not_mem_nil
  | 1, h => by rwa [upTo, groups_opt] at h
  | n + 2, h => by
    rw [upTo, groups_opt] at h
    rcases List.mem_append.1 h with h | h
    · exact h
    · exact mem_groups_upTo h

/-- **A counted repetition has no other groups than its body**, however often it writes it. -/
theorem mem_groups_counted {min : Nat} {max : Option Nat} (h : x ∈ (counted r min max greedy).groups) :
    x ∈ r.groups := by
  unfold counted at h
  split at h
  · rwa [groups_many] at h
  · exact h
  · rw [Form.groups_regexCats, List.flatMap_append, List.flatMap_singleton] at h
    rcases List.mem_append.1 h with h | h
    · obtain ⟨s, hs, hx⟩ := List.mem_flatMap.1 h
      rwa [List.eq_of_mem_replicate hs] at hx
    · exact h
  · split at h
    · exact mem_groups_times h
    · split at h
      · exact mem_groups_upTo h
      · rcases List.mem_append.1 h with h | h
        · exact mem_groups_times h
        · exact mem_groups_upTo h

theorem mem_groups_formCounted {r : Form} {min : Nat} {max : Option Nat}
    (h : x ∈ (r.counted min max greedy).toRegex.groups) : x ∈ r.toRegex.groups := by
  unfold Form.counted at h
  extract_lets least most at h
  split at h
  · exact absurd h List.not_mem_nil
  · split at h
    · exact h
    · exact mem_groups_counted h

end

/-! ## Tokens -/

/-- A token that is a part has no groups: those are opened by tokens of their own. -/
def Token.Groupless : Token → Prop
  | .part r => r.value.toRegex.groups = []
  | _ => True

theorem groups_atom (fl : Flags) (a : Atom) : (a.toForm fl).toRegex.groups = [] := by
  cases a with
  | literal c => exact Form.groups_ofSet _ _
  | set s => exact Form.groups_ofSet _ _
  | assertion a => rfl

theorem groupless_readOpen {fl : Flags} {s r : List Char} {tok : Token} (h : readOpen fl s = some (tok, r)) :
    tok.Groupless := by
  have hnamed : ∀ {s : List Char}, readNamed s = some (tok, r) → tok.Groupless := by
    intro s h
    unfold readNamed at h
    split at h
    · obtain ⟨rfl, -⟩ := Prod.mk.inj (Option.some.inj h)
      trivial
    · cases h
  unfold readOpen at h
  split at h
  any_goals cases h
  · exact hnamed h
  · exact hnamed h
  · split at h
    · cases h
    · split at h
      · cases h
      · obtain ⟨rfl, -⟩ := Prod.mk.inj (Option.some.inj h)
        trivial
    · obtain ⟨rfl, -⟩ := Prod.mk.inj (Option.some.inj h)
      trivial
  · trivial

theorem groupless_readCounted {fl : Flags} {s r : List Char} {tok : Token} (h : readCounted fl s = some (tok, r)) :
    tok.Groupless := by
  rw [readCounted_eq] at h
  obtain ⟨_, -, h⟩ := Option.bind_eq_some_iff.1 h
  obtain ⟨_, -, h⟩ := Option.map_eq_some_iff.1 h
  obtain ⟨rfl, -⟩ := Prod.mk.inj h
  trivial

theorem groupless_readToken {fl : Flags} {c : Char} {s r : List Char} {tok : Token}
    (h : readToken fl c s = some (tok, r)) : tok.Groupless := by
  unfold readToken at h
  split at h
  case h_1 => exact groupless_readOpen h
  case h_4 =>
    obtain ⟨_, -, h⟩ := Option.map_eq_some_iff.1 h
    obtain ⟨rfl, -⟩ := Prod.mk.inj h
    exact Form.groups_ofSet _ _
  case h_8 => exact groupless_readCounted h
  case h_9 =>
    obtain ⟨_, -, h⟩ := Option.map_eq_some_iff.1 h
    obtain ⟨rfl, -⟩ := Prod.mk.inj h
    exact groups_atom fl _
  case h_10 =>
    obtain ⟨_, -, h⟩ := Option.map_eq_some_iff.1 h
    obtain ⟨rfl, -⟩ := Prod.mk.inj h
    exact Form.groups_ofSet _ _
  case h_13 =>
    obtain ⟨rfl, -⟩ := Prod.mk.inj (Option.some.inj h)
    exact Form.groups_ofSet _ _
  all_goals
    obtain ⟨rfl, -⟩ := Prod.mk.inj (Option.some.inj h)
    trivial

/-! ## The table of groups -/

/-- The table has the name of the group under its number; the first number is 1. -/
def StandsIn (table : List (Option String)) (x : Nat × Option String) : Prop :=
  ∃ i, x.1 = i + 1 ∧ table[i]? = some x.2

theorem StandsIn.append {table : List (Option String)} {x : Nat × Option String} (h : StandsIn table x)
    (more : List (Option String)) : StandsIn (table ++ more) x := by
  obtain ⟨i, hi, hx⟩ := h
  refine ⟨i, hi, ?_⟩
  rw [List.getElem?_append_left (List.getElem?_eq_some_iff.1 hx).1]
  exact hx

def FormListed (table : List (Option String)) (r : Form) : Prop :=
  ∀ x ∈ r.toRegex.groups, StandsIn table x

/-- All groups on a level of reading stand in the table. -/
structure LevelListed (table : List (Option String)) (branches : List (Nested Form))
    (parts : List (Nested (Option Form))) : Prop where
  branches : ∀ b ∈ branches, FormListed table b.value
  parts : ∀ p ∈ parts, ∀ r ∈ p.value, FormListed table r

def FrameListed (table : List (Option String)) (f : Frame) : Prop :=
  LevelListed table f.branches f.parts ∧ ∀ x ∈ f.group, StandsIn table x

/-- **What reading keeps.** -/
structure Listed (table : List (Option String)) (st : ReadState) : Prop where
  count : st.groupCount = table.length
  names : ∀ n, n ∈ st.names ↔ some n ∈ table
  distinct : (table.filterMap id).Nodup
  level : LevelListed table st.branches st.parts
  outer : ∀ f ∈ st.outer, FrameListed table f

section

variable {table : List (Option String)}

theorem LevelListed.append {branches : List (Nested Form)} {parts : List (Nested (Option Form))}
    (h : LevelListed table branches parts) (more : List (Option String)) : LevelListed (table ++ more) branches parts :=
  ⟨fun b hb x hx => (h.branches b hb x hx).append more, fun p hp r hr x hx => (h.parts p hp r hr x hx).append more⟩

theorem FrameListed.append {f : Frame} (h : FrameListed table f) (more : List (Option String)) :
    FrameListed (table ++ more) f :=
  ⟨h.1.append more, fun x hx => (h.2 x hx).append more⟩

theorem levelListed_nil : LevelListed table [] [] :=
  ⟨fun _ h => absurd h List.not_mem_nil, fun _ h => absurd h List.not_mem_nil⟩

theorem LevelListed.cons {branches : List (Nested Form)} {parts : List (Nested (Option Form))}
    (h : LevelListed table branches parts) {p : Nested (Option Form)} (hp : ∀ r ∈ p.value, FormListed table r) :
    LevelListed table branches (p :: parts) :=
  ⟨h.branches, List.forall_mem_cons.2 ⟨hp, h.parts⟩⟩

theorem LevelListed.current {st : ReadState} (h : LevelListed table st.branches st.parts) :
    FormListed table st.current.value := by
  intro x hx
  rw [ReadState.current_value, Form.groups_cats] at hx
  obtain ⟨r, hr, hx⟩ := List.mem_flatMap.1 hx
  obtain ⟨p, hp, hvalue⟩ := List.mem_filterMap.1 hr
  exact h.parts p (List.mem_reverse.1 hp) r hvalue x hx

theorem LevelListed.body {st : ReadState} (h : LevelListed table st.branches st.parts) :
    FormListed table st.body.value := by
  intro x hx
  obtain ⟨r, hr, hx⟩ := Form.mem_groups_alts hx
  obtain ⟨b, hb, rfl⟩ := List.mem_map.1 hr
  rcases List.mem_cons.1 (List.mem_reverse.1 hb) with rfl | hb
  · exact h.current x hx
  · exact h.branches b hb x hx

/-- A group that is opened gets the next number, and its name is new. -/
theorem Listed.open {st : ReadState} (h : Listed table st) {name : Option String} (hname : ∀ n ∈ name, n ∉ st.names) :
    StandsIn (table ++ [name]) (st.groupCount + 1, name) ∧ (∀ n, n ∈ name.toList ++ st.names ↔ some n ∈ table ++ [name]) ∧
      ((table ++ [name]).filterMap id).Nodup := by
  refine ⟨⟨st.groupCount, rfl, ?_⟩, fun n => ?_, ?_⟩
  · rw [h.count]
    exact List.getElem?_concat_length
  · rw [List.mem_append, List.mem_append, h.names, List.mem_singleton, Option.mem_toList, @eq_comm _ name]
    exact or_comm
  · rw [List.filterMap_append, List.nodup_append']
    refine ⟨h.distinct, by cases name <;> simp, fun n hn hm => ?_⟩
    obtain ⟨m, hm, hid⟩ := List.mem_filterMap.1 hm
    obtain rfl := List.mem_singleton.1 hm
    obtain ⟨m, hn, rfl⟩ := List.mem_filterMap.1 hn
    obtain rfl : m = some n := by assumption
    exact hname n hid ((h.names n).2 hn)

/-- **A token keeps what is listed**, in the same table or in one with another group. -/
theorem Listed.push {st st' : ReadState} {tok : Token} (h : Listed table st) (htok : tok.Groupless)
    (hp : st.push tok = some st') : ∃ more, Listed (table ++ more) st' := by
  have hsame : Listed table st' → ∃ more, Listed (table ++ more) st' := fun h => ⟨[], by rwa [List.append_nil]⟩
  unfold ReadState.push at hp
  cases tok with
  | part r =>
    obtain rfl := Option.some.inj hp
    refine hsame ⟨h.count, h.names, h.distinct, h.level.cons fun s hs x hx => ?_, h.outer⟩
    obtain rfl := Option.some.inj hs
    rw [htok] at hx
    cases hx
  | repetition min max greedy =>
    dsimp only at hp
    split at hp
    · rename_i r d rest hparts
      obtain rfl := Option.some.inj hp
      have hlevel := h.level
      rw [hparts] at hlevel
      obtain ⟨hr, hrest⟩ := List.forall_mem_cons.1 hlevel.parts
      refine hsame ⟨h.count, h.names, h.distinct, LevelListed.cons ⟨hlevel.branches, hrest⟩ fun s hs x hx => ?_, h.outer⟩
      obtain rfl := Option.some.inj hs
      exact hr r rfl x (mem_groups_formCounted hx)
    · cases hp
  | openCapture name =>
    dsimp only at hp
    split at hp
    · cases hp
    · rename_i hfree
      obtain rfl := Option.some.inj hp
      have hname : ∀ n ∈ name, n ∉ st.names := by
        rintro n rfl hn
        exact hfree (by simpa using hn)
      obtain ⟨hgroup, hnames, hdistinct⟩ := h.open hname
      refine ⟨[name], ?_, hnames, hdistinct, levelListed_nil, List.forall_mem_cons.2 ⟨⟨h.level.append _, ?_⟩, ?_⟩⟩
      · rw [List.length_append, ← h.count]
        rfl
      · intro x hx
        rwa [← Option.some.inj hx]
      · exact fun f hf => (h.outer f hf).append _
  | openPlain changes =>
    obtain rfl := Option.some.inj hp
    exact hsame ⟨h.count, h.names, h.distinct, levelListed_nil,
      List.forall_mem_cons.2 ⟨⟨h.level, fun _ hx => nomatch hx⟩, h.outer⟩⟩
  | setFlags changes =>
    obtain rfl := Option.some.inj hp
    exact hsame ⟨h.count, h.names, h.distinct, h.level.cons (fun _ hs => nomatch hs), h.outer⟩
  | bar =>
    obtain rfl := Option.some.inj hp
    refine hsame ⟨h.count, h.names, h.distinct, ⟨?_, fun _ hm => absurd hm List.not_mem_nil⟩, h.outer⟩
    exact List.forall_mem_cons.2 ⟨h.level.current, h.level.branches⟩
  | close =>
    dsimp only at hp
    split at hp
    · cases hp
    · rename_i f rest houter
      obtain rfl := Option.some.inj hp
      obtain ⟨⟨hlevel, hgroup⟩, hrest⟩ := List.forall_mem_cons.1 (houter ▸ h.outer)
      refine hsame ⟨h.count, h.names, h.distinct, hlevel.cons fun r hr => ?_, hrest⟩
      have hbody := h.level.body
      unfold Nested.inside at hr
      dsimp only at hr
      split at hr
      · rename_i i name hf
        obtain rfl := Option.some.inj hr
        intro x hx
        rcases List.mem_cons.1 hx with rfl | hx
        · exact hgroup _ hf
        · exact hbody x hx
      · obtain rfl := Option.some.inj hr
        exact hbody

end

/-! ## Patterns -/

theorem listed_start : Listed [] {} :=
  ⟨rfl, by simp, List.nodup_nil, levelListed_nil, fun _ h => absurd h List.not_mem_nil⟩

theorem Listed.reads {st st' : ReadState} {s : List Char} (hrun : ReadState.Reads st s st') :
    ∀ {table : List (Option String)}, Listed table st → ∃ table', Listed table' st' := by
  induction hrun with
  | done => exact fun h => ⟨_, h⟩
  | token _ ht hp _ _ ih =>
    intro table h
    obtain ⟨more, hmore⟩ := h.push (groupless_readToken ht) hp
    exact ih hmore

/-- **The groups of a pattern stand in a table**, in which no two have one name. -/
theorem groups_listed {pattern : String} {r : Regex} (h : parse? pattern = some r) :
    ∃ table : List (Option String), (table.filterMap id).Nodup ∧ ∀ x ∈ r.groups, StandsIn table x := by
  obtain ⟨st, hrun, hfinish⟩ := ReadState.reads_of_read h
  obtain ⟨table, hlisted⟩ := Listed.reads hrun listed_start
  refine ⟨table, hlisted.distinct, ?_⟩
  unfold ReadState.finish at hfinish
  split at hfinish
  · rw [← Option.some.inj hfinish]
    exact hlisted.level.body
  · cases hfinish

theorem le_foldl_max {x : Nat × Option String} : ∀ {gs : List (Nat × Option String)} {n : Nat}, x.1 ≤ n ∨ x ∈ gs →
    x.1 ≤ gs.foldl (fun n g => max n g.1) n
  | [], _, h => h.resolve_right List.not_mem_nil
  | g :: gs, n, h => by
    rw [List.foldl_cons]
    refine le_foldl_max ?_
    rcases h with h | h
    · exact .inl (Nat.le_trans h (Nat.le_max_left _ _))
    · rcases List.mem_cons.1 h with rfl | h
      · exact .inl (Nat.le_max_right _ _)
      · exact .inr h

/-- **A group stands under its number in the names of groups.** -/
theorem standsIn_groupNames {r : Regex} {table : List (Option String)} (h : ∀ x ∈ r.groups, StandsIn table x)
    {x : Nat × Option String} (hx : x ∈ r.groups) : StandsIn r.groupNames x := by
  obtain ⟨i, hi, hname⟩ := h x hx
  refine ⟨i, hi, ?_⟩
  have hlt : i < r.groups.foldl (fun n g => max n g.1) 0 := by
    have := @le_foldl_max x r.groups 0 (.inr hx)
    omega
  -- Another group of this number would stand in the table under the same name.
  have hfirst : ∀ {name}, r.groups.lookup (i + 1) = some name → name = x.2 := by
    intro name hl
    obtain ⟨before, after, hgroups, -⟩ := List.lookup_eq_some_iff.1 hl
    obtain ⟨j, hj, hn⟩ := h (i + 1, name) (by rw [hgroups]; simp)
    obtain rfl := Nat.succ.inj hj
    rw [hname] at hn
    exact (Option.some.inj hn).symm
  have hlookup : r.groups.lookup (i + 1) = some x.2 := by
    cases hl : r.groups.lookup (i + 1) with
    | none => exact absurd hi.symm (by simpa using List.lookup_eq_none_iff.1 hl x hx)
    | some name => rw [hfirst hl]
  rw [groupNames, List.getElem?_map, List.getElem?_range hlt, Option.map_some, hlookup]
  rfl

theorem getElem?_groupNames {r : Regex} {table : List (Option String)} (h : ∀ x ∈ r.groups, StandsIn table x) {i : Nat}
    {n : String} (hi : r.groupNames[i]? = some (some n)) : table[i]? = some (some n) := by
  unfold groupNames at hi
  obtain ⟨hlt, hi⟩ := List.getElem?_eq_some_iff.1 hi
  rw [List.getElem_map, List.getElem_range, Option.join_eq_some_iff, List.lookup_eq_some_iff] at hi
  obtain ⟨before, after, hgroups, -⟩ := hi
  obtain ⟨j, hj, hn⟩ := h (i + 1, some n) (by rw [hgroups]; simp)
  obtain rfl := Nat.succ.inj hj
  exact hn

/-- **No name is that of two groups.** -/
theorem nodup_names {pattern : String} {r : Regex} (h : parse? pattern = some r) :
    (r.groupNames.filterMap id).Nodup := by
  obtain ⟨table, hnodup, hgroups⟩ := groups_listed h
  rw [List.Nodup, List.pairwise_filterMap, List.pairwise_iff_getElem] at hnodup ⊢
  intro i j hi hj hij n hn n' hn'
  have hi := getElem?_groupNames hgroups (List.getElem?_eq_some_iff.2 ⟨hi, hn⟩)
  have hj := getElem?_groupNames hgroups (List.getElem?_eq_some_iff.2 ⟨hj, hn'⟩)
  obtain ⟨hi, hn⟩ := List.getElem?_eq_some_iff.1 hi
  obtain ⟨hj, hn'⟩ := List.getElem?_eq_some_iff.1 hj
  exact hnodup i j hi hj hij n hn n' hn'

end PathRouter.Regex
