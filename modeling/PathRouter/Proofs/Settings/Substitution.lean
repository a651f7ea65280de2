import Mathlib.Tactic.SplitIfs
import PathRouter.Document.DotEnv
/-!
# What the lines of a text look up

A value of a `.env` text looks up a name where a substitution ends.  Which names these are is told by the text alone, for
what a name stands for does not change how the rest is read (`step_alike`); `valueNames` takes them off a value and
`names` off a text.  Quoted text without substitutions, comments and keys have none.  Whatever else two environments hold,
they give a line the same value if they agree on its names (`line?_eq`).
-/
namespace PathRouter.DotEnv

/-! ## The names of a text -/

/-- The name that is looked up at a character, if a substitution ends there. -/
def ValueState.lookedUp? (st : ValueState) (c : Char) : Option (List Char) :=
  if st.escaped || st.strong || Text.isAlphanumeric c then none
  else
    match st.naming with
    | .none => none
    | .bare => if c == '{' && st.name.isEmpty then none else some st.name
    | .braced => if c == '}' then some st.name else none

/-- The names that are looked up from a state on.  At the end this is the name that was being read, which is empty if there
was none. -/
def namesFrom (st : ValueState) : List Char → List (List Char)
  | [] => [st.name]
  | c :: s =>
    if st.ended then [st.name]
    else (st.lookedUp? c).toList ++ ((st.step {} ∅ c).map (fun st => namesFrom st s)).getD []

/-- The names that a value looks up. -/
def valueNames (s : List Char) : List (List Char) :=
  namesFrom {} s

/-- The names that a line looks up: those of its value, if it has one. -/
def lineNames (l : List Char) : List (List Char) :=
  match keyAndRest? (Text.trimStart (Text.trimEnd l)) with
  | none => []
  | some (_, r) =>
    let r := Text.trimStart r
    if r.isEmpty || isComment r then [] else valueNames r

/-- **The names of a text**: those that its lines look up. -/
def names (t : String) : List (List Char) :=
  (logicalLines t.toList).flatMap (fun l => (l.map lineNames).getD [])

theorem mem_names {t : String} {l name : List Char} (hl : some l ∈ logicalLines t.toList) (hname : name ∈ lineNames l) :
    name ∈ names t :=
  List.mem_flatMap.2 ⟨_, hl, hname⟩

example : names "A=1 # $B\nC='$D'\\$E${F.G}$HI" = [[], "F.G".toList, "HI".toList] := by decide +kernel

/-! ## Values -/

variable {env env' : Environment} {known known' : Dict String} {st : ValueState} {c : Char}

/-- A state but for what has been read so far. -/
def ValueState.plain (st : ValueState) : ValueState :=
  { st with output := [] }

/-- **What names stand for changes the output alone.** -/
theorem step_alike (env env' : Environment) (known known' : Dict String) (st : ValueState) (c : Char) :
    (st.plain.step env known c).map ValueState.plain = (st.step env' known' c).map ValueState.plain := by
  obtain ⟨hescaped, hstrong, hweak, hnaming, hname⟩ : st.plain.escaped = st.escaped ∧ st.plain.strong = st.strong ∧
    st.plain.weak = st.weak ∧ st.plain.naming = st.naming ∧ st.plain.name = st.name := ⟨rfl, rfl, rfl, rfl, rfl⟩
  rw [ValueState.step, ValueState.step, hescaped, hstrong, hweak, hnaming, hname]
  by_cases he : st.escaped = true
  · rw [if_pos he, if_pos he]
    split_ifs <;> rfl
  rw [if_neg he, if_neg he]
  by_cases hs : st.strong = true
  · rw [if_pos hs, if_pos hs]
    split_ifs <;> rfl
  rw [if_neg hs, if_neg hs]
  by_cases hn : st.naming ≠ .none
  · rw [if_pos hn, if_pos hn]
    split_ifs <;> rfl
  rw [if_neg hn, if_neg hn]
  split_ifs <;> rfl

/-- The names do not hang on the output. -/
theorem namesFrom_plain : ∀ (s : List Char) (st : ValueState), namesFrom st.plain s = namesFrom st s
  | [], _ => rfl
  | c :: s, st => by
    have hlooked : st.plain.lookedUp? c = st.lookedUp? c := rfl
    have hended : st.plain.ended = st.ended := rfl
    have hname : st.plain.name = st.name := rfl
    have hrest : (fun st => namesFrom st s) = (fun st => namesFrom st s) ∘ ValueState.plain :=
      funext fun st => (namesFrom_plain s st).symm
    rw [namesFrom, namesFrom, hlooked, hended, hname, hrest, ← Option.map_map, ← Option.map_map,
      step_alike {} {} ∅ ∅ st c]

theorem substitute_eq (hsame : lookup env known st.name = lookup env' known st.name) (next : Naming) :
    st.substitute env known next = st.substitute env' known next := by
  rw [ValueState.substitute, ValueState.substitute, hsame]

/-- **A character of a value** is taken up in one way by environments that agree on the name that is looked up there. -/
theorem step_eq (hsame : ∀ name ∈ st.lookedUp? c, lookup env known name = lookup env' known name) :
    st.step env known c = st.step env' known c := by
  unfold ValueState.lookedUp? at hsame
  unfold ValueState.step
  split
  · rfl
  split
  · rfl
  rename_i hescaped hstrong
  split
  · split
    · rfl
    rename_i hnaming halnum
    rw [if_neg (by simp [hescaped, hstrong, halnum])] at hsame
    cases hbraced : st.naming with
    | none => exact absurd hbraced hnaming
    | bare =>
      rw [hbraced] at hsame
      split
      · split
        · rfl
        rename_i hbrace
        have hname := substitute_eq (hsame st.name (by simp [hbrace]))
        rw [hname, hname]
      · rename_i hbare
        exact absurd rfl hbare
    | braced =>
      rw [hbraced] at hsame
      split
      · rename_i hbare
        cases hbare
      · split
        · rename_i hend
          rw [substitute_eq (hsame st.name (by simp [hend]))]
        · rfl
  · rfl

/-- **A value is read in one way** by environments that agree on its names, up to the name that it ends in. -/
theorem expandFrom?_eq : ∀ {s : List Char} {st : ValueState},
    (∀ name ∈ namesFrom st s, lookup env known name = lookup env' known name) →
      expandFrom? env known st s = expandFrom? env' known st s ∧
        ∀ last, expandFrom? env known st s = some last → lookup env known last.name = lookup env' known last.name
  | [], st, hsame => by
    refine ⟨rfl, fun last hlast => ?_⟩
    obtain rfl := Option.some.inj hlast
    exact hsame _ List.mem_cons_self
  | c :: s, st, hsame => by
    rw [namesFrom] at hsame
    rw [expandFrom?, expandFrom?]
    split
    · rename_i hended
      rw [if_pos hended] at hsame
      split
      · refine expandFrom?_eq fun name hname => hsame name ?_
        cases s with
        | nil => exact hname
        | cons c' s => rwa [namesFrom, if_pos hended] at hname
      split
      · refine ⟨rfl, fun last hlast => ?_⟩
        obtain rfl := Option.some.inj hlast
        exact hsame _ List.mem_cons_self
      · exact ⟨rfl, nofun⟩
    · rename_i hended
      rw [if_neg hended] at hsame
      obtain ⟨hhere, hrest⟩ := List.forall_mem_append.1 hsame
      have hstep : st.step env known c = st.step env' known c :=
        step_eq fun name hname => hhere name (Option.mem_toList.2 hname)
      rw [← hstep]
      cases hst : st.step env known c with
      | none => exact ⟨rfl, nofun⟩
      | some st' =>
        refine expandFrom?_eq fun name hname => hrest name ?_
        have halike : (st.step {} ∅ c).map ValueState.plain = some st'.plain := by
          have hstart := step_alike {} {} ∅ ∅ st c
          have hrun := step_alike {} env ∅ known st c
          rw [← hstart, hrun, hst, Option.map_some]
        obtain ⟨st'', hst'', hsame''⟩ := Option.map_eq_some_iff.1 halike
        rw [hst'', Option.map_some, Option.getD_some, ← namesFrom_plain, hsame'', namesFrom_plain]
        exact hname

theorem expand?_eq {s : List Char} (hsame : ∀ name ∈ valueNames s, lookup env known name = lookup env' known name) :
    expand? env known s = expand? env' known s := by
  obtain ⟨heq, hlast⟩ := expandFrom?_eq hsame
  rw [expand?, expand?, ← heq]
  cases hst : expandFrom? env known {} s with
  | none => rfl
  | some last => simp only [substitute_eq (hlast last hst)]

/-! ## Lines -/

/-- **A line means the same** to environments that agree on its names. -/
theorem line?_eq {l : List Char} (hsame : ∀ name ∈ lineNames l, lookup env known name = lookup env' known name) :
    line? env known l = line? env' known l := by
  unfold lineNames at hsame
  unfold line?
  dsimp only
  split
  · rfl
  cases hkey : keyAndRest? (Text.trimStart (Text.trimEnd l)) with
  | none => rfl
  | some kr =>
    obtain ⟨k, r⟩ := kr
    rw [hkey] at hsame
    dsimp only at hsame ⊢
    split
    · rfl
    · rename_i hvalue
      rw [if_neg hvalue] at hsame
      rw [expand?_eq hsame]

/-! ## Ends of lines -/

theorem trimEnd_starts (s : List Char) : Text.trimEnd s <+: s := by
  rw [← List.reverse_suffix, Text.trimEnd, List.reverse_reverse]
  exact List.dropWhile_suffix _

theorem eq_dropLineEnd_append (l : List Char) : ∃ e, l = dropLineEnd l ++ e ∧ ∀ c ∈ e, c = '\r' ∨ c = '\n' := by
  unfold dropLineEnd
  split
  · rename_i r hrev
    refine ⟨['\r', '\n'], ?_, by simp⟩
    rw [← List.reverse_inj, hrev]
    simp
  · rename_i r _ hrev
    refine ⟨['\n'], ?_, by simp⟩
    rw [← List.reverse_inj, hrev]
    simp
  · exact ⟨[], (List.append_nil l).symm, by simp⟩

end PathRouter.DotEnv
