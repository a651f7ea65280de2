import Mathlib.Data.List.Basic
import Mathlib.Data.List.TakeWhile
import PathRouter.Proofs.Files.Reading
import PathRouter.Proofs.Settings.Entries
import PathRouter.Settings.Load
/-!
# Where variables come from

The environment of a process and the file of assignments give the variables that override settings.  A variable that is set
keeps its value, so of all values for a key the first counts: those of the process come first, and then the assignments of
the file in their order (`first?_loaded`).  What counts among overrides is the last value for a key; where no two names
stand for one key, this is the same (`get?_overrides`).
-/
namespace PathRouter

/-- The variables of a process, in the order in which they are enumerated.  A name has no equals sign but perhaps in front,
for the first one behind that ends it. -/
structure ProcessVariables where
  bindings : List (String × String)
  names : ∀ b ∈ bindings, '=' ∉ b.1.toList.tail
  nodup : (bindings.map Prod.fst).Nodup

def ProcessVariables.environment (p : ProcessVariables) : Environment :=
  ⟨p.bindings⟩

/-! ## Names -/

namespace Environment

theorem isSome_after?_iff : ∀ {start s : List Char}, (after? start s).isSome = true ↔ start <+: s
  | [], s => by simp [after?]
  | c :: start, [] => by simp [after?]
  | c :: start, d :: s => by
    rw [after?, List.cons_prefix_cons, ← isSome_after?_iff]
    split <;> simp [*]

/-- Variables under names of their own that have no equals sign but in front. -/
structure Proper (env : Environment) : Prop where
  names : ∀ b ∈ env.bindings, '=' ∉ b.1.toList.tail
  nodup : (env.bindings.map Prod.fst).Nodup

/-- Names that can be assigned in a text. -/
def IsKey (name : String) : Prop :=
  name.toList ≠ [] ∧ '=' ∉ name.toList

theorem append_prefix_iff : ∀ {k l v : List Char}, '=' ∉ k → '=' ∉ l → (k ++ ['='] <+: l ++ '=' :: v ↔ l = k)
  | [], [], v, _, _ => by simp
  | [], d :: l, v, _, hl => by
    have hd : '=' ≠ d := (List.ne_and_not_mem_of_not_mem_cons hl).1
    simp [hd]
  | c :: k, [], v, hk, _ => by
    have hc : c ≠ '=' := (List.ne_and_not_mem_of_not_mem_cons hk).1.symm
    simp [hc]
  | c :: k, d :: l, v, hk, hl => by
    have ih := @append_prefix_iff k l v (List.ne_and_not_mem_of_not_mem_cons hk).2 (List.ne_and_not_mem_of_not_mem_cons hl).2
    rw [List.cons_append, List.cons_append, List.cons_prefix_cons, ih, List.cons.injEq, @eq_comm _ c]

/-- A name is the start of a binding up to an equals sign only if it is the name that is bound. -/
theorem isSome_after?_name {name n v : String} (hname : IsKey name) (hn : '=' ∉ n.toList.tail) :
    (after? (name ++ "=").toList (n ++ "=" ++ v).toList).isSome = true ↔ n = name := by
  rw [isSome_after?_iff, ← String.toList_inj]
  have heq : "=".toList = ['='] := rfl
  simp only [String.toList_append, heq, List.append_assoc, List.singleton_append]
  obtain ⟨hne, hno⟩ := hname
  generalize name.toList = k at hne hno
  generalize n.toList = l at hn
  obtain ⟨c, k, rfl⟩ := List.exists_cons_of_ne_nil hne
  obtain ⟨hc, hk⟩ := List.ne_and_not_mem_of_not_mem_cons hno
  cases l with
  | nil => simp [hc.symm]
  | cons d l =>
    have hn : '=' ∉ l := hn
    rw [List.cons_append, List.cons_append, List.cons_prefix_cons, append_prefix_iff hk hn, List.cons.injEq, @eq_comm _ c]

theorem isSome_get?_iff {env : Environment} (h : env.Proper) {name : String} (hname : IsKey name) :
    (env.get? name).isSome = true ↔ name ∈ env.bindings.map Prod.fst := by
  rw [get?, List.findSome?_isSome_iff, List.mem_map]
  simp only [Option.isSome_map]
  constructor
  · rintro ⟨⟨n, v⟩, hm, hafter⟩
    exact ⟨_, hm, (isSome_after?_name hname (h.names _ hm)).1 hafter⟩
  · rintro ⟨⟨n, v⟩, hm, rfl⟩
    exact ⟨_, hm, (isSome_after?_name hname (h.names _ hm)).2 rfl⟩

theorem Proper.setNew {env : Environment} (h : env.Proper) {name : String} (hname : IsKey name) (value : String) :
    (env.setNew name value).Proper := by
  unfold Environment.setNew
  split
  · exact h
  · rename_i hnew
    rw [isSome_get?_iff h hname] at hnew
    refine ⟨fun b hb => ?_, ?_⟩
    · rcases List.mem_append.1 hb with hb | hb
      · exact h.names b hb
      · rw [List.mem_singleton.1 hb]
        exact fun heq => hname.2 (List.mem_of_mem_tail heq)
    · rw [List.map_append, List.nodup_append]
      refine ⟨h.nodup, by simp, fun n hn m hm heq => hnew ?_⟩
      have hm : m = name := List.mem_singleton.1 hm
      rwa [← hm, ← heq]

end Environment

theorem ProcessVariables.proper (p : ProcessVariables) : p.environment.Proper :=
  ⟨p.names, p.nodup⟩

/-! ## Values for keys -/

namespace Override

/-- The values of variables that stand for keys, under the keys. -/
def keyed (bindings : List (String × String)) : List (String × String) :=
  bindings.filterMap (fun (name, value) => (key? (some nameStart) name).map (·, value))

/-- The value of the first variable that stands for a key. -/
def first? (key : String) (bindings : List (String × String)) : Option String :=
  (keyed bindings).lookup key

/-- No two names stand for one key. -/
def Distinct (names : List String) : Prop :=
  ∀ n ∈ names, ∀ n' ∈ names, (key? (some nameStart) n).isSome = true →
    key? (some nameStart) n = key? (some nameStart) n' → n = n'

theorem first?_append (key : String) (bs cs : List (String × String)) :
    first? key (bs ++ cs) = (first? key bs).or (first? key cs) := by
  rw [first?, keyed, List.filterMap_append, List.lookup_append]
  rfl

theorem isSome_first? {key name : String} {bs : List (String × String)} (hm : name ∈ bs.map Prod.fst)
    (hkey : key? (some nameStart) name = some key) : (first? key bs).isSome = true := by
  obtain ⟨⟨_, value⟩, hb, rfl⟩ := List.mem_map.1 hm
  have hmem : (key, value) ∈ keyed bs := List.mem_filterMap.2 ⟨_, hb, congrArg (Option.map (·, value)) hkey⟩
  rw [Option.isSome_iff_ne_none]
  intro hnone
  exact absurd rfl (bne_iff_ne.1 (List.lookup_eq_none_iff.1 hnone _ hmem))

theorem first?_singleton_of_ne {key name value : String} (h : key? (some nameStart) name ≠ some key) :
    first? key [(name, value)] = none := by
  unfold first? keyed
  cases hkey : key? (some nameStart) name with
  | none => simp [hkey]
  | some k =>
    have hk : key ≠ k := fun heq => h (by rw [hkey, heq])
    simp [hkey, List.lookup_cons, beq_false_of_ne hk]

/-- **A variable that is set keeps its value**, so what is new comes last. -/
theorem first?_setNew {env : Environment} (h : env.Proper) {name : String} (hname : Environment.IsKey name)
    (key value : String) :
    first? key (env.setNew name value).bindings = (first? key env.bindings).or (first? key [(name, value)]) := by
  unfold Environment.setNew
  split
  · rename_i hset
    rw [Environment.isSome_get?_iff h hname] at hset
    by_cases hkey : key? (some nameStart) name = some key
    · obtain ⟨v, hv⟩ := Option.isSome_iff_exists.1 (isSome_first? hset hkey)
      rw [hv, Option.some_or]
    · rw [first?_singleton_of_ne hkey, Option.or_none]
  · exact first?_append key _ _

/-- The environment with variables set in turn, those that are not set yet. -/
def setAll (env : Environment) (assigned : List (String × String)) : Environment :=
  assigned.foldl (fun env a => env.setNew a.1 a.2) env

/-- **What is assigned comes behind what is set**, and the first assignment of a variable counts. -/
theorem first?_setAll (key : String) : ∀ {assigned : List (String × String)} {env : Environment}, env.Proper →
    (∀ a ∈ assigned, Environment.IsKey a.1) →
      (setAll env assigned).Proper ∧
        first? key (setAll env assigned).bindings = (first? key env.bindings).or (first? key assigned)
  | [], env, h, _ => ⟨h, (Option.or_none).symm⟩
  | a :: as, env, h, hkeys => by
    obtain ⟨ha, has⟩ := List.forall_mem_cons.1 hkeys
    obtain ⟨hproper, hfirst⟩ := first?_setAll key (h.setNew ha a.2) has
    refine ⟨hproper, ?_⟩
    have hcons : first? key (a :: as) = (first? key [a]).or (first? key as) := first?_append key [a] as
    rw [setAll, List.foldl_cons, ← setAll, hfirst, first?_setNew h ha, hcons, Option.or_assoc]

theorem names_setAll : ∀ {assigned : List (String × String)} {env : Environment} {n : String},
    n ∈ (setAll env assigned).bindings.map Prod.fst → n ∈ env.bindings.map Prod.fst ++ assigned.map Prod.fst
  | [], env, n, h => by simpa [setAll] using h
  | a :: as, env, n, h => by
    have hmem := @names_setAll as (env.setNew a.1 a.2) n h
    have hset : ∀ m ∈ (env.setNew a.1 a.2).bindings.map Prod.fst, m ∈ env.bindings.map Prod.fst ∨ m = a.1 := by
      intro m hm
      unfold Environment.setNew at hm
      split at hm
      · exact .inl hm
      · simpa using hm
    rcases List.mem_append.1 hmem with hmem | hmem
    · rcases hset n hmem with hn | rfl
      · exact List.mem_append_left _ hn
      · exact List.mem_append_right _ List.mem_cons_self
    · exact List.mem_append_right _ (List.mem_cons_of_mem _ hmem)

theorem Distinct.nodup_keyed {bs : List (String × String)} (h : Distinct (bs.map Prod.fst))
    (hnodup : (bs.map Prod.fst).Nodup) : ((keyed bs).map Prod.fst).Nodup := by
  have hkeys : (keyed bs).map Prod.fst = (bs.map Prod.fst).filterMap (key? (some nameStart)) := by
    rw [keyed, List.map_filterMap, List.filterMap_map]
    refine List.filterMap_congr fun b _ => ?_
    cases hkey : key? (some nameStart) b.1 <;> simp [hkey]
  rw [hkeys, List.Nodup, List.pairwise_filterMap]
  refine hnodup.imp_of_mem fun {n n'} hn hn' hne key hkey key' hkey' heq => ?_
  subst heq
  exact hne (h n hn n' hn' (by rw [hkey]; rfl) (hkey.trans hkey'.symm))

/-- **Overrides have the first value for each key** where no two names stand for one. -/
theorem get?_overrides {env : Environment} (h : env.Proper) (hdistinct : Distinct (env.bindings.map Prod.fst))
    (key : String) : (ofEnvironment env).get? key = first? key env.bindings :=
  (Dict.get?_ofList _).trans (last?_eq_lookup (hdistinct.nodup_keyed h.nodup))

end Override

/-! ## The file of assignments -/

namespace DotEnv

/-- The assignments of logical lines as they are loaded: a value can name the variables that were set before. -/
def assigned? (env : Environment) (known : Dict String) :
    List (Option (List Char)) → Option (List (String × String))
  | [] => some []
  | none :: _ => none
  | some l :: rest =>
    match line? env known l with
    | none => none
    | some none => assigned? env known rest
    | some (some (k, v)) => (assigned? (env.setNew k v) (known.insert k v) rest).map ((k, v) :: ·)

/-- **To load lines** is to set what they assign, line after line. -/
theorem loadLines?_eq : ∀ (ls : List (Option (List Char))) (env : Environment) (known : Dict String),
    loadLines? env known ls = (assigned? env known ls).map (Override.setAll env)
  | [], _, _ => rfl
  | none :: _, _, _ => rfl
  | some l :: rest, env, known => by
    have ih := loadLines?_eq rest
    rw [loadLines?, assigned?]
    cases line? env known l with
    | none => rfl
    | some a =>
      cases a with
      | none => exact ih env known
      | some a =>
        dsimp only
        rw [ih, Option.map_map]
        rfl

theorem isKeyStart_isKeyChar {c : Char} (h : isKeyStart c = true) : isKeyChar c = true := by
  unfold isKeyStart at h
  unfold isKeyChar Char.isAlphanum
  rcases Bool.or_eq_true_iff.1 h with h | h <;> simp [h]

theorem key?_eq_some {s k r : List Char} (h : key? s = some (k, r)) : k ≠ [] ∧ '=' ∉ k := by
  unfold key? at h
  split at h
  · rename_i hstart
    obtain ⟨rfl, -⟩ := Prod.mk.inj (Option.some.inj h)
    cases s with
    | nil => cases hstart
    | cons c s =>
      have hc : isKeyChar c = true := isKeyStart_isKeyChar (by simpa using hstart)
      rw [List.takeWhile_cons_of_pos hc]
      refine ⟨List.cons_ne_nil _ _, ?_⟩
      rw [← List.takeWhile_cons_of_pos hc]
      exact fun hm => absurd (List.mem_takeWhile_imp hm) (by decide)
  · cases h

theorem keyAndRest?_eq_some {s k r : List Char} (h : keyAndRest? s = some (k, r)) : k ≠ [] ∧ '=' ∉ k := by
  unfold keyAndRest? at h
  split at h
  · cases h
  · rename_i hkey
    obtain ⟨rfl, -⟩ := Prod.mk.inj (Option.some.inj h)
    exact key?_eq_some hkey
  · split at h
    · split at h
      · rename_i hkey
        obtain ⟨rfl, -⟩ := Prod.mk.inj (Option.some.inj h)
        exact key?_eq_some hkey
      · cases h
    · cases h

theorem isKey_of_line? {env : Environment} {known : Dict String} {l : List Char} {k v : String}
    (h : line? env known l = some (some (k, v))) : Environment.IsKey k := by
  unfold line? at h
  dsimp only at h
  split at h
  · cases h
  split at h
  · cases h
  rename_i hkey
  have hname := keyAndRest?_eq_some hkey
  unfold Environment.IsKey
  split at h
  · obtain ⟨rfl, -⟩ := Prod.mk.inj (Option.some.inj (Option.some.inj h))
    rwa [String.toList_ofList]
  · obtain ⟨w, -, heq⟩ := Option.map_eq_some_iff.1 h
    obtain ⟨rfl, -⟩ := Prod.mk.inj (Option.some.inj heq)
    rwa [String.toList_ofList]

theorem isKey_of_assigned? : ∀ {ls : List (Option (List Char))} {env : Environment} {known : Dict String}
    {as : List (String × String)}, assigned? env known ls = some as → ∀ a ∈ as, Environment.IsKey a.1
  | [], _, _, _, h => by
    obtain rfl := Option.some.inj h
    exact fun _ ha => absurd ha List.not_mem_nil
  | none :: _, _, _, _, h => nomatch h
  | some l :: rest, env, known, as, h => by
    rw [assigned?] at h
    split at h
    · cases h
    · exact isKey_of_assigned? h
    · rename_i k v hline
      obtain ⟨as, has, rfl⟩ := Option.map_eq_some_iff.1 h
      exact List.forall_mem_cons.2 ⟨isKey_of_line? hline, isKey_of_assigned? has⟩

/-- What a text assigns when it is loaded. -/
def loaded? (env : Environment) (s : String) : Option (List (String × String)) :=
  assigned? env ∅ (logicalLines (match s.toList with
    | '\ufeff' :: r => r
    | r => r))

end DotEnv

namespace Settings

/-- **What the file of assignments gives**: what the text of the nearest one assigns; without one it is nothing. -/
inductive DotEnvAssigns (env : Environment) (files : Snapshot) : List (String × String) → Prop
  | absent : files.Finds ".env" none → DotEnvAssigns env files []
  | read {t : String} {assigned : List (String × String)} : files.Finds ".env" (some (Text.toBytes t)) →
      DotEnv.loaded? env t = some assigned → DotEnvAssigns env files assigned

theorem DotEnvAssigns.unique {env : Environment} {files : Snapshot} {as bs : List (String × String)}
    (ha : DotEnvAssigns env files as) (hb : DotEnvAssigns env files bs) : as = bs := by
  cases ha with
  | absent hfound =>
    cases hb with
    | absent => rfl
    | read hfound' => cases (Snapshot.finds_iff.1 hfound).symm.trans (Snapshot.finds_iff.1 hfound')
  | read hfound has =>
    cases hb with
    | absent hfound' => cases (Snapshot.finds_iff.1 hfound).symm.trans (Snapshot.finds_iff.1 hfound')
    | read hfound' hbs =>
      have hbytes := Option.some.inj ((Snapshot.finds_iff.1 hfound).symm.trans (Snapshot.finds_iff.1 hfound'))
      have ht := Text.ofBytes?_eq_some_iff.2 hbytes
      rw [Text.ofBytes?_eq_some_iff.2 rfl] at ht
      rw [← Option.some.inj ht, has] at hbs
      exact Option.some.inj hbs

/-- **To load the file of assignments** is to set what it gives. -/
theorem loadDotEnv_eq_ok_iff {env after : Environment} {files : Snapshot} : loadDotEnv env files = .ok after ↔
    ∃ assigned, DotEnvAssigns env files assigned ∧ after = Override.setAll env assigned := by
  have hload : ∀ t, DotEnv.loadInto? env t = (DotEnv.loaded? env t).map (Override.setAll env) := fun t =>
    DotEnv.loadLines?_eq _ _ _
  unfold loadDotEnv
  constructor
  · intro h
    split at h
    · rename_i hfound
      exact ⟨[], .absent (Snapshot.finds_iff.2 hfound), (Except.ok.inj h).symm⟩
    · rename_i bytes hfound
      split at h
      · cases h
      rename_i hread
      obtain rfl := Except.ok.inj h
      obtain ⟨t, ht, hread⟩ := Option.bind_eq_some_iff.1 hread
      rw [Text.ofBytes?_eq_some_iff] at ht
      rw [hload] at hread
      obtain ⟨assigned, hassigned, rfl⟩ := Option.map_eq_some_iff.1 hread
      exact ⟨assigned, .read (Snapshot.finds_iff.2 (ht ▸ hfound)) hassigned, rfl⟩
  · rintro ⟨assigned, hassigns, rfl⟩
    cases hassigns with
    | absent hfound =>
      rw [dotEnvName, Snapshot.finds_iff.1 hfound]
      rfl
    | read hfound hassigned =>
      rw [dotEnvName, Snapshot.finds_iff.1 hfound]
      dsimp only
      rw [Text.ofBytes?_eq_some_iff.2 rfl, Option.bind_some, hload, hassigned]
      rfl

theorem isKey_of_dotEnvAssigns {env : Environment} {files : Snapshot} {assigned : List (String × String)}
    (h : DotEnvAssigns env files assigned) : ∀ a ∈ assigned, Environment.IsKey a.1 := by
  cases h with
  | absent => exact fun _ ha => absurd ha List.not_mem_nil
  | read _ hassigned => exact DotEnv.isKey_of_assigned? hassigned

end Settings
end PathRouter
