import PathRouter.Proofs.Settings.AnyOrder
import PathRouter.Proofs.Settings.Precedence
import PathRouter.Proofs.Settings.Substitution
/-!
# Assignments loaded and parsed

The text of a `.env` file has two readers.  A service that starts loads it into the environment, where the first assignment
of a variable counts, and takes settings from there; `Settings.parse` makes a map of it, where the last one counts, and
takes settings from that.  Both give the same settings to a text that assigns without ambiguity (`loadBy_eq_parseBy`).
-/
namespace PathRouter

open Override (keyed setAll)

/-! ## Variables that are set -/

namespace Environment

theorem after?_append : ∀ s r : List Char, after? s (s ++ r) = some r
  | [], _ => rfl
  | c :: s, r => by
    rw [List.cons_append, after?, if_pos rfl]
    exact after?_append s r

/-- A name without an equals sign finds only what was bound to it. -/
theorem mem_of_get? {env : Environment} {name v : String} (hkeys : ∀ b ∈ env.bindings, IsKey b.1)
    (hname : '=' ∉ name.toList) (h : env.get? name = some v) : (name, v) ∈ env.bindings := by
  obtain ⟨⟨n, w⟩, hm, hafter⟩ := List.exists_of_findSome?_eq_some h
  obtain ⟨r, hr, rfl⟩ := Option.map_eq_some_iff.1 hafter
  have heq : "=".toList = ['='] := rfl
  simp only [String.toList_append, heq, List.append_assoc, List.singleton_append] at hr
  have hprefix := isSome_after?_iff.1 (by rw [hr]; rfl)
  have hn : n = name := String.toList_inj.1 ((append_prefix_iff hname (hkeys _ hm).2).1 hprefix)
  subst hn
  have hvalue := after?_append (n.toList ++ ['=']) w.toList
  rw [← List.append_cons, hr] at hvalue
  rw [Option.some.inj hvalue, String.ofList_toList]
  exact hm

end Environment

namespace Override

/-- Variables that are set stand behind those that were, and are among the assignments. -/
theorem bindings_setAll : ∀ (assigned : List (String × String)) (env : Environment),
    ∃ bs, (setAll env assigned).bindings = env.bindings ++ bs ∧ ∀ b ∈ bs, b ∈ assigned
  | [], env => ⟨[], (List.append_nil _).symm, fun _ h => h⟩
  | a :: as, env => by
    obtain ⟨bs, heq, hbs⟩ := bindings_setAll as (env.setNew a.1 a.2)
    have hbs : ∀ b ∈ bs, b ∈ a :: as := fun b hb => List.mem_cons_of_mem a (hbs b hb)
    rw [setAll, List.foldl_cons, ← setAll, heq]
    unfold Environment.setNew
    split
    · exact ⟨bs, rfl, hbs⟩
    · exact ⟨a :: bs, List.append_assoc _ [a] bs, List.forall_mem_cons.2 ⟨List.mem_cons_self, hbs⟩⟩

end Override

/-! ## Look-ups -/

namespace DotEnv

open Environment (IsKey)

/-- A look-up after assignments finds what it finds without them, if no name that is not set has two values. -/
theorem lookup_setAll {env : Environment} {pre : List (String × String)} {name : List Char}
    (hkeys : ∀ a ∈ pre, IsKey a.1) (hname : '=' ∉ name)
    (hone : ∀ a ∈ pre, ∀ b ∈ pre, a.1 = b.1 → a.1 = String.ofList name → env.get? a.1 = none → a.2 = b.2) :
    lookup (setAll env pre) (Dict.ofList pre) name = lookup env (Dict.ofList pre) name := by
  obtain ⟨bs, heq, hbs⟩ := Override.bindings_setAll pre env
  have hget : (setAll env pre).get? (String.ofList name) =
      (env.get? (String.ofList name)).or (Environment.get? ⟨bs⟩ (String.ofList name)) := by
    rw [Environment.get?, heq, List.findSome?_append]
    rfl
  unfold lookup
  rw [hget]
  cases hset : env.get? (String.ofList name) with
  | some v => rfl
  | none =>
    rw [Option.none_or]
    cases hnew : Environment.get? ⟨bs⟩ (String.ofList name) with
    | none => rfl
    | some v =>
      have hm := hbs _ (Environment.mem_of_get? (fun b hb => hkeys b (hbs b hb)) (by rwa [String.toList_ofList]) hnew)
      obtain ⟨w, hw⟩ := Option.isSome_iff_exists.1 (Settings.picks_ofList_self.all _ hm)
      have hvw : v = w := hone _ hm _ (Settings.picks_ofList_self.mem hw) rfl rfl hset
      rw [hw, hvw]
      rfl

/-- What a text assigns does not hang on whether it is set at once: a variable that a substitution of the text looks up has
one value, unless the process has set it, and no name that is looked up has an equals sign. -/
structure OneReading (env : Environment) (t : String) (assigned : List (String × String)) : Prop where
  plain : ∀ name ∈ names t, '=' ∉ name
  one : ∀ a ∈ assigned, ∀ b ∈ assigned, a.1 = b.1 → a.1.toList ∈ names t → env.get? a.1 = none → a.2 = b.2

theorem line?_setAll {env : Environment} {t : String} {l : List Char} {pre as : List (String × String)}
    (hl : some l ∈ logicalLines t.toList) (hkeys : ∀ a ∈ pre, IsKey a.1) (hone : OneReading env t (pre ++ as)) :
    line? (setAll env pre) (Dict.ofList pre) l = line? env (Dict.ofList pre) l := by
  have hpre : ∀ {a}, a ∈ pre → a ∈ pre ++ as := fun ha => List.mem_append_left as ha
  refine line?_eq fun name hname => ?_
  have hname := mem_names hl hname
  refine lookup_setAll hkeys (hone.plain name hname) fun a ha b hb hkey ha' hset => ?_
  exact hone.one a (hpre ha) b (hpre hb) hkey (by rwa [ha', String.toList_ofList]) hset

theorem setAll_concat (env : Environment) (pre : List (String × String)) (k v : String) :
    setAll env (pre ++ [(k, v)]) = (setAll env pre).setNew k v := by
  rw [setAll, setAll, List.foldl_append]
  rfl

theorem ofList_concat (pre : List (String × String)) (k v : String) :
    Dict.ofList (pre ++ [(k, v)]) = (Dict.ofList pre).insert k v := by
  rw [Dict.ofList, Dict.ofList, List.foldl_append]
  rfl

/-- **The lines of a text assign the same** when they are loaded as when they are parsed.  The induction is on the lines that
are left, behind the assignments `pre` of those before. -/
theorem assigned?_eq {env : Environment} {t : String} : ∀ {ls : List (Option (List Char))}
    {pre as : List (String × String)}, (∀ l ∈ ls, l ∈ logicalLines t.toList) → (∀ a ∈ pre, IsKey a.1) →
    OneReading env t (pre ++ as) → assignmentsOf? env (Dict.ofList pre) ls = some as →
    assigned? (setAll env pre) (Dict.ofList pre) ls = some as
  | [], _, _, _, _, _, h => h
  | none :: _, _, _, _, _, _, h => nomatch h
  | some l :: rest, pre, as, hls, hkeys, hone, h => by
    obtain ⟨hl, hrest⟩ := List.forall_mem_cons.1 hls
    rw [assigned?, line?_setAll hl hkeys hone]
    rw [assignmentsOf?] at h
    cases hl : line? env (Dict.ofList pre) l with
    | none =>
      rw [hl] at h
      cases h
    | some a =>
      rw [hl] at h
      cases a with
      | none => exact assigned?_eq hrest hkeys hone h
      | some kv =>
        obtain ⟨k, v⟩ := kv
        obtain ⟨as, has, rfl⟩ := Option.map_eq_some_iff.1 h
        have hkeys' : ∀ a ∈ pre ++ [(k, v)], IsKey a.1 :=
          List.forall_mem_append.2 ⟨hkeys, by simpa using isKey_of_line? hl⟩
        rw [← ofList_concat] at has
        rw [List.append_cons] at hone
        dsimp only
        rw [← setAll_concat, ← ofList_concat, assigned?_eq hrest hkeys' hone has]
        rfl

/-! ## The byte order mark -/

theorem head?_dropLineEnd {l : List Char} (h : l.head? = some '\ufeff') : (dropLineEnd l).head? = some '\ufeff' := by
  obtain ⟨e, he, hend⟩ := eq_dropLineEnd_append l
  cases hl : dropLineEnd l with
  | nil =>
    rw [he, hl] at h
    exact absurd (hend _ (List.mem_of_mem_head? h)) (by decide)
  | cons c r =>
    rw [he, hl] at h
    exact h

/-- A mark in front of a text stands in front of its first logical line. -/
theorem gather_mark : ∀ {ls : List (List Char)} {buffer p : List Char} {st : ScanState},
    (buffer ++ p).head? = some '\ufeff' →
      ∃ x rest, gather buffer st (p :: ls) = x :: rest ∧ ∀ l, x = some l → l.head? = some '\ufeff'
  | ls, buffer, p, st, h => by
    have hcomment : isComment (Text.trimStart (buffer ++ p)) = false := by
      obtain ⟨q, hq⟩ := List.head?_eq_some_iff.1 h
      have hblank : Text.isBlank '\ufeff' = false := by decide +kernel
      rw [hq, Text.trimStart, List.dropWhile_cons_of_neg (by simp [hblank])]
      rfl
    rw [gather, if_neg (by simp [hcomment])]
    split
    · rename_i before hscan
      refine ⟨_, _, rfl, fun l hl => ?_⟩
      obtain rfl := Option.some.inj hl
      cases buffer with
      | cons c buffer => exact h
      | nil =>
        obtain ⟨q, rfl⟩ := List.head?_eq_some_iff.1 h
        rw [scan, if_neg (by simp)] at hscan
        split at hscan
        · obtain rfl := ScanEnd.comment.inj hscan
          rfl
        · rename_i hnot
          exact absurd hscan (hnot before)
    · refine ⟨_, _, rfl, fun l hl => ?_⟩
      obtain rfl := Option.some.inj hl
      exact head?_dropLineEnd h
    · rename_i st' hopen hscan
      cases ls with
      | nil =>
        rw [gather, if_neg (by rintro rfl; exact hopen rfl)]
        exact ⟨none, [], rfl, fun _ hl => absurd hl (Option.some_ne_none _).symm⟩
      | cons p' ls => exact gather_mark (by rw [List.head?_append, h, Option.some_or])

theorem line?_mark (env : Environment) (known : Dict String) {l : List Char} (h : l.head? = some '\ufeff') :
    line? env known l = none := by
  have hblank : ¬ Text.isBlank '\ufeff' = true := by decide +kernel
  obtain ⟨q, rfl⟩ := List.head?_eq_some_iff.1 h
  obtain ⟨r, hr⟩ : ∃ r, Text.trimEnd ('\ufeff' :: q) = '\ufeff' :: r := by
    cases hend : Text.trimEnd ('\ufeff' :: q) with
    | nil =>
      rw [Text.trimEnd, List.reverse_eq_nil_iff, List.dropWhile_eq_nil_iff] at hend
      exact absurd (hend _ (by simp)) hblank
    | cons c r =>
      have hstarts := trimEnd_starts ('\ufeff' :: q)
      rw [hend, List.cons_prefix_cons] at hstarts
      exact ⟨r, by rw [hstarts.1]⟩
  rw [line?, hr, Text.trimStart, List.dropWhile_cons_of_neg hblank]
  rfl

/-- A text that is parsed has no byte order mark in front. -/
theorem assignments?_mark (env : Environment) (s : List Char) :
    assignments? env (String.ofList ('\ufeff' :: s)) = none := by
  obtain ⟨p, ls, hp⟩ : ∃ p ls, physicalLines ('\ufeff' :: s) = ('\ufeff' :: p) :: ls := by
    rw [physicalLines, if_neg (by decide)]
    cases physicalLines s with
    | nil => exact ⟨[], [], rfl⟩
    | cons p ls => exact ⟨p, ls, rfl⟩
  obtain ⟨x, rest, hx, hmark⟩ := @gather_mark ls [] ('\ufeff' :: p) .complete rfl
  rw [assignments?, String.toList_ofList, logicalLines, hp, hx]
  cases x with
  | none => rfl
  | some l => rw [assignmentsOf?, line?_mark _ _ (hmark l rfl)]

theorem loaded?_eq {env : Environment} {t : String} {as : List (String × String)} (hone : OneReading env t as)
    (h : assignments? env t = some as) : loaded? env t = some as := by
  unfold loaded?
  split
  · rename_i r ht
    rw [← String.ofList_toList (s := t), ht, assignments?_mark] at h
    cases h
  · exact @assigned?_eq env t _ [] as (fun _ hl => hl) (fun _ ha => absurd ha List.not_mem_nil) hone h

end DotEnv

namespace Settings

open Override (collect nameStart)

/-! ## The maps of overrides -/

section

variable {env : Environment} {as : List (String × String)}

theorem picks_loaded (henv : env.Proper) (hkeys : ∀ a ∈ as, Environment.IsKey a.1) (hnone : keyed env.bindings = []) :
    Picks (keyed as) (Override.ofEnvironment (setAll env as)) := by
  obtain ⟨bs, hbs, hmem⟩ := Override.bindings_setAll as env
  refine picks_ofList (fun b hb => ?_) fun b hb => ?_
  · have hkeyed : keyed (setAll env as).bindings = keyed bs := by
      rw [hbs, keyed, List.filterMap_append, ← keyed, ← keyed, hnone, List.nil_append]
    have hb : b ∈ keyed bs := hkeyed ▸ hb
    obtain ⟨a, ha, hab⟩ := List.mem_filterMap.1 hb
    exact List.mem_filterMap.2 ⟨a, hmem a ha, hab⟩
  · have hfirst := (Override.first?_setAll b.1 henv hkeys).2
    have hassigned : (Override.first? b.1 as).isSome = true :=
      List.lookup_isSome_iff.2 ⟨b, hb, beq_self_eq_true b.1⟩
    have hbound : (Override.first? b.1 (setAll env as).bindings).isSome = true := by
      rw [hfirst, Option.isSome_or, hassigned, Bool.or_true]
    obtain ⟨c, hc, hkey⟩ := List.lookup_isSome_iff.1 hbound
    exact List.mem_map.2 ⟨c, hc, (beq_iff_eq.1 hkey).symm⟩

theorem picks_parsed : Picks (keyed as) (collect (some nameStart) (Dict.ofList as).toList) := by
  have hpicks : Picks as (Dict.ofList as) := picks_ofList_self
  refine picks_ofList (fun b hb => ?_) fun b hb => ?_
  · obtain ⟨a, ha, hab⟩ := List.mem_filterMap.1 hb
    exact List.mem_filterMap.2 ⟨a, hpicks.mem (Dict.mem_toList_iff.1 ha), hab⟩
  · obtain ⟨a, ha, hab⟩ := List.mem_filterMap.1 hb
    obtain ⟨key, hkey, rfl⟩ := Option.map_eq_some_iff.1 hab
    obtain ⟨v, hv⟩ := Option.isSome_iff_exists.1 (hpicks.all a ha)
    have hm : (key, v) ∈ keyed (Dict.ofList as).toList :=
      List.mem_filterMap.2 ⟨(a.1, v), Dict.mem_toList_iff.2 hv, congrArg (Option.map (·, v)) hkey⟩
    exact List.mem_map.2 ⟨_, hm, rfl⟩

end

/-- Settings that come of overrides come of values that say something. -/
theorem says_of_overrideBy {bs : List (String × String)} {values : Dict String} {o : Listing} {s s' : Settings}
    (hagree : Agree bs) (h : Picks bs values) (hs : s.overrideBy o values = .ok s') :
    ∀ b ∈ bs, Effect.of? b.1 b.2 ≠ none := by
  intro b hb hnone
  obtain ⟨text, htext⟩ := Option.isSome_iff_exists.1 (h.all b hb)
  rw [hagree b hb _ (h.mem htext) rfl] at hnone
  obtain ⟨c, -, -, herror⟩ := overrideAll_eq_error s (o.mem_entries_iff.2 htext) hnone
  cases hs.symm.trans herror

/-- **A text of assignments means the same to both readers** if both take it: if it assigns without ambiguity, its variables
for a key agree, and not both the page and its file are among them.  The process has no variables for settings.  The maps of
overrides may be listed in any order. -/
theorem loadBy_eq_parseBy (p : ProcessVariables)
    (hprocess : ∀ b ∈ p.bindings, Override.key? (some nameStart) b.1 = none) {files : Snapshot} {t : String}
    (hfile : files.readText (.ofText ".env") = .ok t) {as : List (String × String)}
    (has : DotEnv.assignments? p.environment t = some as) (hone : DotEnv.OneReading p.environment t as)
    (hagree : Agree (keyed as)) (hpage : OnePage (keyed as)) (o o' o'' : Listing) {s s' : Settings}
    (hload : loadBy o o' p.environment files none = .ok s) (hparse : parseBy o'' .env p.environment t = .ok s') :
    s = s' := by
  have hassigns : DotEnvAssigns p.environment files as := by
    refine .read (Snapshot.finds_iff.2 ?_) (DotEnv.loaded?_eq hone has)
    exact @Snapshot.findUp?_of_readText _ _ ".env".toList _ rfl (by decide) (by decide) hfile
  have hpicks := picks_loaded p.proper (isKey_of_dotEnvAssigns hassigns)
    (List.filterMap_eq_nil_iff.2 fun b hb => congrArg (Option.map (·, b.2)) (hprocess b hb))
  have hs : overrideBy o' {} (Override.ofEnvironment (setAll p.environment as)) = .ok s := by
    rw [loadBy_eq (o := o) hassigns .absent rfl] at hload
    obtain ⟨s₁, hs, hload⟩ := bind_eq_ok.1 hload
    obtain ⟨-, -, hload⟩ := bind_eq_ok.1 hload
    rwa [← Except.ok.inj hload]
  have hs' : overrideBy o'' {} (collect (some nameStart) (Dict.ofList as).toList) = .ok s' := by
    obtain ⟨as', has', hs'⟩ := parseBy_env.1 hparse
    rwa [Option.some.inj (has'.symm.trans has)] at hs'
  have hsame := overrideBy_eq (says_of_overrideBy hagree hpicks hs) hagree hpage hpicks picks_parsed o' o'' {}
  exact Except.ok.inj (hs.symm.trans (hsame.trans hs'))

def targetVariables : ProcessVariables where
  bindings := [("TARGET", "router")]
  names := by decide +kernel
  nodup := by decide +kernel

def dotEnvFile (t : String) : Snapshot where
  entries := Dict.ofList [("work", .directory), ("work/.env", .file (Text.toBytes t))]

/-- `LEVEL` has two values, and stands in a comment, in quotes and at the start of a longer name, but no substitution looks
it up. -/
def directivesText : String :=
  "LEVEL=info\nLEVEL=error # not $LEVEL\nLEVELS=debug\nWAYMARK_LOG_LEVEL=$LEVELS\n" ++
    "WAYMARK_LOG_ENV_FILTER=$TARGET=trace\nWAYMARK_LOG_FILE='$LEVEL'\n"

def directives : List (String × String) :=
  [("LEVEL", "info"), ("LEVEL", "error"), ("LEVELS", "debug"), ("WAYMARK_LOG_LEVEL", "debug"),
    ("WAYMARK_LOG_ENV_FILTER", "router=trace"), ("WAYMARK_LOG_FILE", "$LEVEL")]

theorem directives_read_alike : ∃ s s', loadBy .ascending .descending targetVariables.environment
      (dotEnvFile directivesText) none = .ok s ∧
    parseBy .ascending .env targetVariables.environment directivesText = .ok s' ∧ s = s' ∧ s.log.level = .debug ∧
    s.log.envFilter = some "router=trace" ∧ s.log.file = some "$LEVEL" := by
  have hload : loadBy .ascending .descending targetVariables.environment (dotEnvFile directivesText) none =
      .ok { log := { level := .debug, envFilter := some "router=trace", file := some "$LEVEL" } } := by decide +kernel
  have hparse : parseBy .ascending .env targetVariables.environment directivesText =
      .ok { log := { level := .debug, envFilter := some "router=trace", file := some "$LEVEL" } } := by decide +kernel
  have has : DotEnv.assignments? targetVariables.environment directivesText = some directives := by decide +kernel
  have hfile : (dotEnvFile directivesText).readText (.ofText ".env") = .ok directivesText := by decide +kernel
  refine ⟨_, _, hload, hparse, ?_, rfl, rfl, rfl⟩
  refine loadBy_eq_parseBy targetVariables (by decide +kernel) hfile has ⟨by decide +kernel, by decide +kernel⟩ ?_ ?_
    .ascending .descending .ascending hload hparse
  · unfold Agree
    decide +kernel
  · unfold OnePage
    decide +kernel

/-- The readers differ over a variable with two values, set or named, over two spellings of a variable, over a name with an
equals sign, and, as the map is listed, over the page and its file. -/
theorem readers_differ :
    (∀ t ∈ ["WAYMARK_LOG_LEVEL=debug\nWAYMARK_LOG_LEVEL=error", "A=x\nA=y\nWAYMARK_LOG_FILE=$A",
        "WAYMARK_log_level=debug\nWAYMARK_LOG_LEVEL=error", "A=B=c\nWAYMARK_LOG_FILE=x${A=B}"],
      ∃ s s', load {} (dotEnvFile t) none = .ok s ∧ parse .env {} t = .ok s' ∧ s ≠ s') ∧
    ∃ t s s', loadBy .ascending .ascending {} (dotEnvFile t) none = .ok s ∧ parseBy .descending .env {} t = .ok s' ∧
      s ≠ s' := by
  simp only [List.forall_mem_cons, List.not_mem_nil, false_implies, implies_true, and_true]
  refine ⟨⟨⟨{ log := { level := .debug } }, { log := { level := .error } }, ?_⟩,
    ⟨{ log := { file := some "x" } }, { log := { file := some "y" } }, ?_⟩,
    ⟨{ log := { level := .error } }, { log := { level := .debug } }, ?_⟩,
    { log := { file := some "xc" } }, { log := { file := some "x" } }, ?_⟩,
    "WAYMARK_NOT_FOUND_TEMPLATE=x\nWAYMARK_NOT_FOUND_TEMPLATE_FILE=.env",
    { router := ⟨none, some ".env"⟩ }, { router := ⟨some "x", none⟩ }, ?_⟩
  all_goals decide +kernel

end Settings
end PathRouter
