import PathRouter.Route.Matcher
import Mathlib.Data.List.Basic
/-!
# Collecting what groups took

The groups of a match are walked together with their names, and each goes one of three ways: a group that took no part
is an empty text, a named one is a parameter, and one without a name belongs to the splat.  The lemmas say where each
group went, first as the walk meets them and then by their numbers; none is lost or counted twice (`count_collect`).
-/
namespace PathRouter.Matcher

/-! ## As they are met -/

/-- The text of a span, empty if there is none. -/
def textOf (path : List Char) (span : Option Span) : String :=
  span.elim "" (fun s => String.ofList (s.of path))

/-- What a group without a name adds to the splat. -/
def splatOf (path : List Char) : Option String × Option Span → Option String
  | (none, some s) => some (String.ofList (s.of path))
  | _ => none

variable (path : List Char)

theorem groups_collect : ∀ xs, (collect path xs).groups = xs.map (fun x => textOf path x.2)
  | [] => rfl
  | (_, none) :: xs => congrArg (List.cons _) (groups_collect xs)
  | (none, some _) :: xs | (some _, some _) :: xs => congrArg (List.cons _) (groups_collect xs)

theorem splat_collect : ∀ xs, (collect path xs).splat = xs.filterMap (splatOf path)
  | [] => rfl
  | (none, none) :: xs | (some _, none) :: xs | (some _, some _) :: xs => splat_collect xs
  | (none, some _) :: xs => congrArg (List.cons _) (splat_collect xs)

/-- No two groups have one name, so a name is looked up where it stands. -/
theorem urlParams_collect (k v : String) : ∀ xs : List (Option String × Option Span), (xs.filterMap Prod.fst).Nodup →
    ((collect path xs).urlParams.get? k = some v ↔ ∃ s : Span, (some k, some s) ∈ xs ∧ v = String.ofList (s.of path))
  | [], _ => by simp [collect, Dict.get?_empty]
  | (none, none) :: xs, h | (none, some _) :: xs, h => by
    have ih := urlParams_collect k v xs h
    rw [collect, ih]
    simp
  | (some n, none) :: xs, h => by
    have ih := urlParams_collect k v xs (List.nodup_cons.1 h).2
    rw [collect, ih]
    simp
  | (some n, some s) :: xs, h => by
    obtain ⟨hn, hxs⟩ := List.nodup_cons.1 h
    have ih := urlParams_collect k v xs hxs
    rw [collect, Dict.get?_insert]
    by_cases hk : k = n
    · subst hk
      have hnot : ∀ s', (some k, some s') ∉ xs := fun s' hm => hn (List.mem_filterMap.2 ⟨_, hm, rfl⟩)
      simp [hnot, eq_comm]
    · rw [if_neg hk, ih]
      simp [hk]

/-- **Every group is counted once**: as a parameter, as a part of the splat, or as one that took no part. -/
theorem count_collect : ∀ xs : List (Option String × Option Span), (xs.filterMap Prod.fst).Nodup →
    (collect path xs).urlParams.toList.length + (collect path xs).splat.length + xs.countP (fun x => x.2.isNone) =
      xs.length
  | [], _ => rfl
  | (none, none) :: xs, h => by
    have ih := count_collect xs h
    rw [collect, List.countP_cons_of_pos rfl, List.length_cons]
    dsimp only
    omega
  | (none, some _) :: xs, h => by
    have ih := count_collect xs h
    rw [collect, List.countP_cons_of_neg (by simp)]
    dsimp only
    rw [List.length_cons, List.length_cons]
    omega
  | (some n, none) :: xs, h => by
    have ih := count_collect xs (List.nodup_cons.1 h).2
    rw [collect, List.countP_cons_of_pos rfl, List.length_cons]
    dsimp only
    omega
  | (some n, some s) :: xs, h => by
    obtain ⟨hn, hxs⟩ := List.nodup_cons.1 h
    have ih := count_collect xs hxs
    have hfresh : (collect path xs).urlParams.get? n = none := by
      refine Option.eq_none_iff_forall_ne_some.2 fun v hv => ?_
      obtain ⟨s, hs, -⟩ := (urlParams_collect path n v xs hxs).1 hv
      exact hn (List.mem_filterMap.2 ⟨_, hs, rfl⟩)
    rw [collect, List.countP_cons_of_neg (by simp), List.length_cons]
    dsimp only
    rw [Dict.length_insert _ hfresh]
    omega

/-! ## By number -/

theorem filterMap_eq_range {α β : Type} (f : α → Option β) : ∀ l : List α,
    l.filterMap f = (List.range l.length).filterMap (fun i => l[i]?.bind f)
  | [] => rfl
  | a :: l => by
    rw [List.length_cons, List.range_succ_eq_map, List.filterMap_cons, List.filterMap_cons, List.filterMap_map,
      filterMap_eq_range f l]
    rfl

section

variable {names : List (Option String)} {spans : List (Option Span)} (hlen : names.length = spans.length)
include hlen

theorem nodup_zip (h : (names.filterMap id).Nodup) : ((names.zip spans).filterMap Prod.fst).Nodup := by
  have hfst : (names.zip spans).map Prod.fst = names := List.map_fst_zip (Nat.le_of_eq hlen)
  rwa [← hfst, List.filterMap_map] at h

theorem groups_collect_zip : (collect path (names.zip spans)).groups = spans.map (textOf path) := by
  have hsnd : (names.zip spans).map Prod.snd = spans := List.map_snd_zip (Nat.le_of_eq hlen.symm)
  rw [groups_collect, ← Function.comp_def (textOf path) Prod.snd, ← List.map_map, hsnd]

theorem urlParams_collect_zip (h : (names.filterMap id).Nodup) {n v : String} :
    (collect path (names.zip spans)).urlParams.get? n = some v ↔
      ∃ (i : Nat) (s : Span), names[i]? = some (some n) ∧ spans[i]? = some (some s) ∧ (spans.map (textOf path))[i]? = some v := by
  rw [urlParams_collect path n v _ (nodup_zip hlen h)]
  constructor
  · rintro ⟨s, hs, rfl⟩
    obtain ⟨i, hi⟩ := List.mem_iff_getElem?.1 hs
    obtain ⟨hname, hspan⟩ := List.getElem?_zip_eq_some.1 hi
    refine ⟨i, s, hname, hspan, ?_⟩
    rw [List.getElem?_map, hspan]
    rfl
  · rintro ⟨i, s, hname, hspan, hv⟩
    refine ⟨s, List.mem_iff_getElem?.2 ⟨i, List.getElem?_zip_eq_some.2 ⟨hname, hspan⟩⟩, ?_⟩
    rw [List.getElem?_map, hspan] at hv
    exact (Option.some.inj hv).symm

theorem splat_collect_zip : (collect path (names.zip spans)).splat = (List.range spans.length).filterMap (fun i =>
    if names[i]? = some none ∧ spans[i]? ≠ some none then (spans.map (textOf path))[i]? else none) := by
  have hcount : (names.zip spans).length = spans.length := by rw [List.length_zip, hlen, Nat.min_self]
  rw [splat_collect, filterMap_eq_range, hcount]
  refine List.filterMap_congr fun i hi => ?_
  have hi := List.mem_range.1 hi
  obtain ⟨name, hname⟩ : ∃ name, names[i]? = some name := ⟨_, List.getElem?_eq_getElem (by omega)⟩
  obtain ⟨span, hspan⟩ : ∃ span, spans[i]? = some span := ⟨_, List.getElem?_eq_getElem hi⟩
  have hboth : (names.zip spans)[i]? = some (name, span) := List.getElem?_zip_eq_some.2 ⟨hname, hspan⟩
  rw [hboth, List.getElem?_map, hspan, hname]
  cases name <;> cases span <;> rfl

theorem count_collect_zip (h : (names.filterMap id).Nodup) :
    (collect path (names.zip spans)).urlParams.toList.length + (collect path (names.zip spans)).splat.length +
      spans.countP Option.isNone = spans.length := by
  have hsnd : (names.zip spans).map Prod.snd = spans := List.map_snd_zip (Nat.le_of_eq hlen.symm)
  have hlength : (names.zip spans).length = spans.length := by rw [List.length_zip, hlen, Nat.min_self]
  have hcount := count_collect path _ (nodup_zip hlen h)
  rwa [hlength, ← Function.comp_def Option.isNone Prod.snd, ← List.countP_map, hsnd] at hcount

end

end PathRouter.Matcher
