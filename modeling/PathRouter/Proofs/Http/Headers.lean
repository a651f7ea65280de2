import Mathlib.Data.List.Forall2
import PathRouter.Http.Response
import PathRouter.Proofs.Settings.Entries
/-!
# The headers of a finished response

A finished response goes to the transport with one length, whatever lengths were set and however they were spelled, and
with all other headers as they were set (`Measured`).  `calls_measured` says what the transport is given, and what is
left with one that keeps it.
-/
namespace PathRouter

/-! ## Names of headers -/

/-- A character is a capital letter of ASCII, and another one is the small letter. -/
def CapitalOf (c d : Char) : Prop :=
  'A'.toNat ≤ c.toNat ∧ c.toNat ≤ 'Z'.toNat ∧ d.toNat = c.toNat + 32

/-- **Names that differ in the case of ASCII letters alone**, character by character. -/
def SpelledAlike (a b : String) : Prop :=
  List.Forall₂ (fun c d => c = d ∨ CapitalOf c d ∨ CapitalOf d c) a.toList b.toList

theorem toNat_toLower (c : Char) :
    c.toLower.toNat = if 'A'.toNat ≤ c.toNat ∧ c.toNat ≤ 'Z'.toNat then c.toNat + 32 else c.toNat := by
  unfold Char.toLower
  by_cases h : c.val ≥ 'A'.val ∧ c.val ≤ 'Z'.val
  · have hcapital : 'A'.toNat ≤ c.toNat ∧ c.toNat ≤ 'Z'.toNat := h
    have hadd : (c.val + ('a'.val - 'A'.val)).toNat = (c.val.toNat + 32) % 2 ^ 32 := UInt32.toNat_add c.val 32
    have hle : c.val.toNat ≤ 90 := h.2
    rw [dif_pos h, if_pos hcapital]
    exact hadd.trans (Nat.mod_eq_of_lt (by omega))
  · rw [dif_neg h]
    exact (if_neg h).symm

theorem toLower_eq_iff {c d : Char} : c.toLower = d.toLower ↔ c = d ∨ CapitalOf c d ∨ CapitalOf d c := by
  rw [← Char.toNat_inj, ← Char.toNat_inj, toNat_toLower, toNat_toLower]
  unfold CapitalOf
  have hA : 'A'.toNat = 65 := rfl
  have hZ : 'Z'.toNat = 90 := rfl
  split <;> split <;> omega

/-- **Names are taken for the same** if they differ in the case of ASCII letters alone. -/
theorem sameName_iff {a b : String} : sameName a b = true ↔ SpelledAlike a b := by
  unfold sameName SpelledAlike Text.lowerAscii
  simp only [beq_iff_eq, ← toLower_eq_iff]
  rw [← List.forall₂_eq_eq_eq, List.forall₂_map_left_iff, List.forall₂_map_right_iff]

theorem sameName_self (name : String) : sameName name name = true :=
  beq_self_eq_true _

/-! ## Entries under a name -/

namespace Dict

variable {α : Type} (m : Dict α)

theorem get?_filter (p : String → α → Bool) (key : String) : (m.filter p).get? key = (m.get? key).filter (p key) := by
  refine Option.ext fun v => ?_
  rw [Option.filter_eq_some_iff, ← mem_toList_iff, ← mem_toList_iff]
  exact List.mem_filter

theorem contains_iff {m : Dict α} {key : String} : m.contains key = true ↔ ∃ v, (key, v) ∈ m.toList := by
  rw [contains, Option.isSome_iff_exists]
  exact exists_congr fun v => mem_toList_iff.symm

/-- A map has one entry at most exactly if all its keys are the same. -/
theorem length_le_one_iff {m : Dict α} :
    m.toList.length ≤ 1 ↔ ∀ a b, m.contains a = true → m.contains b = true → a = b := by
  simp only [contains_iff]
  have hnodup := m.nodup_keys
  generalize m.toList = es at hnodup
  match es, hnodup with
  | [], _ => simp
  | [e], _ =>
    refine iff_of_true (Nat.le_refl 1) ?_
    rintro a b ⟨v, ha⟩ ⟨w, hb⟩
    rw [List.mem_singleton] at ha hb
    exact congrArg Prod.fst (ha.trans hb.symm)
  | (a, v) :: (b, w) :: es, hnodup =>
    refine iff_of_false (by simp) fun h => ?_
    have hab := h a b ⟨v, List.mem_cons_self⟩ ⟨w, by simp⟩
    exact (List.nodup_cons.1 hnodup).1 (by simp [hab])

/-- The entries under a name, in any case. -/
def named (name : String) : Dict α :=
  m.filter (fun key _ => sameName key name)

theorem get?_named (name key : String) :
    (m.named name).get? key = if sameName key name = true then m.get? key else none := by
  rw [named, get?_filter]
  split <;> rename_i h <;> cases m.get? key <;> simp [h]

theorem contains_named (name key : String) :
    (m.named name).contains key = true ↔ sameName key name = true ∧ m.contains key = true := by
  rw [contains, get?_named]
  split <;> rename_i h <;> simp [h, contains]

end Dict

namespace Response

variable (r : Response)

theorem get?_finalHeaders (key : String) : r.finalHeaders.get? key =
    if key = "Content-Length" then some (toString (r.body.getD []).length)
    else if sameName key "Content-Length" = true then none
    else r.headers.get? key := by
  rw [finalHeaders, Dict.get?_insert, Dict.get?_filter]
  refine if_congr Iff.rfl rfl ?_
  split <;> rename_i h <;> cases r.headers.get? key <;> simp [h]

/-- **Headers with the right length**, the number of bytes of the body.  It stands under one spelling of its name, and what
has another name is as it was set. -/
structure Measured (headers : Dict String) : Prop where
  length : headers.get? "Content-Length" = some (toString (r.body.getD []).length)
  alone : ∀ key, SpelledAlike key "Content-Length" → headers.contains key = true → key = "Content-Length"
  others : ∀ key, ¬ SpelledAlike key "Content-Length" → headers.get? key = r.headers.get? key

theorem measured_finalHeaders : r.Measured r.finalHeaders where
  length := by rw [get?_finalHeaders, if_pos rfl]
  alone key hname hkey := by
    by_contra hne
    rw [Dict.contains, get?_finalHeaders, if_neg hne, if_pos (sameName_iff.2 hname)] at hkey
    exact Bool.false_ne_true hkey
  others key hname := by
    have hne : key ≠ "Content-Length" := by
      rintro rfl
      exact hname (sameName_iff.1 (sameName_self _))
    rw [get?_finalHeaders, if_neg hne, if_neg fun h => hname (sameName_iff.1 h)]

/-- **What the transport is given**: the status with headers that have the right length, the body, which is empty if none was
written, and the end, each once.  A transport that keeps what it is given is left with just that. -/
theorem calls_measured : ∃ headers, r.calls = [.head r.status headers, .body (r.body.getD []), .finish] ∧
    r.Measured headers ∧
    BufferedResponse.receiveAll {} r.calls = ⟨r.status, headers, r.body.getD [], true⟩ :=
  ⟨r.finalHeaders, rfl, r.measured_finalHeaders, rfl⟩

/-- A letter of two bytes, with two wrong lengths and a header whose name begins like that of the length. -/
def letter : Response where
  status := 201
  headers := Dict.ofList [("Content-Length", "1"), ("CONTENT-length", "99"), ("Content-Lengths", "many")]
  body := some (Text.toBytes "é")

theorem letter_measured : ∃ headers, letter.calls = [.head 201 headers, .body [0xc3, 0xa9], .finish] ∧
    headers.get? "Content-Length" = some "2" ∧ headers.get? "CONTENT-length" = none ∧
    headers.get? "Content-Lengths" = some "many" := by
  obtain ⟨headers, hcalls, hmeasured, -⟩ := letter.calls_measured
  have hbytes : letter.body.getD [] = [0xc3, 0xa9] := by decide +kernel
  have halike : SpelledAlike "CONTENT-length" "Content-Length" := sameName_iff.1 (by decide +kernel)
  have hother : ¬ SpelledAlike "Content-Lengths" "Content-Length" := fun h => absurd (sameName_iff.2 h) (by decide +kernel)
  rw [hbytes] at hcalls
  refine ⟨headers, hcalls, ?_, ?_, ?_⟩
  · rw [hmeasured.length, hbytes]
    rfl
  · by_contra hset
    exact absurd (hmeasured.alone _ halike (Option.isSome_iff_ne_none.2 hset)) (by decide)
  · rw [hmeasured.others _ hother]
    decide +kernel

end Response
end PathRouter
