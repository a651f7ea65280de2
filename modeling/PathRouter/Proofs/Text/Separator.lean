import Mathlib.Data.List.TakeDrop
import Mathlib.Data.List.TakeWhile
/-!
# Cutting at a separator

What texts look like to those who cut them at a character: once, at the first place where it stands, or at every place.
-/
namespace PathRouter

section

variable {α : Type} [BEq α] [LawfulBEq α] {sep : α} {s : List α}

theorem span_of_notMem (h : sep ∉ s) : s.span (· != sep) = (s, []) := by
  have hall : ∀ c ∈ s, (c != sep) = true := fun c hc => bne_iff_ne.2 fun heq => h (heq ▸ hc)
  rw [List.span_eq_takeWhile_dropWhile, List.takeWhile_eq_self_iff.2 hall, List.dropWhile_eq_nil_iff.2 hall]

theorem span_append (h : sep ∉ s) (t : List α) : (s ++ sep :: t).span (· != sep) = (s, sep :: t) := by
  have hall : ∀ c ∈ s, (c != sep) = true := fun c hc => bne_iff_ne.2 fun heq => h (heq ▸ hc)
  rw [List.span_eq_takeWhile_dropWhile, List.takeWhile_append_of_pos hall, List.dropWhile_append_of_pos hall]
  simp

/-- No part of a text that is cut everywhere holds the separator. -/
theorem notMem_of_mem_splitOn : ∀ {s w : List α}, w ∈ s.splitOn sep → sep ∉ w
  | [], w, h => by
    rw [List.splitOn_nil, List.mem_singleton] at h
    rw [h]
    exact List.not_mem_nil
  | x :: s, w, h => by
    obtain ⟨v, vs, hs⟩ := List.exists_cons_of_ne_nil (List.splitOn_ne_nil sep s)
    have ih : ∀ u ∈ v :: vs, sep ∉ u := fun u hu => notMem_of_mem_splitOn (hs ▸ hu)
    rw [List.splitOn_cons_eq_if_modifyHead, hs] at h
    split at h
    · rcases List.mem_cons.1 h with rfl | h
      · exact List.not_mem_nil
      · exact ih w h
    · rename_i hx
      rcases List.mem_cons.1 h with rfl | h
      · rw [List.mem_cons, not_or]
        exact ⟨fun heq => hx (beq_iff_eq.2 heq.symm), ih v List.mem_cons_self⟩
      · exact ih w (List.mem_cons_of_mem _ h)

end

end PathRouter
