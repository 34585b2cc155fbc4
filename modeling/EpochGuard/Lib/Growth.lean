import Mathlib.Data.List.Perm.Basic
import Mathlib.Order.Basic
import Mathlib.Data.Nat.Basic

/-!
# Growing sequences

A collection of numbers to which only larger ones are added. The order in which
the collection holds them does not matter.
-/

namespace Growth

variable {α : Type} [Preorder α] {l m n : List α}

/-- The numbers that were added came in increasing order, each above all that
were there before. -/
def Grows (l m : List α) : Prop :=
  ∃ new, m.Perm (l ++ new) ∧ new.Pairwise (· < ·) ∧ ∀ a ∈ l, ∀ b ∈ new, a < b

theorem Grows.refl (l : List α) : Grows l l := ⟨[], by simp, .nil, by simp⟩

theorem Grows.of_eq (h : m = l) : Grows l m := h ▸ .refl l

theorem Grows.trans (h : Grows l m) (h' : Grows m n) : Grows l n := by
  obtain ⟨first, hm, hfirst, habove⟩ := h
  obtain ⟨second, hn, hsecond, habove'⟩ := h'
  have hmem : ∀ a, a ∈ l ∨ a ∈ first → a ∈ m := fun a ha => hm.mem_iff.mpr (by simpa using ha)
  refine ⟨first ++ second, ?_, ?_, ?_⟩
  · have hall := hn.trans (hm.append_right second)
    rwa [List.append_assoc] at hall
  · rw [List.pairwise_append]
    exact ⟨hfirst, hsecond, fun a ha b hb => habove' a (hmem a (.inr ha)) b hb⟩
  · intro a ha b hb
    rcases List.mem_append.mp hb with hb | hb
    · exact habove a ha b hb
    · exact habove' a (hmem a (.inl ha)) b hb

/-- One number above all others is added. -/
theorem Grows.add {a : α} (h : ∀ b ∈ l, b < a) (hm : m.Perm (l ++ [a])) : Grows l m :=
  ⟨[a], hm, List.pairwise_singleton .., by simpa using h⟩

/-- Distinct numbers stay distinct. -/
theorem Grows.nodup (h : Grows l m) (hl : l.Nodup) : m.Nodup := by
  obtain ⟨new, hm, hnew, habove⟩ := h
  rw [hm.nodup_iff, List.nodup_append]
  refine ⟨hl, hnew.imp ne_of_lt, ?_⟩
  intro a ha b hb
  exact ne_of_lt (habove a ha b hb)

/-- Every number is below the successor of the maximum. -/
theorem lt_foldl_max_succ {l : List Nat} {a : Nat} (b : Nat) (h : a ∈ l) :
    a < l.foldl max b + 1 := by
  have hstart : ∀ (l : List Nat) (b : Nat), b ≤ l.foldl max b := by
    intro l
    induction l with
    | nil => exact fun b => Nat.le_refl b
    | cons c l ih => exact fun b => (Nat.le_max_left b c).trans (ih (max b c))
  induction l generalizing b with
  | nil => cases h
  | cons c l ih =>
    rcases List.mem_cons.mp h with rfl | h
    · have := hstart l (max b a)
      simp only [List.foldl_cons]
      omega
    · exact ih (max b c) h

end Growth
