import Mathlib.Data.List.Basic
import Mathlib.Data.List.DropRight

/-!
# Reading a stream in pieces

A text that arrives in chunks is split at its separators, and what follows the
last separator is kept for the next chunk. However the text is cut into chunks,
the same pieces are read.
-/

namespace Pieces

variable {α : Type} {sep : α → Bool} {a b : List α}

/-- The pieces that a separator ends. -/
def ended (sep : α → Bool) (text : List α) : List (List α) := (text.splitOnP sep).dropLast

/-- What follows the last separator. -/
def remainder (sep : α → Bool) (text : List α) : List α :=
  (text.splitOnP sep).getLast (List.splitOnP_ne_nil sep text)

theorem splitOnP_eq (sep : α → Bool) (text : List α) :
    text.splitOnP sep = ended sep text ++ [remainder sep text] :=
  (List.dropLast_append_getLast _).symm

theorem parts_of_splitOnP {text : List α} {pieces : List (List α)} {last : List α}
    (h : text.splitOnP sep = pieces ++ [last]) :
    ended sep text = pieces ∧ remainder sep text = last := by
  constructor
  · rw [ended, h, List.dropLast_concat]
  · simp only [remainder, h, List.getLast_append_singleton]

theorem parts_cons_sep {x : α} (h : sep x = true) :
    ended sep (x :: a) = [] :: ended sep a ∧ remainder sep (x :: a) = remainder sep a := by
  apply parts_of_splitOnP
  rw [List.splitOnP_cons_eq_if_modifyHead, if_pos h, splitOnP_eq sep a]
  rfl

/-- An element that is no separator goes to the first piece, or to the remainder. -/
theorem parts_cons {x : α} (h : ¬sep x = true) :
    (ended sep a = [] →
      ended sep (x :: a) = [] ∧ remainder sep (x :: a) = x :: remainder sep a) ∧
    ∀ piece pieces, ended sep a = piece :: pieces →
      ended sep (x :: a) = (x :: piece) :: pieces ∧
        remainder sep (x :: a) = remainder sep a := by
  have hparts := splitOnP_eq sep a
  constructor
  · intro hnone
    apply parts_of_splitOnP
    rw [List.splitOnP_cons_eq_if_modifyHead, if_neg h, hparts, hnone]
    rfl
  · intro piece pieces hpieces
    apply parts_of_splitOnP
    rw [List.splitOnP_cons_eq_if_modifyHead, if_neg h, hparts, hpieces]
    rfl

/-- The pieces of two parts: the remainder of the first goes on in the second. -/
theorem splitOnP_append (sep : α → Bool) (a b : List α) :
    (a ++ b).splitOnP sep = ended sep a ++ (remainder sep a ++ b).splitOnP sep := by
  induction a with
  | nil => simp [ended, remainder]
  | cons x a ih =>
    rw [List.cons_append, List.splitOnP_cons_eq_if_modifyHead, ih]
    by_cases hx : sep x = true
    · obtain ⟨hended, hremainder⟩ := @parts_cons_sep _ sep a x hx
      rw [if_pos hx, hended, hremainder]
      rfl
    · obtain ⟨hnone, hsome⟩ := @parts_cons _ sep a x hx
      rw [if_neg hx]
      cases hpieces : ended sep a with
      | nil =>
        obtain ⟨hended, hremainder⟩ := hnone hpieces
        rw [hended, hremainder, List.nil_append, List.nil_append, List.cons_append,
          List.splitOnP_cons_eq_if_modifyHead, if_neg hx]
      | cons piece pieces =>
        obtain ⟨hended, hremainder⟩ := hsome piece pieces hpieces
        rw [hended, hremainder]
        rfl

/-- A text without an ended piece is its own remainder. -/
theorem remainder_of_ended_nil (h : ended sep a = []) : remainder sep a = a := by
  induction a with
  | nil => rfl
  | cons x a ih =>
    by_cases hx : sep x = true
    · rw [(parts_cons_sep hx).1] at h
      exact absurd h (by simp)
    · obtain ⟨hnone, hsome⟩ := @parts_cons _ sep a x hx
      cases hpieces : ended sep a with
      | nil => rw [(hnone hpieces).2, ih hpieces]
      | cons piece pieces =>
        rw [(hsome piece pieces hpieces).1] at h
        exact absurd h (by simp)

theorem ended_append (sep : α → Bool) (a b : List α) :
    ended sep (a ++ b) = ended sep a ++ ended sep (remainder sep a ++ b) := by
  have hsplit := splitOnP_append sep a b
  rw [splitOnP_eq sep (remainder sep a ++ b), ← List.append_assoc] at hsplit
  exact (parts_of_splitOnP hsplit).1

theorem remainder_append (sep : α → Bool) (a b : List α) :
    remainder sep (a ++ b) = remainder sep (remainder sep a ++ b) := by
  have hsplit := splitOnP_append sep a b
  rw [splitOnP_eq sep (remainder sep a ++ b), ← List.append_assoc] at hsplit
  exact (parts_of_splitOnP hsplit).2

/-- A remainder has no ended piece. -/
theorem ended_remainder (sep : α → Bool) (a : List α) : ended sep (remainder sep a) = [] := by
  have hsplit := ended_append sep a []
  rw [List.append_nil, List.append_nil] at hsplit
  exact List.append_cancel_left (hsplit.symm.trans (List.append_nil _).symm)

/-- The end of a text of bounded length, as it grows. -/
theorem rtake_append (n : Nat) (a b : List α) : (a.rtake n ++ b).rtake n = (a ++ b).rtake n := by
  simp only [List.rtake_eq_reverse_take_reverse, List.reverse_append, List.reverse_reverse]
  rw [List.take_append, List.take_append, List.take_take,
    Nat.min_eq_left (Nat.sub_le n b.reverse.length)]

end Pieces
