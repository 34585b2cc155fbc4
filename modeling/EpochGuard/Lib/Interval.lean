import Mathlib.Data.List.Chain
import Mathlib.Order.Bounds.Basic

/-!
# Half-open intervals of sequence numbers

An interval holds from a first number up to, and excluding, an end; an open
interval has no end yet. A timeline is a list of intervals that follow one
another without gap or overlap, the last one open.
-/

/-- An interval from a number on, which may have no end. -/
structure HalfOpen where
  start : Nat
  stop : Option Nat
deriving DecidableEq

namespace HalfOpen

instance : Membership Nat HalfOpen where
  mem i s := i.start ≤ s ∧ ∀ u ∈ i.stop, s < u

variable {i j : HalfOpen} {s n : Nat}

theorem mem_def : s ∈ i ↔ i.start ≤ s ∧ ∀ u ∈ i.stop, s < u := Iff.rfl

@[simp] theorem mem_open {a : Nat} : s ∈ (⟨a, none⟩ : HalfOpen) ↔ a ≤ s := by
  simp [mem_def]

@[simp] theorem mem_closed {a b : Nat} : s ∈ (⟨a, some b⟩ : HalfOpen) ↔ a ≤ s ∧ s < b := by
  simp [mem_def]

instance : Decidable (s ∈ i) :=
  match i with
  | ⟨a, none⟩ => decidable_of_iff (a ≤ s) (by simp)
  | ⟨a, some b⟩ => decidable_of_iff (a ≤ s ∧ s < b) (by simp)

/-- The interval with its open end, if it has one, put at `n`. -/
def closeAt (n : Nat) (i : HalfOpen) : HalfOpen := { i with stop := some (i.stop.getD n) }

@[simp] theorem closeAt_start : (i.closeAt n).start = i.start := rfl

/-- An interval that is closed at `n`, and ended at most there before, has no
number from `n` on. -/
theorem not_mem_closeAt (hstop : ∀ u ∈ i.stop, u ≤ n) (h : n ≤ s) : s ∉ i.closeAt n := by
  obtain ⟨a, _ | b⟩ := i
  · simp [closeAt]
    omega
  · have hb : b ≤ n := hstop b rfl
    simp [closeAt]
    omega

end HalfOpen

/-! ## Common points

A family of intervals `[start i, stop i)` has a common point exactly when its
latest start is before its earliest stop. In one dimension two of the
intervals are enough to show that there is none.
-/

namespace Common

variable {ι α : Type} [LinearOrder α] {start stop : ι → α} {lower upper : α}

theorem exists_common_iff (hlower : IsGreatest (Set.range start) lower)
    (hupper : IsLeast (Set.range stop) upper) :
    (∃ s, ∀ i, start i ≤ s ∧ s < stop i) ↔ lower < upper := by
  constructor
  · rintro ⟨s, hs⟩
    obtain ⟨i, rfl⟩ := hlower.1
    obtain ⟨j, rfl⟩ := hupper.1
    exact (hs i).1.trans_lt (hs j).2
  · intro h
    refine ⟨lower, fun i => ⟨hlower.2 ⟨i, rfl⟩, h.trans_le (hupper.2 ⟨i, rfl⟩)⟩⟩

/-- A point lies in every interval exactly when it lies between the bounds. -/
theorem forall_mem_iff (hlower : IsGreatest (Set.range start) lower)
    (hupper : IsLeast (Set.range stop) upper) {s : α} :
    (∀ i, start i ≤ s ∧ s < stop i) ↔ lower ≤ s ∧ s < upper := by
  constructor
  · intro hs
    obtain ⟨i, rfl⟩ := hlower.1
    obtain ⟨j, rfl⟩ := hupper.1
    exact ⟨(hs i).1, (hs j).2⟩
  · rintro ⟨hl, hu⟩ i
    exact ⟨(hlower.2 ⟨i, rfl⟩).trans hl, hu.trans_le (hupper.2 ⟨i, rfl⟩)⟩

/-- Without a common point, an interval of latest start and one of earliest
stop have none already; and they differ where no interval is empty. -/
theorem witnesses (start stop : ι → α) {latest earliest : ι} (hlatest : start latest = lower)
    (hearliest : stop earliest = upper) (hne : ∀ i, start i < stop i) (h : upper ≤ lower) :
    latest ≠ earliest ∧ ∀ s, start latest ≤ s → ¬ s < stop earliest := by
  subst hlatest hearliest
  constructor
  · rintro rfl
    exact absurd (hne latest) (not_lt.mpr h)
  · intro s hs
    exact not_lt.mpr (h.trans hs)

end Common

namespace HalfOpen

variable {i j : HalfOpen} {s n : Nat}

/-! ## Timelines -/

/-- One interval ends where the next one starts. -/
def Abuts (i j : HalfOpen) : Prop := i.stop = some j.start

/-- Intervals that follow each other without a gap, from a number on, the last
of them open. -/
inductive IsTimeline : List HalfOpen → Prop where
  | nil : IsTimeline []
  | last (a : Nat) : IsTimeline [⟨a, none⟩]
  | cons {a b : Nat} {t : Option Nat} {rest : List HalfOpen}
      (hrest : IsTimeline (⟨b, t⟩ :: rest)) (hlt : a < b) :
      IsTimeline (⟨a, some b⟩ :: ⟨b, t⟩ :: rest)

namespace IsTimeline

variable {l : List HalfOpen}

theorem isChain (h : IsTimeline l) : l.IsChain Abuts := by
  induction h with
  | nil => exact .nil
  | last a => exact .singleton _
  | cons _ _ ih => exact .cons_cons rfl ih

/-- No interval starts before the first one. -/
theorem head_le {i : HalfOpen} {rest : List HalfOpen} (h : IsTimeline (i :: rest)) :
    ∀ j ∈ rest, i.start < j.start := by
  generalize hl : i :: rest = l at h
  induction h generalizing i rest with
  | nil => cases hl
  | last a =>
    cases hl
    simp
  | @cons a b t rest' hrest hlt ih =>
    cases hl
    intro j hj
    rcases List.mem_cons.mp hj with rfl | hj
    · exact hlt
    · exact hlt.trans (ih rfl j hj)

theorem pairwise_start_lt (h : IsTimeline l) : l.Pairwise fun i j => i.start < j.start := by
  induction h with
  | nil => exact .nil
  | last a => simp
  | cons hrest hlt ih => exact List.pairwise_cons.mpr ⟨(hrest.cons hlt).head_le, ih⟩

/-- No interval of a timeline is empty. -/
theorem start_lt_stop (h : IsTimeline l) : ∀ i ∈ l, ∀ u ∈ i.stop, i.start < u := by
  induction h with
  | nil => simp
  | last a => simp
  | cons _ hlt ih => exact List.forall_mem_cons.mpr ⟨by simpa using hlt, ih⟩

/-- A number lies in at most one interval of a timeline. -/
theorem pairwise_disjoint (h : IsTimeline l) :
    l.Pairwise fun i j => ∀ s, s ∈ i → s ∉ j := by
  induction h with
  | nil => exact .nil
  | last a => simp
  | @cons a b t rest hrest hlt ih =>
    refine List.pairwise_cons.mpr ⟨?_, ih⟩
    intro j hj s hs hj'
    have hb : b ≤ j.start := by
      rcases List.mem_cons.mp hj with rfl | hj
      · exact Nat.le_refl b
      · exact (hrest.head_le j hj).le
    have hs' : s < b := (mem_closed.mp hs).2
    have := hj'.1
    omega

/-- At most one interval is open. -/
theorem pairwise_closed (h : IsTimeline l) :
    l.Pairwise fun i _ => i.stop.isSome := by
  induction h with
  | nil => exact .nil
  | last a => simp
  | cons _ _ ih => exact List.pairwise_cons.mpr ⟨by simp, ih⟩

/-- The timeline of a new value from `n` on: the open interval ends at `n`. -/
theorem append (h : IsTimeline l) (hn : ∀ i ∈ l, i.start < n) :
    IsTimeline (l.map (closeAt n) ++ [⟨n, none⟩]) := by
  induction h with
  | nil => exact .last n
  | last a => exact .cons (.last n) (hn ⟨a, none⟩ (by simp))
  | @cons a b t rest hrest hlt ih =>
    have ih' := ih fun i hi => hn i (List.mem_cons_of_mem _ hi)
    exact .cons ih' hlt

end IsTimeline

end HalfOpen

/-- Of a list whose elements exclude one another pairwise, at most one is kept. -/
theorem List.Pairwise.length_filter_le_one {α : Type} {R : α → α → Prop} {l : List α}
    {p : α → Bool} (h : l.Pairwise R) (hR : ∀ a b, R a b → p a = true → p b = false) :
    (l.filter p).length ≤ 1 := by
  induction h with
  | nil => simp
  | @cons a rest ha _ ih =>
    by_cases hp : p a = true
    · have hnone : rest.filter p = [] := by
        simp only [List.filter_eq_nil_iff, Bool.not_eq_true]
        exact fun b hb => hR a b (ha b hb) hp
      simp [hp, hnone]
    · simpa [List.filter_cons, hp] using ih
