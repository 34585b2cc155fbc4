import EpochGuard.Lib.Checked
import Mathlib.Data.List.Perm.Basic

/-!
# The first record of a key

What looking up, counting and filtering see of a list in which the first record
with a key has been changed.
-/

namespace Checked

variable {α κ : Type} [DecidableEq κ] {key : α → κ} {f : α → α} {l : List α} {a : α} {k k' : κ}

theorem find?_modifyFirst_self (hf : ∀ a, key (f a) = key a) :
    (modifyFirst (fun a => key a = k) f l).find? (fun a => key a = k) =
      (l.find? fun a => key a = k).map f := by
  induction l with
  | nil => rfl
  | cons a rest ih =>
    by_cases hk : key a = k
    · simp [modifyFirst, hk, hf]
    · simp [modifyFirst, hk, ih]

theorem find?_modifyFirst_ne (hf : ∀ a, key (f a) = key a) (hne : k' ≠ k) :
    (modifyFirst (fun a => key a = k) f l).find? (fun a => key a = k') =
      l.find? fun a => key a = k' := by
  induction l with
  | nil => rfl
  | cons a rest ih =>
    by_cases hk : key a = k
    · simp [modifyFirst, hk, hf, hne.symm]
    · by_cases hk' : key a = k' <;> simp [modifyFirst, hk, hk', ih, hne]

/-- Where keys are unique, a change of the record of a key is a change of every
record with it. -/
theorem mem_modifyFirst_key {b : α} (hkeys : (l.map key).Nodup) :
    b ∈ modifyFirst (fun a => key a = k) f l ↔
      (b ∈ l ∧ key b ≠ k) ∨ ∃ a ∈ l, key a = k ∧ f a = b := by
  induction l with
  | nil => simp [modifyFirst]
  | cons c rest ih =>
    obtain ⟨hfirst, hrest⟩ := List.nodup_cons.mp hkeys
    by_cases hk : key c = k
    · -- no record of the rest has the key
      have hother : ∀ a ∈ rest, key a ≠ k := by
        intro a ha heq
        exact hfirst (List.mem_map.mpr ⟨a, ha, heq.trans hk.symm⟩)
      simp only [modifyFirst, hk, decide_true, if_true, List.mem_cons]
      constructor
      · rintro (rfl | hb)
        · exact .inr ⟨c, .inl rfl, hk, rfl⟩
        · exact .inl ⟨.inr hb, hother b hb⟩
      · rintro (⟨rfl | hb, hne⟩ | ⟨a, rfl | ha, hak, rfl⟩)
        · exact absurd hk hne
        · exact .inr hb
        · exact .inl rfl
        · exact absurd hak (hother a ha)
    · simp only [modifyFirst, hk, decide_false, Bool.false_eq_true, if_false, List.mem_cons,
        ih hrest]
      constructor
      · rintro (rfl | ⟨hb, hne⟩ | ⟨a, ha, hak, rfl⟩)
        · exact .inl ⟨.inl rfl, hk⟩
        · exact .inl ⟨.inr hb, hne⟩
        · exact .inr ⟨a, .inr ha, hak, rfl⟩
      · rintro (⟨rfl | hb, hne⟩ | ⟨a, rfl | ha, hak, rfl⟩)
        · exact .inl rfl
        · exact .inr (.inl ⟨hb, hne⟩)
        · exact absurd hak hk
        · exact .inr (.inr ⟨a, ha, hak, rfl⟩)

theorem find?_filter_of_pos {p q : α → Bool} (h : l.find? p = some a) (ha : q a = true) :
    (l.filter q).find? p = some a := by
  induction l with
  | nil => simp at h
  | cons b rest ih =>
    by_cases hp : p b = true
    · rw [List.find?_cons_of_pos hp, Option.some.injEq] at h
      subst h
      rw [List.filter_cons_of_pos ha, List.find?_cons_of_pos hp]
    · rw [List.find?_cons_of_neg hp] at h
      by_cases hq : q b = true
      · rw [List.filter_cons_of_pos hq, List.find?_cons_of_neg hp, ih h]
      · rw [List.filter_cons_of_neg hq, ih h]

theorem find?_filter_eq_none {p q : α → Bool} (h : l.find? p = none) :
    (l.filter q).find? p = none := by
  rw [List.find?_eq_none] at h ⊢
  exact fun b hb => h b (List.mem_of_mem_filter hb)

/-- A change that adds nothing to what is counted. -/
theorem countP_modifyFirst_le {p q : α → Bool} (hq : ∀ a, q (f a) = true → q a = true) :
    (modifyFirst p f l).countP q ≤ l.countP q := by
  induction l with
  | nil => exact Nat.le_refl _
  | cons b rest ih =>
    by_cases hp : p b = true
    · simp only [modifyFirst, hp, if_true, List.countP_cons]
      by_cases hb : q (f b) = true
      · simp [hb, hq b hb]
      · simp [hb]
    · simp only [modifyFirst, hp, Bool.false_eq_true, if_false, List.countP_cons]
      omega

/-- The first match was counted and is no longer. -/
theorem countP_modifyFirst_lt {p q : α → Bool} (h : l.find? p = some a) (ha : q a = true)
    (hf : q (f a) = false) : (modifyFirst p f l).countP q < l.countP q := by
  induction l with
  | nil => simp at h
  | cons b rest ih =>
    by_cases hp : p b = true
    · rw [List.find?_cons_of_pos hp, Option.some.injEq] at h
      subst h
      simp only [modifyFirst, hp, if_true, List.countP_cons, ha, hf, Bool.false_eq_true, if_false]
      omega
    · rw [List.find?_cons_of_neg hp] at h
      have hlt := ih h
      simp only [modifyFirst, hp, Bool.false_eq_true, if_false, List.countP_cons]
      omega

/-- The element at an index and the others, in some order. -/
theorem perm_cons_eraseIdx {i : Nat} (h : l[i]? = some a) : l.Perm (a :: l.eraseIdx i) := by
  obtain ⟨hlt, rfl⟩ := List.getElem?_eq_some_iff.mp h
  exact (List.getElem_cons_eraseIdx_perm hlt).symm

end Checked
