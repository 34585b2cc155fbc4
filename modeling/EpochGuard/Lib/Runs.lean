import Mathlib.Data.List.Basic

/-!
# Runs of a partial step function

A system is a function from a state and an event to the next state, where the
event is possible. A run is a list of events, each possible where it occurs.
-/

namespace Runs

variable {σ ε : Type} {step : σ → ε → Option σ} {s t u : σ} {e : ε} {es fs : List ε}

/-- The state after the events, if each is possible where it occurs. -/
def run (step : σ → ε → Option σ) (s : σ) (es : List ε) : Option σ := es.foldlM step s

@[simp] theorem run_nil : run step s [] = some t ↔ s = t := by
  simp [run]

@[simp] theorem run_cons : run step s (e :: es) = some u ↔
    ∃ t, step s e = some t ∧ run step t es = some u := by
  simp [run, Option.bind_eq_some_iff]

theorem run_append : run step s (es ++ fs) = some u ↔
    ∃ t, run step s es = some t ∧ run step t fs = some u := by
  simp [run, Option.bind_eq_some_iff]

/-- The rest of a run, from where its first part ends. -/
theorem run_append_of_eq (h : run step s es = some t) :
    run step s (es ++ fs) = run step t fs := by
  unfold run at h ⊢
  rw [List.foldlM_append, h]
  rfl

theorem run_cons_of_eq (h : step s e = some t) : run step s (e :: es) = run step t es := by
  unfold run
  rw [List.foldlM_cons, h]
  rfl

/-- What every step keeps, every run keeps. -/
theorem run_induction {I : σ → Prop} (hstep : ∀ s e t, I s → step s e = some t → I t)
    (hs : I s) (h : run step s es = some t) : I t := by
  induction es generalizing s with
  | nil =>
      rw [run_nil] at h
      exact h ▸ hs
  | cons e es ih =>
      obtain ⟨m, hm, hrest⟩ := run_cons.mp h
      exact ih (hstep s e m hs hm) hrest

/-- Where every event makes a measure smaller, the measure bounds a run. -/
theorem length_add_work_le {work : σ → Nat} {internal : ε → Prop}
    (hless : ∀ s e t, internal e → step s e = some t → work t < work s)
    (hes : ∀ e ∈ es, internal e) (h : run step s es = some t) :
    es.length + work t ≤ work s := by
  induction es generalizing s with
  | nil =>
      rw [run_nil] at h
      simp [h]
  | cons e es ih =>
      obtain ⟨m, hm, hrest⟩ := run_cons.mp h
      have hfirst := hless s e m (hes e List.mem_cons_self) hm
      have hlater := ih (fun e' he' => hes e' (List.mem_cons_of_mem _ he')) hrest
      simp only [List.length_cons]
      omega

end Runs
