import EpochGuard.Lib.Runs
import Mathlib.Logic.Function.Basic

/-!
# Programs that share a state

A program asks for one operation after the other and goes on with the answers.
Several programs run on a shared state, one operation at a time, in any order.
What holds of one of them is proved alone, from what the others may do to the
state (its rely) and for what it does itself (its guarantee).
-/

namespace Programs

/-- A program over the operations of a shared state. -/
inductive Program (ω ρ α : Type) where
  | done (a : α)
  | ask (op : ω) (next : ρ → Program ω ρ α)

namespace Program

variable {ω ρ α β : Type}

def bind (p : Program ω ρ α) (f : α → Program ω ρ β) : Program ω ρ β :=
  match p with
  | .done a => f a
  | .ask op next => .ask op fun r => (next r).bind f

instance : Monad (Program ω ρ) where
  pure := .done
  bind := bind

end Program

/-- A program that may end with an error. -/
abbrev Action (ω ρ ε : Type) : Type → Type := ExceptT ε (Program ω ρ)

/-- One operation, whose answer may be an error. -/
def request {ω ρ ε α : Type} (op : ω) (read : ρ → Except ε α) : Action ω ρ ε α :=
  ExceptT.mk (.ask op fun r => .done (read r))

/-- Goes on when the condition holds. -/
def demand {ω ρ ε : Type} (c : Prop) [Decidable c] (e : ε) : Action ω ρ ε Unit :=
  if c then pure () else throw e

section Logic

variable {ω ρ χ σ α β ε : Type} {perform : χ → ω → σ → ρ × σ} {R G : σ → σ → Prop}
  {P P' : σ → Prop}

/-- What the steps of the others leave true. -/
def Stable (R : σ → σ → Prop) (P : σ → Prop) : Prop := ∀ s s', P s → R s s' → P s'

theorem Stable.and (h : Stable R P) (h' : Stable R P') : Stable R fun s => P s ∧ P' s :=
  fun s s' hs hstep => ⟨h s s' hs.1 hstep, h' s s' hs.2 hstep⟩

theorem Stable.const (p : Prop) : Stable R fun _ => p := fun _ _ hp _ => hp

/-- From `P` every operation of the program is within the guarantee, whatever the
others do in between, and its end satisfies `Q`. An operation succeeds, or fails
in some way, by a choice from outside. -/
inductive Valid (perform : χ → ω → σ → ρ × σ) (R G : σ → σ → Prop) :
    (σ → Prop) → Program ω ρ α → (α → σ → Prop) → Prop where
  | done {P : σ → Prop} {a : α} {Q : α → σ → Prop} (h : ∀ s, P s → Q a s) :
      Valid perform R G P (.done a) Q
  | ask {P : σ → Prop} {op : ω} {next : ρ → Program ω ρ α} {Q : α → σ → Prop}
      (post : ρ → σ → Prop) (hstable : ∀ r, Stable R (post r))
      (hguarantee : ∀ c s, P s → G s (perform c op s).2)
      (hpost : ∀ c s, P s → post (perform c op s).1 (perform c op s).2)
      (hnext : ∀ r, Valid perform R G (post r) (next r) Q) :
      Valid perform R G P (.ask op next) Q

theorem Valid.weaken {p : Program ω ρ α} {Q : α → σ → Prop} (h : Valid perform R G P p Q)
    (hpre : ∀ s, P' s → P s) : Valid perform R G P' p Q := by
  cases h with
  | done h => exact .done fun s hs => h s (hpre s hs)
  | ask post hstable hguarantee hpost hnext =>
    exact .ask post hstable (fun c s hs => hguarantee c s (hpre s hs))
      (fun c s hs => hpost c s (hpre s hs)) hnext

theorem Valid.strengthen {p : Program ω ρ α} {Q Q' : α → σ → Prop}
    (h : Valid perform R G P p Q) (hQ : ∀ a s, Q a s → Q' a s) : Valid perform R G P p Q' := by
  induction h with
  | done h => exact .done fun s hs => hQ _ s (h s hs)
  | ask post hstable hguarantee hpost _ ih =>
    exact .ask post hstable hguarantee hpost fun r => ih r hQ

theorem Valid.bind {p : Program ω ρ α} {f : α → Program ω ρ β} {M : α → σ → Prop}
    {Q : β → σ → Prop} (h : Valid perform R G P p M)
    (hf : ∀ a, Valid perform R G (M a) (f a) Q) : Valid perform R G P (p.bind f) Q := by
  induction h with
  | done h => exact (hf _).weaken h
  | ask post hstable hguarantee hpost _ ih =>
    exact .ask post hstable hguarantee hpost fun r => ih r hf

theorem Valid.mono {G' : σ → σ → Prop} {p : Program ω ρ α} {Q : α → σ → Prop}
    (h : Valid perform R G P p Q) (hG : ∀ s s', G s s' → G' s s') :
    Valid perform R G' P p Q := by
  induction h with
  | done h => exact .done h
  | ask post hstable hguarantee hpost _ ih =>
    exact .ask post hstable (fun c s hs => hG _ _ (hguarantee c s hs)) hpost ih

theorem Valid.vacuous (p : Program ω ρ α) {Q : α → σ → Prop} (h : ∀ s, ¬ P s) :
    Valid perform R G P p Q := by
  induction p generalizing P with
  | done a => exact .done fun s hs => absurd hs (h s)
  | ask op next ih =>
    exact .ask (fun _ _ => False) (fun _ => Stable.const False) (fun c s hs => absurd hs (h s))
      (fun c s hs => absurd hs (h s)) fun r => ih r fun _ => id

/-- What has held from the start and is stable can be used at the end. -/
theorem Valid.frame {p : Program ω ρ α} {Q : α → σ → Prop} {F : σ → Prop}
    (h : Valid perform R G P p Q) (hrely : Stable R F) (hkept : Stable G F) :
    Valid perform R G (fun s => P s ∧ F s) p fun a s => Q a s ∧ F s := by
  induction h with
  | done h => exact .done fun s hs => ⟨h s hs.1, hs.2⟩
  | ask post hstable hguarantee hpost _ ih =>
    refine .ask (fun r s => post r s ∧ F s) (fun r => (hstable r).and hrely)
      (fun c s hs => hguarantee c s hs.1) (fun c s hs => ?_) ih
    exact ⟨hpost c s hs.1, hkept s _ hs.2 (hguarantee c s hs.1)⟩

/-! ### Actions -/

/-- What an action ends with: its value or its error. -/
def Ends (Q : α → σ → Prop) (E : ε → σ → Prop) : Except ε α → σ → Prop
  | .ok a => Q a
  | .error e => E e

/-- An action of which `Q` holds after a value, and `E` after an error. -/
def Triple (perform : χ → ω → σ → ρ × σ) (R G : σ → σ → Prop) (P : σ → Prop)
    (x : Action ω ρ ε α) (Q : α → σ → Prop) (E : ε → σ → Prop) : Prop :=
  Valid perform R G P x.run (Ends Q E)

variable {Q Q' : α → σ → Prop} {E E' : ε → σ → Prop} {x : Action ω ρ ε α}

theorem Triple.pure {a : α} (h : ∀ s, P s → Q a s) :
    Triple perform R G P (Pure.pure a : Action ω ρ ε α) Q E := .done h

theorem Triple.throw {e : ε} (h : ∀ s, P s → E e s) :
    Triple perform R G P (throw e : Action ω ρ ε α) Q E := .done h

theorem Triple.bind {f : α → Action ω ρ ε β} {M : α → σ → Prop} {Q : β → σ → Prop}
    (hx : Triple perform R G P x M E) (hf : ∀ a, Triple perform R G (M a) (f a) Q E) :
    Triple perform R G P (x >>= f) Q E := by
  refine Valid.bind hx fun r => ?_
  cases r with
  | ok a => exact hf a
  | error e => exact .done fun s hs => hs

theorem Triple.weaken (h : Triple perform R G P x Q E) (hpre : ∀ s, P' s → P s) :
    Triple perform R G P' x Q E := Valid.weaken h hpre

theorem Triple.mono {G' : σ → σ → Prop} (h : Triple perform R G P x Q E)
    (hG : ∀ s s', G s s' → G' s s') : Triple perform R G' P x Q E := Valid.mono h hG

/-- A part of the precondition that is not about the state. -/
theorem Triple.assume {p : Prop} (h : p → Triple perform R G P x Q E) :
    Triple perform R G (fun s => p ∧ P s) x Q E := by
  by_cases hp : p
  · exact Triple.weaken (h hp) fun s hs => hs.2
  · exact Valid.vacuous _ fun s hs => hp hs.1

theorem Triple.strengthen (h : Triple perform R G P x Q E) (hQ : ∀ a s, Q a s → Q' a s)
    (hE : ∀ e s, E e s → E' e s) : Triple perform R G P x Q' E' := by
  refine Valid.strengthen h fun r s hr => ?_
  cases r with
  | ok a => exact hQ a s hr
  | error e => exact hE e s hr

theorem Triple.tryCatch {handle : ε → Action ω ρ ε α} {M : ε → σ → Prop}
    (hx : Triple perform R G P x Q M) (hhandle : ∀ e, Triple perform R G (M e) (handle e) Q E) :
    Triple perform R G P (tryCatch x handle) Q E := by
  refine Valid.bind hx fun r => ?_
  cases r with
  | ok a => exact .done fun s hs => hs
  | error e => exact hhandle e

theorem Triple.frame {F : σ → Prop} (h : Triple perform R G P x Q E) (hrely : Stable R F)
    (hkept : Stable G F) :
    Triple perform R G (fun s => P s ∧ F s) x (fun a s => Q a s ∧ F s)
      fun e s => E e s ∧ F s := by
  refine Valid.strengthen (Valid.frame h hrely hkept) fun r s hr => ?_
  cases r with
  | ok a => exact hr
  | error e => exact hr

theorem Triple.demand {c : Prop} [Decidable c] {e : ε} {Q : Unit → σ → Prop}
    (hQ : c → ∀ s, P s → Q () s) (hE : ¬ c → ∀ s, P s → E e s) :
    Triple perform R G P (Programs.demand c e : Action ω ρ ε Unit) Q E := by
  unfold Programs.demand
  split
  · rename_i hc
    exact Triple.pure (hQ hc)
  · rename_i hc
    exact Triple.throw (hE hc)

/-- One operation within the guarantee. -/
theorem Triple.request {op : ω} {read : ρ → Except ε α} (hQ : ∀ a, Stable R (Q a))
    (hE : ∀ e, Stable R (E e)) (hguarantee : ∀ c s, P s → G s (perform c op s).2)
    (hpost : ∀ c s, P s → Ends Q E (read (perform c op s).1) (perform c op s).2) :
    Triple perform R G P (Programs.request op read) Q E := by
  refine .ask (fun r => Ends Q E (read r)) (fun r => ?_) hguarantee hpost fun r => .done ?_
  · cases hread : read r with
    | ok a => exact hQ a
    | error e => exact hE e
  · exact fun s hs => hs

end Logic

/-! ## Interleaving -/

section Interleaving

variable {ι ω ρ χ σ α : Type} [DecidableEq ι] (perform : χ → ω → σ → ρ × σ)

structure System (ι ω ρ σ α : Type) where
  shared : σ
  programs : ι → Program ω ρ α

/-- The next operation of one program, with how it turns out. -/
def step (s : System ι ω ρ σ α) (e : ι × χ) : Option (System ι ω ρ σ α) :=
  match s.programs e.1 with
  | .done _ => none
  | .ask op next =>
      some { shared := (perform e.2 op s.shared).2
             programs := Function.update s.programs e.1 (next (perform e.2 op s.shared).1) }

variable {perform} {R G : ι → σ → σ → Prop} {Q : ι → α → σ → Prop}

/-- Every program goes on as it was proved to. -/
def Going (perform : χ → ω → σ → ρ × σ) (R G : ι → σ → σ → Prop) (Q : ι → α → σ → Prop)
    (s : System ι ω ρ σ α) : Prop :=
  ∀ i, ∃ P, Stable (R i) P ∧ P s.shared ∧ Valid perform (R i) (G i) P (s.programs i) (Q i)

/-- A step of a program is within its guarantee, which the others rely on. -/
theorem going_step (hrely : ∀ i j, i ≠ j → ∀ s s', G j s s' → R i s s')
    {s t : System ι ω ρ σ α} {e : ι × χ} (hs : Going perform R G Q s)
    (h : step perform s e = some t) : Going perform R G Q t ∧ G e.1 s.shared t.shared := by
  obtain ⟨j, c⟩ := e
  obtain ⟨P, -, hP, hvalid⟩ := hs j
  unfold step at h
  cases hprogram : s.programs j with
  | done a =>
    rw [hprogram] at h
    exact absurd h (by simp)
  | ask op next =>
    rw [hprogram] at h hvalid
    obtain rfl := Option.some.inj h
    cases hvalid with
    | ask post hstable hguarantee hpost hnext =>
      have hown := hguarantee c s.shared hP
      refine ⟨fun i => ?_, hown⟩
      by_cases hi : i = j
      · subst hi
        refine ⟨post _, hstable _, hpost c s.shared hP, ?_⟩
        show Valid perform (R i) (G i) _ (Function.update s.programs i _ i) (Q i)
        rw [Function.update_self]
        exact hnext _
      · obtain ⟨P', hstable', hP', hvalid'⟩ := hs i
        refine ⟨P', hstable', hstable' _ _ hP' (hrely i j hi _ _ hown), ?_⟩
        show Valid perform (R i) (G i) _ (Function.update s.programs j _ i) (Q i)
        rw [Function.update_of_ne hi]
        exact hvalid'

/-- What every guarantee keeps holds of the shared state in every run, and
programs that have ended have kept their promise. -/
theorem going_run (hrely : ∀ i j, i ≠ j → ∀ s s', G j s s' → R i s s') {I : σ → Prop}
    (hkept : ∀ i, Stable (G i) I) {s t : System ι ω ρ σ α} {es : List (ι × χ)}
    (hs : Going perform R G Q s) (hI : I s.shared) (h : Runs.run (step perform) s es = some t) :
    Going perform R G Q t ∧ I t.shared := by
  refine Runs.run_induction (I := fun u => Going perform R G Q u ∧ I u.shared) ?_ ⟨hs, hI⟩ h
  intro u e v hu hstep
  obtain ⟨hgoing, hguarantee⟩ := going_step hrely hu.1 hstep
  exact ⟨hgoing, hkept e.1 _ _ hu.2 hguarantee⟩

omit [DecidableEq ι] in
theorem Going.ended {s : System ι ω ρ σ α} (hs : Going perform R G Q s) {i : ι} {a : α}
    (h : s.programs i = .done a) : Q i a s.shared := by
  obtain ⟨P, -, hP, hvalid⟩ := hs i
  rw [h] at hvalid
  cases hvalid with
  | done hQ => exact hQ _ hP

end Interleaving

end Programs
