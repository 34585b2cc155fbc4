import EpochGuard.EpochStore

/-!
# Crashes and restarts of the store

The process may stop between any two steps of `epoch-store.ts`, and another one
reads the file that it left. What is known of every call that was ever made, in
every process, is kept in a log.
-/

namespace EpochGuard

open Checked Runs

namespace EpochStore

/-- What became of a call: its promise settled, or the process stopped before
that. Then the file may have been replaced already. -/
inductive Fate where
  | settled (outcome : Outcome)
  | survived
  | lost
deriving DecidableEq

/-- The calls of a process that stops here. -/
def fates (s : State) : List (Mutation × Fate) :=
  s.settled.map (fun r => (r.1, .settled r.2)) ++
    (match s.phase with
      | .idle => []
      | .running m _ | .writing m _ _ | .replacing m _ => [(m, .lost)]
      | .publishing m _ => [(m, .survived)]) ++
    s.pending.map fun m => (m, .lost)

/-- The calls that changed the file. -/
def applied (log : List (Mutation × Fate)) : List Mutation :=
  (log.filter fun r => r.2 = .settled .resolved ∨ r.2 = .survived).map Prod.fst

/-- A file, the process that has it open, and what became of the calls of the
processes before. The file is only read when there is no process. -/
structure Server where
  disk : Option EpochDatabase
  live : Option State
  log : List (Mutation × Fate)

/-- `persisted` says whether the first file is written. -/
inductive Happening where
  | boot (persisted : Bool)
  | crash
  | work (event : Event)

def Happening.isCrash : Happening → Bool
  | .crash => true
  | _ => false

/-- A directory without a file. -/
def fresh : Server where
  disk := none
  live := none
  log := []

variable {first database : EpochDatabase} {log log' : List (Mutation × Fate)}
  {mutations : List Mutation} {s : State} {w w' : Server}

theorem applied_append : applied (log ++ log') = applied log ++ applied log' := by
  simp [applied]

theorem applied_settled {settled : List (Mutation × Outcome)} :
    applied (settled.map fun r => (r.1, .settled r.2)) = resolvedOf settled := by
  induction settled with
  | nil => rfl
  | cons r rest ih =>
    unfold applied resolvedOf at ih ⊢
    by_cases h : r.2 = .resolved <;> simp_all

theorem applied_lost : applied (mutations.map fun m => (m, .lost)) = [] := by
  induction mutations with
  | nil => rfl
  | cons m rest ih => simp [applied]

theorem fates_calls (s : State) : (fates s).map Prod.fst = s.queued := by
  unfold fates State.queued
  cases s.phase <;> simp [Function.comp_def]

/-- Of the calls of one process at most one is published and not acknowledged. -/
theorem fates_survived (s : State) : ((fates s).filter fun r => r.2 = .survived).length ≤ 1 := by
  have hsettled : (s.settled.map fun r => (r.1, Fate.settled r.2)).filter
      (fun r => r.2 = .survived) = [] := by
    rw [List.filter_eq_nil_iff]
    intro r hr
    obtain ⟨_, _, rfl⟩ := List.mem_map.mp hr
    simp
  have hpending : (s.pending.map fun m => (m, Fate.lost)).filter
      (fun r => r.2 = .survived) = [] := by
    simp [List.filter_eq_nil_iff]
  unfold fates
  rw [List.filter_append, List.filter_append, hsettled, hpending]
  cases s.phase <;> simp

section Durability

variable [Sha256]

/-! ## Restarts -/

def Server.step (w : Server) : Happening → Option Server
  | .boot persisted =>
      match w.live, w.disk, persisted with
      | some _, _, _ => none
      | none, none, false => some w
      | none, disk, _ => (initializeStore disk).map fun s => { w with live := some s }
  | .crash => w.live.map fun s => { disk := s.file, live := none, log := w.log ++ fates s }
  | .work event => do
      let s ← w.live
      let t ← EpochStore.step s event
      return { w with live := some t }

/-- What happens to a server: a process starts or it cannot, it stops, or it goes on. -/
theorem step_cases {e : Happening} (h : w.step e = some w') :
    (∃ persisted, e = .boot persisted ∧ w.live = none ∧
      (w' = w ∨ ∃ s, initializeStore w.disk = some s ∧ w' = { w with live := some s })) ∨
    (∃ s, e = .crash ∧ w.live = some s ∧
      w' = { disk := s.file, live := none, log := w.log ++ fates s }) ∨
    ∃ event s t, e = .work event ∧ w.live = some s ∧ EpochStore.step s event = some t ∧
      w' = { w with live := some t } := by
  cases e with
  | boot persisted =>
    left
    cases hlive : w.live with
    | some s => simp [Server.step, hlive] at h
    | none =>
      refine ⟨persisted, rfl, rfl, ?_⟩
      cases hdisk : w.disk <;> cases persisted <;>
        simp [Server.step, hlive, hdisk, eq_comm] at h ⊢ <;> simp [h]
  | crash =>
    right; left
    cases hs : w.live with
    | none => simp [Server.step, hs] at h
    | some s => exact ⟨s, rfl, rfl, by simpa [Server.step, hs, eq_comm] using h⟩
  | work event =>
    right; right
    cases hs : w.live with
    | none => simp [Server.step, hs] at h
    | some s =>
      obtain ⟨t, ht, rfl⟩ : ∃ t, EpochStore.step s event = some t ∧
          { w with live := some t } = w' := by
        simpa [Server.step, hs, Option.bind_eq_some_iff] using h
      exact ⟨event, s, t, rfl, rfl, ht, rfl⟩

/-! ## What is on the disk -/

theorem fold_append {rest : List Mutation} (h : fold first mutations = some database) :
    fold first (mutations ++ rest) = fold database rest := by
  unfold fold at h ⊢
  rw [List.foldlM_append, h]
  rfl

theorem fold_cons {m : Mutation} {rest : List Mutation} :
    fold first (m :: rest) = some database ↔
      ∃ next, m.apply first = some next ∧ fold next rest = some database := by
  simp [fold, Option.bind_eq_some_iff]

theorem fold_parses (hfirst : first.parses) (h : fold first mutations = some database) :
    database.parses := by
  induction mutations generalizing first with
  | nil =>
    obtain rfl : first = database := by simpa [fold] using h
    exact hfirst
  | cons m rest ih =>
    obtain ⟨next, hnext, hrest⟩ := fold_cons.mp h
    exact ih (History.apply_revision hnext).2 hrest

theorem fold_revision (h : fold first mutations = some database) :
    database.snapshotRevision = first.snapshotRevision + mutations.length := by
  induction mutations generalizing first with
  | nil =>
    obtain rfl : first = database := by simpa [fold] using h
    rfl
  | cons m rest ih =>
    obtain ⟨next, hnext, hrest⟩ := fold_cons.mp h
    rw [ih hrest, (History.apply_revision hnext).1, List.length_cons]
    omega

/-- The file that a process leaves is what its calls have made of the first one. -/
theorem file_of_inv (h : Inv first s) :
    ∃ database, s.file = some database ∧ fold first (applied (fates s)) = some database := by
  have hfold := h.history.fold_resolved
  have hphase := h.phase
  unfold fates
  simp only [applied_append, applied_settled, applied_lost, List.append_nil, fold_append hfold]
  unfold PhaseInv at hphase
  cases hs : s.phase with
  | idle =>
    rw [hs] at hphase
    exact ⟨s.memory, hphase, rfl⟩
  | running | writing | replacing =>
    rw [hs] at hphase
    exact ⟨s.memory, hphase.1, rfl⟩
  | publishing m validated =>
    rw [hs] at hphase
    refine ⟨s.heap validated, hphase.1, ?_⟩
    show fold s.memory [m] = _
    exact fold_cons.mpr ⟨_, hphase.2.2, rfl⟩

/-- What the calls that were applied have made of an empty database is on the disk,
or was there when the process began. -/
def Durable (w : Server) : Prop :=
  ∃ database, fold emptyEpochDatabase (applied w.log) = some database ∧
    match w.live with
    | none => w.disk = some database ∨ w.disk = none ∧ applied w.log = []
    | some s => Inv database s

theorem emptyEpochDatabase_parses : emptyEpochDatabase.parses := by
  simp [EpochDatabase.parses, emptyEpochDatabase, emptyWorld]

theorem initializeStore_eq_some (h : initializeStore w.disk = some s) :
    ∃ database, s = initial database := by
  unfold initializeStore at h
  split at h
  · split at h
    · exact ⟨_, (Option.some.inj h).symm⟩
    · exact absurd h (by simp)
  · exact ⟨_, (Option.some.inj h).symm⟩

/-- A file is always there to be read, or there has been nothing to keep. -/
theorem Durable.boots (h : Durable w) (hlive : w.live = none) :
    ∃ database, fold emptyEpochDatabase (applied w.log) = some database ∧
      initializeStore w.disk = some (initial database) := by
  obtain ⟨database, hfold, hdisk⟩ := h
  rw [hlive] at hdisk
  refine ⟨database, hfold, ?_⟩
  rcases hdisk with hdisk | ⟨hdisk, hnothing⟩
  · rw [hdisk]
    exact if_pos (fold_parses emptyEpochDatabase_parses hfold)
  · rw [hnothing] at hfold
    rw [hdisk, ← Option.some.inj hfold]
    rfl

theorem durable_step {e : Happening} (h : Durable w) (hstep : w.step e = some w') :
    Durable w' := by
  rcases step_cases hstep with ⟨_, -, hlive, rfl | ⟨s, hs, rfl⟩⟩ | ⟨s, -, hlive, rfl⟩ |
    ⟨event, s, t, -, hlive, ht, rfl⟩
  · exact h
  · obtain ⟨database, hfold, hboots⟩ := h.boots hlive
    obtain rfl := Option.some.inj (hs.symm.trans hboots)
    exact ⟨database, hfold, inv_initial⟩
  · obtain ⟨database, hfold, hinv⟩ := h
    rw [hlive] at hinv
    obtain ⟨left, hfile, hleft⟩ := file_of_inv hinv
    refine ⟨left, ?_, .inl hfile⟩
    rw [applied_append, fold_append hfold, hleft]
  · obtain ⟨database, hfold, hinv⟩ := h
    rw [hlive] at hinv
    exact ⟨database, hfold, inv_step hinv ht⟩

theorem durable_fresh : Durable fresh := ⟨emptyEpochDatabase, rfl, .inr ⟨rfl, rfl⟩⟩

/-! ## The calls of every process -/

/-- The calls of `mutate` among what happens. -/
def allCalls (happenings : List Happening) : List Mutation :=
  happenings.flatMap fun e =>
    match e with
    | .work event => calls [event]
    | _ => []

omit [Sha256] in
/-- The calls of the processes before, and of the one that is there. -/
def Server.called (w : Server) : List Mutation :=
  w.log.map Prod.fst ++ (w.live.map State.queued).getD []

theorem called_step {e : Happening} (hstep : w.step e = some w') :
    w'.called = w.called ++ allCalls [e] := by
  unfold Server.called
  rcases step_cases hstep with ⟨_, rfl, hlive, rfl | ⟨s, hs, rfl⟩⟩ | ⟨s, rfl, hlive, rfl⟩ |
    ⟨event, s, t, rfl, hlive, ht, rfl⟩
  · simp [hlive, allCalls]
  · obtain ⟨database, rfl⟩ := initializeStore_eq_some hs
    simp [hlive, allCalls, initial, State.queued]
  · simp [hlive, allCalls, fates_calls]
  · simp [hlive, allCalls, queued_step ht]

/-- The calls that were published and not acknowledged. -/
def survivors (log : List (Mutation × Fate)) : Nat := (log.filter fun r => r.2 = .survived).length

theorem survivors_step {e : Happening} (hstep : w.step e = some w') :
    survivors w'.log ≤ survivors w.log + ([e].filter Happening.isCrash).length := by
  rcases step_cases hstep with ⟨_, rfl, -, rfl | ⟨s, -, rfl⟩⟩ | ⟨s, rfl, -, rfl⟩ |
    ⟨event, s, t, rfl, -, -, rfl⟩
  · exact Nat.le_add_right ..
  · exact Nat.le_add_right ..
  · have hone := fates_survived s
    have hcrash : ([Happening.crash].filter Happening.isCrash).length = 1 := rfl
    simp only [survivors, List.filter_append, List.length_append]
    omega
  · exact Nat.le_add_right ..

/-- What has happened up to a state. -/
structure Lived (happenings : List Happening) (w : Server) : Prop where
  durable : Durable w
  called : w.called = allCalls happenings
  survivors : survivors w.log ≤ (happenings.filter Happening.isCrash).length

theorem lived_run {before happenings : List Happening} (hw : Lived before w)
    (h : run Server.step w happenings = some w') : Lived (before ++ happenings) w' := by
  induction happenings generalizing before w with
  | nil =>
    rw [run_nil] at h
    rwa [← h, List.append_nil]
  | cons e rest ih =>
    obtain ⟨m, hm, hrest⟩ := run_cons.mp h
    rw [List.append_cons]
    apply ih _ hrest
    constructor
    · exact durable_step hw.durable hm
    · rw [called_step hm, hw.called]
      simp [allCalls]
    · have hone := survivors_step hm
      have hbefore := hw.survivors
      rw [List.filter_append, List.length_append]
      omega

/-- Crashes at any point, in any number of processes, each reading the file of the
one before. Every call has one fate, in the order of the calls; the ones that were
applied are those whose promise resolved, and for each crash at most one more. The
database in memory, or the one that the next process comes up with, is what they
have made of an empty database, and its revision counts them. -/
theorem restarts_durable {happenings : List Happening}
    (h : run Server.step fresh happenings = some w) :
    w.called = allCalls happenings ∧
      survivors w.log ≤ (happenings.filter Happening.isCrash).length ∧
      ∃ database,
        fold emptyEpochDatabase
          (applied w.log ++ (w.live.map fun s => resolvedOf s.settled).getD []) =
          some database ∧
        database.snapshotRevision = (applied w.log).length +
          ((w.live.map fun s => resolvedOf s.settled).getD []).length ∧
        match w.live with
        | some s => s.memory = database
        | none => w.step (.boot true) = some { w with live := some (initial database) } := by
  have hfresh : Lived [] fresh := ⟨durable_fresh, rfl, Nat.zero_le _⟩
  have hlived := lived_run hfresh h
  rw [List.nil_append] at hlived
  refine ⟨hlived.called, hlived.survivors, ?_⟩
  cases hlive : w.live with
  | none =>
    obtain ⟨database, hfold, hboots⟩ := hlived.durable.boots hlive
    refine ⟨database, by simpa using hfold, ?_, ?_⟩
    · have hrevision := fold_revision hfold
      simpa [emptyEpochDatabase] using hrevision
    · cases hdisk : w.disk <;> rw [hdisk] at hboots <;> simp [Server.step, hlive, hdisk, hboots]
  | some s =>
    obtain ⟨first, hfold, hinv⟩ := hlived.durable
    rw [hlive] at hinv
    have hmemory := hinv.history.fold_resolved
    have hall := (fold_append hfold).trans hmemory
    refine ⟨s.memory, hall, ?_, rfl⟩
    have hrevision := fold_revision hall
    simpa [emptyEpochDatabase] using hrevision

end Durability

namespace RestartSample

open Sample (setHead)

scoped instance : Sha256 := Sha256.standard

/-- A process that could not make its file, one that is stopped between the
replacement of the file and its answer, and one that answers. -/
def happenings : List Happening :=
  [.boot false, .boot true, .work (.mutate (setHead 7 40)), .work (.mutate (setHead 8 40)),
    .work .start, .work .callback, .work (.write true), .work (.rename true), .crash,
    .boot true, .work (.mutate (setHead 9 50)), .work .start, .work .callback,
    .work (.write true), .work (.rename true), .work .publish, .crash]

theorem happens : (run Server.step fresh happenings).isSome := by
  rfl

def last : Server := (run Server.step fresh happenings).get happens

end RestartSample

open RestartSample in
/-- The first call was kept, though nobody was told; the second was lost. -/
theorem restarts_durable_sample : ∃ database,
    last.step (.boot true) = some { last with live := some (initial database) } ∧
      database.snapshotRevision = 2 ∧ last.log.map Prod.snd =
        [.survived, .lost, .settled .resolved] := by
  obtain ⟨-, -, database, -, hrevision, hboots⟩ := restarts_durable
    (show run Server.step fresh happenings = some last from (Option.some_get happens).symm)
  exact ⟨database, hboots, hrevision, rfl⟩

end EpochStore

end EpochGuard
