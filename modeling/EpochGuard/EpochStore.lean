import EpochGuard.Records
import EpochGuard.Lib.Runs
import Mathlib.Logic.Function.Basic

/-!
# The store

`epoch-store.ts`: one database in memory and in one file, changed by callbacks
that a queue of promises runs one after another. Objects are cells of a heap:
`structuredClone` and the schema's `parse` allocate a new cell, and a caller
that holds an object may modify it at any time. A file is represented by the
database whose text it holds, if it holds one.
-/

namespace EpochGuard

open Json Checked Runs

namespace EpochStore

abbrev Ref := Nat

/-- A call of `mutate`. The callback leaves something in the object it gets, or
throws. A callback may be asynchronous: what it leaves is what its object holds when
its promise resolves. -/
structure Mutation where
  callback : EpochDatabase → Option EpochDatabase

/-- How the promise of a call settles: it resolves, or it is rejected because
the callback throws, the database is invalid, or the file is not replaced. -/
inductive Outcome where
  | resolved | threw | invalid | notPersisted
deriving DecidableEq, Repr

/-- Where the operation at the head of the queue is. -/
inductive Phase where
  | idle
  | running (mutation : Mutation) (next : Ref)
  | writing (mutation : Mutation) (validated : Ref) (text : EpochDatabase)
  | replacing (mutation : Mutation) (validated : Ref)
  | publishing (mutation : Mutation) (validated : Ref)

/-- The store with its queue. Databases are objects on a heap, so that a caller
that keeps one can change it later; `handedOut` are the objects that some caller
may hold, and `data` is the store's own. -/
structure State where
  heap : Ref → EpochDatabase
  free : Ref
  data : Ref
  handedOut : List Ref
  file : Option EpochDatabase
  temporary : Option EpochDatabase
  phase : Phase
  pending : List Mutation
  settled : List (Mutation × Outcome)

/-- `ok` says whether a file operation succeeds. `callback` is the whole of a callback
and ends when the store reads the object it was given: the store awaits the callback and
goes on in a later microtask, and what the object holds at that moment is what the
mutation has left. A modification that comes after the read is a `modify`. -/
inductive Event where
  | mutate (mutation : Mutation)
  | snapshot
  | modify (object : Ref) (value : EpochDatabase)
  | start
  | callback
  | write (ok : Bool)
  | rename (ok : Bool)
  | publish

namespace State

/-- A new cell, which is the one at `free`. -/
def alloc (s : State) (value : EpochDatabase) : State :=
  { s with heap := Function.update s.heap s.free value, free := s.free + 1 }

/-- The promise of a mutation resolves or rejects. -/
def settle (s : State) (mutation : Mutation) (outcome : Outcome) : State :=
  { s with phase := .idle, settled := s.settled ++ [(mutation, outcome)] }

/-- The database in memory. -/
def memory (s : State) : EpochDatabase := s.heap s.data

variable {s : State} {object : Ref} {value : EpochDatabase}

theorem memory_alloc (h : s.data < s.free) (value : EpochDatabase) :
    (s.alloc value).memory = s.memory := by
  simp [alloc, memory, Function.update_of_ne (Nat.ne_of_lt h)]

@[simp] theorem heap_alloc_free : (s.alloc value).heap s.free = value := by
  simp [alloc]

theorem heap_alloc_of_lt (h : object < s.free) : (s.alloc value).heap object = s.heap object := by
  simp [alloc, Function.update_of_ne (Nat.ne_of_lt h)]

end State

/-- A store with a database in memory and in its file. -/
def initial (database : EpochDatabase) : State where
  heap := fun _ => database
  free := 1
  data := 0
  handedOut := []
  file := some database
  temporary := none
  phase := .idle
  pending := []
  settled := []

/-- The mutations whose promise resolved. -/
def resolvedOf (log : List (Mutation × Outcome)) : List Mutation :=
  (log.filter fun r => r.2 = .resolved).map Prod.fst

@[simp] theorem resolvedOf_append {log : List (Mutation × Outcome)} {mutation : Mutation}
    {outcome : Outcome} : resolvedOf (log ++ [(mutation, outcome)]) =
      resolvedOf log ++ if outcome = .resolved then [mutation] else [] := by
  by_cases h : outcome = .resolved <;> simp [resolvedOf, h]

section Store

variable [Sha256]

/-- `initialize`: the state after reading the file, or after creating it. -/
def initializeStore (file : Option EpochDatabase) : Option State :=
  match file with
  | some database => if database.parses then some (initial database) else none
  | none => some (initial emptyEpochDatabase)

/-- The store, not the caller, owns the revision. -/
def stamp (next : EpochDatabase) (data : EpochDatabase) : EpochDatabase :=
  { next with snapshotRevision := data.snapshotRevision + 1 }

/-- The operation after its callback, which may throw, leave a database that the
schema refuses, or leave one to write. The caller keeps the object it got; what
is written is a new one. -/
def runCallback (s : State) (mutation : Mutation) (next : Ref) : State :=
  let held := { s with handedOut := next :: s.handedOut }
  match mutation.callback (s.heap next) with
  | none => held.settle mutation .threw
  | some left =>
      let stamped := stamp left s.memory
      let written := { held with heap := Function.update held.heap next stamped }
      if stamped.parses then
        { written.alloc stamped with phase := .writing mutation s.free stamped }
      else written.settle mutation .invalid

def step (s : State) : Event → Option State
  | .mutate mutation => some { s with pending := s.pending ++ [mutation] }
  | .snapshot => some { s.alloc s.memory with handedOut := s.free :: s.handedOut }
  | .modify object value =>
      if object ∈ s.handedOut then some { s with heap := Function.update s.heap object value }
      else none
  | .start =>
      match s.phase, s.pending with
      | .idle, mutation :: rest =>
          some { s.alloc s.memory with phase := .running mutation s.free, pending := rest }
      | _, _ => none
  | .callback =>
      match s.phase with
      | .running mutation next => some (runCallback s mutation next)
      | _ => none
  | .write ok =>
      match s.phase with
      | .writing mutation validated text =>
          if ok then
            some { s with temporary := some text, phase := .replacing mutation validated }
          -- a partial text may be left, but nothing reads it
          else some ({ s with temporary := none }.settle mutation .notPersisted)
      | _ => none
  | .rename ok =>
      match s.phase with
      | .replacing mutation validated =>
          if ok then
            some { s with
              file := s.temporary, temporary := none, phase := .publishing mutation validated }
          else some (s.settle mutation .notPersisted)
      | _ => none
  | .publish =>
      match s.phase with
      | .publishing mutation validated =>
          some ({ s.alloc (s.heap validated) with data := s.free }.settle mutation .resolved)
      | _ => none

/-! ## What a mutation does as one step -/

/-- The database that a mutation leaves, if its callback returns and leaves a valid
one. This is the abstract reading of a mutation, a partial function of databases: where
it is undefined the store rejects the call and nothing is published, and where it is
defined the file and the memory hold its value when the promise resolves. -/
def Mutation.apply (mutation : Mutation) (database : EpochDatabase) : Option EpochDatabase := do
  let left ← mutation.callback database
  if (stamp left database).parses then some (stamp left database) else none

/-- A sequence of settled mutations, with the database before it and after it:
each one that resolved was applied, and every other one did nothing. -/
inductive History (first : EpochDatabase) : List (Mutation × Outcome) → EpochDatabase → Prop where
  | nil : History first [] first
  | resolved {log database mutation next} : History first log database →
      mutation.apply database = some next →
      History first (log ++ [(mutation, .resolved)]) next
  | threw {log database mutation} : History first log database →
      mutation.callback database = none →
      History first (log ++ [(mutation, .threw)]) database
  | invalid {log database mutation left} : History first log database →
      mutation.callback database = some left → ¬ (stamp left database).parses →
      History first (log ++ [(mutation, .invalid)]) database
  | notPersisted {log database mutation next} : History first log database →
      mutation.apply database = some next →
      History first (log ++ [(mutation, .notPersisted)]) database

/-- The mutations applied one after another, if all of them apply. -/
def fold (first : EpochDatabase) (mutations : List Mutation) : Option EpochDatabase :=
  mutations.foldlM (fun database mutation => mutation.apply database) first

namespace History

variable {first database : EpochDatabase} {log : List (Mutation × Outcome)}

theorem fold_resolved (h : History first log database) :
    fold first (resolvedOf log) = some database := by
  induction h with
  | nil => simp [resolvedOf, fold]
  | resolved _ happly ih =>
      simp only [resolvedOf_append, if_true, fold, List.foldlM_append] at ih ⊢
      simp [ih, happly]
  | threw | invalid | notPersisted => simpa

theorem apply_revision {mutation : Mutation} {next : EpochDatabase}
    (h : mutation.apply database = some next) :
    next.snapshotRevision = database.snapshotRevision + 1 ∧ next.parses := by
  simp only [Mutation.apply, Option.bind_eq_bind, Option.bind_eq_some_iff] at h
  obtain ⟨left, -, h⟩ := h
  split at h
  · rename_i hparses
    cases h
    exact ⟨rfl, hparses⟩
  · cases h

theorem revision (h : History first log database) :
    database.snapshotRevision = first.snapshotRevision + (resolvedOf log).length := by
  induction h with
  | nil => simp [resolvedOf]
  | resolved _ happly ih =>
      rw [(apply_revision happly).1, ih]
      simp [Nat.add_assoc]
  | threw | invalid | notPersisted => simpa

end History

/-! ## The invariant -/

namespace State

/-- Mutations in the order of their calls. -/
def queued (s : State) : List Mutation :=
  s.settled.map Prod.fst ++
    (match s.phase with
      | .idle => []
      | .running m _ | .writing m _ _ | .replacing m _ | .publishing m _ => [m]) ++
    s.pending

/-- A cell that only the store holds, apart from its data. -/
structure Owned (s : State) (object : Ref) : Prop where
  allocated : object < s.free
  private' : object ∉ s.handedOut
  notData : object ≠ s.data

end State

/-- What is known of the operation under way, and of the file: up to the rename
the file holds what memory holds, and after it what memory is about to hold. -/
def PhaseInv (s : State) : Prop :=
  match s.phase with
  | .idle => s.file = some s.memory
  | .running _ next => s.file = some s.memory ∧ s.Owned next ∧ s.heap next = s.memory
  | .writing mutation validated text =>
      s.file = some s.memory ∧ s.Owned validated ∧ s.heap validated = text ∧
        mutation.apply s.memory = some text
  | .replacing mutation validated =>
      s.file = some s.memory ∧ s.Owned validated ∧ s.temporary = some (s.heap validated) ∧
        mutation.apply s.memory = some (s.heap validated)
  | .publishing mutation validated =>
      s.file = some (s.heap validated) ∧ s.Owned validated ∧
        mutation.apply s.memory = some (s.heap validated)

/-- What every state of a store satisfies: no object that was handed out is the
one that the store keeps, memory is what the resolved mutations made of the
first database, in their order, and the file is where the phase has it. -/
structure Inv (first : EpochDatabase) (s : State) : Prop where
  allocated : ∀ object ∈ s.handedOut, object < s.free
  dataAllocated : s.data < s.free
  dataPrivate : s.data ∉ s.handedOut
  history : History first s.settled s.memory
  phase : PhaseInv s

/-! ## New cells and modified cells -/

/-- `PhaseInv` reads the data, the file, and one cell that only the store holds. -/
theorem PhaseInv.congr {s t : State} (h : PhaseInv s) (hphase : t.phase = s.phase)
    (hdata : t.memory = s.memory) (hfile : t.file = s.file)
    (htemporary : t.temporary = s.temporary)
    (howned : ∀ r, s.Owned r → t.Owned r ∧ t.heap r = s.heap r) : PhaseInv t := by
  unfold PhaseInv at h ⊢
  rw [hphase, hdata, hfile, htemporary]
  match s.phase, h with
  | .idle, h => exact h
  | .running _ next, ⟨hf, ho, hn⟩ => exact ⟨hf, (howned _ ho).1, (howned _ ho).2.trans hn⟩
  | .writing _ validated _, ⟨hf, ho, hv, ha⟩ =>
      exact ⟨hf, (howned _ ho).1, (howned _ ho).2.trans hv, ha⟩
  | .replacing _ validated, ⟨hf, ho, ht, ha⟩ =>
      simp only [(howned _ ho).2]
      exact ⟨hf, (howned _ ho).1, ht, ha⟩
  | .publishing _ validated, ⟨hf, ho, ha⟩ =>
      simp only [(howned _ ho).2]
      exact ⟨hf, (howned _ ho).1, ha⟩

variable {first : EpochDatabase} {s t : State}

theorem inv_initial : Inv first (initial first) where
  allocated := by simp [initial]
  dataAllocated := by simp [initial]
  dataPrivate := by simp [initial]
  history := .nil
  phase := rfl

/-- A new cell, handed out or not, changes nothing that the store reads. -/
theorem Inv.alloc (h : Inv first s) (value : EpochDatabase) : Inv first (s.alloc value) where
  allocated := fun object hobject => Nat.lt_succ_of_lt (h.allocated object hobject)
  dataAllocated := Nat.lt_succ_of_lt h.dataAllocated
  dataPrivate := h.dataPrivate
  history := by
    rw [State.memory_alloc h.dataAllocated]
    exact h.history
  phase := by
    refine h.phase.congr rfl (State.memory_alloc h.dataAllocated _) rfl rfl ?_
    intro r hr
    exact ⟨⟨Nat.lt_succ_of_lt hr.allocated, hr.private', hr.notData⟩,
      State.heap_alloc_of_lt hr.allocated⟩

theorem Inv.snapshot (h : Inv first s) :
    Inv first { s.alloc s.memory with handedOut := s.free :: s.handedOut } := by
  have ha := h.alloc s.memory
  refine { ha with allocated := ?_, dataPrivate := ?_, phase := ?_ }
  · intro object hobject
    rcases List.mem_cons.mp hobject with rfl | hold
    · exact Nat.lt_succ_self _
    · exact ha.allocated object hold
  · intro hmem
    rcases List.mem_cons.mp hmem with heq | hold
    · exact Nat.ne_of_lt h.dataAllocated heq
    · exact h.dataPrivate hold
  · refine h.phase.congr rfl (State.memory_alloc h.dataAllocated _) rfl rfl ?_
    intro r hr
    refine ⟨⟨Nat.lt_succ_of_lt hr.allocated, ?_, hr.notData⟩, State.heap_alloc_of_lt hr.allocated⟩
    intro hmem
    rcases List.mem_cons.mp hmem with heq | hold
    · exact Nat.ne_of_lt hr.allocated heq
    · exact hr.private' hold

/-- A modification of an object that was handed out does not reach the data. -/
theorem memory_modify (h : Inv first s) {object : Ref} (hobject : object ∈ s.handedOut)
    (value : EpochDatabase) :
    State.memory { s with heap := Function.update s.heap object value } = s.memory := by
  have hne : s.data ≠ object := fun heq => h.dataPrivate (heq ▸ hobject)
  simp [State.memory, Function.update_of_ne hne]

theorem Inv.modify (h : Inv first s) {object : Ref} (hobject : object ∈ s.handedOut)
    (value : EpochDatabase) :
    Inv first { s with heap := Function.update s.heap object value } where
  allocated := h.allocated
  dataAllocated := h.dataAllocated
  dataPrivate := h.dataPrivate
  history := by
    rw [memory_modify h hobject value]
    exact h.history
  phase := by
    refine h.phase.congr rfl (memory_modify h hobject value) rfl rfl ?_
    intro r hr
    have hne : r ≠ object := fun heq => hr.private' (heq ▸ hobject)
    exact ⟨⟨hr.allocated, hr.private', hr.notData⟩, by simp [Function.update_of_ne hne]⟩

/-! ## Each step keeps it -/

theorem Inv.start (h : Inv first s) {mutation : Mutation} {rest : List Mutation}
    (hphase : s.phase = .idle) :
    Inv first { s.alloc s.memory with phase := .running mutation s.free, pending := rest } := by
  refine { h.alloc s.memory with phase := ?_ }
  have hfile : s.file = some s.memory := by simpa [PhaseInv, hphase] using h.phase
  refine ⟨?_, ⟨Nat.lt_succ_self _, ?_, ?_⟩, ?_⟩
  · exact hfile.trans (congrArg some (State.memory_alloc h.dataAllocated _).symm)
  · intro hmem
    exact Nat.lt_irrefl _ (h.allocated _ hmem)
  · exact (Nat.ne_of_lt h.dataAllocated).symm
  · exact State.heap_alloc_free.trans (State.memory_alloc h.dataAllocated _).symm

/-- Once its callback is done, an operation is between two operations, with its
object in the hands of the caller. -/
theorem Inv.handBack (h : Inv first s) {mutation : Mutation} {next : Ref}
    (hphase : s.phase = .running mutation next) :
    Inv first { s with phase := .idle, handedOut := next :: s.handedOut } := by
  have hrunning : s.file = some s.memory ∧ s.Owned next ∧ s.heap next = s.memory := by
    simpa [PhaseInv, hphase] using h.phase
  obtain ⟨hfile, howned, -⟩ := hrunning
  refine { h with allocated := ?_, dataPrivate := ?_, phase := hfile }
  · intro object hobject
    rcases List.mem_cons.mp hobject with rfl | hold
    · exact howned.allocated
    · exact h.allocated object hold
  · intro hmem
    rcases List.mem_cons.mp hmem with heq | hold
    · exact howned.notData heq.symm
    · exact h.dataPrivate hold

theorem Inv.settle (h : Inv first s) {mutation : Mutation} {outcome : Outcome}
    (hfile : s.file = some s.memory)
    (hlog : History first (s.settled ++ [(mutation, outcome)]) s.memory) :
    Inv first (s.settle mutation outcome) :=
  { h with history := hlog, phase := hfile }

theorem Inv.runCallback (h : Inv first s) {mutation : Mutation} {next : Ref}
    (hphase : s.phase = .running mutation next) :
    Inv first (runCallback s mutation next) := by
  have hrunning : s.file = some s.memory ∧ s.Owned next ∧ s.heap next = s.memory := by
    simpa [PhaseInv, hphase] using h.phase
  obtain ⟨hfile, howned, hclone⟩ := hrunning
  have hback := h.handBack hphase
  unfold EpochStore.runCallback
  rw [hclone]
  split
  · rename_i hthrew
    exact hback.settle hfile (.threw h.history hthrew)
  · rename_i left hleft
    have hheld : next ∈ next :: s.handedOut := List.mem_cons_self
    have hwritten := hback.modify hheld (stamp left s.memory)
    have hmemory := memory_modify hback hheld (stamp left s.memory)
    by_cases hparses : (stamp left s.memory).parses
    · simp only [hparses, if_true]
      have hcell := hwritten.alloc (stamp left s.memory)
      have halloc := State.memory_alloc hwritten.dataAllocated (stamp left s.memory)
      refine { hcell with phase := ⟨?_, ⟨Nat.lt_succ_self _, ?_, ?_⟩, ?_, ?_⟩ }
      · exact hfile.trans (congrArg some (halloc.trans hmemory).symm)
      · intro hmem
        exact Nat.lt_irrefl _ (hback.allocated _ hmem)
      · exact (Nat.ne_of_lt h.dataAllocated).symm
      · simp [State.alloc]
      · refine (congrArg mutation.apply (halloc.trans hmemory)).trans ?_
        show mutation.apply s.memory = some (stamp left s.memory)
        simp [Mutation.apply, hleft, hparses]
    · simp only [hparses, if_false]
      refine hwritten.settle (hfile.trans (congrArg some hmemory.symm)) ?_
      rw [hmemory]
      exact .invalid h.history hleft hparses

theorem Inv.write (h : Inv first s) {mutation : Mutation} {validated : Ref}
    {text : EpochDatabase} (hphase : s.phase = .writing mutation validated text) (ok : Bool)
    (hstep : step s (.write ok) = some t) : Inv first t := by
  have hwriting : s.file = some s.memory ∧ s.Owned validated ∧ s.heap validated = text ∧
      mutation.apply s.memory = some text := by
    simpa [PhaseInv, hphase] using h.phase
  obtain ⟨hfile, howned, rfl, happly⟩ := hwriting
  simp only [step, hphase] at hstep
  cases ok with
  | true =>
      cases hstep
      exact { h with phase := ⟨hfile, ⟨howned.1, howned.2, howned.3⟩, rfl, happly⟩ }
  | false =>
      cases hstep
      exact { h with history := .notPersisted h.history happly, phase := hfile }

theorem Inv.rename (h : Inv first s) {mutation : Mutation} {validated : Ref}
    (hphase : s.phase = .replacing mutation validated) (ok : Bool)
    (hstep : step s (.rename ok) = some t) : Inv first t := by
  have hreplacing : s.file = some s.memory ∧ s.Owned validated ∧
      s.temporary = some (s.heap validated) ∧
      mutation.apply s.memory = some (s.heap validated) := by
    simpa [PhaseInv, hphase] using h.phase
  obtain ⟨hfile, howned, htemporary, happly⟩ := hreplacing
  simp only [step, hphase] at hstep
  cases ok with
  | true =>
      cases hstep
      exact { h with phase := ⟨htemporary, ⟨howned.1, howned.2, howned.3⟩, happly⟩ }
  | false =>
      cases hstep
      exact h.settle hfile (.notPersisted h.history happly)

theorem Inv.publish (h : Inv first s) {mutation : Mutation} {validated : Ref}
    (hphase : s.phase = .publishing mutation validated)
    (hstep : step s .publish = some t) : Inv first t := by
  have hpublishing : s.file = some (s.heap validated) ∧ s.Owned validated ∧
      mutation.apply s.memory = some (s.heap validated) := by
    simpa [PhaseInv, hphase] using h.phase
  obtain ⟨hfile, howned, happly⟩ := hpublishing
  simp only [step, hphase, Option.some.injEq] at hstep
  subst hstep
  have hcell := h.alloc (s.heap validated)
  -- the new data is the cell that was just allocated
  have hmemory : State.memory { s.alloc (s.heap validated) with data := s.free } =
      s.heap validated := State.heap_alloc_free
  refine { hcell with dataAllocated := Nat.lt_succ_self _, dataPrivate := ?_, history := ?_,
                      phase := ?_ }
  · intro hmem
    exact Nat.lt_irrefl _ (h.allocated _ hmem)
  · exact (congrArg _ hmemory).mpr (.resolved h.history happly)
  · exact hfile.trans (congrArg some hmemory.symm)

/-- What one event keeps. -/
theorem inv_step (h : Inv first s) {event : Event} (hstep : step s event = some t) :
    Inv first t := by
  cases event with
  | mutate mutation =>
      cases hstep
      exact { h with phase := h.phase.congr rfl rfl rfl rfl fun r hr => ⟨⟨hr.1, hr.2, hr.3⟩, rfl⟩ }
  | snapshot =>
      cases hstep
      exact h.snapshot
  | modify object value =>
      simp only [step] at hstep
      split at hstep
      · rename_i hobject
        cases hstep
        exact h.modify hobject value
      · cases hstep
  | start =>
      simp only [step] at hstep
      split at hstep
      · rename_i hphase _
        cases hstep
        exact h.start hphase
      · cases hstep
  | callback =>
      simp only [step] at hstep
      split at hstep
      · rename_i hphase
        cases hstep
        exact h.runCallback hphase
      · cases hstep
  | write ok =>
      have hcopy := hstep
      simp only [step] at hcopy
      split at hcopy
      · rename_i hphase
        exact h.write hphase ok hstep
      · cases hcopy
  | rename ok =>
      have hcopy := hstep
      simp only [step] at hcopy
      split at hcopy
      · rename_i hphase
        exact h.rename hphase ok hstep
      · cases hcopy
  | publish =>
      have hcopy := hstep
      simp only [step] at hcopy
      split at hcopy
      · rename_i hphase
        exact h.publish hphase hstep
      · cases hcopy

/-- Whatever the callers do, and whatever fails. -/
theorem inv_run {events : List Event} (h : run step (initial first) events = some t) :
    Inv first t :=
  run_induction (fun _ _ _ hs hstep => inv_step hs hstep) inv_initial h

/-! ## Order, progress, and the whole contract -/

/-- The calls of `mutate` among the events. -/
def calls (events : List Event) : List Mutation :=
  events.filterMap fun event =>
    match event with
    | .mutate mutation => some mutation
    | _ => none

theorem queued_step {event : Event} (hstep : step s event = some t) :
    t.queued = s.queued ++ calls [event] := by
  cases event with
  | mutate mutation | snapshot =>
      cases hstep
      simp [State.queued, State.alloc, calls]
  | modify object value =>
      simp only [step] at hstep
      split at hstep <;> cases hstep
      simp [State.queued, calls]
  | start =>
      simp only [step] at hstep
      split at hstep <;> cases hstep
      rename_i hphase hpending
      simp [State.queued, State.alloc, calls, hphase, hpending]
  | callback =>
      simp only [step] at hstep
      split at hstep <;> cases hstep
      rename_i hphase
      unfold runCallback
      split
      · simp [State.queued, State.settle, calls, hphase]
      · dsimp only
        split <;> simp [State.queued, State.settle, State.alloc, calls, hphase]
  | write ok =>
      simp only [step] at hstep
      split at hstep <;> cases ok <;> cases hstep <;> rename_i hphase <;>
        simp [State.queued, State.settle, calls, hphase]
  | rename ok =>
      simp only [step] at hstep
      split at hstep <;> cases ok <;> cases hstep <;> rename_i hphase <;>
        simp [State.queued, State.settle, calls, hphase]
  | publish =>
      simp only [step] at hstep
      split at hstep <;> cases hstep
      rename_i hphase
      simp [State.queued, State.settle, State.alloc, calls, hphase]

theorem queued_run {events : List Event} (h : run step s events = some t) :
    t.queued = s.queued ++ calls events := by
  induction events generalizing s with
  | nil =>
      rw [run_nil] at h
      simp [h, calls]
  | cons event events ih =>
      obtain ⟨m, hm, hrest⟩ := run_cons.mp h
      rw [ih hrest, queued_step hm, List.append_assoc]
      cases event <;> rfl

/-- The store's own events, as opposed to those of its callers. -/
def Event.isInternal : Event → Prop
  | .mutate _ | .snapshot | .modify .. => False
  | .start | .callback | .write _ | .rename _ | .publish => True

/-- Nothing is under way or waiting. -/
def State.atRest (s : State) : Prop := s.phase = .idle ∧ s.pending = []

/-- A bound on the internal events that are left. -/
def State.work (s : State) : Nat :=
  5 * s.pending.length +
    match s.phase with
    | .idle => 0
    | .running .. => 4
    | .writing .. => 3
    | .replacing .. => 2
    | .publishing .. => 1

theorem work_lt {event : Event} (hevent : event.isInternal) (hstep : step s event = some t) :
    t.work < s.work := by
  cases event with
  | mutate | snapshot | modify => exact hevent.elim
  | start =>
      simp only [step] at hstep
      split at hstep <;> cases hstep
      rename_i hphase hpending
      simp only [State.work, hphase, hpending, List.length_cons]
      omega
  | callback =>
      simp only [step] at hstep
      split at hstep <;> cases hstep
      rename_i hphase
      unfold runCallback
      split
      · simp [State.work, State.settle, hphase]
      · dsimp only
        split <;> simp [State.work, State.settle, State.alloc, hphase]
  | write ok =>
      simp only [step] at hstep
      split at hstep <;> cases ok <;> cases hstep <;> rename_i hphase <;>
        simp [State.work, State.settle, hphase]
  | rename ok =>
      simp only [step] at hstep
      split at hstep <;> cases ok <;> cases hstep <;> rename_i hphase <;>
        simp [State.work, State.settle, hphase]
  | publish =>
      simp only [step] at hstep
      split at hstep <;> cases hstep
      rename_i hphase
      simp [State.work, State.settle, State.alloc, hphase]

/-- Until the store is at rest some internal event is possible, with whatever
result of a file operation. -/
theorem exists_step (s : State) (ok : Bool) :
    s.atRest ∨ ∃ event, event.isInternal ∧ event ≠ .write (!ok) ∧ event ≠ .rename (!ok) ∧
      (step s event).isSome := by
  cases hphase : s.phase with
  | idle =>
      cases hpending : s.pending with
      | nil => exact .inl ⟨hphase, hpending⟩
      | cons mutation rest =>
          exact .inr ⟨.start, trivial, nofun, nofun, by simp [step, hphase, hpending]⟩
  | running mutation next =>
      exact .inr ⟨.callback, trivial, nofun, nofun, by simp [step, hphase]⟩
  | writing mutation validated text =>
      exact .inr ⟨.write ok, trivial, by simp, nofun, by cases ok <;> simp [step, hphase]⟩
  | replacing mutation validated =>
      exact .inr ⟨.rename ok, trivial, nofun, by simp, by cases ok <;> simp [step, hphase]⟩
  | publishing mutation validated =>
      exact .inr ⟨.publish, trivial, nofun, nofun, by simp [step, hphase]⟩

/-- What the outcome of a mutation says about the database it was run on. -/
def Outcome.Fits (outcome : Outcome) (mutation : Mutation) (database : EpochDatabase) : Prop :=
  match outcome with
  | .resolved | .notPersisted => (mutation.apply database).isSome
  | .threw => mutation.callback database = none
  | .invalid => ∃ left, mutation.callback database = some left ∧ ¬ (stamp left database).parses

/-- An entry of the log ran on the fold of what had resolved before it. -/
def Explained (first : EpochDatabase) (log : List (Mutation × Outcome)) : Prop :=
  ∀ before mutation outcome after, log = before ++ (mutation, outcome) :: after →
    ∃ database, fold first (resolvedOf before) = some database ∧ outcome.Fits mutation database

theorem Explained.append {database : EpochDatabase} {log : List (Mutation × Outcome)}
    {mutation : Mutation} {outcome : Outcome} (hlog : Explained first log)
    (h : History first log database) (hfits : outcome.Fits mutation database) :
    Explained first (log ++ [(mutation, outcome)]) := by
  intro before m o after heq
  -- the entry is the last one, or one of those before it
  rcases List.eq_nil_or_concat after with rfl | ⟨rest, last, rfl⟩
  · obtain ⟨rfl, hentry⟩ := List.append_inj' heq rfl
    cases hentry
    exact ⟨database, h.fold_resolved, hfits⟩
  · rw [List.concat_eq_append, ← List.cons_append, ← List.append_assoc] at heq
    exact hlog _ _ _ _ (List.append_inj' heq rfl).1

theorem History.explained {database : EpochDatabase} {log : List (Mutation × Outcome)}
    (h : History first log database) : Explained first log := by
  induction h with
  | nil => simp [Explained]
  | resolved hl happly ih => exact ih.append hl (by simp [Outcome.Fits, happly])
  | threw hl hthrew ih => exact ih.append hl hthrew
  | invalid hl hleft hparses ih => exact ih.append hl ⟨_, hleft, hparses⟩
  | notPersisted hl happly ih => exact ih.append hl (by simp [Outcome.Fits, happly])

/-- The store is linearizable and all-or-nothing. Calls settle in their order.
Memory is the fold of the mutations that resolved, and so is the file between
two operations; the revision counts them. Each outcome depends only on what had
resolved before, so that a rejected call has no effect on later ones. Callers
cannot reach the stored data, and the store comes to rest whatever fails. -/
theorem mutate_linearizable {first : EpochDatabase} {events : List Event} {s : State}
    (h : run step (initial first) events = some s) :
    s.queued = calls events ∧
    fold first (resolvedOf s.settled) = some s.memory ∧
    (s.phase = .idle → s.file = some s.memory) ∧
    s.memory.snapshotRevision = first.snapshotRevision + (resolvedOf s.settled).length ∧
    Explained first s.settled ∧
    (∀ rest t, run step s rest = some t → resolvedOf t.settled = resolvedOf s.settled →
      t.memory = s.memory ∧ (s.phase = .idle → t.phase = .idle → t.file = s.file)) ∧
    (∀ object value t, step s (.modify object value) = some t →
      t.memory = s.memory ∧ t.file = s.file) ∧
    ∃ bound, ∀ rest t, (∀ e ∈ rest, e.isInternal) → run step s rest = some t →
      rest.length ≤ bound ∧ ∀ ok, t.atRest ∨ ∃ event, event.isInternal ∧
        event ≠ .write (!ok) ∧ event ≠ .rename (!ok) ∧ (step t event).isSome := by
  have hinv := inv_run h
  have hfold := hinv.history.fold_resolved
  have hfile : ∀ {t}, Inv first t → t.phase = .idle → t.file = some t.memory := by
    intro t ht hphase
    simpa [PhaseInv, hphase] using ht.phase
  refine ⟨?_, hfold, hfile hinv, hinv.history.revision, hinv.history.explained, ?_, ?_, ?_⟩
  · have hqueued := queued_run h
    simpa [State.queued, initial] using hqueued
  · intro rest t hrest hsame
    have ht := inv_run (run_append.mpr ⟨s, h, hrest⟩)
    have hmemory : t.memory = s.memory := by
      have hfold' := ht.history.fold_resolved
      rw [hsame, hfold] at hfold'
      exact (Option.some.inj hfold').symm
    refine ⟨hmemory, fun hs ht' => ?_⟩
    rw [hfile ht ht', hfile hinv hs, hmemory]
  · intro object value t hstep
    simp only [step] at hstep
    split at hstep
    · rename_i hobject
      cases hstep
      exact ⟨memory_modify hinv hobject value, rfl⟩
    · cases hstep
  · refine ⟨s.work, fun rest t hinternal hrest => ⟨?_, exists_step t⟩⟩
    have hlength : rest.length + t.work ≤ s.work :=
      length_add_work_le (fun _ _ _ => work_lt) hinternal hrest
    omega

end Store

namespace Sample

scoped instance : Sha256 := Sha256.standard

def setHead (head revision : Nat) : Mutation where
  callback := fun database =>
    some { database with headSeq := head, snapshotRevision := revision }

/-- A call whose file is not replaced, one that throws, and one that resolves;
the caller of the last one goes on to modify the object it got. -/
def events : List Event :=
  [.mutate (setHead 7 40), .mutate ⟨fun _ => none⟩, .mutate (setHead 9 50),
    .start, .callback, .write true, .rename false,
    .start, .callback,
    .start, .callback, .write true, .modify 4 emptyEpochDatabase, .rename true, .publish]

theorem runs : (run step (initial emptyEpochDatabase) events).isSome := by
  rfl

def last : State := (run step (initial emptyEpochDatabase) events).get runs

end Sample

open Sample in
theorem mutate_linearizable_sample :
    last.file = some last.memory ∧ last.memory.headSeq = 9 ∧ last.memory.snapshotRevision = 1 := by
  have h := mutate_linearizable
    (show run step (initial emptyEpochDatabase) events = some last from
      (Option.some_get runs).symm)
  exact ⟨h.2.2.1 rfl, rfl, h.2.2.2.1⟩

end EpochStore

end EpochGuard
