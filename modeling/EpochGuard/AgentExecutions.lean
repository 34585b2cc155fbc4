import EpochGuard.AgentService

/-!
# The executions of the Agents

What `activeExecutions` is good for. It names the execution of every Run that has been
admitted, from the moment its sendMessage goes on; `cancelExecution` reads it once,
after the Runner has been asked to cancel, and awaits the execution it finds. So a
stopAgent leaves its Agent idle when that read sees the Run there is, and no Run is
admitted before the stopped status is stored. `Tracked` is the invariant that says so:
an Agent has one execution at most, a busy Agent has one, and a stopAgent that is past
its read awaits it or has seen it end.
-/

namespace EpochGuard

namespace AgentService

open Json Checked Runs

/-! ## Busy Agents -/

/-- How many Runs of an Agent are queued or running. -/
def Database.activeRuns (database : Database) (id : String) : Nat :=
  database.runs.countP fun r => r.agentId = id && r.active

/-- The Agent is stored as busy. -/
def Busy (database : Database) (id : String) : Prop :=
  ∃ agent, database.findAgent id = some agent ∧ agent.status = .busy

/-- An Agent has at most one active Run, and is busy while it has one. -/
def BusyOnce (database : Database) : Prop :=
  ∀ id, database.activeRuns id ≤ 1 ∧ (database.activeRuns id ≠ 0 → Busy database id)

section Mutations

variable {database left : Database} {id : String} {c : Claim}

theorem Busy.of_findAgent {agent : Agent} (h : Busy database id)
    (hagent : database.findAgent id = some agent) : agent.status = .busy := by
  obtain ⟨found, hfound, hbusy⟩ := h
  obtain rfl : agent = found := Option.some.inj (hagent.symm.trans hfound)
  exact hbusy

theorem busy_congr (h : left.findAgent id = database.findAgent id) (hbusy : Busy left id) :
    Busy database id := by
  obtain ⟨agent, hagent, hstatus⟩ := hbusy
  exact ⟨agent, h ▸ hagent, hstatus⟩

/-- A change that ends a Run leaves no busy Agent behind. -/
theorem not_busy_setAgent {f : Agent → Agent} (hf : ∀ a, (f a).id = a.id ∧ (f a).status ≠ .busy) :
    ¬Busy (database.setAgent id f) id := by
  rintro ⟨agent, hagent, hbusy⟩
  rw [findAgent_setAgent_self fun a => (hf a).1] at hagent
  obtain ⟨old, -, rfl⟩ := Option.map_eq_some_iff.mp hagent
  exact (hf old).2 hbusy

/-- The active Runs of an Agent that is not busy. -/
theorem activeRuns_eq_zero (h : BusyOnce database) (hfree : ¬Busy database id) :
    database.activeRuns id = 0 := by
  by_contra hne
  exact hfree ((h id).2 hne)

/-- The Agent of a Run under way is busy, unless it is deleted. -/
theorem busy_of_held (h : BusyOnce database) (hheld : Held database c)
    (hinserted : c.inserted = true) (hagent : database.findAgent c.agentId ≠ none) :
    Busy database c.agentId := by
  rw [Held, if_pos hinserted] at hheld
  obtain ⟨run, hrun⟩ := Option.ne_none_iff_exists'.mp (hheld.2 hagent)
  obtain ⟨hmem, hid⟩ := findRun_eq_some hrun
  obtain ⟨hactive, howner⟩ := hheld.1 run hmem hid
  refine (h c.agentId).2 (Nat.pos_iff_ne_zero.mp (List.countP_pos_iff.mpr ⟨run, hmem, ?_⟩))
  simpa [hactive] using howner

/-- An Agent without active Runs may take any status. -/
theorem busyOnce_setAgent {f : Agent → Agent} (hf : ∀ a, (f a).id = a.id) (h : BusyOnce database)
    (hnone : database.activeRuns id = 0) : BusyOnce (database.setAgent id f) := by
  intro other
  refine ⟨(h other).1, fun hne => ?_⟩
  have hother : other ≠ id := by
    rintro rfl
    exact hne hnone
  exact busy_congr (findAgent_setAgent_ne hf hother).symm ((h other).2 hne)

theorem activeRuns_setRun_le {f : AgentRun → AgentRun}
    (hf : ∀ r, (f r).agentId = r.agentId ∧ ((f r).active = true → r.active = true))
    (other : String) : (database.setRun id f).activeRuns other ≤ database.activeRuns other := by
  refine countP_modifyFirst_le fun r hr => ?_
  rw [Bool.and_eq_true, decide_eq_true_eq] at hr ⊢
  exact ⟨(hf r).1 ▸ hr.1, (hf r).2 hr.2⟩

/-- A Run that is not activated leaves the Agents at most as busy. -/
theorem busyOnce_setRun {f : AgentRun → AgentRun} (h : BusyOnce database)
    (hle : ∀ other, (database.setRun id f).activeRuns other ≤ database.activeRuns other) :
    BusyOnce (database.setRun id f) := by
  intro other
  refine ⟨Nat.le_trans (hle other) (h other).1, fun hne => (h other).2 fun hzero => hne ?_⟩
  exact Nat.eq_zero_of_le_zero (hzero ▸ hle other)

/-- The Run that ends was the only active one of its Agent. -/
theorem activeRuns_ended {f : AgentRun → AgentRun}
    (hf : ∀ r, (f r).agentId = r.agentId ∧ (f r).active = false)
    (h : BusyOnce database) (hinserted : c.inserted = true) (hheld : Held database c) :
    (database.setRun c.run.id f).activeRuns c.agentId = 0 := by
  rw [Held, if_pos hinserted] at hheld
  have hle : (database.setRun c.run.id f).activeRuns c.agentId ≤ database.activeRuns c.agentId := by
    refine activeRuns_setRun_le (fun r => ⟨(hf r).1, fun hactive => ?_⟩) c.agentId
    rw [(hf r).2] at hactive
    exact absurd hactive (by decide)
  by_cases hagent : database.findAgent c.agentId = none
  · have hzero : database.activeRuns c.agentId = 0 := by
      refine activeRuns_eq_zero h ?_
      rintro ⟨agent, hfound, -⟩
      rw [hagent] at hfound
      exact absurd hfound (by simp)
    omega
  · obtain ⟨run, hrun⟩ := Option.ne_none_iff_exists'.mp (hheld.2 hagent)
    obtain ⟨hactive, howner⟩ := hheld.1 run (findRun_eq_some hrun).1 (findRun_eq_some hrun).2
    have hlt : (database.setRun c.run.id f).activeRuns c.agentId < database.activeRuns c.agentId :=
      countP_modifyFirst_lt hrun (by simp [hactive, howner]) (by simp [(hf run).2])
    have hone := (h c.agentId).1
    omega

/-- A Run that ends leaves its Agent free. -/
theorem busyOnce_ended {f : AgentRun → AgentRun} {g : Agent → Agent} {messages : List Message}
    (hf : ∀ r, (f r).agentId = r.agentId ∧ (f r).active = false) (hg : ∀ a, (g a).id = a.id)
    (h : BusyOnce database) (hinserted : c.inserted = true) (hheld : Held database c) :
    BusyOnce (Database.setAgent { database.setRun c.run.id f with messages } c.agentId g) := by
  have hrun : BusyOnce { database.setRun c.run.id f with messages } := by
    refine busyOnce_setRun h fun other =>
      activeRuns_setRun_le (fun r => ⟨(hf r).1, fun hr => ?_⟩) other
    rw [(hf r).2] at hr
    exact absurd hr (by decide)
  exact busyOnce_setAgent hg hrun (activeRuns_ended hf h hinserted hheld)

/-- A Run that starts was active before. -/
theorem activeRuns_markRunning_le {now : String} (hheld : Held database c)
    (hinserted : c.inserted = true) (other : String) :
    (markRunning database c.run.id now).activeRuns other ≤ database.activeRuns other := by
  rw [Held, if_pos hinserted] at hheld
  have hle : ∀ {l : List AgentRun}, (∀ r ∈ l, r.id = c.run.id → r.active = true) →
      (modifyFirst (fun r => r.id = c.run.id)
        (fun run => { run with status := .running, startedAt := some now }) l).countP
          (fun r => r.agentId = other && r.active) ≤
      l.countP fun r => r.agentId = other && r.active := by
    intro l hl
    induction l with
    | nil => exact Nat.le_refl _
    | cons r rest ih =>
      rw [List.forall_mem_cons] at hl
      by_cases hid : r.id = c.run.id
      · have hactive := hl.1 hid
        simp only [modifyFirst, hid, decide_true, if_true, List.countP_cons, hactive]
        exact Nat.le_refl _
      · have hrest := ih hl.2
        simp only [modifyFirst, hid, decide_false, Bool.false_eq_true, if_false, List.countP_cons]
        omega
  exact hle fun r hr hid => (hheld.1 r hr hid).1

theorem busyOnce_markRunning {now : String} (h : BusyOnce database) (hheld : Held database c)
    (hinserted : c.inserted = true) : BusyOnce (markRunning database c.run.id now) :=
  busyOnce_setRun h (activeRuns_markRunning_le hheld hinserted)

theorem activeRuns_deleteRecords_le (other : String) :
    (deleteRecords database id).activeRuns other ≤ database.activeRuns other :=
  List.Sublist.countP_le List.filter_sublist

theorem busyOnce_deleteRecords (h : BusyOnce database) : BusyOnce (deleteRecords database id) := by
  intro other
  have hle : (deleteRecords database id).activeRuns other ≤ database.activeRuns other :=
    activeRuns_deleteRecords_le other
  refine ⟨Nat.le_trans hle (h other).1, fun hne => ?_⟩
  have hother : other ≠ id := by
    rintro rfl
    refine hne (List.countP_eq_zero.mpr fun r hr => ?_)
    have hkept := of_decide_eq_true (List.mem_filter.mp hr).2
    simp [hkept]
  exact busy_congr (findAgent_deleteRecords_ne hother).symm ((h other).2 (by omega))

theorem activeRuns_admitRun {run : AgentRun} {messageId : String} {agentAtStart : Agent}
    (hactive : run.active = true)
    (hadmitted : admitRun database run messageId = .ok (left, agentAtStart)) (other : String) :
    left.activeRuns other =
      database.activeRuns other + if run.agentId = other then 1 else 0 := by
  obtain ⟨-, -, -, messages, f, -, rfl⟩ := admit_eq_ok hadmitted
  simp only [Database.activeRuns, Database.setAgent, List.countP_append, List.countP_singleton,
    hactive, Bool.and_true, decide_eq_true_eq]

/-- An admission makes the Agent of the Run busy, which it was not, and no other. -/
theorem busy_admitRun {run : AgentRun} {messageId : String} {agentAtStart : Agent}
    (hadmitted : admitRun database run messageId = .ok (left, agentAtStart)) :
    ¬Busy database run.agentId ∧ Busy left run.agentId ∧
      ∀ other, other ≠ run.agentId → left.findAgent other = database.findAgent other := by
  obtain ⟨hagent, -, hfree, messages, f, hf, rfl⟩ := admit_eq_ok hadmitted
  refine ⟨fun hbusy => hfree (hbusy.of_findAgent hagent), ⟨f agentAtStart, ?_, (hf _).2⟩, ?_⟩
  · rw [findAgent_setAgent_self fun a => (hf a).1]
    exact congrArg (Option.map f) hagent
  · exact fun other hother => findAgent_setAgent_ne (fun a => (hf a).1) hother

theorem busyOnce_admission {run : AgentRun} {messageId : String} {agentAtStart : Agent}
    (h : BusyOnce database) (hactive : run.active = true)
    (hadmitted : admitRun database run messageId = .ok (left, agentAtStart)) : BusyOnce left := by
  obtain ⟨hfree, hbusy, hothers⟩ := busy_admitRun hadmitted
  have hzero := activeRuns_eq_zero h hfree
  intro other
  rw [activeRuns_admitRun hactive hadmitted other]
  by_cases hother : run.agentId = other
  · subst hother
    rw [if_pos rfl, hzero]
    exact ⟨Nat.le_refl _, fun _ => hbusy⟩
  · rw [if_neg hother, Nat.add_zero]
    exact ⟨(h other).1, fun hne =>
      busy_congr (hothers other (Ne.symm hother)).symm ((h other).2 hne)⟩

end Mutations

/-! ## What the service keeps of the executions -/

/-- The sendMessage of the Run has not gone on after its mutation. -/
def State.Unseen (s : State) (run : AgentRun) : Prop :=
  ∃ agentAtStart, .admitted agentAtStart run ∈ s.tasks

/-- `activeExecutions` names the execution of a Run, or is about to. -/
def State.Seen (s : State) (c : Claim) : Prop :=
  s.Unseen c.run ∨ s.activeExecutions c.agentId = some c.run.id

/-- No Run of the Agent has been admitted and is under way. -/
def State.Idle (s : State) (id : String) : Prop :=
  ∀ c ∈ s.claims, c.inserted = true → c.agentId ≠ id

/-- The Run of an execution is stored as long as its Agent is. -/
def Stays (database : Database) (execution : String × String) : Prop :=
  database.findAgent execution.1 ≠ none →
    execution ∈ database.runs.map fun run => (run.agentId, run.id)

/-- An execution that has ended is not one of those under way. -/
structure Ended (s : State) (execution : String × String) : Prop where
  unclaimed : ∀ c ∈ s.claims, c.inserted = true → (c.agentId, c.run.id) ≠ execution
  stays : Stays s.database execution

/-- What a call may rely on where it stands. A stopAgent that awaits an execution
awaits the only one there is, and none is under way once it has been released. -/
def Task.Knows (s : State) : Task → Prop
  | .admitted agentAtStart run => agentAtStart.id = run.agentId
  | .settled agentId runId => (agentId, runId) ∈ s.settled
  | .awaiting id .stop runId =>
      ∀ c ∈ s.claims, c.inserted = true → c.agentId = id → c.run.id = runId
  | .released id .stop => s.Idle id
  | _ => True

def Pending.Knows (s : State) : Pending → Prop
  | .stop id => s.Idle id
  | _ => True

/-- The executions of a state and what is kept of them: an Agent has one at most, a
busy Agent has one, and `activeExecutions` names it. -/
structure Tracked (s : State) : Prop where
  owned : Owned s
  busy : BusyOnce s.database
  single : ∀ c ∈ s.claims, ∀ d ∈ s.claims, c.inserted = true → d.inserted = true →
    c.agentId = d.agentId → c.run.id = d.run.id
  working : ∀ id, Busy s.database id → ¬s.Idle id
  seen : ∀ c ∈ s.claims, c.inserted = true → s.Seen c
  ended : ∀ execution ∈ s.settled, Ended s execution
  tasks : ∀ task ∈ s.tasks, task.Knows s
  queue : ∀ pending ∈ s.queue, pending.Knows s

/-- A stopAgent that has read which execution it has to await, up to its mutation. -/
def State.Stopping (s : State) (id : String) : Prop :=
  (∃ runId, .awaiting id .stop runId ∈ s.tasks) ∨ .released id .stop ∈ s.tasks ∨
    .stop id ∈ s.queue

/-- No message gets past a stopAgent: when it reads `activeExecutions`, every Run of
the Agent that has been admitted is in it, and from there to its mutation the Agent
admits none. -/
structure Undisturbed (s : State) (e : Event) : Prop where
  read : ∀ index now messageId id agentAtStart run, e = .resume index now messageId →
    s.tasks[index]? = some (.cancelled id .stop) → .admitted agentAtStart run ∈ s.tasks →
    run.agentId ≠ id
  admission : ∀ now run messageId rest left, e = .commit now →
    s.queue = .admitRun run messageId :: rest → admitRun s.database run messageId = .ok left →
    ¬s.Stopping run.agentId

section Steps

variable {s t : State} {e : Event}

theorem Task.Knows.mono {task : Task} (h : task.Knows s)
    (hclaims : ∀ c ∈ t.claims, c.inserted = true → c ∈ s.claims)
    (hsettled : ∀ p ∈ s.settled, p ∈ t.settled) : task.Knows t := by
  cases task with
  | settled agentId runId => exact hsettled _ h
  | awaiting id purpose runId =>
    cases purpose with
    | stop => exact fun c hc hinserted => h c (hclaims c hc hinserted) hinserted
    | delete => trivial
  | released id purpose =>
    cases purpose with
    | stop => exact fun c hc hinserted => h c (hclaims c hc hinserted) hinserted
    | delete => trivial
  | _ => exact h

theorem Pending.Knows.mono {pending : Pending} (h : pending.Knows s)
    (hclaims : ∀ c ∈ t.claims, c.inserted = true → c ∈ s.claims) : pending.Knows t := by
  cases pending with
  | stop id => exact fun c hc hinserted => h c (hclaims c hc hinserted) hinserted
  | _ => exact h

/-- Two claims of one Run are the same claim. -/
theorem Owned.eq_of_id {c d : Claim} (h : Owned s) (hc : c ∈ s.claims) (hd : d ∈ s.claims)
    (hid : c.run.id = d.run.id) : c = d :=
  List.inj_on_of_nodup_map h.distinct hc hd hid

theorem claim_of_task {task : Task} {c : Claim} (h : task ∈ s.tasks) (hc : task.claim? = some c) :
    c ∈ s.claims :=
  List.mem_append_left _ (List.mem_filterMap.mpr ⟨task, h, hc⟩)

/-- The only execution that can be under way for an Agent whose admitted Runs are in
`activeExecutions` is the one that is read there. -/
theorem Tracked.read (hs : Tracked s) {id : String}
    (hseen : ∀ agentAtStart run, .admitted agentAtStart run ∈ s.tasks → run.agentId ≠ id)
    {c : Claim} (hc : c ∈ s.claims) (hinserted : c.inserted = true) (hagent : c.agentId = id) :
    s.activeExecutions id = some c.run.id := by
  rcases hs.seen c hc hinserted with ⟨agentAtStart, htask⟩ | hactive
  · have hknows : agentAtStart.id = c.run.agentId := hs.tasks _ htask
    have hown : ⟨agentAtStart.id, c.run, true⟩ ∈ s.claims := claim_of_task htask rfl
    have heq := hs.owned.eq_of_id hown hc rfl
    have hid : agentAtStart.id = c.agentId := congrArg Claim.agentId heq
    exact absurd (hknows.symm.trans (hid.trans hagent)) (hseen _ _ htask)
  · exact hagent ▸ hactive

/-- A step that admits no Run and ends none. What it leaves behind knows what it has
to, and no admitted Run is lost sight of. -/
structure Moves (s t : State) : Prop where
  claims : ∀ c, c.inserted = true → (c ∈ t.claims ↔ c ∈ s.claims)
  busy : ∀ id, Busy t.database id → Busy s.database id
  stays : ∀ execution, Stays s.database execution → Stays t.database execution
  settled : t.settled = s.settled
  seen : ∀ c ∈ s.claims, c.inserted = true → t.Seen c
  tasks : ∀ task ∈ t.tasks, task ∈ s.tasks ∨ task.Knows t
  queue : ∀ pending ∈ t.queue, pending ∈ s.queue ∨ pending.Knows t

theorem Tracked.moves (hs : Tracked s) (howned : Owned t) (hbusy : BusyOnce t.database)
    (h : Moves s t) : Tracked t where
  owned := howned
  busy := hbusy
  single := fun c hc d hd hinserted hinserted' =>
    hs.single c ((h.claims c hinserted).mp hc) d ((h.claims d hinserted').mp hd) hinserted
      hinserted'
  working := by
    intro id hbusy hidle
    refine hs.working id (h.busy id hbusy) fun c hc hinserted => ?_
    exact hidle c ((h.claims c hinserted).mpr hc) hinserted
  seen := fun c hc hinserted => h.seen c ((h.claims c hinserted).mp hc) hinserted
  ended := by
    intro execution hmem
    obtain ⟨hover, hstays⟩ := hs.ended execution (h.settled ▸ hmem)
    exact ⟨fun c hc hinserted => hover c ((h.claims c hinserted).mp hc) hinserted,
      h.stays execution hstays⟩
  tasks := by
    intro task htask
    rcases h.tasks task htask with hold | hnew
    · refine (hs.tasks task hold).mono (fun c hc hinserted => (h.claims c hinserted).mp hc) ?_
      exact fun p hp => h.settled ▸ hp
    · exact hnew
  queue := by
    intro pending hpending
    rcases h.queue pending hpending with hold | hnew
    · exact (hs.queue pending hold).mono fun c hc hinserted => (h.claims c hinserted).mp hc
    · exact hnew

/-- The admitted Runs that have not been seen wait on, and the others are named as
they were. -/
theorem Tracked.seen_of_kept (hs : Tracked s)
    (htasks : ∀ agentAtStart run, .admitted agentAtStart run ∈ s.tasks →
      .admitted agentAtStart run ∈ t.tasks)
    (hactive : t.activeExecutions = s.activeExecutions) :
    ∀ c ∈ s.claims, c.inserted = true → t.Seen c := by
  intro c hc hinserted
  rcases hs.seen c hc hinserted with ⟨agentAtStart, htask⟩ | hnamed
  · exact .inl ⟨agentAtStart, htasks _ _ htask⟩
  · exact .inr (hactive ▸ hnamed)

/-! ### Steps that leave the store alone -/

theorem step_keeps (h : step s e = some t) (hcommit : ∀ now, e ≠ .commit now) :
    t.database = s.database ∧ ∀ c, c.inserted = true → (c ∈ t.claims ↔ c ∈ s.claims) := by
  rcases step_cases h with ⟨now, _, _, rfl, -⟩ |
    ⟨agentId, prompt, runId, messageId, timestamp, -, -, rfl⟩ | ⟨hdatabase, hclaims⟩
  · exact absurd rfl (hcommit now)
  · refine ⟨rfl, fun c hinserted => ?_⟩
    rw [(claims_enqueue s _).mem_iff]
    refine ⟨fun hc => ?_, List.mem_cons_of_mem _⟩
    rcases List.mem_cons.mp hc with rfl | hold
    · exact absurd hinserted (by simp)
    · exact hold
  · exact ⟨hdatabase, fun c _ => (hclaims.mem_iff (a := c)).symm⟩

/-- A step that appends to the tasks and to the queue, after it has removed a task or none. -/
structure Appends (s t : State) (kept tasks : List Task) (queue : List Pending) : Prop where
  tasks : t.tasks = kept ++ tasks
  queue : t.queue = s.queue ++ queue
  settled : t.settled = s.settled
  active : t.activeExecutions = s.activeExecutions

theorem Tracked.moves_of_appends (hs : Tracked s) {kept tasks : List Task} {queue : List Pending}
    (hkeeps : t.database = s.database ∧ ∀ c, c.inserted = true → (c ∈ t.claims ↔ c ∈ s.claims))
    (h : Appends s t kept tasks queue) (hkept : ∀ task ∈ kept, task ∈ s.tasks)
    (hadmitted : ∀ agentAtStart run, .admitted agentAtStart run ∈ s.tasks →
      .admitted agentAtStart run ∈ kept)
    (htasks : ∀ task ∈ tasks, task.Knows t) (hqueue : ∀ pending ∈ queue, pending.Knows t) :
    Moves s t where
  claims := hkeeps.2
  busy := fun _ => busy_congr (congrArg (Database.findAgent · _) hkeeps.1)
  stays := fun _ hstored => hkeeps.1.symm ▸ hstored
  settled := h.settled
  seen := by
    refine hs.seen_of_kept (fun agentAtStart run htask => ?_) h.active
    rw [h.tasks]
    exact List.mem_append_left _ (hadmitted agentAtStart run htask)
  tasks := by
    intro task htask
    rw [h.tasks] at htask
    exact (List.mem_append.mp htask).imp (hkept task) (htasks task)
  queue := by
    intro pending hpending
    rw [h.queue] at hpending
    exact (List.mem_append.mp hpending).imp id (hqueue pending)

/-- A task other than the one at the index is left. -/
theorem mem_eraseIdx {index : Nat} {task other : Task} (htask : s.tasks[index]? = some task)
    (hmem : other ∈ s.tasks) (hne : other ≠ task) : other ∈ s.tasks.eraseIdx index := by
  rcases List.mem_cons.mp ((perm_cons_eraseIdx htask).mem_iff.mp hmem) with heq | hleft
  · exact absurd heq hne
  · exact hleft

/-- A task other than a sendMessage goes on. -/
theorem Tracked.moves_task (hs : Tracked s) {index : Nat} {task : Task} {tasks : List Task}
    {queue : List Pending}
    (hkeeps : t.database = s.database ∧ ∀ c, c.inserted = true → (c ∈ t.claims ↔ c ∈ s.claims))
    (htask : s.tasks[index]? = some task) (hother : ∀ agentAtStart run,
      .admitted agentAtStart run ≠ task)
    (h : Appends s t (s.tasks.eraseIdx index) tasks queue)
    (htasks : ∀ task ∈ tasks, task.Knows t) (hqueue : ∀ pending ∈ queue, pending.Knows t) :
    Moves s t := by
  refine hs.moves_of_appends hkeeps h (fun _ => List.mem_of_mem_eraseIdx) ?_ htasks hqueue
  exact fun agentAtStart run hmem => mem_eraseIdx htask hmem (hother agentAtStart run)

theorem idle_congr {id : String}
    (hclaims : ∀ c, c.inserted = true → (c ∈ t.claims ↔ c ∈ s.claims)) (h : s.Idle id) :
    t.Idle id :=
  fun c hc hinserted => h c ((hclaims c hinserted).mp hc) hinserted

/-- The sendMessage goes on: its execution is named from here on. -/
theorem Tracked.moves_admitted (hs : Tracked s) {index : Nat} {agentAtStart : Agent}
    {run : AgentRun}
    (hkeeps : t.database = s.database ∧ ∀ c, c.inserted = true → (c ∈ t.claims ↔ c ∈ s.claims))
    (htask : s.tasks[index]? = some (.admitted agentAtStart run))
    (ht : t = State.enqueue { s with
      tasks := s.tasks.eraseIdx index
      activeExecutions := fun id =>
        if id = run.agentId then some run.id else s.activeExecutions id }
      (.markRunning agentAtStart run)) : Moves s t := by
  subst ht
  have hmem : .admitted agentAtStart run ∈ s.tasks := List.mem_of_getElem? htask
  have hknows : agentAtStart.id = run.agentId := hs.tasks _ hmem
  have hown : ⟨agentAtStart.id, run, true⟩ ∈ s.claims := claim_of_task hmem rfl
  refine ⟨hkeeps.2, fun _ h => h, fun _ h => h, rfl, fun c hc hinserted => ?_, ?_, ?_⟩
  · by_cases hid : c.run.id = run.id
    · obtain rfl := hs.owned.eq_of_id hc hown hid
      exact .inr (if_pos hknows)
    · -- the Agent has one execution, so that of another Run is another Agent's
      have hother : c.agentId ≠ run.agentId := by
        intro heq
        exact hid (hs.single c hc _ hown hinserted rfl (heq.trans hknows.symm))
      rcases hs.seen c hc hinserted with ⟨other, hunseen⟩ | hnamed
      · refine .inl ⟨other, mem_eraseIdx htask hunseen fun heq => hid ?_⟩
        exact congrArg AgentRun.id (Task.admitted.inj heq).2
      · exact .inr ((if_neg hother).trans hnamed)
  · exact fun task htask => .inl (List.mem_of_mem_eraseIdx htask)
  · intro pending hpending
    rcases List.mem_append.mp hpending with hold | hnew
    · exact .inl hold
    · obtain rfl := List.mem_singleton.mp hnew
      exact .inr trivial

/-- What an execution leaves when it has ended: only its own name is removed. -/
theorem Tracked.moves_settled (hs : Tracked s) {index : Nat} {agentId runId : String}
    (hkeeps : t.database = s.database ∧ ∀ c, c.inserted = true → (c ∈ t.claims ↔ c ∈ s.claims))
    (htask : s.tasks[index]? = some (.settled agentId runId))
    (ht : t = { s with
      tasks := s.tasks.eraseIdx index
      activeExecutions := fun id =>
        if id = agentId ∧ s.activeExecutions id = some runId then none
        else s.activeExecutions id }) : Moves s t := by
  subst ht
  have hmem : .settled agentId runId ∈ s.tasks := List.mem_of_getElem? htask
  have hended : Ended s (agentId, runId) := hs.ended _ (hs.tasks _ hmem)
  refine ⟨hkeeps.2, fun _ h => h, fun _ h => h, rfl, fun c hc hinserted => ?_, ?_,
    fun _ => .inl⟩
  · rcases hs.seen c hc hinserted with ⟨other, hunseen⟩ | hnamed
    · exact .inl ⟨other, mem_eraseIdx htask hunseen (by simp)⟩
    · refine .inr ((if_neg ?_).trans hnamed)
      rintro ⟨hagent, hrun⟩
      refine hended.unclaimed c hc hinserted (Prod.ext hagent ?_)
      exact Option.some.inj (hnamed.symm.trans hrun)
  · exact fun task htask => .inl (List.mem_of_mem_eraseIdx htask)

theorem Tracked.moves_resume (hs : Tracked s) {index : Nat} {now messageId : String}
    (hquiet : Undisturbed s (.resume index now messageId))
    (h : step s (.resume index now messageId) = some t) : Moves s t := by
  have hkeeps := step_keeps h (by simp)
  obtain ⟨task, htask, h⟩ := Option.bind_eq_some_iff.mp h
  have hmem := List.mem_of_getElem? htask
  cases task with
  | admitted agentAtStart run => exact hs.moves_admitted hkeeps htask (Option.some.inj h).symm
  | settled agentId runId => exact hs.moves_settled hkeeps htask (Option.some.inj h).symm
  | started agentAtStart run =>
    simp only [State.resumeTask] at h
    split_ifs at h <;> obtain rfl := Option.some.inj h
    · exact hs.moves_task hkeeps htask (by simp) ⟨(List.append_nil _).symm, rfl, rfl, rfl⟩
        (by simp) (by simp [Pending.Knows])
    · exact hs.moves_task hkeeps htask (by simp) ⟨rfl, (List.append_nil _).symm, rfl, rfl⟩
        (by simp [Task.Knows]) (by simp)
  | executed agentAtStart run outcome =>
    have hends : ∃ pending, t = State.enqueue { s with tasks := s.tasks.eraseIdx index } pending ∧
        pending.Knows t := by
      cases outcome with
      | result result =>
        simp only [State.resumeTask] at h
        split_ifs at h <;> exact ⟨_, (Option.some.inj h).symm, trivial⟩
      | error cancelled message => exact ⟨_, (Option.some.inj h).symm, trivial⟩
    obtain ⟨pending, rfl, hknows⟩ := hends
    exact hs.moves_task hkeeps htask (by simp) ⟨(List.append_nil _).symm, rfl, rfl, rfl⟩
      (by simp) fun _ hp => List.mem_singleton.mp hp ▸ hknows
  | cancelled id purpose =>
    have hread : purpose = .stop → ∀ c ∈ s.claims, c.inserted = true → c.agentId = id →
        s.activeExecutions id = some c.run.id := by
      rintro rfl c hc hinserted hagent
      exact hs.read (fun _ run => hquiet.read index now messageId id _ run rfl htask) hc hinserted
        hagent
    simp only [State.resumeTask] at h
    split at h
    · rename_i hnone
      obtain rfl := Option.some.inj h
      refine hs.moves_task hkeeps htask (by simp) ⟨rfl, (List.append_nil _).symm, rfl, rfl⟩
        (fun _ hnew => ?_) (by simp)
      obtain rfl := List.mem_singleton.mp hnew
      cases purpose with
      | delete => trivial
      | stop =>
        refine idle_congr hkeeps.2 fun c hc hinserted hagent => ?_
        rw [hread rfl c hc hinserted hagent] at hnone
        exact absurd hnone (by simp)
    · rename_i runId hsome
      obtain rfl := Option.some.inj h
      refine hs.moves_task hkeeps htask (by simp) ⟨rfl, (List.append_nil _).symm, rfl, rfl⟩
        (fun _ hnew => ?_) (by simp)
      obtain rfl := List.mem_singleton.mp hnew
      cases purpose with
      | delete => trivial
      | stop =>
        intro c hc hinserted hagent
        have hnamed := hread rfl c ((hkeeps.2 c hinserted).mp hc) hinserted hagent
        exact Option.some.inj (hnamed.symm.trans hsome)
  | awaiting id purpose runId =>
    have hknows := hs.tasks _ hmem
    simp only [State.resumeTask] at h
    split_ifs at h with hsettled
    obtain rfl := Option.some.inj h
    refine hs.moves_task hkeeps htask (by simp) ⟨rfl, (List.append_nil _).symm, rfl, rfl⟩
      (fun _ hnew => ?_) (by simp)
    obtain rfl := List.mem_singleton.mp hnew
    cases purpose with
    | delete => trivial
    | stop =>
      -- the execution that was awaited is over, and there was no other
      refine idle_congr hkeeps.2 fun c hc hinserted hagent => ?_
      exact (hs.ended _ hsettled).unclaimed c hc hinserted
        (Prod.ext hagent (hknows c hc hinserted hagent))
  | released id purpose =>
    have hknows := hs.tasks _ hmem
    cases purpose with
    | stop =>
      obtain rfl := Option.some.inj h
      refine hs.moves_task hkeeps htask (by simp) ⟨(List.append_nil _).symm, rfl, rfl, rfl⟩
        (by simp) fun _ hnew => ?_
      obtain rfl := List.mem_singleton.mp hnew
      exact idle_congr hkeeps.2 hknows
    | delete =>
      obtain rfl := Option.some.inj h
      exact hs.moves_task hkeeps htask (by simp) ⟨rfl, (List.append_nil _).symm, rfl, rfl⟩
        (by simp [Task.Knows]) (by simp)
  | archived id =>
    obtain rfl := Option.some.inj h
    exact hs.moves_task hkeeps htask (by simp) ⟨(List.append_nil _).symm, rfl, rfl, rfl⟩
      (by simp) (by simp [Pending.Knows])
  | executing _ _ | cancelling _ _ | archiving _ => exact absurd h (by simp [State.resumeTask])

theorem Tracked.step_moves (hs : Tracked s) (hquiet : Undisturbed s e)
    (hcommit : ∀ now, e ≠ .commit now) (h : step s e = some t) : Moves s t := by
  have hkeeps := step_keeps h hcommit
  cases e with
  | sendMessage agentId prompt runId messageId timestamp =>
    simp only [step, Option.ite_none_right_eq_some, Option.some.injEq] at h
    obtain ⟨-, rfl⟩ := h
    exact hs.moves_of_appends hkeeps ⟨(List.append_nil _).symm, rfl, rfl, rfl⟩ (fun _ => id)
      (fun _ _ => id) (by simp) (by simp [Pending.Knows])
  | startAgent id =>
    obtain rfl := Option.some.inj h
    exact hs.moves_of_appends hkeeps ⟨(List.append_nil _).symm, rfl, rfl, rfl⟩ (fun _ => fun h => h)
      (fun _ _ => fun h => h) (by simp) (by simp [Pending.Knows])
  | stopAgent id | deleteAgent id =>
    obtain rfl := Option.some.inj h
    unfold State.cancel at hkeeps ⊢
    split at hkeeps
    · exact hs.moves_of_appends hkeeps
        ⟨(List.append_nil _).symm, (List.append_nil _).symm, rfl, rfl⟩ (fun _ => fun h => h)
        (fun _ _ => fun h => h) (by simp) (by simp)
    · exact hs.moves_of_appends hkeeps ⟨rfl, (List.append_nil _).symm, rfl, rfl⟩
        (fun _ => fun h => h) (fun _ _ => fun h => h) (by simp [Task.Knows]) (by simp)
  | commit now => exact absurd rfl (hcommit now)
  | resume index now messageId => exact hs.moves_resume hquiet h
  | runnerSettled index outcome =>
    obtain ⟨task, htask, h⟩ := Option.bind_eq_some_iff.mp h
    cases task <;> simp only [reduceCtorEq] at h
    obtain rfl := Option.some.inj h
    exact hs.moves_task hkeeps htask (by simp) ⟨rfl, (List.append_nil _).symm, rfl, rfl⟩
      (by simp [Task.Knows]) (by simp)
  | cancelSettled index ok | archiveSettled index ok =>
    obtain ⟨task, htask, h⟩ := Option.bind_eq_some_iff.mp h
    cases task <;> simp only [reduceCtorEq] at h
    obtain rfl := Option.some.inj h
    cases ok
    · exact hs.moves_task hkeeps htask (by simp)
        ⟨(List.append_nil _).symm, (List.append_nil _).symm, rfl, rfl⟩ (by simp) (by simp)
    · exact hs.moves_task hkeeps htask (by simp) ⟨rfl, (List.append_nil _).symm, rfl, rfl⟩
        (by simp [Task.Knows]) (by simp)

/-! ### Mutations -/

section Stays

variable {database : Database} {id : String} {execution : String × String}

theorem stays_setAgent {f : Agent → Agent} (hf : ∀ a, (f a).id = a.id)
    (h : Stays database execution) : Stays (database.setAgent id f) execution :=
  fun hagent => h fun hnone => hagent ((findAgent_setAgent_none hf).mpr hnone)

theorem stays_setRun {f : AgentRun → AgentRun}
    (hf : ∀ r, (f r).id = r.id ∧ (f r).agentId = r.agentId) (h : Stays database execution) :
    Stays (database.setRun id f) execution := by
  intro hagent
  rw [Database.setRun, map_modifyFirst fun r _ _ => Prod.ext (hf r).2 (hf r).1]
  exact h hagent

theorem stays_admitRun {run : AgentRun} {messageId : String} {left : Database}
    {agentAtStart : Agent} (hadmitted : admitRun database run messageId = .ok (left, agentAtStart))
    (h : Stays database execution) : Stays left execution := by
  obtain ⟨-, -, -, messages, f, hf, rfl⟩ := admit_eq_ok hadmitted
  refine stays_setAgent (fun a => (hf a).1) fun hagent => ?_
  rw [List.map_append]
  exact List.mem_append_left _ (h hagent)

theorem stays_complete {agentId runId completedAt messageId : String} {result : RunnerResult}
    (h : Stays database execution) :
    Stays (complete database agentId runId result completedAt messageId) execution := by
  unfold complete
  split
  · exact h
  · refine stays_setAgent (by exact fun _ => rfl) (stays_setRun (by exact fun _ => ⟨rfl, rfl⟩) h)

theorem stays_fail {agentId runId completedAt : String} {cancelled : Bool} {message : JsString}
    (h : Stays database execution) :
    Stays (fail database agentId runId cancelled message completedAt) execution :=
  stays_setAgent (fun _ => rfl) (stays_setRun (fun _ => ⟨rfl, rfl⟩) h)

theorem stays_deleteRecords (h : Stays database execution) :
    Stays (deleteRecords database id) execution := by
  intro hagent
  have hother : execution.1 ≠ id := by
    rintro rfl
    exact hagent findAgent_deleteRecords_self
  rw [findAgent_deleteRecords_ne hother] at hagent
  obtain ⟨run, hrun, rfl⟩ := List.mem_map.mp (h hagent)
  exact List.mem_map.mpr ⟨run, List.mem_filter.mpr ⟨hrun, decide_eq_true hother⟩, rfl⟩

/-- The Run of an execution under way is stored. -/
theorem stays_of_held {c : Claim} (hheld : Held database c) (hinserted : c.inserted = true) :
    Stays database (c.agentId, c.run.id) := by
  rw [Held, if_pos hinserted] at hheld
  intro hagent
  obtain ⟨run, hrun⟩ := Option.ne_none_iff_exists'.mp (hheld.2 hagent)
  obtain ⟨hmem, hid⟩ := findRun_eq_some hrun
  exact List.mem_map.mpr ⟨run, hmem, Prod.ext (hheld.1 run hmem hid).2 hid⟩

end Stays

/-- Of another Agent, if the change ends a Run of this one. -/
theorem busy_setAgent {database : Database} {id other : String} {f : Agent → Agent}
    (hf : ∀ a, (f a).id = a.id ∧ (f a).status ≠ .busy) (h : Busy (database.setAgent id f) other) :
    other ≠ id ∧ Busy database other := by
  have hother : other ≠ id := by
    rintro rfl
    exact not_busy_setAgent hf h
  exact ⟨hother, busy_congr (findAgent_setAgent_ne (fun a => (hf a).1) hother) h⟩

/-- The Agent is free once its Run has completed, also where nothing is stored. -/
theorem busy_complete {database : Database} {c : Claim} {completedAt messageId other : String}
    {result : RunnerResult} (hheld : Held database c) (hinserted : c.inserted = true)
    (h : Busy (complete database c.agentId c.run.id result completedAt messageId) other) :
    other ≠ c.agentId ∧ Busy database other := by
  unfold complete at h
  split at h
  · rename_i hmissing
    refine ⟨?_, h⟩
    rintro rfl
    obtain ⟨agent, hagent, -⟩ := h
    rw [Held, if_pos hinserted] at hheld
    rw [Option.isNone_iff_eq_none, Option.isNone_iff_eq_none] at hmissing
    have hfound : database.findAgent c.agentId ≠ none := by simp [hagent]
    exact hmissing.elim (hheld.2 hfound) hfound
  · exact busy_setAgent (by exact fun _ => ⟨rfl, by simp⟩) h

theorem busy_fail {database : Database} {agentId runId completedAt other : String}
    {cancelled : Bool} {message : JsString}
    (h : Busy (fail database agentId runId cancelled message completedAt) other) :
    other ≠ agentId ∧ Busy database other := by
  unfold fail at h
  refine busy_setAgent ?_ h
  intro a
  refine ⟨rfl, ?_⟩
  dsimp only
  split_ifs <;> simp

/-- An execution ends, and its Agent is free. -/
theorem Tracked.ends (hs : Tracked s) {pending : Pending} {rest : List Pending}
    {agentAtStart : Agent} {run : AgentRun} {database : Database}
    (hqueue : s.queue = pending :: rest)
    (hclaim : pending.claim? = some ⟨agentAtStart.id, run, true⟩)
    (ht : t = State.spawn { s with
      queue := rest, database, settled := (agentAtStart.id, run.id) :: s.settled }
      (.settled agentAtStart.id run.id))
    (howned : Owned t) (hbusy : BusyOnce database)
    (hfree : ∀ id, Busy database id → id ≠ agentAtStart.id ∧ Busy s.database id)
    (hstays : ∀ execution, Stays s.database execution → Stays database execution) : Tracked t := by
  subst ht
  obtain ⟨-, hheld, hother⟩ := hs.owned.queue hqueue
  have hown := hheld ⟨agentAtStart.id, run, true⟩ (by simp [hclaim])
  have hclaims := claims_queue hqueue
  rw [hclaim] at hclaims
  -- the claim of the mutation is gone, and the task that is spawned makes none
  have hleft : ∀ c, c ∈ State.claims (State.spawn { s with
      queue := rest, database, settled := (agentAtStart.id, run.id) :: s.settled }
      (.settled agentAtStart.id run.id)) ↔ c ∈ State.claims { s with queue := rest } := by
    intro c
    rw [(claims_spawn _ _).mem_iff]
    rfl
  have hmem : ∀ c, c ∈ State.claims { s with queue := rest } → c ∈ s.claims := by
    intro c hc
    exact hclaims.mem_iff.mpr (List.mem_cons_of_mem _ hc)
  refine ⟨howned, hbusy, ?_, ?_, ?_, ?_, ?_, ?_⟩
  · intro c hc d hd
    exact hs.single c (hmem c ((hleft c).mp hc)) d (hmem d ((hleft d).mp hd))
  · intro id hbusy hidle
    -- an Agent that is still busy was so through another claim
    obtain ⟨hne, hwas⟩ := hfree id hbusy
    refine hs.working id hwas fun c hc hinserted hagent => ?_
    rcases List.mem_cons.mp (hclaims.mem_iff.mp hc) with rfl | hrest
    · exact hne hagent.symm
    · exact hidle c ((hleft c).mpr hrest) hinserted hagent
  · intro c hc hinserted
    refine hs.seen_of_kept ?_ ?_ c (hmem c ((hleft c).mp hc)) hinserted
    · exact fun _ _ htask => List.mem_append_left _ htask
    · rfl
  · intro execution hmem'
    rcases List.mem_cons.mp hmem' with rfl | hold
    · refine ⟨fun c hc _ heq => ?_, hstays _ (stays_of_held hown rfl)⟩
      -- no other claim is of this Run
      exact hother _ hclaim c ((hleft c).mp hc) (congrArg Prod.snd heq)
    · obtain ⟨hover, hstored⟩ := hs.ended execution hold
      exact ⟨fun c hc => hover c (hmem c ((hleft c).mp hc)), hstays _ hstored⟩
  · intro task htask
    rcases List.mem_append.mp htask with hold | hnew
    · refine (hs.tasks task hold).mono (fun c hc _ => hmem c ((hleft c).mp hc)) ?_
      exact fun _ => List.mem_cons_of_mem _
    · obtain rfl := List.mem_singleton.mp hnew
      exact List.mem_cons_self
  · intro other hpending
    have hmem' : other ∈ s.queue := hqueue ▸ List.mem_cons_of_mem _ hpending
    exact (hs.queue other hmem').mono fun c hc _ => hmem c ((hleft c).mp hc)

/-- A Run is admitted while no stopAgent of its Agent is past its read. -/
theorem Tracked.admits (hs : Tracked s) {rest : List Pending} {agentAtStart : Agent}
    {run : AgentRun} {messageId : String} {database : Database}
    (hqueue : s.queue = .admitRun run messageId :: rest)
    (hadmitted : admitRun s.database run messageId = .ok (database, agentAtStart))
    (hstopping : ¬s.Stopping run.agentId)
    (ht : t = State.spawn { s with queue := rest, database } (.admitted agentAtStart run))
    (howned : Owned t) (hbusy : BusyOnce database) : Tracked t := by
  subst ht
  obtain ⟨-, hheld, -⟩ := hs.owned.queue hqueue
  have hown := hheld ⟨run.agentId, run, false⟩ List.mem_cons_self
  obtain ⟨hfree, -, hothers⟩ := busy_admitRun hadmitted
  have hagent := (admit_eq_ok hadmitted).1
  have hid : agentAtStart.id = run.agentId := (findAgent_eq_some hagent).2
  have hclaims := claims_queue hqueue
  have hleft : ∀ c, c.inserted = true → (c ∈ State.claims (State.spawn
      { s with queue := rest, database } (.admitted agentAtStart run)) ↔
        c = ⟨agentAtStart.id, run, true⟩ ∨ c ∈ s.claims) := by
    intro c hinserted
    rw [(claims_spawn _ _).mem_iff, hclaims.mem_iff]
    refine List.mem_cons.trans (or_congr_right (Iff.symm (List.mem_cons.trans ?_)))
    refine or_iff_right fun heq => ?_
    exact absurd (heq ▸ hinserted) (by simp)
  -- the Agent was free, so no execution of it is under way
  have hidle : s.Idle run.agentId := by
    intro c hc hinserted heq
    refine hfree (heq ▸ busy_of_held hs.busy (hs.owned.held c hc) hinserted ?_)
    rw [heq, hagent]
    simp
  -- the Agent of the new execution is none that a stopAgent is past its read of
  have hwas : ∀ id, s.Stopping id → ∀ c ∈ State.claims (State.spawn
      { s with queue := rest, database } (.admitted agentAtStart run)),
      c.inserted = true → c.agentId = id → c ∈ s.claims := by
    intro id hstop c hc hinserted heq
    rcases (hleft c hinserted).mp hc with rfl | hc
    · exact absurd (hid.symm.trans heq ▸ hstop) hstopping
    · exact hc
  refine ⟨howned, hbusy, ?_, ?_, ?_, ?_, ?_, ?_⟩
  · intro c hc d hd hinserted hinserted' hsame
    rcases (hleft c hinserted).mp hc with rfl | hc
    · rcases (hleft d hinserted').mp hd with rfl | hd
      · rfl
      · exact absurd (hsame.symm.trans hid) (hidle d hd hinserted')
    · rcases (hleft d hinserted').mp hd with rfl | hd
      · exact absurd (hsame.trans hid) (hidle c hc hinserted)
      · exact hs.single c hc d hd hinserted hinserted' hsame
  · intro id hbusy hnone
    by_cases heq : id = run.agentId
    · subst heq
      exact hnone ⟨agentAtStart.id, run, true⟩ ((hleft _ rfl).mpr (.inl rfl)) rfl hid
    · refine hs.working id (busy_congr (hothers id heq) hbusy) fun c hc hinserted => ?_
      exact hnone c ((hleft c hinserted).mpr (.inr hc)) hinserted
  · intro c hc hinserted
    rcases (hleft c hinserted).mp hc with rfl | hc
    · exact .inl ⟨agentAtStart, List.mem_append_right _ (List.mem_singleton_self _)⟩
    · refine hs.seen_of_kept ?_ ?_ c hc hinserted
      · exact fun _ _ htask => List.mem_append_left _ htask
      · rfl
  · intro execution hmem
    obtain ⟨hover, hstored⟩ := hs.ended execution hmem
    refine ⟨fun c hc hinserted => ?_, stays_admitRun hadmitted hstored⟩
    rcases (hleft c hinserted).mp hc with rfl | hc
    · -- an execution that has ended has its Run stored, and the new Run was not
      rintro rfl
      obtain ⟨stored, hmem, heq⟩ := List.mem_map.mp (hstored (by simp [hid, hagent]))
      simp only [Held, Bool.false_eq_true, if_false] at hown
      exact hown.2.2 stored hmem (congrArg Prod.snd heq)
    · exact hover c hc hinserted
  · intro task htask
    rcases List.mem_append.mp htask with hold | hnew
    · have hknows := hs.tasks task hold
      cases task with
      | awaiting id purpose runId =>
        cases purpose with
        | delete => trivial
        | stop =>
          intro c hc hinserted heq
          exact hknows c (hwas id (.inl ⟨runId, hold⟩) c hc hinserted heq) hinserted heq
      | released id purpose =>
        cases purpose with
        | delete => trivial
        | stop =>
          intro c hc hinserted heq
          exact hknows c (hwas id (.inr (.inl hold)) c hc hinserted heq) hinserted heq
      | _ => exact hknows
    · obtain rfl := List.mem_singleton.mp hnew
      exact hid
  · intro pending hpending
    have hmem : pending ∈ s.queue := hqueue ▸ List.mem_cons_of_mem _ hpending
    have hknows := hs.queue pending hmem
    cases pending with
    | stop id =>
      intro c hc hinserted heq
      exact hknows c (hwas id (.inr (.inr hmem)) c hc hinserted heq) hinserted heq
    | _ => exact hknows

theorem busyOnce_commitHead {pending : Pending} {rest : List Pending} {now : String}
    (hs : Tracked s) (hqueue : s.queue = pending :: rest) :
    BusyOnce (State.commitHead { s with queue := rest } now pending).database := by
  obtain ⟨-, hheld, -⟩ := hs.owned.queue hqueue
  cases pending with
  | admitRun run messageId =>
    have hown := hheld ⟨run.agentId, run, false⟩ List.mem_cons_self
    simp only [Held, Bool.false_eq_true, if_false] at hown
    unfold State.commitHead
    dsimp only
    split
    · exact hs.busy
    · rename_i hadmitted
      exact busyOnce_admission hs.busy hown.1 hadmitted
  | markRunning agentAtStart run =>
    exact busyOnce_markRunning hs.busy (hheld ⟨agentAtStart.id, run, true⟩ List.mem_cons_self) rfl
  | complete agentAtStart run result completedAt messageId =>
    have hown := hheld ⟨agentAtStart.id, run, true⟩ List.mem_cons_self
    show BusyOnce (complete s.database agentAtStart.id run.id result completedAt messageId)
    unfold complete
    split
    · exact hs.busy
    · refine busyOnce_ended ?_ ?_ hs.busy rfl hown
      · exact fun _ => ⟨rfl, rfl⟩
      · exact fun _ => rfl
  | fail agentAtStart run cancelled message completedAt =>
    have hown := hheld ⟨agentAtStart.id, run, true⟩ List.mem_cons_self
    refine busyOnce_ended ?_ ?_ hs.busy rfl hown
    · exact fun r => ⟨rfl, by cases cancelled <;> rfl⟩
    · exact fun _ => rfl
  | start id =>
    unfold State.commitHead
    dsimp only
    split
    · exact hs.busy
    · rename_i database changed hset
      obtain ⟨agent, hagent, hallowed, f, hf, rfl⟩ := setStatus_eq_ok hset
      refine busyOnce_setAgent (fun a => (hf a).1) hs.busy (activeRuns_eq_zero hs.busy ?_)
      exact fun hbusy => hallowed ⟨rfl, hbusy.of_findAgent hagent⟩
  | stop id =>
    -- the stopAgent has waited, so its Agent is idle and not busy
    have hidle : s.Idle id := hs.queue (.stop id) (hqueue ▸ List.mem_cons_self)
    unfold State.commitHead
    dsimp only
    split
    · exact hs.busy
    · rename_i database changed hset
      obtain ⟨agent, hagent, -, f, hf, rfl⟩ := setStatus_eq_ok hset
      refine busyOnce_setAgent (fun a => (hf a).1) hs.busy (activeRuns_eq_zero hs.busy ?_)
      exact fun hbusy => hs.working id hbusy hidle
  | delete id => exact busyOnce_deleteRecords hs.busy

/-- A mutation that admits no Run and ends none, with the task it leaves, if any. -/
theorem Tracked.moves_of_commit (hs : Tracked s) {pending : Pending} {rest : List Pending}
    {database : Database} {tasks : List Task} (hqueue : s.queue = pending :: rest)
    (ht : t = { s with queue := rest, database, tasks := s.tasks ++ tasks })
    (hclaims : ∀ c, c.inserted = true → (c ∈ pending.claim?.toList ↔
      c ∈ tasks.filterMap Task.claim?))
    (htasks : ∀ task ∈ tasks, task.Knows t)
    (hbusy : ∀ id, Busy database id → Busy s.database id)
    (hstays : ∀ execution, Stays s.database execution → Stays database execution) :
    Moves s t := by
  subst ht
  refine ⟨fun c hinserted => ?_, hbusy, hstays, rfl, ?_, ?_, ?_⟩
  · rw [(claims_queue hqueue).mem_iff, List.mem_append, hclaims c hinserted]
    simp only [State.claims, List.filterMap_append, List.mem_append]
    exact ⟨fun h => h.elim (fun h => h.elim (.inr ∘ .inl) .inl) (.inr ∘ .inr),
      fun h => h.elim (.inl ∘ .inr) fun h => h.elim (.inl ∘ .inl) .inr⟩
  · exact hs.seen_of_kept (fun _ _ => List.mem_append_left _) rfl
  · exact fun task htask => (List.mem_append.mp htask).imp id (htasks task)
  · exact fun _ hpending => .inl (hqueue ▸ List.mem_cons_of_mem _ hpending)

theorem Tracked.commitHead {pending : Pending} {rest : List Pending} {now : String}
    (hs : Tracked s) (hqueue : s.queue = pending :: rest) (hquiet : Undisturbed s (.commit now)) :
    Tracked (State.commitHead { s with queue := rest } now pending) := by
  have howned := @Owned.commitHead _ _ _ now hs.owned hqueue
  have hbusy := @busyOnce_commitHead _ _ _ now hs hqueue
  obtain ⟨-, hheld, -⟩ := hs.owned.queue hqueue
  -- a mutation that is refused, or changes the status of an Agent
  have hsame : (∀ c, c.inserted = true → c ∉ pending.claim?.toList) → ∀ {database : Database},
      Owned { s with queue := rest, database } → BusyOnce database →
      (∀ id, Busy database id → Busy s.database id) →
      (∀ execution, Stays s.database execution → Stays database execution) →
      Tracked { s with queue := rest, database } := by
    intro hnone database howned hbusy hfree hstays
    refine hs.moves howned hbusy (@Tracked.moves_of_commit _ _ hs _ _ _ [] hqueue (by simp) ?_
      (by simp) hfree hstays)
    exact fun c hinserted => iff_of_false (hnone c hinserted) List.not_mem_nil
  cases pending with
  | admitRun run messageId =>
    have hkept := And.intro howned hbusy
    unfold State.commitHead at hkept ⊢
    dsimp only at hkept ⊢
    split at hkept
    · refine hsame ?_ hkept.1 hs.busy (fun _ h => h) fun _ h => h
      rintro c hinserted hc
      rw [List.mem_singleton.mp hc] at hinserted
      exact absurd hinserted (by simp)
    · rename_i database agentAtStart hadmitted
      refine hs.admits hqueue hadmitted ?_ rfl hkept.1 hkept.2
      exact hquiet.admission now run messageId rest _ rfl hqueue hadmitted
  | markRunning agentAtStart run =>
    refine hs.moves howned hbusy (hs.moves_of_commit hqueue rfl (fun _ _ => Iff.rfl) ?_ ?_ ?_)
    · simp [Task.Knows]
    · exact fun _ => busy_congr rfl
    · exact fun _ => stays_setRun fun _ => ⟨rfl, rfl⟩
  | complete agentAtStart run result completedAt messageId =>
    have hown := hheld ⟨agentAtStart.id, run, true⟩ List.mem_cons_self
    exact hs.ends hqueue rfl rfl howned hbusy (fun _ => busy_complete hown rfl)
      fun _ => stays_complete
  | fail agentAtStart run cancelled message completedAt =>
    exact hs.ends hqueue rfl rfl howned hbusy (fun _ => busy_fail) fun _ => stays_fail
  | start id | stop id =>
    have hkept := And.intro howned hbusy
    unfold State.commitHead at hkept ⊢
    dsimp only at hkept ⊢
    split at hkept
    · exact hsame (by simp [Pending.claim?]) hkept.1 hs.busy (fun _ h => h) fun _ h => h
    · rename_i database changed hset
      obtain ⟨agent, -, -, f, hf, rfl⟩ := setStatus_eq_ok hset
      refine hsame (by simp [Pending.claim?]) hkept.1 hkept.2 (fun other h => ?_)
        fun _ => stays_setAgent fun a => (hf a).1
      exact (busy_setAgent (fun a => ⟨(hf a).1, by simp [(hf a).2]⟩) h).2
  | delete id =>
    refine hsame (by simp [Pending.claim?]) howned hbusy (fun other h => ?_)
      fun _ => stays_deleteRecords
    have hother : other ≠ id := by
      rintro rfl
      obtain ⟨agent, hagent, -⟩ := h
      rw [findAgent_deleteRecords_self] at hagent
      exact absurd hagent (by simp)
    exact busy_congr (findAgent_deleteRecords_ne hother) h

theorem Tracked.step (hs : Tracked s) (hquiet : Undisturbed s e) (h : step s e = some t) :
    Tracked t := by
  by_cases hcommit : ∃ now, e = .commit now
  · obtain ⟨now, rfl⟩ := hcommit
    simp only [AgentService.step] at h
    split at h
    · exact absurd h (by simp)
    · rename_i pending rest hqueue
      exact Option.some.inj h ▸ hs.commitHead hqueue hquiet
  · have hother : ∀ now, e ≠ .commit now := fun now heq => hcommit ⟨now, heq⟩
    exact hs.moves (hs.owned.step h) ((step_keeps h hother).1 ▸ hs.busy)
      (hs.step_moves hquiet hother h)

theorem tracked_start (database : Database) (now : String) :
    Tracked (start (initializeStore database now)) := by
  have hfree : ∀ id, ¬Busy (initializeStore database now) id := by
    rintro id ⟨agent, hagent, hbusy⟩
    obtain ⟨old, -, rfl⟩ := List.mem_map.mp (findAgent_eq_some hagent).1
    split at hbusy
    · exact absurd hbusy (by simp)
    · rename_i hother
      exact hother hbusy
  refine ⟨owned_start _, fun id => ?_, by simp [start, State.claims], fun id h => ?_,
    by simp [start, State.claims], by simp [start], by simp [start], by simp [start]⟩
  · have hnone : (initializeStore database now).activeRuns id = 0 := by
      refine List.countP_eq_zero.mpr fun r hr => ?_
      obtain ⟨old, -, rfl⟩ := List.mem_map.mp hr
      split
      · simp [AgentRun.active]
      · rename_i hidle
        simp [hidle]
    exact ⟨by rw [start, hnone]; decide, fun hne => absurd hnone hne⟩
  · exact absurd h (hfree id)

/-! ### Runs -/

/-- In no step of the run does a message get past a stopAgent. -/
def AlwaysUndisturbed (s : State) (es : List Event) : Prop :=
  ∀ before e after u, es = before ++ e :: after → run step s before = some u → Undisturbed u e

theorem AlwaysUndisturbed.cons {es : List Event} (h : AlwaysUndisturbed s (e :: es))
    (hstep : step s e = some t) : Undisturbed s e ∧ AlwaysUndisturbed t es := by
  refine ⟨h [] e es s rfl (run_nil.mpr rfl), fun before e' after u hes hbefore => ?_⟩
  exact h (e :: before) e' after u (by rw [hes]; rfl) (run_cons.mpr ⟨t, hstep, hbefore⟩)

theorem AlwaysUndisturbed.append {es fs : List Event} (h : AlwaysUndisturbed s (es ++ fs))
    (hrun : run step s es = some t) : AlwaysUndisturbed s es ∧ AlwaysUndisturbed t fs := by
  constructor
  · intro before e after u hes hbefore
    exact h before e (after ++ fs) u (by rw [hes]; simp) hbefore
  · intro before e after u hfs hbefore
    exact h (es ++ before) e after u (by rw [hfs]; simp) (run_append.mpr ⟨t, hrun, hbefore⟩)

theorem tracked_run {es : List Event} (hs : Tracked s) (hquiet : AlwaysUndisturbed s es)
    (h : run step s es = some t) : Tracked t := by
  induction es generalizing s with
  | nil => exact run_nil.mp h ▸ hs
  | cons e es ih =>
    obtain ⟨u, hu, hrest⟩ := run_cons.mp h
    obtain ⟨hfirst, hlater⟩ := hquiet.cons hu
    exact ih (hs.step hfirst hu) hlater hrest

end Steps

end AgentService

end EpochGuard
