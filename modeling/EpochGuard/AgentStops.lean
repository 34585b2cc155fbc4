import EpochGuard.AgentExecutions

/-!
# Stopping an Agent

An Agent has at most one active Run; a stopAgent that has taken effect leaves none, and
the Agent stays stopped until a startAgent. All of it holds as long as no message gets
past a stopAgent (`Undisturbed`), and the last section is a run in which one does.
-/

namespace EpochGuard

namespace AgentService

open Json Checked Runs

section Steps

variable {s t : State} {e : Event}

/-! ## The stopped status -/

/-- The startAgent of an Agent takes effect. -/
def Starts (s : State) (e : Event) (id : String) : Prop :=
  ∃ now rest, e = .commit now ∧ s.queue = .start id :: rest

/-- A mutation that is not the Agent's startAgent leaves it stopped, if it leaves
it at all. -/
theorem stopped_commitHead {pending : Pending} {rest : List Pending} {now id : String}
    {agent left : Agent} (hs : Tracked s) (hqueue : s.queue = pending :: rest)
    (hagent : s.database.findAgent id = some agent) (hstopped : agent.status = .stopped)
    (hstart : pending ≠ .start id)
    (hleft : (State.commitHead { s with queue := rest } now pending).database.findAgent id =
      some left) : left.status = .stopped := by
  have hsame : s.database.findAgent id = some left → left.status = .stopped := by
    intro hfound
    obtain rfl : agent = left := Option.some.inj (hagent.symm.trans hfound)
    exact hstopped
  have hclaims := claims_queue hqueue
  cases pending with
  | admitRun run messageId =>
    unfold State.commitHead at hleft
    dsimp only at hleft
    split at hleft
    · exact hsame hleft
    · rename_i database agentAtStart hadmitted
      obtain ⟨hfound, hnot, -, messages, f, hf, rfl⟩ := admit_eq_ok hadmitted
      -- a stopped Agent is not admitted a Run
      have hother : id ≠ run.agentId := by
        rintro rfl
        obtain rfl : agent = agentAtStart := Option.some.inj (hagent.symm.trans hfound)
        exact hnot hstopped
      exact hsame ((findAgent_setAgent_ne (fun a => (hf a).1) hother).symm.trans hleft)
  | markRunning agentAtStart run => exact hsame hleft
  | complete agentAtStart run result completedAt messageId =>
    have hown := hs.owned.held ⟨agentAtStart.id, run, true⟩
      (hclaims.mem_iff.mpr List.mem_cons_self)
    change (complete s.database agentAtStart.id run.id result completedAt messageId).findAgent id =
      some left at hleft
    unfold complete at hleft
    split at hleft
    · exact hsame hleft
    · -- the Agent of the Run is busy, so it is another one
      have hother : id ≠ agentAtStart.id := by
        rintro rfl
        have hbusy := busy_of_held hs.busy hown rfl (by simp [hagent])
        rw [hbusy.of_findAgent hagent] at hstopped
        exact absurd hstopped (by decide)
      refine hsame (Eq.trans (Eq.symm (Eq.trans (findAgent_setAgent_ne ?_ hother) ?_)) hleft)
      · exact fun _ => rfl
      · rfl
  | fail agentAtStart run cancelled message completedAt =>
    change (fail s.database agentAtStart.id run.id cancelled message completedAt).findAgent id =
      some left at hleft
    unfold fail at hleft
    by_cases hother : id = agentAtStart.id
    · -- a Run that fails leaves a stopped Agent stopped
      subst hother
      rw [findAgent_setAgent_self (by exact fun _ => rfl)] at hleft
      obtain ⟨old, hold, rfl⟩ := Option.map_eq_some_iff.mp hleft
      obtain rfl : agent = old := Option.some.inj (hagent.symm.trans hold)
      simp [hstopped]
    · refine hsame (Eq.trans (Eq.symm (Eq.trans (findAgent_setAgent_ne ?_ hother) ?_)) hleft)
      · exact fun _ => rfl
      · rfl
  | start other =>
    unfold State.commitHead at hleft
    dsimp only at hleft
    split at hleft
    · exact hsame hleft
    · rename_i database changed hset
      obtain ⟨_, -, -, f, hf, rfl⟩ := setStatus_eq_ok hset
      have hother : id ≠ other := by
        rintro rfl
        exact hstart rfl
      exact hsame ((findAgent_setAgent_ne (fun a => (hf a).1) hother).symm.trans hleft)
  | stop other =>
    unfold State.commitHead at hleft
    dsimp only at hleft
    split at hleft
    · exact hsame hleft
    · rename_i database changed hset
      obtain ⟨_, -, -, f, hf, rfl⟩ := setStatus_eq_ok hset
      by_cases hother : id = other
      · subst hother
        change (s.database.setAgent id f).findAgent id = some left at hleft
        rw [findAgent_setAgent_self fun a => (hf a).1] at hleft
        obtain ⟨old, -, rfl⟩ := Option.map_eq_some_iff.mp hleft
        exact (hf old).2
      · exact hsame ((findAgent_setAgent_ne (fun a => (hf a).1) hother).symm.trans hleft)
  | delete other =>
    by_cases hother : id = other
    · subst hother
      exact absurd (findAgent_deleteRecords_self.symm.trans hleft) (by simp)
    · exact hsame ((findAgent_deleteRecords_ne hother).symm.trans hleft)

/-- An Agent that is missing is never added. -/
theorem missing_commitHead {pending : Pending} {rest : List Pending} {now id : String}
    (hmissing : s.database.findAgent id = none) :
    (State.commitHead { s with queue := rest } now pending).database.findAgent id = none := by
  cases pending with
  | admitRun run messageId =>
    unfold State.commitHead
    dsimp only
    split
    · exact hmissing
    · rename_i database agentAtStart hadmitted
      obtain ⟨-, -, -, messages, f, hf, rfl⟩ := admit_eq_ok hadmitted
      exact (findAgent_setAgent_none fun a => (hf a).1).mpr hmissing
  | markRunning agentAtStart run => exact hmissing
  | complete agentAtStart run result completedAt messageId =>
    change (complete s.database agentAtStart.id run.id result completedAt messageId).findAgent id =
      none
    unfold complete
    split
    · exact hmissing
    · refine (findAgent_setAgent_none ?_).mpr hmissing
      exact fun _ => rfl
  | fail agentAtStart run cancelled message completedAt =>
    refine (findAgent_setAgent_none ?_).mpr hmissing
    exact fun _ => rfl
  | start other | stop other =>
    unfold State.commitHead
    dsimp only
    split
    · exact hmissing
    · rename_i database changed hset
      obtain ⟨_, -, -, f, hf, rfl⟩ := setStatus_eq_ok hset
      exact (findAgent_setAgent_none fun a => (hf a).1).mpr hmissing
  | delete other => exact find?_filter_eq_none hmissing

/-- The Agent is stopped, unless it is deleted. -/
def Stopped (database : Database) (id : String) : Prop :=
  ∀ agent, database.findAgent id = some agent → agent.status = .stopped

/-- A stopped Agent stays stopped, or missing, but for its startAgent. -/
theorem stopped_step {id : String} (hs : Tracked s) (hstopped : Stopped s.database id)
    (h : step s e = some t) (hstart : ¬Starts s e id) : Stopped t.database id := by
  rcases step_database h with ⟨now, pending, rest, rfl, hqueue, rfl⟩ | hsame
  · intro left hleft
    cases hagent : s.database.findAgent id with
    | none =>
      rw [missing_commitHead hagent] at hleft
      exact absurd hleft (by simp)
    | some agent =>
      refine stopped_commitHead hs hqueue hagent (hstopped agent hagent) ?_ hleft
      rintro rfl
      exact hstart ⟨now, rest, rfl, hqueue⟩
  · exact hsame ▸ hstopped

/-- The mutation of a sendMessage to the Agent takes effect. -/
def Admits (s : State) (e : Event) (id : String) : Prop :=
  ∃ now run messageId rest, e = .commit now ∧ s.queue = .admitRun run messageId :: rest ∧
    run.agentId = id

theorem activeRuns_step_le {id : String} (hs : Tracked s) (h : step s e = some t)
    (hadmits : ¬Admits s e id) : t.database.activeRuns id ≤ s.database.activeRuns id := by
  rcases step_database h with ⟨now, pending, rest, rfl, hqueue, rfl⟩ | hsame
  · have hclaims := claims_queue hqueue
    cases pending with
    | admitRun run messageId =>
      have hown := hs.owned.held ⟨run.agentId, run, false⟩ (hclaims.mem_iff.mpr List.mem_cons_self)
      simp only [Held, Bool.false_eq_true, if_false] at hown
      unfold State.commitHead
      dsimp only
      split
      · exact Nat.le_refl _
      · rename_i database agentAtStart hadmitted
        have hother : run.agentId ≠ id := by
          rintro rfl
          exact hadmits ⟨now, run, messageId, rest, rfl, hqueue, rfl⟩
        have hcount := activeRuns_admitRun hown.1 hadmitted id
        rw [if_neg hother, Nat.add_zero] at hcount
        exact Nat.le_of_eq hcount
    | markRunning agentAtStart run =>
      have hown := hs.owned.held ⟨agentAtStart.id, run, true⟩
        (hclaims.mem_iff.mpr List.mem_cons_self)
      exact activeRuns_markRunning_le hown rfl id
    | complete agentAtStart run result completedAt messageId =>
      change (complete s.database agentAtStart.id run.id result completedAt messageId).activeRuns id
        ≤ _
      unfold complete
      split
      · exact Nat.le_refl _
      · refine @activeRuns_setRun_le s.database run.id _ ?_ id
        exact fun _ => ⟨rfl, fun hactive => absurd hactive Bool.false_ne_true⟩
    | fail agentAtStart run cancelled message completedAt =>
      refine @activeRuns_setRun_le s.database run.id _ ?_ id
      refine fun _ => ⟨rfl, fun hactive => ?_⟩
      cases cancelled <;> exact absurd hactive Bool.false_ne_true
    | start other | stop other =>
      unfold State.commitHead
      dsimp only
      split
      · exact Nat.le_refl _
      · rename_i database changed hset
        obtain ⟨_, -, -, f, -, rfl⟩ := setStatus_eq_ok hset
        exact Nat.le_refl _
    | delete other => exact activeRuns_deleteRecords_le id
  · exact Nat.le_of_eq (congrArg (fun d => d.activeRuns id) hsame)

/-! ## Runs -/

/-- An Agent without active Runs gets one from a sendMessage alone. -/
theorem admits_of_active {es : List Event} {id : String} (hs : Tracked s)
    (hquiet : AlwaysUndisturbed s es) (hnone : s.database.activeRuns id = 0)
    (h : run step s es = some t) (hactive : t.database.activeRuns id ≠ 0) :
    ∃ before e after u, es = before ++ e :: after ∧ run step s before = some u ∧
      Admits u e id := by
  induction es generalizing s with
  | nil => exact absurd (run_nil.mp h ▸ hnone) hactive
  | cons e es ih =>
    obtain ⟨u, hu, hrest⟩ := run_cons.mp h
    obtain ⟨hfirst, hlater⟩ := hquiet.cons hu
    by_cases hadmits : Admits s e id
    · exact ⟨[], e, es, s, rfl, run_nil.mpr rfl, hadmits⟩
    · have hle := activeRuns_step_le hs hu hadmits
      obtain ⟨before, e', after, v, rfl, hbefore, hfound⟩ :=
        ih (hs.step hfirst hu) hlater (by omega) hrest
      exact ⟨e :: before, e', after, v, rfl, run_cons.mpr ⟨u, hu, hbefore⟩, hfound⟩

/-- A stopped Agent has no active Run. -/
theorem activeRuns_stopped {id : String} (hs : Tracked s) (hstopped : Stopped s.database id) :
    s.database.activeRuns id = 0 := by
  refine activeRuns_eq_zero hs.busy ?_
  rintro ⟨agent, hagent, hbusy⟩
  rw [hstopped agent hagent] at hbusy
  exact absurd hbusy (by decide)

/-- A stopped Agent gets an active Run after a startAgent and a sendMessage. -/
theorem started_of_active {es : List Event} {id : String} (hs : Tracked s)
    (hquiet : AlwaysUndisturbed s es) (hstopped : Stopped s.database id)
    (h : run step s es = some t) (hactive : t.database.activeRuns id ≠ 0) :
    ∃ before e middle e' after u v, es = before ++ e :: (middle ++ e' :: after) ∧
      run step s before = some u ∧ Starts u e id ∧
      run step s (before ++ e :: middle) = some v ∧ Admits v e' id := by
  induction es generalizing s with
  | nil => exact absurd (run_nil.mp h ▸ activeRuns_stopped hs hstopped) hactive
  | cons e es ih =>
    obtain ⟨u, hu, hrest⟩ := run_cons.mp h
    obtain ⟨hfirst, hlater⟩ := hquiet.cons hu
    have hnext := hs.step hfirst hu
    by_cases hstart : Starts s e id
    · have hadmits : ¬Admits s e id := by
        obtain ⟨now, rest, rfl, hqueue⟩ := hstart
        rintro ⟨_, run, messageId, rest', -, hqueue', -⟩
        rw [hqueue] at hqueue'
        exact absurd (List.cons.inj hqueue').1 (by simp)
      have hle := activeRuns_step_le hs hu hadmits
      have hzero := activeRuns_stopped hs hstopped
      obtain ⟨middle, e', after, v, rfl, hmiddle, hadmits⟩ :=
        admits_of_active hnext hlater (by omega) hrest hactive
      exact ⟨[], e, middle, e', after, s, v, rfl, run_nil.mpr rfl, hstart,
        run_cons.mpr ⟨u, hu, hmiddle⟩, hadmits⟩
    · obtain ⟨before, e₁, middle, e₂, after, v, w, rfl, hbefore, hstarts, hmiddle, hadmits⟩ :=
        ih hnext hlater (stopped_step hs hstopped hu hstart) hrest
      exact ⟨e :: before, e₁, middle, e₂, after, v, w, rfl, run_cons.mpr ⟨u, hu, hbefore⟩,
        hstarts, run_cons.mpr ⟨u, hu, hmiddle⟩, hadmits⟩

/-- The mutation of a stopAgent leaves its Agent stopped. -/
theorem stopped_of_commit {rest : List Pending} {now id : String} {agent : Agent}
    (hqueue : s.queue = .stop id :: rest) (hagent : s.database.findAgent id = some agent)
    (h : step s (.commit now) = some t) : Stopped t.database id := by
  simp only [step, hqueue, Option.some.injEq] at h
  subst h
  unfold State.commitHead
  dsimp only
  split
  · rename_i hset
    simp [setStatus, hagent] at hset
  · rename_i database changed hset
    obtain ⟨_, -, -, f, hf, rfl⟩ := setStatus_eq_ok hset
    intro left hleft
    change (s.database.setAgent id f).findAgent id = some left at hleft
    rw [findAgent_setAgent_self fun a => (hf a).1] at hleft
    obtain ⟨old, -, rfl⟩ := Option.map_eq_some_iff.mp hleft
    exact (hf old).2

/-- In every run in which no message gets past a stopAgent: an Agent has at most one
active Run; once a stopAgent has taken effect it has none before a startAgent and a
sendMessage; and it leaves the stopped status by a startAgent alone. The condition is
about what the calls find when they read and when they are admitted; that the wait of
`cancelExecution` then leaves the Agent idle is `Tracked`. -/
theorem agentRuns_exclusive {database : Database} {now : String} {es : List Event}
    (h : run step (start (initializeStore database now)) es = some t)
    (hquiet : AlwaysUndisturbed (start (initializeStore database now)) es) :
    (∀ id, t.database.activeRuns id ≤ 1) ∧
    (∀ before time after u rest id agent, es = before ++ .commit time :: after →
      run step (start (initializeStore database now)) before = some u →
      u.queue = .stop id :: rest → u.database.findAgent id = some agent →
      t.database.activeRuns id ≠ 0 →
      ∃ first e middle e' last v w, after = first ++ e :: (middle ++ e' :: last) ∧
        run step u (.commit time :: first) = some v ∧ Starts v e id ∧
        run step u (.commit time :: (first ++ e :: middle)) = some w ∧ Admits w e' id) ∧
    ∀ e u id agent left, step t e = some u → t.database.findAgent id = some agent →
      agent.status = .stopped → u.database.findAgent id = some left →
      left.status ≠ .stopped → Starts t e id := by
  have htracked := tracked_run (tracked_start database now) hquiet h
  refine ⟨fun id => (htracked.busy id).1, ?stopped, ?leaves⟩
  case stopped =>
    rintro before time after u rest id agent rfl hbefore hqueue hagent hactive
    obtain ⟨u', hu', hafter⟩ := run_append.mp h
    obtain rfl : u = u' := Option.some.inj (hbefore.symm.trans hu')
    obtain ⟨hquietBefore, hquietAfter⟩ := hquiet.append hbefore
    have htrackedu := tracked_run (tracked_start database now) hquietBefore hbefore
    obtain ⟨v, hv, hrest⟩ := run_cons.mp hafter
    obtain ⟨hfirst, hlater⟩ := hquietAfter.cons hv
    obtain ⟨first, e, middle, e', last, x, w, rfl, hx, hstarts, hw, hadmits⟩ :=
      started_of_active (htrackedu.step hfirst hv) hlater (stopped_of_commit hqueue hagent hv)
        hrest hactive
    exact ⟨first, e, middle, e', last, x, w, rfl, run_cons.mpr ⟨v, hv, hx⟩, hstarts,
      run_cons.mpr ⟨v, hv, hw⟩, hadmits⟩
  case leaves =>
    intro e u id agent left hstep hagent hstatus hleft hne
    by_contra hstart
    have hstopped : Stopped t.database id := by
      intro found hfound
      obtain rfl : agent = found := Option.some.inj (hagent.symm.trans hfound)
      exact hstatus
    exact hne (stopped_step htracked hstopped hstep hstart left hleft)

/-! ### The condition on a given run -/

def Task.stopping (id : String) : Task → Bool
  | .awaiting other .stop _ | .released other .stop => other = id
  | _ => false

def Task.admittedFor (id : String) : Task → Bool
  | .admitted _ run => run.agentId = id
  | _ => false

/-- The check of `Undisturbed`. -/
def checkUndisturbed (s : State) : Event → Bool
  | .resume index _ _ =>
      match s.tasks[index]? with
      | some (.cancelled id .stop) => !s.tasks.any (Task.admittedFor id)
      | _ => true
  | .commit _ =>
      match s.queue with
      | .admitRun run messageId :: _ =>
          (admitRun s.database run messageId).toOption.isNone ||
            !(s.tasks.any (Task.stopping run.agentId) || .stop run.agentId ∈ s.queue)
      | _ => true
  | _ => true

theorem undisturbed_of_check (h : checkUndisturbed s e = true) : Undisturbed s e := by
  constructor
  · rintro index now messageId id agentAtStart run rfl htask hadmitted rfl
    simp only [checkUndisturbed, htask, Bool.not_eq_true', List.any_eq_false] at h
    exact h _ hadmitted (decide_eq_true rfl)
  · rintro now run messageId rest left rfl hqueue hleft hstopping
    simp only [checkUndisturbed, hqueue, hleft, Except.toOption, Option.isNone_some,
      Bool.false_or, Bool.not_eq_true', Bool.or_eq_false_iff, List.any_eq_false] at h
    rcases hstopping with ⟨runId, hawaiting⟩ | hreleased | hstop
    · exact h.1 _ hawaiting (decide_eq_true rfl)
    · exact h.1 _ hreleased (decide_eq_true rfl)
    · rw [hqueue] at hstop
      exact absurd hstop (of_decide_eq_false h.2)

def checkRun : State → List Event → Bool
  | _, [] => true
  | s, e :: es => checkUndisturbed s e && (step s e).all fun t => checkRun t es

theorem alwaysUndisturbed_of_check {es : List Event} (h : checkRun s es = true) :
    AlwaysUndisturbed s es := by
  intro before e after u hes hbefore
  induction before generalizing s es with
  | nil =>
    obtain rfl := run_nil.mp hbefore
    subst hes
    rw [List.nil_append, checkRun, Bool.and_eq_true] at h
    exact undisturbed_of_check h.1
  | cons first before ih =>
    obtain ⟨t, ht, hrest⟩ := run_cons.mp hbefore
    subst hes
    simp only [List.cons_append, checkRun, ht, Option.all_some, Bool.and_eq_true] at h
    exact ih h.2 rfl hrest

end Steps

/-! ## A stopAgent between a sendMessage and its execution -/

namespace AgentSample

/-- The stopAgent finds no execution, because the sendMessage has not resumed
after its mutation. -/
def race : List Event :=
  [.sendMessage "agent_1" (js "first") "run_1" "message_1" "t1", .stopAgent "agent_1",
    .cancelSettled 0 true, .resume 0 "t2" "", .resume 0 "t2" "", .commit "t2", .commit "t3"]

/-- A stopAgent that finds the execution of a Run and awaits it; the messages that
come in the meantime are refused. -/
def awaited : List Event :=
  [.sendMessage "agent_1" (js "first") "run_1" "message_1" "t1", .commit "t2", .resume 0 "t3" "",
    .commit "t4", .resume 0 "t5" "", .stopAgent "agent_1", .cancelSettled 1 true,
    .resume 1 "t6" "", .sendMessage "agent_1" (js "second") "run_2" "message_2" "t6", .commit "t6",
    .runnerSettled 0 (.error true RUN_CANCELLED), .resume 1 "t7" "", .commit "t8",
    .resume 0 "t9" "", .resume 1 "t9" "", .commit "t10"]

theorem awaited_runs : ((run step (start (initializeStore database "t0")) awaited).any fun s =>
    (s.database.findAgent "agent_1").map Agent.status = some .stopped ∧
      s.database.runs.map AgentRun.status = [.cancelled]) = true ∧
    checkRun (start (initializeStore database "t0")) awaited = true := by
  decide +kernel

end AgentSample

open AgentSample in
theorem agentRuns_exclusive_sample : ∃ t,
    run step (start (initializeStore database "t0")) awaited = some t ∧
      (t.database.findAgent "agent_1").map Agent.status = some .stopped ∧
      t.database.runs.map AgentRun.status = [.cancelled] ∧
      (∀ id, t.database.activeRuns id ≤ 1) ∧
      ∀ e u left, step t e = some u → u.database.findAgent "agent_1" = some left →
        left.status ≠ .stopped → Starts t e "agent_1" := by
  obtain ⟨t, ht, hruns⟩ := (Option.any_eq_true _ _).mp awaited_runs.1
  obtain ⟨hstopped, hcancelled⟩ := of_decide_eq_true hruns
  obtain ⟨agent, hagent, hstatus⟩ := Option.map_eq_some_iff.mp hstopped
  obtain ⟨hsingle, -, hleaves⟩ :=
    agentRuns_exclusive ht (alwaysUndisturbed_of_check awaited_runs.2)
  exact ⟨t, ht, hstopped, hcancelled, hsingle,
    fun e u left hstep => hleaves e u "agent_1" agent left hstep hagent hstatus⟩

open AgentSample in
/-- After the stopAgent the Run is queued. It runs to its end, which makes the
Agent ready; and a startAgent and a sendMessage before that leave two active
Runs. -/
theorem stopped_agent_runs :
    (∃ s t u, run step (start (initializeStore database "t0")) race = some s ∧
      s.database.activeRuns "agent_1" = 1 ∧
      (s.database.findAgent "agent_1").map Agent.status = some .stopped ∧
      run step s [.resume 0 "t4" "", .commit "t5", .resume 0 "t6" "",
        .runnerSettled 0 (.result ⟨js "done", none, none⟩), .resume 0 "t7" "message_2"] = some t ∧
      t.queue.all (fun p => p ≠ .start "agent_1") = true ∧
      (t.database.findAgent "agent_1").map Agent.status = some .stopped ∧
      step t (.commit "t8") = some u ∧
      (u.database.findAgent "agent_1").map Agent.status = some .ready) ∧
    ∃ s, run step (start (initializeStore database "t0")) (race ++
        [.startAgent "agent_1", .commit "t4",
          .sendMessage "agent_1" (js "second") "run_2" "message_2" "t5", .commit "t6"]) = some s ∧
      s.database.activeRuns "agent_1" = 2 := by
  constructor
  · have hrun : ((run step (start (initializeStore database "t0")) race).any fun s =>
        (s.database.activeRuns "agent_1" = 1 ∧
          (s.database.findAgent "agent_1").map Agent.status = some .stopped) ∧
        (run step s [.resume 0 "t4" "", .commit "t5", .resume 0 "t6" "",
            .runnerSettled 0 (.result ⟨js "done", none, none⟩),
            .resume 0 "t7" "message_2"]).any fun t =>
          (t.queue.all (fun p => p ≠ .start "agent_1") = true ∧
            (t.database.findAgent "agent_1").map Agent.status = some .stopped) ∧
          (step t (.commit "t8")).any fun u =>
            (u.database.findAgent "agent_1").map Agent.status = some .ready) = true := by
      decide +kernel
    obtain ⟨s, hs, h⟩ := (Option.any_eq_true _ _).mp hrun
    obtain ⟨⟨hactive, hstopped⟩, h⟩ := of_decide_eq_true h
    obtain ⟨t, ht, h⟩ := (Option.any_eq_true _ _).mp h
    obtain ⟨⟨hqueue, hstopped'⟩, h⟩ := of_decide_eq_true h
    obtain ⟨u, hu, h⟩ := (Option.any_eq_true _ _).mp h
    exact ⟨s, t, u, hs, hactive, hstopped, ht, hqueue, hstopped', hu, of_decide_eq_true h⟩
  · have hrun : ((run step (start (initializeStore database "t0")) (race ++
        [.startAgent "agent_1", .commit "t4",
          .sendMessage "agent_1" (js "second") "run_2" "message_2" "t5",
          .commit "t6"])).any fun s =>
        s.database.activeRuns "agent_1" = 2) = true := by
      decide +kernel
    obtain ⟨s, hs, h⟩ := (Option.any_eq_true _ _).mp hrun
    exact ⟨s, hs, of_decide_eq_true h⟩

end AgentService

end EpochGuard
