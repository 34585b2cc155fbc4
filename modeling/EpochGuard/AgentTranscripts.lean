import EpochGuard.AgentService

/-!
# Runs and messages of the Agent service

What is stored of a conversation, over any interleaving of the calls and the
executions and over restarts of the server: every Run has its prompt as a
message, and its output as a second one exactly when it has completed; and a Run
that has ended is not written again.
-/

namespace EpochGuard

namespace AgentService

open Json Checked Runs

/-! ## Transcripts -/

/-- The message of a prompt, `admitRun` adds it with the Run. -/
def Question (run : AgentRun) (m : Message) : Prop :=
  m.role = .user ∧ m.agentId = run.agentId ∧ m.content = run.prompt ∧ m.createdAt = run.createdAt

/-- The message of an output, `complete` adds it. -/
def Answer (run : AgentRun) (m : Message) : Prop :=
  m.role = .assistant ∧ m.agentId = run.agentId ∧ run.output = some m.content ∧
    run.completedAt = some m.createdAt

/-- The messages of a Run, in the order they are stored in. -/
def Database.transcript (database : Database) (runId : String) : List Message :=
  database.messages.filter fun m => m.runId = runId

/-- Its prompt, then its output once it has completed. -/
def Transcribed (run : AgentRun) (transcript : List Message) : Prop :=
  if run.status = .completed then
    ∃ question answer, transcript = [question, answer] ∧ Question run question ∧ Answer run answer
  else ∃ question, transcript = [question] ∧ Question run question

structure Told (database : Database) : Prop where
  ids : (database.runs.map AgentRun.id).Nodup
  transcribed : ∀ r ∈ database.runs, Transcribed r (database.transcript r.id)
  owned : ∀ m ∈ database.messages, ∃ r ∈ database.runs, r.id = m.runId

/-- A change of a Run that leaves it without an output. -/
def Unanswered (f : AgentRun → AgentRun) : Prop :=
  ∀ r, (f r).id = r.id ∧ (f r).agentId = r.agentId ∧ (f r).prompt = r.prompt ∧
    (f r).createdAt = r.createdAt ∧ (f r).status ≠ .completed

/-- What a mutation does to the Runs and the messages, and the Agent whose records
it removes. Only the Run of an execution is changed, and only while it is active. -/
inductive Recorded (database : Database) :
    Option String → List AgentRun → List Message → Prop where
  | same : Recorded database none database.runs database.messages
  | asked {run : AgentRun} {question : Message} (hactive : run.active = true)
      (hfresh : ∀ r ∈ database.runs, r.id ≠ run.id) (hrun : question.runId = run.id)
      (hquestion : Question run question) :
      Recorded database none (database.runs ++ [run]) (database.messages ++ [question])
  | changed {id : String} {f : AgentRun → AgentRun}
      (hactive : ∀ r ∈ database.runs, r.id = id → r.active = true) (hf : Unanswered f) :
      Recorded database none (modifyFirst (fun r => r.id = id) f database.runs) database.messages
  | answered {id : String} {f : AgentRun → AgentRun} {answer : Message}
      (hactive : ∀ r ∈ database.runs, r.id = id → r.active = true)
      (hfound : ∃ r ∈ database.runs, r.id = id) (hrun : answer.runId = id)
      (hf : ∀ r, (f r).id = r.id ∧ (f r).agentId = r.agentId ∧ (f r).prompt = r.prompt ∧
        (f r).createdAt = r.createdAt ∧ (f r).status = .completed)
      (hanswer : ∀ r ∈ database.runs, r.id = id → Answer (f r) answer) :
      Recorded database none (modifyFirst (fun r => r.id = id) f database.runs)
        (database.messages ++ [answer])
  | deleted (agentId : String) :
      Recorded database (some agentId) (database.runs.filter fun r => r.agentId ≠ agentId)
        (database.messages.filter fun m => m.agentId ≠ agentId)

/-- Restarting the server ends what was active. -/
def restarted (now : String) (run : AgentRun) : AgentRun :=
  if run.active then
    { run with status := .cancelled
               error := some (js "Server restarted while this run was active")
               completedAt := some now }
  else run

section Databases

variable {database left : Database} {runs : List AgentRun} {messages : List Message}
  {run : AgentRun}

theorem not_completed_of_active (h : run.active = true) : run.status ≠ .completed := by
  intro hcompleted
  rw [AgentRun.active, hcompleted] at h
  exact absurd h (by decide)

theorem Transcribed.of_active (h : Transcribed run messages) (hactive : run.active = true) :
    ∃ question, messages = [question] ∧ Question run question := by
  rwa [Transcribed, if_neg (not_completed_of_active hactive)] at h

/-- Every message of a transcript is about the Agent of the Run. -/
theorem Transcribed.agentId (h : Transcribed run messages) :
    ∀ m ∈ messages, m.agentId = run.agentId := by
  intro m hm
  unfold Transcribed at h
  split_ifs at h
  · obtain ⟨question, answer, rfl, hquestion, hanswer⟩ := h
    rcases List.mem_cons.mp hm with rfl | hm
    · exact hquestion.2.1
    · rw [List.mem_singleton.mp hm]
      exact hanswer.2.1
  · obtain ⟨question, rfl, hquestion⟩ := h
    rw [List.mem_singleton.mp hm]
    exact hquestion.2.1

theorem Question.congr {other : AgentRun} {m : Message} (h : Question run m)
    (hagent : other.agentId = run.agentId) (hprompt : other.prompt = run.prompt)
    (hcreated : other.createdAt = run.createdAt) : Question other m := by
  obtain ⟨hrole, hagentId, hcontent, hcreatedAt⟩ := h
  exact ⟨hrole, hagentId.trans hagent.symm, hcontent.trans hprompt.symm,
    hcreatedAt.trans hcreated.symm⟩

theorem Transcribed.unanswered {f : AgentRun → AgentRun} (h : Transcribed run messages)
    (hactive : run.active = true) (hf : Unanswered f) : Transcribed (f run) messages := by
  obtain ⟨question, rfl, hquestion⟩ := h.of_active hactive
  obtain ⟨-, hagent, hprompt, hcreated, hstatus⟩ := hf run
  rw [Transcribed, if_neg hstatus]
  exact ⟨question, rfl, hquestion.congr hagent hprompt hcreated⟩

theorem transcript_append (database : Database) (m : Message) (id : String) :
    Database.transcript { database with messages := database.messages ++ [m] } id =
      database.transcript id ++ if m.runId = id then [m] else [] := by
  by_cases hid : m.runId = id
  · simp [Database.transcript, hid]
  · simp [Database.transcript, hid]

/-- No message is about a Run that is not stored. -/
theorem Told.transcript_eq_nil (h : Told database) {id : String}
    (hfresh : ∀ r ∈ database.runs, r.id ≠ id) : database.transcript id = [] := by
  rw [Database.transcript, List.filter_eq_nil_iff]
  intro m hm hid
  obtain ⟨r, hr, hrun⟩ := h.owned m hm
  exact hfresh r hr (hrun.trans (of_decide_eq_true hid))

/-- The transcripts of the Runs of other Agents are left. -/
theorem transcript_deleteRecords {agentId : String}
    (h : Transcribed run (database.transcript run.id)) (hne : run.agentId ≠ agentId) :
    (database.messages.filter fun m => m.agentId ≠ agentId).filter (fun m => m.runId = run.id) =
      database.transcript run.id := by
  rw [List.filter_filter, Database.transcript]
  apply List.filter_congr
  intro m hm
  by_cases hrun : m.runId = run.id
  · have hmem : m ∈ database.transcript run.id :=
      List.mem_filter.mpr ⟨hm, decide_eq_true hrun⟩
    have hagent := h.agentId m hmem
    simp [hrun, hagent, hne]
  · simp [hrun]

/-- Every mutation keeps it. -/
theorem Told.recorded {removed : Option String} (h : Told database)
    (hrecorded : Recorded database removed left.runs left.messages) : Told left := by
  generalize hruns : left.runs = runs at hrecorded
  generalize hmessages : left.messages = messages at hrecorded
  have htranscript : ∀ id, left.transcript id = messages.filter fun m => m.runId = id := by
    intro id
    rw [Database.transcript, hmessages]
  cases hrecorded with
  | same =>
    refine ⟨hruns ▸ h.ids, fun r hr => ?_, fun m hm => ?_⟩
    · rw [htranscript]
      exact h.transcribed r (hruns ▸ hr)
    · rw [hruns]
      exact h.owned m (hmessages ▸ hm)
  | @asked run question hactive hfresh hrun hquestion =>
    refine ⟨?_, fun r hr => ?_, fun m hm => ?_⟩
    · rw [hruns, List.map_append]
      refine List.nodup_append.mpr ⟨h.ids, by simp, ?_⟩
      intro id hid other hother
      obtain ⟨r, hr, rfl⟩ := List.mem_map.mp hid
      rw [List.mem_singleton.mp hother]
      exact hfresh r hr
    · -- the transcript of the new Run is its question, since no message named the Run
      -- before
      have hsplit := transcript_append database question r.id
      rw [Database.transcript] at hsplit
      rw [htranscript, hsplit]
      rcases List.mem_append.mp (hruns ▸ hr) with hold | hnew
      · rw [if_neg fun hid => hfresh r hold (hid.symm.trans hrun), List.append_nil]
        exact h.transcribed r hold
      · rw [List.mem_singleton.mp hnew, if_pos hrun, h.transcript_eq_nil hfresh, List.nil_append,
          Transcribed, if_neg (not_completed_of_active hactive)]
        exact ⟨question, rfl, hquestion⟩
    · rw [hruns]
      rcases List.mem_append.mp (hmessages ▸ hm) with hold | hnew
      · obtain ⟨r, hr, hid⟩ := h.owned m hold
        exact ⟨r, List.mem_append_left _ hr, hid⟩
      · rw [List.mem_singleton.mp hnew]
        exact ⟨run, List.mem_append_right _ (List.mem_singleton_self run), hrun.symm⟩
  | @changed id f hactive hf =>
    refine ⟨?_, fun r hr => ?_, fun m hm => ?_⟩
    · rw [hruns, map_modifyFirst fun r _ _ => (hf r).1]
      exact h.ids
    · rw [htranscript]
      rcases (mem_modifyFirst_key h.ids).mp (hruns ▸ hr) with ⟨hold, -⟩ | ⟨old, hold, hid, rfl⟩
      · exact h.transcribed r hold
      · rw [(hf old).1]
        exact (h.transcribed old hold).unanswered (hactive old hold hid) hf
    · obtain ⟨r, hr, hid⟩ := h.owned m (hmessages ▸ hm)
      rw [hruns]
      by_cases hrun : r.id = id
      · exact ⟨f r, (mem_modifyFirst_key h.ids).mpr (.inr ⟨r, hr, hrun, rfl⟩),
          (hf r).1.trans hid⟩
      · exact ⟨r, (mem_modifyFirst_key h.ids).mpr (.inl ⟨hr, hrun⟩), hid⟩
  | @answered id f answer hactive hfound hrun hf hanswer =>
    refine ⟨?_, fun r hr => ?_, fun m hm => ?_⟩
    · rw [hruns, map_modifyFirst fun r _ _ => (hf r).1]
      exact h.ids
    · have hsplit := transcript_append database answer r.id
      rw [Database.transcript] at hsplit
      rw [htranscript, hsplit]
      rcases (mem_modifyFirst_key h.ids).mp (hruns ▸ hr) with ⟨hold, hne⟩ | ⟨old, hold, hid, rfl⟩
      · rw [if_neg fun heq => hne (heq.symm.trans hrun), List.append_nil]
        exact h.transcribed r hold
      · -- the Run was active, so its prompt was its only message
        obtain ⟨question, htold, hquestion⟩ :=
          (h.transcribed old hold).of_active (hactive old hold hid)
        obtain ⟨hsame, hagent, hprompt, hcreated, hcompleted⟩ := hf old
        rw [hsame, if_pos (hrun.trans hid.symm), htold, Transcribed, if_pos hcompleted]
        exact ⟨question, answer, rfl, hquestion.congr hagent hprompt hcreated,
          hanswer old hold hid⟩
    · have hleft : ∀ r ∈ database.runs, ∃ r' ∈ left.runs, r'.id = r.id := by
        intro r hr
        rw [hruns]
        by_cases hid : r.id = id
        · exact ⟨f r, (mem_modifyFirst_key h.ids).mpr (.inr ⟨r, hr, hid, rfl⟩), (hf r).1⟩
        · exact ⟨r, (mem_modifyFirst_key h.ids).mpr (.inl ⟨hr, hid⟩), rfl⟩
      rcases List.mem_append.mp (hmessages ▸ hm) with hold | hnew
      · obtain ⟨r, hr, hid⟩ := h.owned m hold
        obtain ⟨r', hr', hid'⟩ := hleft r hr
        exact ⟨r', hr', hid'.trans hid⟩
      · obtain ⟨r, hr, hid⟩ := hfound
        obtain ⟨r', hr', hid'⟩ := hleft r hr
        rw [List.mem_singleton.mp hnew, hrun]
        exact ⟨r', hr', hid'.trans hid⟩
  | deleted agentId =>
    refine ⟨?_, fun r hr => ?_, fun m hm => ?_⟩
    · rw [hruns]
      exact h.ids.sublist (List.filter_sublist.map _)
    · obtain ⟨hold, hne⟩ := List.mem_filter.mp (hruns ▸ hr)
      have htold := h.transcribed r hold
      rw [htranscript, transcript_deleteRecords htold (of_decide_eq_true hne)]
      exact htold
    · obtain ⟨hold, hne⟩ := List.mem_filter.mp (hmessages ▸ hm)
      obtain ⟨r, hr, hid⟩ := h.owned m hold
      -- a message and its Run are of one Agent, and so both stay
      have hagent := (h.transcribed r hr).agentId m
        (List.mem_filter.mpr ⟨hold, decide_eq_true hid.symm⟩)
      rw [hruns]
      exact ⟨r, List.mem_filter.mpr ⟨hr, by rw [← hagent]; exact hne⟩, hid⟩

/-- A Run that has ended is left, with its messages, until its Agent is deleted. -/
theorem Told.ended {removed : Option String} (h : Told database)
    (hrecorded : Recorded database removed left.runs left.messages) (hr : run ∈ database.runs)
    (hended : run.active = false) (hkept : removed ≠ some run.agentId) :
    run ∈ left.runs ∧ left.transcript run.id = database.transcript run.id := by
  generalize hruns : left.runs = runs at hrecorded
  generalize hmessages : left.messages = messages at hrecorded
  have htranscript : left.transcript run.id = messages.filter fun m => m.runId = run.id := by
    rw [Database.transcript, hmessages]
  rw [htranscript]
  have hother : ∀ id, (∀ r ∈ database.runs, r.id = id → r.active = true) → run.id ≠ id := by
    intro id hactive hid
    rw [hactive run hr hid] at hended
    exact absurd hended (by decide)
  cases hrecorded with
  | same => exact ⟨hr, rfl⟩
  | @asked new question hactive hfresh hrun hquestion =>
    refine ⟨List.mem_append_left _ hr, ?_⟩
    have hne : question.runId ≠ run.id := fun hid => hfresh run hr (hid.symm.trans hrun)
    simp [Database.transcript, hne]
  | @changed id f hactive hf =>
    exact ⟨(mem_modifyFirst_key h.ids).mpr (.inl ⟨hr, hother id hactive⟩), rfl⟩
  | @answered id f answer hactive hfound hrun hf hanswer =>
    refine ⟨(mem_modifyFirst_key h.ids).mpr (.inl ⟨hr, hother id hactive⟩), ?_⟩
    have hne : answer.runId ≠ run.id := by
      rw [hrun]
      exact (hother id hactive).symm
    simp [Database.transcript, hne]
  | deleted agentId =>
    have hne : run.agentId ≠ agentId := fun hid => hkept (congrArg some hid.symm)
    exact ⟨List.mem_filter.mpr ⟨hr, decide_eq_true hne⟩,
      transcript_deleteRecords (h.transcribed run hr) hne⟩

/-- A restart keeps it. -/
theorem Told.restart (h : Told database) (now : String) : Told (initializeStore database now) := by
  have hruns : (initializeStore database now).runs = database.runs.map (restarted now) := rfl
  have hid : ∀ r, (restarted now r).id = r.id := by
    intro r
    unfold restarted
    split <;> rfl
  refine ⟨?_, fun r hr => ?_, fun m hm => ?_⟩
  · have hids : (initializeStore database now).runs.map AgentRun.id =
        database.runs.map AgentRun.id := by
      rw [hruns, List.map_map]
      exact List.map_congr_left fun r _ => hid r
    rw [hids]
    exact h.ids
  · obtain ⟨old, hold, rfl⟩ := List.mem_map.mp (hruns ▸ hr)
    have htold := h.transcribed old hold
    rw [hid]
    show Transcribed (restarted now old) (database.transcript old.id)
    by_cases hactive : old.active = true
    · obtain ⟨question, htranscript, hquestion⟩ := htold.of_active hactive
      rw [htranscript, restarted, if_pos hactive, Transcribed, if_neg (by simp)]
      exact ⟨question, rfl, hquestion⟩
    · rwa [restarted, if_neg hactive]
  · obtain ⟨r, hr, hrun⟩ := h.owned m hm
    exact ⟨restarted now r, hruns ▸ List.mem_map_of_mem hr, (hid r).trans hrun⟩

end Databases

/-! ## The mutations -/

section Mutations

variable {database left : Database}

theorem Held.active {c : Claim} (h : Held database c) (hinserted : c.inserted = true) :
    ∀ r ∈ database.runs, r.id = c.run.id → r.active = true := by
  rw [Held, if_pos hinserted] at h
  exact fun r hr hid => (h.1 r hr hid).1

/-- An admitted Run comes with its prompt. -/
theorem admitRun_recorded {run : AgentRun} {messageId : String} {agentAtStart : Agent}
    (h : admitRun database run messageId = .ok (left, agentAtStart)) :
    ∃ question : Message, question.runId = run.id ∧ Question run question ∧
      left.runs = database.runs ++ [run] ∧ left.messages = database.messages ++ [question] := by
  unfold admitRun at h
  split at h
  · exact absurd h (by simp)
  split_ifs at h
  obtain ⟨rfl, -⟩ := Prod.mk.inj (Except.ok.inj h)
  refine ⟨⟨messageId, run.agentId, run.id, .user, run.prompt, run.createdAt⟩, rfl, ?_, rfl, rfl⟩
  exact ⟨rfl, rfl, rfl, rfl⟩

/-- A completed Run comes with its output. -/
theorem complete_recorded {agentId : String} {run : AgentRun} {result : RunnerResult}
    {completedAt messageId : String} (h : Held database ⟨agentId, run, true⟩) :
    Recorded database none
      (complete database agentId run.id result completedAt messageId).runs
      (complete database agentId run.id result completedAt messageId).messages := by
  unfold complete
  split
  · exact .same
  · rename_i hfound
    obtain ⟨stored, hstored⟩ : ∃ stored, database.findRun run.id = some stored := by
      cases hrun : database.findRun run.id with
      | none => simp [hrun] at hfound
      | some stored => exact ⟨stored, rfl⟩
    refine .answered (h.active rfl) ⟨stored, findRun_eq_some hstored⟩ rfl ?_ ?_
    · exact fun r => ⟨rfl, rfl, rfl, rfl, rfl⟩
    · intro r hr hid
      rw [Held, if_pos rfl] at h
      exact ⟨rfl, (h.1 r hr hid).2.symm, rfl, rfl⟩

end Mutations

/-! ## Steps -/

/-- The mutation of a deleteAgent takes effect. -/
def Deletes (s : State) (e : Event) (id : String) : Prop :=
  ∃ now rest, e = .commit now ∧ s.queue = .delete id :: rest

section Steps

variable {s t : State} {e : Event} {database : Database}

/-- What the first mutation of the queue records, and whose records it removes. -/
theorem Owned.commitHead_recorded {pending : Pending} {rest : List Pending} {now : String}
    (hs : Owned s) (hqueue : s.queue = pending :: rest)
    (ht : State.commitHead { s with queue := rest } now pending = t) :
    ∃ removed, Recorded s.database removed t.database.runs t.database.messages ∧
      ∀ id, removed = some id → pending = .delete id := by
  subst ht
  obtain ⟨-, hheld, -⟩ := hs.queue hqueue
  cases pending with
  | admitRun run messageId =>
    unfold State.commitHead
    dsimp only
    split
    · exact ⟨none, .same, by simp⟩
    · rename_i left agentAtStart hadmitted
      have hown := hheld ⟨run.agentId, run, false⟩ List.mem_cons_self
      simp only [Held, Bool.false_eq_true, if_false] at hown
      obtain ⟨question, hrun, hquestion, hruns, hmessages⟩ := admitRun_recorded hadmitted
      refine ⟨none, ?_, by simp⟩
      show Recorded s.database none left.runs left.messages
      rw [hruns, hmessages]
      exact .asked hown.1 hown.2.2 hrun hquestion
  | markRunning agentAtStart run =>
    have hown := hheld ⟨agentAtStart.id, run, true⟩ List.mem_cons_self
    refine ⟨none, .changed (hown.active rfl) ?_, by simp⟩
    exact fun r => ⟨rfl, rfl, rfl, rfl, by simp⟩
  | complete agentAtStart run result completedAt messageId =>
    have hown := hheld ⟨agentAtStart.id, run, true⟩ List.mem_cons_self
    exact ⟨none, complete_recorded hown, by simp⟩
  | fail agentAtStart run cancelled message completedAt =>
    have hown := hheld ⟨agentAtStart.id, run, true⟩ List.mem_cons_self
    refine ⟨none, .changed (hown.active rfl) ?_, by simp⟩
    exact fun r => ⟨rfl, rfl, rfl, rfl, by cases cancelled <;> simp⟩
  | start id | stop id =>
    unfold State.commitHead
    dsimp only
    split
    · exact ⟨none, .same, by simp⟩
    · rename_i left changed hset
      obtain ⟨agent, -, -, f, -, rfl⟩ := setStatus_eq_ok hset
      exact ⟨none, .same, by simp⟩
  | delete id =>
    exact ⟨some id, .deleted id, fun _ heq => congrArg Pending.delete (Option.some.inj heq)⟩

/-- A step changes the store by at most one mutation. -/
theorem Owned.recorded (hs : Owned s) (h : AgentService.step s e = some t) :
    ∃ removed, Recorded s.database removed t.database.runs t.database.messages ∧
      ∀ id, removed = some id → Deletes s e id := by
  rcases step_database h with ⟨now, pending, rest, rfl, hqueue, rfl⟩ | hsame
  · obtain ⟨removed, hrecorded, hdelete⟩ := hs.commitHead_recorded hqueue rfl
    refine ⟨removed, hrecorded, fun id hid => ⟨now, rest, rfl, ?_⟩⟩
    rw [hqueue, hdelete id hid]
  · rw [hsame]
    exact ⟨none, .same, by simp⟩

/-- Runs keep what is under way and what is told. -/
theorem told_run {es : List Event} (hs : Owned s) (htold : Told s.database)
    (h : run AgentService.step s es = some t) : Owned t ∧ Told t.database := by
  refine run_induction (I := fun u => Owned u ∧ Told u.database) ?_ ⟨hs, htold⟩ h
  intro u e v hu hstep
  obtain ⟨removed, hrecorded, -⟩ := hu.1.recorded hstep
  exact ⟨hu.1.step hstep, hu.2.recorded hrecorded⟩

/-- What is left of a Run that has ended, until a deleteAgent of its Agent. -/
theorem ended_run {es : List Event} {ended : AgentRun} (hs : Owned s) (htold : Told s.database)
    (hended : ended ∈ s.database.runs) (hidle : ended.active = false)
    (h : run AgentService.step s es = some t)
    (hkept : ∀ before e after u, es = before ++ e :: after →
      run AgentService.step s before = some u → ¬Deletes u e ended.agentId) :
    ended ∈ t.database.runs ∧ t.database.transcript ended.id = s.database.transcript ended.id := by
  induction es generalizing s with
  | nil =>
    obtain rfl := run_nil.mp h
    exact ⟨hended, rfl⟩
  | cons e es ih =>
    obtain ⟨u, hu, hrest⟩ := run_cons.mp h
    obtain ⟨removed, hrecorded, hdelete⟩ := hs.recorded hu
    have hremoved : removed ≠ some ended.agentId :=
      fun heq => hkept [] e es s rfl (run_nil.mpr rfl) (hdelete _ heq)
    obtain ⟨hmem, htranscript⟩ := htold.ended hrecorded hended hidle hremoved
    obtain ⟨hleft, hsame⟩ := ih (hs.step hu) (htold.recorded hrecorded) hmem hrest
      fun before e' after v heq hbefore =>
        hkept (e :: before) e' after v (congrArg (e :: ·) heq)
        (run_cons.mpr ⟨u, hu, hbefore⟩)
    exact ⟨hleft, hsame.trans htranscript⟩

end Steps

/-! ## Every stored conversation -/

/-- What the store can hold: at first no conversation, then what a life of the
server leaves wherever it stops. Agents are created and edited between the calls. -/
inductive Stored : Database → Prop where
  | fresh (agents : List Agent) : Stored ⟨agents, [], []⟩
  | configured {database : Database} (agents : List Agent) (h : Stored database) :
      Stored { database with agents }
  | life {database : Database} {now : String} {es : List Event} {t : State}
      (h : Stored database) (hrun : run step (start (initializeStore database now)) es = some t) :
      Stored t.database

theorem Stored.told {database : Database} (h : Stored database) : Told database := by
  induction h with
  | fresh agents =>
    exact ⟨List.nodup_nil, fun _ hr => absurd hr List.not_mem_nil,
      fun _ hm => absurd hm List.not_mem_nil⟩
  | configured agents _ ih => exact ⟨ih.ids, ih.transcribed, ih.owned⟩
  | @life database now es t _ hrun ih =>
    exact (told_run (owned_start _) (ih.restart now) hrun).2

/-- In every store: Runs have identifiers of their own; the messages of a Run are
its prompt and, exactly when it has completed, its output; and there are no
other messages. -/
theorem runs_transcribed {database : Database} (h : Stored database) :
    (database.runs.map AgentRun.id).Nodup ∧
    (∀ r ∈ database.runs, Transcribed r (database.transcript r.id)) ∧
    ∀ m ∈ database.messages, ∃ r ∈ database.runs, r.id = m.runId ∧ r.agentId = m.agentId := by
  have htold := h.told
  refine ⟨htold.ids, htold.transcribed, fun m hm => ?_⟩
  obtain ⟨r, hr, hid⟩ := htold.owned m hm
  have hmem : m ∈ database.transcript r.id :=
    List.mem_filter.mpr ⟨hm, decide_eq_true hid.symm⟩
  exact ⟨r, hr, hid, ((htold.transcribed r hr).agentId m hmem).symm⟩

open AgentSample in
theorem runs_transcribed_sample : ∃ t,
    run step (start (initializeStore ⟨[agent], [], []⟩ "t0")) calm = some t ∧
      ∀ r ∈ t.database.runs, Transcribed r (t.database.transcript r.id) := by
  obtain ⟨t, ht, -⟩ := (Option.any_eq_true _ _).mp calm_runs
  exact ⟨t, ht, (runs_transcribed (.life (.fresh [agent]) ht)).2.1⟩

/-- A Run that has ended is final, with its messages: no step of the service and
no restart changes them, unless a deleteAgent of its Agent takes effect. -/
theorem endedRun_final {database : Database} {now later : String} {es fs : List Event} {s t : State}
    {ended : AgentRun} (hstored : Stored database)
    (hbefore : run step (start (initializeStore database now)) es = some s)
    (hended : ended ∈ s.database.runs) (hidle : ended.active = false)
    (hafter : run step s fs = some t)
    (hkept : ∀ before e after u, fs = before ++ e :: after → run step s before = some u →
      ¬Deletes u e ended.agentId) :
    (ended ∈ t.database.runs ∧
      t.database.transcript ended.id = s.database.transcript ended.id) ∧
    ended ∈ (initializeStore t.database later).runs ∧
      (initializeStore t.database later).transcript ended.id =
        s.database.transcript ended.id := by
  obtain ⟨howned, htold⟩ := told_run (owned_start _) (hstored.told.restart now) hbefore
  obtain ⟨hmem, hsame⟩ := ended_run howned htold hended hidle hafter hkept
  refine ⟨⟨hmem, hsame⟩, ?_, hsame⟩
  have hrestarted : restarted later ended = ended := by
    rw [restarted, if_neg (by simp [hidle])]
  exact hrestarted ▸ List.mem_map_of_mem hmem

namespace AgentSample

/-- The Run of the calm sample has completed. -/
def completedRun : AgentRun where
  id := "run_1"
  agentId := "agent_1"
  status := .completed
  prompt := js "first"
  output := some (js "done")
  error := none
  usage := none
  threadId := none
  startedAt := some "t4"
  completedAt := some "t6"
  createdAt := "t1"

theorem calm_completes :
    ((run step (start (initializeStore database "t0")) (calm.take 8)).any fun s =>
      completedRun ∈ s.database.runs ∧ (run step s (calm.drop 8)).any fun t =>
        (t.database.findAgent "agent_1").map Agent.status = some .stopped) = true := by
  decide +kernel

/-- No event of the rest is a mutation of a deleteAgent. -/
def checkKept (id : String) : State → List Event → Bool
  | _, [] => true
  | s, e :: es => (match s.queue with | .delete other :: _ => other ≠ id | _ => true) &&
      (match step s e with | some t => checkKept id t es | none => true)

theorem not_deletes_of_checkKept {id : String} {s u : State} {before after : List Event} {e : Event}
    (h : checkKept id s (before ++ e :: after) = true) (hrun : run step s before = some u) :
    ¬Deletes u e id := by
  induction before generalizing s with
  | nil =>
    obtain rfl := run_nil.mp hrun
    rintro ⟨now, rest, rfl, hqueue⟩
    simp [checkKept, hqueue] at h
  | cons e' before ih =>
    obtain ⟨t, ht, hrest⟩ := run_cons.mp hrun
    simp only [List.cons_append, checkKept, ht, Bool.and_eq_true] at h
    exact ih h.2 hrest

theorem calm_kept :
    ((run step (start (initializeStore database "t0")) (calm.take 8)).all fun s =>
      checkKept "agent_1" s (calm.drop 8)) = true := by
  decide +kernel

end AgentSample

open AgentSample in
theorem endedRun_final_sample : ∃ s t,
    run step (start (initializeStore database "t0")) (calm.take 8) = some s ∧
      run step s (calm.drop 8) = some t ∧ completedRun ∈ t.database.runs ∧
      t.database.transcript "run_1" = s.database.transcript "run_1" := by
  obtain ⟨s, hs, h⟩ := (Option.any_eq_true _ _).mp calm_completes
  obtain ⟨hmem, h⟩ := of_decide_eq_true h
  obtain ⟨t, ht, -⟩ := (Option.any_eq_true _ _).mp h
  have hkept : checkKept "agent_1" s (calm.drop 8) = true := by
    have hall := calm_kept
    rw [hs] at hall
    exact hall
  obtain ⟨hfinal, -⟩ := @endedRun_final database _ "t9" _ _ _ _ _
    (.fresh [agent]) hs hmem rfl ht fun before e after u heq hrun =>
      not_deletes_of_checkKept (heq ▸ hkept) hrun
  exact ⟨s, t, hs, ht, hfinal.1, hfinal.2⟩

end AgentService

end EpochGuard
