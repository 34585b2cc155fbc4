import EpochGuard.DecisionParser
import EpochGuard.Lib.JsonEquality
import EpochGuard.Lib.Pieces
import EpochGuard.Lib.Utf8

/-!
# The Codex runners

`codex-runner.ts` and `container-codex-runner.ts`: a child process writes events
as lines of JSON on its standard output. The output arrives in chunks, between
cancellations and timeouts, and is read up to a bound.
-/

namespace EpochGuard

namespace CodexRunner

open Json Pieces
open DecisionParser (trim)

/-! ## Events -/

structure RunUsage where
  inputTokens : Option JsNumber
  cachedInputTokens : Option JsNumber
  outputTokens : Option JsNumber

/-- What the events of a Run have told so far. -/
structure ParsedEvents where
  messages : List JsString
  threadId : Option JsString
  usage : Option RunUsage
  errors : List JsString

/-- A property of a value that is not null; only objects have the ones read here. -/
def property? (key : String) : Value → Option Value
  | .obj entries => (entries.find? fun e => e.1 = js key).map Prod.snd
  | _ => none

/-- A property of an event that is a text. -/
def stringProperty? (key : String) (v : Value) : Option JsString :=
  match property? key v with
  | some (.str s) => some s
  | _ => none

/-- A property of an event that is a number. -/
def numberProperty? (key : String) (v : Value) : Option JsNumber :=
  match property? key v with
  | some (.num n) => some n
  | _ => none

/-- A property of type `object` that is not null. -/
def objectProperty? (key : String) (v : Value) : Option Value :=
  match property? key v with
  | some (.obj entries) => some (.obj entries)
  | some (.arr items) => some (.arr items)
  | _ => none

/-- The event is of a type. -/
def hasType (type : String) (v : Value) : Bool := stringProperty? "type" v = some (js type)

/-- The text of an event with an Agent's message. -/
def agentMessage? (event : Value) : Option JsString :=
  if hasType "item.completed" event then
    (objectProperty? "item" event).bind fun item =>
      if hasType "agent_message" item then stringProperty? "text" item else none
  else none

/-- The thread that a `thread.started` event names. -/
def startedThread? (event : Value) : Option JsString :=
  if hasType "thread.started" event then stringProperty? "thread_id" event else none

/-- The usage that a `turn.completed` event reports. -/
def turnUsage? (event : Value) : Option RunUsage :=
  if hasType "turn.completed" event then
    (objectProperty? "usage" event).map fun usage =>
      { inputTokens := numberProperty? "input_tokens" usage
        cachedInputTokens := numberProperty? "cached_input_tokens" usage
        outputTokens := numberProperty? "output_tokens" usage }
  else none

/-- The error that an event reports. -/
def eventError? (event : Value) : Option JsString :=
  if hasType "error" event then
    some (((stringProperty? "message" event).or (stringProperty? "error" event)).getD
      (js "Codex reported an unknown error"))
  else none

/-- What is known after one event. -/
def ParsedEvents.record (parsed : ParsedEvents) (event : Value) : ParsedEvents where
  messages := parsed.messages ++ (agentMessage? event).toList
  threadId := (startedThread? event).or parsed.threadId
  usage := (turnUsage? event).or parsed.usage
  errors := parsed.errors ++ (eventError? event).toList

section Reading

variable (readNumber : List Char → Option JsNumber)

/-- A line that is no JSON is left out. Reading a property of `null` throws. -/
def parseCodexEventLine (line : JsString) (parsed : ParsedEvents) : Option ParsedEvents :=
  match parse readNumber line with
  | none => some parsed
  | some .null => none
  | some event => some (parsed.record event)

/-- What is known after the lines of a chunk. -/
def parseLines (lines : List JsString) (parsed : ParsedEvents) : Option ParsedEvents :=
  lines.foldlM (fun parsed line => parseCodexEventLine readNumber line parsed) parsed

/-! ## A child process -/

/-- What ends a line. -/
def isLineFeed (u : UInt16) : Bool := u = 0x0A

/-- `/\r?\n/` takes the carriage return before a line feed. -/
def stripReturn (line : JsString) : JsString :=
  if line.getLast? = some 0x0D then line.dropLast else line

/-- The lines that a line feed ends. -/
def endedLines (text : JsString) : List JsString := (ended isLineFeed text).map stripReturn

/-- The two streams of the child process. -/
inductive Target where
  | stdout | stderr
deriving DecidableEq

/-- What happens to a child process before it ends. -/
inductive ProcessEvent where
  | data (target : Target) (chunk : List Nat)
  | cancel
  | timeout
deriving DecidableEq

/-- The state of a Run while its child process lives: why it may have to fail,
what its events have told, the unfinished line of the standard output, the end
of the error output, and how many bytes both had. -/
structure Active where
  cancelled : Bool
  timedOut : Bool
  outputExceeded : Bool
  parsed : ParsedEvents
  stdout : JsString
  stderr : JsString
  totalBytes : Nat

/-- The limits of a Run. -/
structure RunnerConfig where
  codexTimeoutMs : Nat
  codexMaxOutputBytes : Nat

/-- How many code units of the standard error are kept. -/
def stderrLimit : Nat := 16384

/-- A chunk of one of the streams. Beyond the bound it is dropped and the Run
will fail; else the standard output is read up to its last line feed. `none` is
an exception in the stream's listener, which ends the server. -/
def consume (config : RunnerConfig) (active : Active) (chunk : List Nat) (target : Target) :
    Option Active :=
  let totalBytes := active.totalBytes + chunk.length
  if config.codexMaxOutputBytes < totalBytes then
    some { active with totalBytes, outputExceeded := true }
  else
    match target with
    | .stdout =>
        let stdout := active.stdout ++ decodeUtf8 chunk
        (parseLines readNumber (endedLines stdout) active.parsed).map fun parsed =>
          { active with totalBytes, parsed, stdout := remainder isLineFeed stdout }
    | .stderr =>
        let stderr := active.stderr ++ decodeUtf8 chunk
        some { active with
          totalBytes
          stderr := if stderrLimit < stderr.length then stderr.rtake stderrLimit else stderr }

/-- One event of the child process or of the timer. -/
def step (config : RunnerConfig) (active : Active) : ProcessEvent → Option Active
  | .data target chunk => consume readNumber config active chunk target
  | .cancel => some { active with cancelled := true }
  | .timeout => some { active with timedOut := true }

/-! ## The end of a run -/

/-- A child ends with an exit code, or without one after a signal; or it could
not be started. -/
inductive Ending where
  | close (code : Option Nat)
  | error (message : JsString)

/-- The errors of a Run. -/
inductive RunnerError where
  | cancelled
  | failed (message : JsString)

/-- What a Run returns when it succeeds. -/
structure RunnerResult where
  output : JsString
  threadId : Option JsString
  usage : Option RunUsage

/-- The words in which the two runners differ. -/
structure RunnerTexts where
  timedOut : JsString
  exited : JsString

/-- `CodexRunner` -/
def codexTexts : RunnerTexts := ⟨js "Codex timed out after ", js "Codex exited with code "⟩

/-- `ContainerCodexRunner` -/
def containerTexts (containerEngine : JsString) : RunnerTexts :=
  ⟨js "Runtime timed out after ", containerEngine ++ js " Runtime exited with code "⟩

/-- The digits of a number. -/
def decimal (n : Nat) : JsString := js (toString n)

/-- What follows the last line feed is read as a line without the white space
around it. -/
def parseRemainder (stdout : JsString) (parsed : ParsedEvents) : Option ParsedEvents :=
  if trim stdout = [] then some parsed else parseCodexEventLine readNumber (trim stdout) parsed

/-- How the Run ends when the child process has ended. The rest of the standard
output is read first, and then the first of these decides: a cancellation, the
timeout, the bound, the exit code, a missing message. -/
def settle (config : RunnerConfig) (texts : RunnerTexts) (active : Active) :
    Ending → Except RunnerError RunnerResult
  | .error message => .error (.failed message)
  | .close code =>
      match parseRemainder readNumber active.stdout active.parsed with
      | none => .error (.failed (js "Cannot read properties of null (reading 'type')"))
      | some parsed =>
          let exitCode := code.getD 1
          if active.cancelled then .error .cancelled
          else if active.timedOut then
            .error (.failed (texts.timedOut ++ decimal config.codexTimeoutMs ++ js " ms"))
          else if active.outputExceeded then
            .error (.failed (js "Codex output exceeded CODEX_MAX_OUTPUT_BYTES"))
          else if exitCode ≠ 0 then
            .error (.failed (texts.exited ++ decimal exitCode ++ js ": " ++
              parsed.errors.getLast?.getD (trim active.stderr)))
          else
            match (parsed.messages.getLast?.map trim).filter (· ≠ []) with
            | none => .error (.failed (js "Codex completed without an agent message"))
            | some output => .ok { output, threadId := parsed.threadId, usage := parsed.usage }

/-- A Run before its first event. -/
def initial (threadId : Option JsString) : Active where
  cancelled := false
  timedOut := false
  outputExceeded := false
  parsed := ⟨[], threadId, none, []⟩
  stdout := []
  stderr := []
  totalBytes := 0

/-- A run of a runner, for a request that goes on in a thread. -/
def run (config : RunnerConfig) (texts : RunnerTexts) (threadId : Option JsString)
    (events : List ProcessEvent) (ending : Ending) :
    Option (Except RunnerError RunnerResult) :=
  (events.foldlM (step readNumber config) (initial threadId)).map fun active =>
    settle readNumber config texts active ending

/-! ## What a run reads -/

/-- The standard output up to a point, as it is decoded chunk by chunk. -/
def streamText (target : Target) (events : List ProcessEvent) : JsString :=
  events.flatMap fun
    | .data t chunk => if t = target then decodeUtf8 chunk else []
    | .cancel | .timeout => []

/-- All bytes of one stream. -/
def streamBytes (target : Target) (events : List ProcessEvent) : List Nat :=
  events.flatMap fun
    | .data t chunk => if t = target then chunk else []
    | .cancel | .timeout => []

/-- How many bytes both streams had. -/
def outputBytes (events : List ProcessEvent) : Nat :=
  (streamBytes .stdout events).length + (streamBytes .stderr events).length

/-- What is read of whole streams. -/
def Active.read (active : Active) (events : List ProcessEvent) : Option Active :=
  let stdout := active.stdout ++ streamText .stdout events
  (parseLines readNumber (endedLines stdout) active.parsed).map fun parsed =>
    { cancelled := active.cancelled || events.contains .cancel
      timedOut := active.timedOut || events.contains .timeout
      outputExceeded := active.outputExceeded
      parsed
      stdout := remainder isLineFeed stdout
      stderr := (active.stderr ++ streamText .stderr events).rtake stderrLimit
      totalBytes := active.totalBytes + outputBytes events }

variable {readNumber} {config : RunnerConfig} {texts : RunnerTexts} {threadId : Option JsString}
  {active left : Active} {events : List ProcessEvent} {ending : Ending}

theorem parseLines_append (lines more : List JsString) (parsed : ParsedEvents) :
    parseLines readNumber (lines ++ more) parsed =
      (parseLines readNumber lines parsed).bind fun parsed => parseLines readNumber more parsed :=
  List.foldlM_append

/-- A buffer holds no line that has ended, and the standard error is cut. -/
structure Buffered (active : Active) : Prop where
  stdout : ended isLineFeed active.stdout = []
  stderr : active.stderr.length ≤ stderrLimit

theorem rtake_of_le {n : Nat} {text : JsString} (h : text.length ≤ n) : text.rtake n = text := by
  rw [List.rtake, Nat.sub_eq_zero_of_le h, List.drop_zero]

theorem stderr_cut (text : JsString) :
    (if stderrLimit < text.length then text.rtake stderrLimit else text) =
      text.rtake stderrLimit := by
  by_cases h : stderrLimit < text.length
  · rw [if_pos h]
  · rw [if_neg h, rtake_of_le (Nat.le_of_not_lt h)]

theorem outputBytes_data (target : Target) (chunk : List Nat) (events : List ProcessEvent) :
    outputBytes (.data target chunk :: events) = chunk.length + outputBytes events := by
  cases target <;> simp [outputBytes, streamBytes] <;> omega

theorem endedLines_append (a b : JsString) :
    endedLines (a ++ b) = endedLines a ++ endedLines (remainder isLineFeed a ++ b) := by
  simp only [endedLines, ended_append isLineFeed a b, List.map_append]

theorem step_exceeded {target : Target} {chunk : List Nat}
    (h : config.codexMaxOutputBytes < active.totalBytes + chunk.length) :
    step readNumber config active (.data target chunk) = some { active with
      totalBytes := active.totalBytes + chunk.length, outputExceeded := true } :=
  if_pos h

theorem step_stdout {chunk : List Nat}
    (h : ¬config.codexMaxOutputBytes < active.totalBytes + chunk.length) :
    step readNumber config active (.data .stdout chunk) =
      (parseLines readNumber (endedLines (active.stdout ++ decodeUtf8 chunk)) active.parsed).map
        fun parsed => { active with
          totalBytes := active.totalBytes + chunk.length
          parsed
          stdout := remainder isLineFeed (active.stdout ++ decodeUtf8 chunk) } :=
  if_neg h

theorem step_stderr {chunk : List Nat}
    (h : ¬config.codexMaxOutputBytes < active.totalBytes + chunk.length) :
    step readNumber config active (.data .stderr chunk) = some { active with
      totalBytes := active.totalBytes + chunk.length
      stderr := (active.stderr ++ decodeUtf8 chunk).rtake stderrLimit } := by
  rw [← stderr_cut]
  exact if_neg h

/-- Reading whole streams is reading the first chunk, then the rest. -/
theorem read_cons {e : ProcessEvent} (hwithin :
      active.totalBytes + outputBytes (e :: events) ≤ config.codexMaxOutputBytes) :
    active.read readNumber (e :: events) =
      (step readNumber config active e).bind fun active => active.read readNumber events := by
  cases e with
  | data target chunk =>
    rw [outputBytes_data] at hwithin
    have hbound : ¬config.codexMaxOutputBytes < active.totalBytes + chunk.length := by omega
    cases target with
    | stdout =>
      have hstdout : streamText .stdout (.data .stdout chunk :: events) =
          decodeUtf8 chunk ++ streamText .stdout events := rfl
      have hstderr : streamText .stderr (.data .stdout chunk :: events) =
          streamText .stderr events := rfl
      have hlines := endedLines_append (active.stdout ++ decodeUtf8 chunk)
        (streamText .stdout events)
      have hremainder := remainder_append isLineFeed (active.stdout ++ decodeUtf8 chunk)
        (streamText .stdout events)
      rw [step_stdout hbound]
      simp only [Active.read, hstdout, hstderr, outputBytes_data, ← List.append_assoc, hlines,
        hremainder, parseLines_append]
      cases parseLines readNumber (endedLines (active.stdout ++ decodeUtf8 chunk))
        active.parsed <;> simp [Nat.add_assoc]
    | stderr =>
      have hstdout : streamText .stdout (.data .stderr chunk :: events) =
          streamText .stdout events := rfl
      have hstderr : streamText .stderr (.data .stderr chunk :: events) =
          decodeUtf8 chunk ++ streamText .stderr events := rfl
      have hcut := rtake_append stderrLimit (active.stderr ++ decodeUtf8 chunk)
        (streamText .stderr events)
      rw [step_stderr hbound, Option.bind_some]
      simp only [Active.read, hstdout, hstderr, outputBytes_data, hcut, List.append_assoc,
        List.contains_cons, Nat.add_assoc]
      rfl
  | cancel =>
    simp [step, Active.read, streamText, outputBytes, streamBytes]
  | timeout =>
    simp [step, Active.read, streamText, outputBytes, streamBytes]

theorem Buffered.step {e : ProcessEvent} (hbuffered : Buffered active)
    (h : step readNumber config active e = some left) : Buffered left := by
  cases e with
  | data target chunk =>
    by_cases hbound : config.codexMaxOutputBytes < active.totalBytes + chunk.length
    · rw [step_exceeded hbound] at h
      obtain rfl := Option.some.inj h
      exact ⟨hbuffered.stdout, hbuffered.stderr⟩
    · cases target with
      | stdout =>
        rw [step_stdout hbound] at h
        obtain ⟨parsed, -, rfl⟩ := Option.map_eq_some_iff.mp h
        exact ⟨ended_remainder _ _, hbuffered.stderr⟩
      | stderr =>
        rw [step_stderr hbound] at h
        obtain rfl := Option.some.inj h
        refine ⟨hbuffered.stdout, ?_⟩
        simp only [List.rtake, List.length_drop]
        omega
  | cancel =>
    obtain rfl := Option.some.inj h
    exact ⟨hbuffered.stdout, hbuffered.stderr⟩
  | timeout =>
    obtain rfl := Option.some.inj h
    exact ⟨hbuffered.stdout, hbuffered.stderr⟩

/-- Bytes are counted whether they are read or not. -/
theorem totalBytes_step {e : ProcessEvent} (h : step readNumber config active e = some left) :
    left.totalBytes = active.totalBytes + outputBytes [e] := by
  cases e with
  | data target chunk =>
    rw [outputBytes_data]
    by_cases hbound : config.codexMaxOutputBytes < active.totalBytes + chunk.length
    · rw [step_exceeded hbound] at h
      exact Option.some.inj h ▸ rfl
    · cases target with
      | stdout =>
        rw [step_stdout hbound] at h
        obtain ⟨parsed, -, rfl⟩ := Option.map_eq_some_iff.mp h
        rfl
      | stderr =>
        rw [step_stderr hbound] at h
        exact Option.some.inj h ▸ rfl
  | cancel | timeout =>
    obtain rfl := Option.some.inj h
    rfl

theorem outputBytes_cons (e : ProcessEvent) (events : List ProcessEvent) :
    outputBytes (e :: events) = outputBytes [e] + outputBytes events := by
  cases e with
  | data target chunk =>
    rw [outputBytes_data, outputBytes_data]
    simp [outputBytes, streamBytes]
  | cancel | timeout => simp [outputBytes, streamBytes]

/-- Within the bound the events of a run read its whole streams. -/
theorem steps_eq_read (hbuffered : Buffered active)
    (hwithin : active.totalBytes + outputBytes events ≤ config.codexMaxOutputBytes) :
    events.foldlM (step readNumber config) active = active.read readNumber events := by
  induction events generalizing active with
  | nil =>
    have hlines : endedLines active.stdout = [] := by
      rw [endedLines, hbuffered.stdout]
      rfl
    simp [Active.read, streamText, outputBytes, streamBytes, hlines, parseLines,
      remainder_of_ended_nil hbuffered.stdout, rtake_of_le hbuffered.stderr]
  | cons e events ih =>
    rw [List.foldlM_cons, read_cons hwithin]
    cases hstep : step readNumber config active e with
    | none => rfl
    | some next =>
      have htotal := totalBytes_step hstep
      rw [outputBytes_cons] at hwithin
      exact ih (hbuffered.step hstep) (by omega)

/-! ### Whole streams -/

theorem buffered_initial (threadId : Option JsString) : Buffered (initial threadId) :=
  ⟨rfl, Nat.zero_le _⟩

/-- Every chunk is the encoding of a text. -/
def Chunked (events : List ProcessEvent) : Prop :=
  ∀ target chunk, ProcessEvent.data target chunk ∈ events →
    ∃ text, isWellFormed text = true ∧ chunk = utf8Bytes text

theorem Chunked.streamText (target : Target) (h : Chunked events) :
    streamText target events = decodeUtf8 (streamBytes target events) := by
  induction events with
  | nil => rfl
  | cons e events ih =>
    have hrest := ih fun target chunk hmem => h target chunk (List.mem_cons_of_mem _ hmem)
    cases e with
    | data t chunk =>
      by_cases ht : t = target
      · obtain ⟨text, hwellFormed, rfl⟩ := h t chunk List.mem_cons_self
        have htext : CodexRunner.streamText target (.data t (utf8Bytes text) :: events) =
            decodeUtf8 (utf8Bytes text) ++ CodexRunner.streamText target events := by
          simp [CodexRunner.streamText, ht]
        have hbytes : streamBytes target (.data t (utf8Bytes text) :: events) =
            utf8Bytes text ++ streamBytes target events := by
          simp [streamBytes, ht]
        rw [htext, hbytes, decodeUtf8_utf8Bytes hwellFormed, hrest]
        exact (decodeFrom_utf8Bytes hwellFormed _).symm
      · have htext : CodexRunner.streamText target (.data t chunk :: events) =
            CodexRunner.streamText target events := by
          simp [CodexRunner.streamText, ht]
        have hbytes : streamBytes target (.data t chunk :: events) =
            streamBytes target events := by
          simp [streamBytes, ht]
        rw [htext, hbytes, hrest]
    | cancel | timeout => exact hrest

/-- A run over whole texts, without chunks and without an order between the
streams, the cancellations and the timeouts. -/
def runWhole (readNumber : List Char → Option JsNumber) (config : RunnerConfig)
    (texts : RunnerTexts) (threadId : Option JsString) (stdout stderr : JsString)
    (cancelled timedOut : Bool) (ending : Ending) :
    Option (Except RunnerError RunnerResult) :=
  (parseLines readNumber (endedLines stdout) ⟨[], threadId, none, []⟩).map fun parsed =>
    settle readNumber config texts
      { cancelled, timedOut, outputExceeded := false, parsed,
        stdout := remainder isLineFeed stdout, stderr := stderr.rtake stderrLimit,
        totalBytes := 0 }
      ending

/-- Within the bound a run depends on the bytes of the two streams, not on the
chunks they come in, how the streams are interleaved, or when it is cancelled,
where no chunk ends inside a character. -/
theorem run_eq_runWhole (hwithin : outputBytes events ≤ config.codexMaxOutputBytes)
    (hchunked : Chunked events) :
    run readNumber config texts threadId events ending =
      runWhole readNumber config texts threadId (decodeUtf8 (streamBytes .stdout events))
        (decodeUtf8 (streamBytes .stderr events)) (events.contains .cancel)
        (events.contains .timeout) ending := by
  have hzero : (initial threadId).totalBytes + outputBytes events ≤ config.codexMaxOutputBytes := by
    rw [initial, Nat.zero_add]
    exact hwithin
  rw [run, steps_eq_read (buffered_initial threadId) hzero, Active.read, runWhole, Option.map_map,
    ← hchunked.streamText .stdout, ← hchunked.streamText .stderr]
  cases ending <;> rfl

/-- A chunk that ends inside of a character is decoded on its own. -/
example : streamText .stdout [.data .stdout [0xC3], .data .stdout [0xA9]] =
      [replacementCharacter, replacementCharacter] ∧
    decodeUtf8 (streamBytes .stdout [.data .stdout [0xC3], .data .stdout [0xA9]]) = [0xE9] := by
  decide

/-- The lines that a run reads of a standard output. -/
def readLines (stdout : JsString) : List JsString :=
  endedLines stdout ++
    if trim (remainder isLineFeed stdout) = [] then [] else [trim (remainder isLineFeed stdout)]

/-- The JSON values among the lines. -/
def readEvents (readNumber : List Char → Option JsNumber) (stdout : JsString) : List Value :=
  (readLines stdout).filterMap (parse readNumber)

/-- What a list of events records. -/
def ParsedEvents.recordAll (parsed : ParsedEvents) (events : List Value) : ParsedEvents where
  messages := parsed.messages ++ events.filterMap agentMessage?
  threadId := (events.filterMap startedThread?).getLast?.or parsed.threadId
  usage := (events.filterMap turnUsage?).getLast?.or parsed.usage
  errors := parsed.errors ++ events.filterMap eventError?

theorem getLast?_cons_or {α : Type} (a b : Option α) (l : List α) :
    (a.toList ++ l).getLast?.or b = l.getLast?.or (a.or b) := by
  cases a with
  | none => rfl
  | some a =>
    cases hl : l.getLast? with
    | none =>
      obtain rfl := List.getLast?_eq_none_iff.mp hl
      rfl
    | some c => simp [List.getLast?_cons, hl]

theorem recordAll_cons (parsed : ParsedEvents) (event : Value) (events : List Value) :
    parsed.recordAll (event :: events) = (parsed.record event).recordAll events := by
  have hmap : ∀ {α : Type} (f : Value → Option α),
      (event :: events).filterMap f = (f event).toList ++ events.filterMap f := by
    intro α f
    cases h : f event <;> simp [h]
  simp only [ParsedEvents.recordAll, ParsedEvents.record, hmap, List.append_assoc,
    getLast?_cons_or]

/-- Lines are read to the end unless one of them is the JSON `null`. -/
theorem parseLines_eq_some {lines : List JsString} {parsed after : ParsedEvents} :
    parseLines readNumber lines parsed = some after ↔
      (∀ line ∈ lines, ∀ v, parse readNumber line = some v → v ≠ .null) ∧
        parsed.recordAll (lines.filterMap (parse readNumber)) = after := by
  induction lines generalizing parsed with
  | nil => simp [parseLines, ParsedEvents.recordAll]
  | cons line lines ih =>
    have hcons : parseLines readNumber (line :: lines) parsed =
        (parseCodexEventLine readNumber line parsed).bind (parseLines readNumber lines) := rfl
    rw [hcons, List.forall_mem_cons]
    cases hline : parse readNumber line with
    | none =>
      have hsame : parseCodexEventLine readNumber line parsed = some parsed := by
        simp [parseCodexEventLine, hline]
      rw [hsame, Option.bind_some, ih, List.filterMap_cons_none hline]
      simp
    | some event =>
      rw [List.filterMap_cons_some hline, recordAll_cons]
      by_cases hnull : event = .null
      · have hthrows : parseCodexEventLine readNumber line parsed = none := by
          simp [parseCodexEventLine, hline, hnull]
        simp [hthrows, hnull]
      · have hrecords : parseCodexEventLine readNumber line parsed =
            some (parsed.record event) := by
          unfold parseCodexEventLine
          rw [hline]
          cases event <;> first | rfl | exact absurd rfl hnull
        rw [hrecords, Option.bind_some, ih]
        simp [hnull]

/-! ### Results -/

/-- The bound is kept, or its excess is noted. -/
theorem exceeded_or_within (h : events.foldlM (step readNumber config) active = some left)
    (hactive : active.outputExceeded = true ∨ active.totalBytes ≤ config.codexMaxOutputBytes) :
    left.outputExceeded = true ∨ left.totalBytes ≤ config.codexMaxOutputBytes := by
  induction events generalizing active with
  | nil => exact Option.some.inj h ▸ hactive
  | cons e events ih =>
    rw [List.foldlM_cons] at h
    obtain ⟨next, hnext, hrest⟩ := Option.bind_eq_some_iff.mp h
    refine ih hrest ?_
    cases e with
    | data target chunk =>
      by_cases hbound : config.codexMaxOutputBytes < active.totalBytes + chunk.length
      · rw [step_exceeded hbound] at hnext
        exact .inl (Option.some.inj hnext ▸ rfl)
      · right
        have htotal := totalBytes_step hnext
        rw [outputBytes_data] at htotal
        have hnil : outputBytes [] = 0 := rfl
        omega
    | cancel | timeout => exact Option.some.inj hnext ▸ hactive

theorem totalBytes_steps (h : events.foldlM (step readNumber config) active = some left) :
    left.totalBytes = active.totalBytes + outputBytes events := by
  induction events generalizing active with
  | nil => exact Option.some.inj h ▸ rfl
  | cons e events ih =>
    rw [List.foldlM_cons] at h
    obtain ⟨next, hnext, hrest⟩ := Option.bind_eq_some_iff.mp h
    rw [ih hrest, totalBytes_step hnext, outputBytes_cons e events, Nat.add_assoc]

/-- What a settled run that has a result was. -/
theorem settle_eq_ok {result : RunnerResult}
    (h : settle readNumber config texts active ending = .ok result) :
    ending = .close (some 0) ∧ active.cancelled = false ∧ active.timedOut = false ∧
      active.outputExceeded = false ∧
      ∃ parsed, parseRemainder readNumber active.stdout active.parsed = some parsed ∧
        (∃ m, parsed.messages.getLast? = some m ∧ result.output = trim m ∧ trim m ≠ []) ∧
        result.threadId = parsed.threadId ∧ result.usage = parsed.usage := by
  cases ending with
  | error message => exact absurd h (by simp [settle])
  | close code =>
    rw [settle] at h
    split at h
    · exact absurd h (by simp)
    rename_i parsed hparsed
    dsimp only at h
    split_ifs at h with hcancelled htimedOut hexceeded hexit
    split at h
    · exact absurd h (by simp)
    rename_i output houtput
    obtain rfl := Except.ok.inj h
    obtain ⟨hlast, hnonempty⟩ := Option.filter_eq_some_iff.mp houtput
    obtain ⟨m, hm, rfl⟩ := Option.map_eq_some_iff.mp hlast
    have hcode : code = some 0 := by
      cases code with
      | none => exact absurd hexit (by decide)
      | some n =>
        have hzero : n = 0 := by simpa using hexit
        rw [hzero]
    refine ⟨by rw [hcode], by simpa using hcancelled, by simpa using htimedOut,
      by simpa using hexceeded, parsed, hparsed, ⟨m, hm, rfl, of_decide_eq_true hnonempty⟩,
      rfl, rfl⟩

theorem parseRemainder_eq (stdout : JsString) (parsed : ParsedEvents) :
    parseRemainder readNumber stdout parsed =
      parseLines readNumber (if trim stdout = [] then [] else [trim stdout]) parsed := by
  unfold parseRemainder
  split
  · rfl
  · cases h : parseCodexEventLine readNumber (trim stdout) parsed <;> simp [parseLines, h]

/-- A run answers with a result only when the child ended with exit code 0
within the bound and was neither cancelled nor timed out; the result is then the
last message among the events of the whole standard output, with the last thread
and the last usage. -/
theorem run_result {result : RunnerResult}
    (h : run readNumber config texts threadId events ending = some (.ok result)) :
    ending = .close (some 0) ∧ .cancel ∉ events ∧ .timeout ∉ events ∧
      outputBytes events ≤ config.codexMaxOutputBytes ∧
      (∀ line ∈ readLines (streamText .stdout events), ∀ v,
        parse readNumber line = some v → v ≠ .null) ∧
      (∃ m, ((readEvents readNumber (streamText .stdout events)).filterMap
          agentMessage?).getLast? = some m ∧ result.output = trim m ∧ trim m ≠ []) ∧
      result.threadId = ((readEvents readNumber (streamText .stdout events)).filterMap
        startedThread?).getLast?.or threadId ∧
      result.usage = ((readEvents readNumber (streamText .stdout events)).filterMap
        turnUsage?).getLast? := by
  obtain ⟨active, hsteps, hsettle⟩ := Option.map_eq_some_iff.mp h
  obtain ⟨hending, hcancelled, htimedOut, hexceeded, parsed, hparsed, hmessage, hthread, husage⟩ :=
    settle_eq_ok hsettle
  have hwithin : outputBytes events ≤ config.codexMaxOutputBytes := by
    have htotal := totalBytes_steps hsteps
    rcases exceeded_or_within hsteps (.inr (Nat.zero_le _)) with hexceeded' | hbound
    · rw [hexceeded] at hexceeded'
      exact absurd hexceeded' (by decide)
    · rw [htotal, initial] at hbound
      omega
  have hzero : (initial threadId).totalBytes + outputBytes events ≤ config.codexMaxOutputBytes := by
    rw [initial, Nat.zero_add]
    exact hwithin
  rw [steps_eq_read (buffered_initial threadId) hzero] at hsteps
  obtain ⟨early, hearly, rfl⟩ := Option.map_eq_some_iff.mp hsteps
  -- the ended lines and the remainder are read one after the other
  have hall : parseLines readNumber (readLines (streamText .stdout events))
      ⟨[], threadId, none, []⟩ = some parsed := by
    rw [readLines, parseLines_append]
    refine Option.bind_eq_some_iff.mpr ⟨early, hearly, ?_⟩
    rw [← parseRemainder_eq]
    exact hparsed
  obtain ⟨hnull, rfl⟩ := parseLines_eq_some.mp hall
  refine ⟨hending, by simpa [initial] using hcancelled, by simpa [initial] using htimedOut, hwithin,
    hnull, ?_, hthread, ?_⟩
  · simpa [ParsedEvents.recordAll, readEvents] using hmessage
  · simpa [ParsedEvents.recordAll, readEvents] using husage

theorem parseLines_eq_none {lines : List JsString} {parsed : ParsedEvents} :
    parseLines readNumber lines parsed = none ↔
      ∃ line ∈ lines, parse readNumber line = some .null := by
  constructor
  · intro hnone
    by_contra hall
    have hsome : parseLines readNumber lines parsed =
        some (parsed.recordAll (lines.filterMap (parse readNumber))) := by
      refine parseLines_eq_some.mpr ⟨fun line hline v hv hnull => ?_, rfl⟩
      rw [hnull] at hv
      exact hall ⟨line, hline, hv⟩
    rw [hnone] at hsome
    exact absurd hsome (by simp)
  · rintro ⟨line, hline, hnull⟩
    cases hparsed : parseLines readNumber lines parsed with
    | none => rfl
    | some after => exact absurd rfl ((parseLines_eq_some.mp hparsed).1 line hline _ hnull)

/-- Within the bound the server survives the output of a run unless a line of it
is the JSON `null`, whose property is read outside of the run. -/
theorem run_survives (hwithin : outputBytes events ≤ config.codexMaxOutputBytes) :
    run readNumber config texts threadId events ending = none ↔
      ∃ line ∈ endedLines (streamText .stdout events), parse readNumber line = some .null := by
  have hzero : (initial threadId).totalBytes + outputBytes events ≤ config.codexMaxOutputBytes := by
    rw [initial, Nat.zero_add]
    exact hwithin
  rw [run, steps_eq_read (buffered_initial threadId) hzero, Active.read, Option.map_map,
    Option.map_eq_none_iff]
  exact parseLines_eq_none

end Reading

/-! ## A run of three events -/

namespace RunnerSample

def config : RunnerConfig := ⟨600000, 2097152⟩

def started : JsString :=
  js "\x7b\"type\":\"thread.started\",\"thread_id\":\"t1\"\x7d\r\n\x7b\"type\":\"item."

def message : JsString :=
  js "completed\",\"item\":\x7b\"type\":\"agent_message\",\"text\":\" done \"\x7d\x7d\nnot JSON\n"

def usage : JsString :=
  js "\x7b\"type\":\"turn.completed\",\"usage\":\x7b\"input_tokens\":12\x7d\x7d "

def events : List ProcessEvent :=
  [.data .stdout (utf8Bytes started), .data .stderr (utf8Bytes (js "warning")),
    .data .stdout (utf8Bytes message), .data .stdout (utf8Bytes usage)]

theorem events_within : outputBytes events ≤ config.codexMaxOutputBytes := by decide +kernel

theorem events_chunked : Chunked events := by
  intro target chunk h
  simp only [events, List.mem_cons, ProcessEvent.data.injEq, List.not_mem_nil, or_false] at h
  rcases h with ⟨-, rfl⟩ | ⟨-, rfl⟩ | ⟨-, rfl⟩ | ⟨-, rfl⟩
  · exact ⟨started, by decide +kernel, rfl⟩
  · exact ⟨js "warning", by decide +kernel, rfl⟩
  · exact ⟨message, by decide +kernel, rfl⟩
  · exact ⟨usage, by decide +kernel, rfl⟩

def isNull : Value → Bool
  | .null => true
  | _ => false

def output? : Option (Except RunnerError RunnerResult) → Option JsString
  | some (.ok result) => some result.output
  | _ => none

theorem events_result : output?
    (run readNumeral config codexTexts none events (.close (some 0))) = some (js "done") := by
  decide +kernel

end RunnerSample

open RunnerSample in
theorem run_eq_runWhole_sample :
    run readNumeral config codexTexts none events (.close (some 0)) =
      runWhole readNumeral config codexTexts none (decodeUtf8 (streamBytes .stdout events))
        (decodeUtf8 (streamBytes .stderr events)) false false (.close (some 0)) :=
  run_eq_runWhole events_within events_chunked

open RunnerSample in
theorem run_result_sample : ∃ result,
    run readNumeral config codexTexts none events (.close (some 0)) = some (.ok result) ∧
      result.output = js "done" ∧
      result.threadId = ((readEvents readNumeral (streamText .stdout events)).filterMap
        startedThread?).getLast? := by
  have hresult := events_result
  cases hrun : run readNumeral config codexTexts none events (.close (some 0)) with
  | none =>
    rw [hrun] at hresult
    exact absurd hresult (by simp [output?])
  | some answer =>
    rw [hrun] at hresult
    cases answer with
    | error _ => exact absurd hresult (by simp [output?])
    | ok result =>
      obtain ⟨-, -, -, -, -, -, hthread, -⟩ := run_result hrun
      exact ⟨result, rfl, Option.some.inj hresult, by rw [hthread, Option.or_none]⟩

open RunnerSample in
theorem run_survives_sample :
    run readNumeral config codexTexts none
      [.data .stdout (utf8Bytes (js "null\n"))] (.close (some 0)) = none := by
  refine (run_survives (by decide +kernel)).mpr ⟨js "null", by decide +kernel, ?_⟩
  have hparse : (parse readNumeral (js "null")).any isNull = true := by
    decide +kernel
  cases hvalue : parse readNumeral (js "null") with
  | none => rw [hvalue] at hparse; exact absurd hparse (by simp)
  | some v =>
    rw [hvalue] at hparse
    cases v <;> first | rfl | exact absurd hparse (by simp [isNull])

end CodexRunner

end EpochGuard
