import InspectionLine.LogIdempotency
import InspectionLine.LogNode
import InspectionLine.InputRuns
import InspectionLine.SuccessfulRuns

/-! # Replay of station terminals, page by page

The Master node asks the Log node for one page after the other. Its calls can overlap, fail,
come back late or belong to an older generation, and terminals are stored all the while. -/
namespace InspectionLine

open InputRuns SuccessfulRuns

/-- A station terminal as it is passed to `_handle_station_result` or
`_handle_station_failure`. -/
inductive StationTerminal (F : Type) where
  | result (message : StationResult F)
  | failure (message : StationInferenceFailed)

def ReplayResults.messages {F : Type} (response : ReplayResults F) : List (StationTerminal F) :=
  response.results.map .result ++ response.failures.map .failure

/-- What the Master node knows of the replay. -/
structure StationReplay where
  generation : ℕ := 0
  completedGeneration : ℤ := -1
  offset : ℕ := 0
  inflight : Bool := false

/-- What decides whether the Master node asks, apart from its own state. -/
structure ReplayReadiness where
  logReady : Bool
  serviceReady : Bool
  callRaises : Bool := false

namespace StationReplay

def request (r : StationReplay) (readiness : ReplayReadiness) (sessionId : String) :
    Option ReplayRequest × StationReplay :=
  if readiness.logReady = false ∨ r.inflight ∨ r.completedGeneration = r.generation ∨
      sessionId = "" ∨ readiness.serviceReady = false then (none, r)
  else if readiness.callRaises then (none, { r with inflight := false })
  else (some { sessionId, maxResults := 1000, offset := r.offset }, { r with inflight := true })

/-- The messages that are passed on, and the state after a response. When the handler of one
of the messages raises, the later ones are not passed on. -/
def handle {F : Type} (r : StationReplay) (generation : ℕ)
    (outcome : Except PyError (ReplayResults F)) (raisesAt : Option ℕ) :
    List (StationTerminal F) × StationReplay :=
  let r := { r with inflight := false }
  if generation ≠ r.generation then ([], r)
  else match outcome, raisesAt with
  | .error _, _ => ([], r)
  | .ok response, raisesAt =>
    if response.success = false then ([], r)
    else match raisesAt with
    | some n => (response.messages.take n, r)
    | none =>
      let r := { r with offset := response.nextOffset }
      (response.messages,
        if response.hasMore then r else { r with completedGeneration := generation })

/-- A new process of the Vision node or the Log node. -/
def restart (r : StationReplay) : StationReplay :=
  { r with generation := r.generation + 1, offset := 0, inflight := false }

end StationReplay

/-- A pending call of the service, with its answer as soon as there is one. -/
structure ReplayCall (F : Type) where
  generation : ℕ
  request : ReplayRequest
  answer : Option (Except PyError (ReplayResults F)) := none

structure ReplayWorld (F : Type) where
  sessionId : String
  log : LogNode F
  replay : StationReplay := {}
  calls : List (ReplayCall F) := []
  /-- What was passed on, under its generation. -/
  passed : List (ℕ × StationTerminal F) := []
  /-- The terminals of the session in the database, in the order they were stored, when the
  first page was read for a generation. -/
  firstRead : ℕ → Option (List (TerminalEntry F)) := fun _ => none

/-- Calls are named by their place among the pending ones; a step that names none, or one that
has no answer yet, does nothing. -/
inductive ReplayStep where
  | request (readiness : ReplayReadiness)
  | serve (i : ℕ)
  | fail (i : ℕ)
  | respond (i : ℕ) (raisesAt : Option ℕ)
  | restart
  | append (committedAt : String) (event : StoredLogEvent)
  | startLogSession (sessionId : String)
  | initializeLog
  | restartLog

namespace ReplayWorld

variable {F : Type} [Runtime F] (ties : TerminalEntry F → TerminalEntry F → Bool)

/-- What the query of the replay goes through. -/
def terminals (w : ReplayWorld F) : List (TerminalEntry F) :=
  w.log.tables.sessionTerminals ties w.sessionId

def storedTerminals (w : ReplayWorld F) : List (TerminalEntry F) :=
  w.log.tables.visionStationTerminals.entries.filter fun entry => entry.1.sessionId = w.sessionId

def request (w : ReplayWorld F) (readiness : ReplayReadiness) : ReplayWorld F :=
  let (request, replay) := w.replay.request readiness w.sessionId
  { w with
    replay
    calls := w.calls ++ request.toList.map ({ generation := w.replay.generation, request := · }) }

/-- The Log node answers a call; the first page of a generation is noted. -/
def serve (w : ReplayWorld F) (i : ℕ) : ReplayWorld F :=
  match w.calls[i]? with
  | some call =>
    if call.answer.isSome then w
    else
      let answer := w.log.handleReplayStationResults ties call.request
      let w := { w with calls := w.calls.set i { call with answer := some answer } }
      match answer with
      | .ok response =>
        if response.success ∧ w.firstRead call.generation = none then { w with
          firstRead := Function.update w.firstRead call.generation (some w.storedTerminals) }
        else w
      | .error _ => w
  | none => w

def fail (w : ReplayWorld F) (i : ℕ) : ReplayWorld F :=
  match w.calls[i]? with
  | some call =>
    { w with calls := w.calls.set i { call with answer := some (.error { kind := .typeError }) } }
  | none => w

def respond (w : ReplayWorld F) (i : ℕ) (raisesAt : Option ℕ) : ReplayWorld F :=
  match w.calls[i]? with
  | some { generation, request := _, answer := some outcome } =>
    let (messages, replay) := w.replay.handle generation outcome raisesAt
    { w with
      replay
      calls := w.calls.eraseIdx i
      passed := w.passed ++ messages.map (generation, ·) }
  | _ => w

def next (w : ReplayWorld F) : ReplayStep → ReplayWorld F
  | .request readiness => w.request readiness
  | .serve i => w.serve ties i
  | .fail i => w.fail i
  | .respond i raisesAt => w.respond i raisesAt
  | .restart => { w with replay := w.replay.restart }
  | .append committedAt event =>
    { w with log := { w.log with tables := (w.log.tables.appendEvent committedAt event).2 } }
  | .startLogSession sessionId => { w with log := { w.log with sessionId } }
  | .initializeLog => { w with log := { w.log with initialized := true } }
  | .restartLog => { w with log := { w.log with initialized := false } }

end ReplayWorld

/-! ### Pages -/

theorem LogTables.mem_session_terminals {F : Type} {t : LogTables F}
    {ties : TerminalEntry F → TerminalEntry F → Bool} {sessionId : String}
    {entry : TerminalEntry F} : entry ∈ t.sessionTerminals ties sessionId ↔
      entry ∈ t.visionStationTerminals.entries ∧ entry.1.sessionId = sessionId := by
  unfold sessionTerminals
  rw [(OffsetPaging.order_by_perm _ _).mem_iff, List.mem_filter, decide_eq_true_iff]

section
variable {F : Type} [Runtime F]

/-- The message that the Log node makes of a stored terminal. -/
def ReplayStationTerminal.message (terminal : ReplayStationTerminal F) (sessionId : String) :
    Except PyError (StationTerminal F) :=
  match terminal.terminalKind with
  | .result => .result <$> terminal.toResult sessionId
  | .failure => .failure <$> terminal.toFailure sessionId

theorem replay_results_spec {sessionId : String} {offset : ℕ}
    {terminals : List (ReplayStationTerminal F)} {hasMore : Bool} {response : ReplayResults F}
    (h : replayResults sessionId offset terminals hasMore = .ok response) :
    response.nextOffset = offset + terminals.length ∧ response.hasMore = hasMore ∧
    ∀ terminal ∈ terminals, ∃ message ∈ response.messages,
      terminal.message sessionId = .ok message := by
  unfold replayResults at h
  obtain ⟨results, hresults, h⟩ := bind_ok.mp h
  obtain ⟨failures, hfailures, h⟩ := bind_ok.mp h
  obtain ⟨nextOffset, hoffset, h⟩ := bind_ok.mp h
  cases h
  refine ⟨?_, rfl, fun terminal hterminal => ?_⟩
  · have hsame := as_uint_eq hoffset
    simp only
    omega
  · cases hkind : terminal.terminalKind with
    | result =>
      obtain ⟨message, hmessage, heq⟩ := mem_of_map_m hresults
        (List.mem_filter.mpr ⟨hterminal, by simpa using hkind⟩)
      refine ⟨.result message, List.mem_append_left _ (List.mem_map_of_mem hmessage), ?_⟩
      simp only [ReplayStationTerminal.message, hkind, heq]
      rfl
    | failure =>
      obtain ⟨message, hmessage, heq⟩ := mem_of_map_m hfailures
        (List.mem_filter.mpr ⟨hterminal, by simpa using hkind⟩)
      refine ⟨.failure message, List.mem_append_right _ (List.mem_map_of_mem hmessage), ?_⟩
      simp only [ReplayStationTerminal.message, hkind, heq]
      rfl

/-- A terminal up to the end of the page of a successful answer, or anywhere when the answer
says that there is no more, is in front of the page or its message is in the answer. -/
theorem page_of_answer {n : LogNode F} {ties : TerminalEntry F → TerminalEntry F → Bool}
    {request : ReplayRequest} {response : ReplayResults F}
    (h : n.handleReplayStationResults ties request = .ok response)
    (hsuccess : response.success = true) :
    request.sessionId = n.sessionId ∧
    ∀ entry ∈ n.tables.sessionTerminals ties n.sessionId,
      (response.hasMore = false ∨
        entry ∈ (n.tables.sessionTerminals ties n.sessionId).take response.nextOffset) →
      entry ∈ (n.tables.sessionTerminals ties n.sessionId).take request.offset ∨
        ∃ message ∈ response.messages, entry.replayed.message n.sessionId = .ok message := by
  unfold LogNode.handleReplayStationResults at h
  split at h
  · cases h
    cases hsuccess
  · split at h
    · cases h
      cases hsuccess
    · rename_i hsession
      have hsession : request.sessionId = n.sessionId := by simpa using hsession
      refine ⟨hsession, fun entry hentry hreach => ?_⟩
      rw [hsession] at h
      obtain ⟨hoffset, hmore, hmessages⟩ := replay_results_spec h
      simp only [List.length_map] at hoffset hmore hmessages
      generalize n.tables.sessionTerminals ties n.sessionId = terminals at *
      generalize max 1 (min (if request.maxResults = 0 then 100 else request.maxResults) 1000) =
        limit at *
      rw [List.take_take, Nat.min_eq_left (Nat.le_succ limit)] at hoffset hmessages
      have hpage : ∀ entry ∈ (terminals.drop request.offset).take limit,
          ∃ message ∈ response.messages, entry.replayed.message n.sessionId = .ok message :=
        fun entry hentry => hmessages _ (List.mem_map_of_mem hentry)
      rcases hreach with hend | hbefore
      · rw [hend] at hmore
        have hshort : (terminals.drop request.offset).length ≤ limit := by
          have hlength := of_decide_eq_false hmore.symm
          rw [List.length_take] at hlength
          omega
        rw [← List.take_append_drop request.offset terminals] at hentry
        refine (List.mem_append.mp hentry).imp_right fun hdrop => hpage entry ?_
        rwa [List.take_of_length_le hshort]
      · rw [hoffset] at hbefore
        refine (OffsetPaging.mem_take_add terminals hbefore).imp_right fun hdrop => hpage entry ?_
        exact List.take_subset_take_left _ (List.length_take_le _ _) hdrop

end

namespace ReplayWorld

variable {F : Type} {ties : TerminalEntry F → TerminalEntry F → Bool}

theorem mem_terminals {w : ReplayWorld F} {entry : TerminalEntry F} :
    entry ∈ w.terminals ties ↔ entry ∈ w.storedTerminals := by
  rw [terminals, storedTerminals, LogTables.mem_session_terminals, List.mem_filter,
    decide_eq_true_iff]

theorem terminals_nodup (w : ReplayWorld F) : (w.terminals ties).Nodup := by
  refine (OffsetPaging.order_by_perm _ _).nodup_iff.mpr (List.Nodup.filter _ ?_)
  exact w.log.tables.visionStationTerminals.nodup.of_map _

variable [Runtime F]

/-- The message of a terminal was passed on under a generation. -/
def Passed (w : ReplayWorld F) (g : ℕ) (entry : TerminalEntry F) : Prop :=
  ∃ message, entry.replayed.message w.sessionId = .ok message ∧ (g, message) ∈ w.passed

/-- Of the terminals of the first read, those among the first `k` have been passed on. -/
def Covered (ties : TerminalEntry F → TerminalEntry F → Bool) (w : ReplayWorld F) (k : ℕ) : Prop :=
  ∀ rows, w.firstRead w.replay.generation = some rows → ∀ entry ∈ rows,
    entry ∈ (w.terminals ties).take k → w.Passed w.replay.generation entry

/-- Passing on a response covers everything up to its next offset. -/
def Answered (ties : TerminalEntry F → TerminalEntry F → Bool) (w : ReplayWorld F)
    (response : ReplayResults F) : Prop :=
  ∀ rows, w.firstRead w.replay.generation = some rows → ∀ entry ∈ rows,
    (response.hasMore = false ∨ entry ∈ (w.terminals ties).take response.nextOffset) →
    w.Passed w.replay.generation entry ∨
      ∃ message ∈ response.messages, entry.replayed.message w.sessionId = .ok message

def CallPaged (ties : TerminalEntry F → TerminalEntry F → Bool) (w : ReplayWorld F)
    (call : ReplayCall F) : Prop :=
  match call.answer with
  | none => Covered ties w call.request.offset
  | some (.error _) => True
  | some (.ok response) => response.success = true →
    w.firstRead w.replay.generation ≠ none ∧ Answered ties w response

structure Paged (ties : TerminalEntry F → TerminalEntry F → Bool) (w : ReplayWorld F) : Prop where
  stored : ∀ g rows, w.firstRead g = some rows → ∀ entry ∈ rows, entry ∈ w.terminals ties
  unread : ∀ g, w.replay.generation < g → w.firstRead g = none
  fresh : w.firstRead w.replay.generation = none → w.replay.offset = 0 ∧
    ∀ call ∈ w.calls, call.generation = w.replay.generation → call.request.offset = 0
  sessions : ∀ call ∈ w.calls, call.request.sessionId = w.sessionId
  generations : ∀ call ∈ w.calls, call.generation ≤ w.replay.generation
  offset : Covered ties w w.replay.offset
  calls : ∀ call ∈ w.calls, call.generation = w.replay.generation → CallPaged ties w call
  completed : ∀ g : ℕ, w.replay.completedGeneration = g →
    ∃ rows, w.firstRead g = some rows ∧ ∀ entry ∈ rows, w.Passed g entry

variable {w : ReplayWorld F}

theorem paged_of_log (h : Paged ties w) {log : LogNode F}
    (hgrows : (w.terminals ties).Sublist (({ w with log } : ReplayWorld F).terminals ties)) :
    Paged ties { w with log } := by
  have hback : ∀ g rows, w.firstRead g = some rows → ∀ entry ∈ rows, ∀ k,
      entry ∈ (({ w with log } : ReplayWorld F).terminals ties).take k →
        entry ∈ (w.terminals ties).take k := fun g rows hrows entry hentry k hk =>
    OffsetPaging.mem_take_of_sublist hgrows (terminals_nodup _) (h.stored g rows hrows entry hentry)
      hk
  refine ⟨?_, h.unread, h.fresh, h.sessions, h.generations, ?_, ?_, h.completed⟩
  · exact fun g rows hrows entry hentry => hgrows.subset (h.stored g rows hrows entry hentry)
  · exact fun rows hrows entry hentry hk =>
      h.offset rows hrows entry hentry (hback _ rows hrows entry hentry _ hk)
  · intro call hcall hgeneration
    have hold := h.calls call hcall hgeneration
    unfold CallPaged at hold ⊢
    split
    · rename_i hanswer
      rw [hanswer] at hold
      exact fun rows hrows entry hentry hk =>
        hold rows hrows entry hentry (hback _ rows hrows entry hentry _ hk)
    · trivial
    · rename_i response hanswer
      rw [hanswer] at hold
      intro hsuccess
      obtain ⟨hread, hanswered⟩ := hold hsuccess
      exact ⟨hread, fun rows hrows entry hentry hreach => hanswered rows hrows entry hentry
        (hreach.imp_right fun hk => hback _ rows hrows entry hentry _ hk)⟩

theorem terminals_append (w : ReplayWorld F) (committedAt : String) (event : StoredLogEvent) :
    (w.terminals ties).Sublist ((next ties w (.append committedAt event)).terminals ties) := by
  have hprefix : w.log.tables.visionStationTerminals.entries <+:
      (w.log.tables.appendEvent committedAt event).2.visionStationTerminals.entries := by
    rcases LogTables.append_event_cases w.log.tables committedAt event with ⟨e, he⟩ |
      ⟨_, _, _, he⟩ | ⟨t', _, hgrows, he⟩
    · rw [he]
    · rw [he]
    · rw [he]
      exact hgrows.terminals
  obtain ⟨added, hadded⟩ := hprefix
  simp only [terminals, next, LogTables.sessionTerminals, ← hadded, List.filter_append]
  exact OffsetPaging.order_by_sublist _ _ _

theorem paged_request (h : Paged ties w) (readiness : ReplayReadiness) :
    Paged ties (w.request readiness) := by
  have hquiet : ∀ inflight, Paged ties { w with replay := { w.replay with inflight } } :=
    fun _ => ⟨h.stored, h.unread, h.fresh, h.sessions, h.generations, h.offset, h.calls,
      h.completed⟩
  simp only [request, StationReplay.request]
  split
  · simpa using hquiet w.replay.inflight
  · split
    · simpa using hquiet false
    · refine ⟨h.stored, h.unread, fun hnone => ⟨(h.fresh hnone).1, ?_⟩, ?_, ?_, h.offset, ?_,
        h.completed⟩
      · intro call hcall hgeneration
        rcases List.mem_append.mp hcall with hold | hnew
        · exact (h.fresh hnone).2 call hold hgeneration
        · cases List.mem_singleton.mp hnew
          exact (h.fresh hnone).1
      · intro call hcall
        rcases List.mem_append.mp hcall with hold | hnew
        · exact h.sessions call hold
        · cases List.mem_singleton.mp hnew
          rfl
      · intro call hcall
        rcases List.mem_append.mp hcall with hold | hnew
        · exact h.generations call hold
        · cases List.mem_singleton.mp hnew
          exact le_refl _
      · intro call hcall hgeneration
        rcases List.mem_append.mp hcall with hold | hnew
        · exact h.calls call hold hgeneration
        · cases List.mem_singleton.mp hnew
          exact h.offset

theorem paged_restart (h : Paged ties w) : Paged ties (next ties w .restart) := by
  have hnone : w.firstRead (w.replay.generation + 1) = none := h.unread _ (Nat.lt_succ_self _)
  have hold : ∀ call ∈ w.calls, call.generation ≠ w.replay.generation + 1 := by
    intro call hcall heq
    have := h.generations call hcall
    omega
  refine ⟨h.stored, fun g hg => h.unread g (Nat.lt_of_succ_lt hg), ?_, h.sessions, ?_, ?_, ?_,
    h.completed⟩
  · exact fun _ => ⟨rfl, fun call hcall hgeneration => absurd hgeneration (hold call hcall)⟩
  · exact fun call hcall => (h.generations call hcall).trans (Nat.le_succ _)
  · intro rows hrows
    have hrows : w.firstRead (w.replay.generation + 1) = some rows := hrows
    rw [hnone] at hrows
    cases hrows
  · exact fun call hcall hgeneration => absurd hgeneration (hold call hcall)

theorem paged_answer (h : Paged ties w) {i : ℕ} {call : ReplayCall F}
    (hcall : w.calls[i]? = some call) {answer : Except PyError (ReplayResults F)}
    (hpaged : call.generation = w.replay.generation →
      CallPaged ties w { call with answer := some answer }) :
    Paged ties { w with calls := w.calls.set i { call with answer := some answer } } := by
  have hmem : call ∈ w.calls := List.mem_of_getElem? hcall
  have hset : ∀ other ∈ w.calls.set i { call with answer := some answer },
      other ∈ w.calls ∨ other = { call with answer := some answer } :=
    fun other hother => List.mem_or_eq_of_mem_set hother
  refine ⟨h.stored, h.unread, fun hnone => ⟨(h.fresh hnone).1, ?_⟩, ?_, ?_, h.offset, ?_,
    h.completed⟩
  · intro other hother hgeneration
    rcases hset other hother with hold | rfl
    · exact (h.fresh hnone).2 other hold hgeneration
    · exact (h.fresh hnone).2 call hmem hgeneration
  · intro other hother
    rcases hset other hother with hold | rfl
    · exact h.sessions other hold
    · exact h.sessions call hmem
  · intro other hother
    rcases hset other hother with hold | rfl
    · exact h.generations other hold
    · exact h.generations call hmem
  · intro other hother hgeneration
    rcases hset other hother with hold | rfl
    · exact h.calls other hold hgeneration
    · exact hpaged hgeneration

/-- The first page of a generation: nothing of it has been counted on yet. -/
theorem paged_first_read (h : Paged ties w) {g : ℕ} (hg : g ≤ w.replay.generation)
    (hnone : w.firstRead g = none) : Paged ties { w with
      firstRead := Function.update w.firstRead g (some w.storedTerminals) } := by
  have hstart : ∀ rows,
      Function.update w.firstRead g (some w.storedTerminals) w.replay.generation = some rows →
      ∀ k, (w.firstRead w.replay.generation = none → k = 0) → Covered ties w k →
      ∀ entry ∈ rows, entry ∈ (w.terminals ties).take k → w.Passed w.replay.generation entry := by
    intro rows hrows k hk hcovered entry hentry hmem
    by_cases hsame : w.replay.generation = g
    · subst hsame
      rw [hk hnone] at hmem
      cases hmem
    · rw [Function.update_of_ne hsame] at hrows
      exact hcovered rows hrows entry hentry hmem
  refine ⟨?_, ?_, ?_, h.sessions, h.generations, ?_, ?_, ?_⟩
  · intro g' rows hrows entry hentry
    simp only at hrows
    by_cases hsame : g' = g
    · subst hsame
      rw [Function.update_self] at hrows
      cases hrows
      exact mem_terminals.mpr hentry
    · rw [Function.update_of_ne hsame] at hrows
      exact h.stored g' rows hrows entry hentry
  · intro g' hg'
    have hlater : w.replay.generation < g' := hg'
    have hother : g' ≠ g := by omega
    simp only [Function.update_of_ne hother]
    exact h.unread g' hlater
  · intro hunread
    simp only at hunread
    by_cases hsame : w.replay.generation = g
    · subst hsame
      rw [Function.update_self] at hunread
      cases hunread
    · rw [Function.update_of_ne hsame] at hunread
      exact h.fresh hunread
  · exact fun rows hrows entry hentry hmem => hstart rows hrows w.replay.offset
      (fun hnone => (h.fresh hnone).1) h.offset entry hentry hmem
  · intro call hcall hgeneration
    have hold := h.calls call hcall hgeneration
    unfold CallPaged at hold ⊢
    split
    · rename_i hanswer
      rw [hanswer] at hold
      exact fun rows hrows entry hentry hmem => hstart rows hrows call.request.offset
        (fun hnone => (h.fresh hnone).2 call hcall hgeneration) hold entry hentry hmem
    · trivial
    · rename_i response hanswer
      rw [hanswer] at hold
      intro hsuccess
      obtain ⟨hread, hanswered⟩ := hold hsuccess
      have hother : w.replay.generation ≠ g := by
        rintro rfl
        exact hread hnone
      simp only [Answered, Function.update_of_ne hother]
      exact ⟨hread, hanswered⟩
  · intro g' hcompleted
    obtain ⟨rows, hrows, hpassed⟩ := h.completed g' hcompleted
    have hother : g' ≠ g := by
      rintro rfl
      rw [hnone] at hrows
      cases hrows
    exact ⟨rows, (Function.update_of_ne hother _ _).trans hrows, hpassed⟩

/-- What a successful answer holds, once the first page of its generation has been noted. -/
theorem answered_of_page (h : Paged ties w) {call : ReplayCall F} (hcall : call ∈ w.calls)
    (hgeneration : call.generation = w.replay.generation) (hpending : call.answer = none)
    {response : ReplayResults F}
    (hanswer : w.log.handleReplayStationResults ties call.request = .ok response)
    (hsuccess : response.success = true) : Answered ties w response := by
  have hcovered := h.calls call hcall hgeneration
  simp only [CallPaged, hpending] at hcovered
  obtain ⟨hsession, hpage⟩ := page_of_answer hanswer hsuccess
  rw [← hsession, h.sessions call hcall] at hpage
  intro rows hrows entry hentry hreach
  rcases hpage entry (h.stored _ rows hrows entry hentry) hreach with hbefore | hmessage
  · exact .inl (hcovered rows hrows entry hentry hbefore)
  · exact .inr hmessage

theorem paged_serve (h : Paged ties w) (i : ℕ) : Paged ties (w.serve ties i) := by
  unfold serve
  split
  · rename_i call hcall
    split
    · exact h
    · rename_i hpending
      have hpending : call.answer = none := by simpa using hpending
      have hmem : call ∈ w.calls := List.mem_of_getElem? hcall
      simp only
      generalize hanswer : w.log.handleReplayStationResults ties call.request = answer
      cases answer with
      | error e => exact paged_answer h hcall fun _ => trivial
      | ok response =>
        simp only
        split
        · rename_i hfirst
          have hread := paged_first_read h (h.generations call hmem) hfirst.2
          refine paged_answer hread hcall fun hgeneration => ?_
          refine fun hsuccess =>
            ⟨?_, answered_of_page hread hmem hgeneration hpending hanswer hsuccess⟩
          have hsame : call.generation = w.replay.generation := hgeneration
          simp [← hsame]
        · rename_i hread
          refine paged_answer h hcall fun hgeneration => ?_
          refine fun hsuccess => ⟨?_, answered_of_page h hmem hgeneration hpending hanswer hsuccess⟩
          exact fun hnone => hread ⟨hsuccess, hgeneration ▸ hnone⟩
  · exact h

theorem paged_fail (h : Paged ties w) (i : ℕ) : Paged ties (w.fail i) := by
  unfold fail
  split
  · rename_i call hcall
    exact paged_answer h hcall fun _ => trivial
  · exact h

/-- Dropping a call and passing on more messages. -/
theorem paged_passed (h : Paged ties w) (i : ℕ) (more : List (ℕ × StationTerminal F))
    (inflight : Bool) : Paged ties { w with
      replay := { w.replay with inflight }
      calls := w.calls.eraseIdx i
      passed := w.passed ++ more } := by
  have hmore : ∀ {g entry}, w.Passed g entry → ({ w with
      replay := { w.replay with inflight }
      calls := w.calls.eraseIdx i
      passed := w.passed ++ more } : ReplayWorld F).Passed g entry :=
    fun ⟨message, hmessage, hpassed⟩ => ⟨message, hmessage, List.mem_append_left _ hpassed⟩
  have hcalls : ∀ {call}, call ∈ w.calls.eraseIdx i → call ∈ w.calls :=
    fun hcall => List.mem_of_mem_eraseIdx hcall
  refine ⟨h.stored, h.unread, fun hnone => ⟨(h.fresh hnone).1, ?_⟩, ?_, ?_, ?_, ?_, ?_⟩
  · exact fun call hcall => (h.fresh hnone).2 call (hcalls hcall)
  · exact fun call hcall => h.sessions call (hcalls hcall)
  · exact fun call hcall => h.generations call (hcalls hcall)
  · exact fun rows hrows entry hentry hk => hmore (h.offset rows hrows entry hentry hk)
  · intro call hcall hgeneration
    have hold := h.calls call (hcalls hcall) hgeneration
    unfold CallPaged at hold ⊢
    split
    · rename_i hanswer
      rw [hanswer] at hold
      exact fun rows hrows entry hentry hk => hmore (hold rows hrows entry hentry hk)
    · trivial
    · rename_i response hanswer
      rw [hanswer] at hold
      intro hsuccess
      obtain ⟨hread, hanswered⟩ := hold hsuccess
      exact ⟨hread, fun rows hrows entry hentry hreach =>
        (hanswered rows hrows entry hentry hreach).imp_left hmore⟩
  · intro g hcompleted
    obtain ⟨rows, hrows, hpassed⟩ := h.completed g hcompleted
    exact ⟨rows, hrows, fun entry hentry => hmore (hpassed entry hentry)⟩

theorem paged_advance (h : Paged ties w) {k : ℕ}
    (hread : w.firstRead w.replay.generation ≠ none) (hcovered : Covered ties w k) :
    Paged ties { w with replay := { w.replay with offset := k } } :=
  ⟨h.stored, h.unread, fun hnone => absurd hnone hread, h.sessions, h.generations, hcovered,
    h.calls, h.completed⟩

theorem paged_complete (h : Paged ties w) {rows : List (TerminalEntry F)}
    (hrows : w.firstRead w.replay.generation = some rows)
    (hpassed : ∀ entry ∈ rows, w.Passed w.replay.generation entry) :
    Paged ties { w with replay := { w.replay with completedGeneration := w.replay.generation } } :=
  ⟨h.stored, h.unread, h.fresh, h.sessions, h.generations, h.offset, h.calls, fun g hg => by
    obtain rfl : w.replay.generation = g := Int.ofNat_inj.mp hg
    exact ⟨rows, hrows, hpassed⟩⟩

theorem paged_respond (h : Paged ties w) (i : ℕ) (raisesAt : Option ℕ) :
    Paged ties (w.respond i raisesAt) := by
  unfold respond
  split
  · rename_i generation request outcome hcall
    have hmem := List.mem_of_getElem? hcall
    simp only [StationReplay.handle]
    split
    · exact paged_passed h i _ false
    · rename_i hgeneration
      have hgeneration : generation = w.replay.generation := not_not.mp hgeneration
      split
      · exact paged_passed h i _ false
      · rename_i response
        split
        · exact paged_passed h i _ false
        · rename_i hsuccess
          have hsuccess : response.success = true := by simpa using hsuccess
          split
          · exact paged_passed h i _ false
          · have hpassed := paged_passed h i (response.messages.map (generation, ·)) false
            obtain ⟨hread, hanswered⟩ := h.calls _ hmem hgeneration hsuccess
            obtain ⟨rows, hrows⟩ := Option.ne_none_iff_exists'.mp hread
            have hnow : ∀ entry ∈ rows, (response.hasMore = false ∨
                entry ∈ (w.terminals ties).take response.nextOffset) →
                ({ w with
                  replay := { w.replay with inflight := false }
                  calls := w.calls.eraseIdx i
                  passed := w.passed ++ response.messages.map (generation, ·) } :
                  ReplayWorld F).Passed w.replay.generation entry := by
              intro entry hentry hreach
              rcases hanswered rows hrows entry hentry hreach with
                ⟨message, hmessage, hold⟩ | ⟨message, hnew, hmessage⟩
              · exact ⟨message, hmessage, List.mem_append_left _ hold⟩
              · refine ⟨message, hmessage, List.mem_append_right _ ?_⟩
                rw [← hgeneration]
                exact List.mem_map_of_mem hnew
            have hmoved := paged_advance hpassed hread (k := response.nextOffset)
              fun rows' hrows' entry hentry hk => hnow entry
                (Option.some.inj (hrows.symm.trans hrows') ▸ hentry) (.inr hk)
            split
            · exact hmoved
            · rename_i hlast
              rw [hgeneration]
              rw [hgeneration] at hmoved hnow
              exact paged_complete hmoved hrows
                fun entry hentry => hnow entry hentry (.inl (by simpa using hlast))
  · exact h

theorem paged_next (h : Paged ties w) (step : ReplayStep) : Paged ties (next ties w step) := by
  cases step with
  | request readiness => exact paged_request h readiness
  | serve i => exact paged_serve h i
  | fail i => exact paged_fail h i
  | respond i raisesAt => exact paged_respond h i raisesAt
  | restart => exact paged_restart h
  | append committedAt event => exact paged_of_log h (terminals_append w committedAt event)
  | startLogSession sessionId => exact paged_of_log h (List.Sublist.refl _)
  | initializeLog => exact paged_of_log h (List.Sublist.refl _)
  | restartLog => exact paged_of_log h (List.Sublist.refl _)

/-- When a generation is marked as completed, every terminal of the session that was in the
database at the first page of it has been passed on. -/
theorem completed_replay_delivers (sessionId : String) (log : LogNode F) (steps : List ReplayStep)
    (g : ℕ) (hcompleted :
      (runTrace (next ties) { sessionId, log } steps).replay.completedGeneration = g) :
    let w := runTrace (next ties) { sessionId, log } steps
    ∃ rows, w.firstRead g = some rows ∧ ∀ entry ∈ rows, w.Passed g entry := by
  have hstart : Paged ties { sessionId, log } := by
    refine ⟨?_, fun _ _ => rfl, ?_, ?_, ?_, ?_, ?_, ?_⟩ <;> simp [Covered]
  have hpaged := (valid_trace_execution (valid_trace_of_total _ steps)).invariant (P := Paged ties)
    (fun _ step h _ => paged_next h step) hstart
  exact hpaged.completed g hcompleted

section

local instance : Runtime Unit := .withDigests []

def storedTerminal (job : String) (fifoSequence : ℤ) : TerminalEntry Unit := (
  { sessionId := "session-1", inferenceJobId := job, revision := 1, terminalKind := .result },
  { productId := "product-1", fifoSequence, stationId := 1, captureId := "capture-1"
    frameBatchId := "batch-1", verdict := some 1, score := some (), modelVersion := "v1"
    modelSha256 := "", configFingerprint := "", errorCode := none, reason := ""
    modelForwardMs := none, enqueueToResultMs := none, captureCompletedMonotonicNs := none
    completedMonotonicNs := none, payloadJson := "" })

def replayedLog : LogNode Unit where
  sessionId := "session-1"
  initialized := true
  tables := {
    visionStationTerminals := ⟨[storedTerminal "job-2" 2, storedTerminal "job-1" 1], by decide⟩ }

/-- A response of the old generation frees the way for a second request of the same page. -/
def overlappingReplay : List ReplayStep :=
  let ready : ReplayReadiness := { logReady := true, serviceReady := true }
  [.request ready, .restart, .request ready, .serve 0, .respond 0 none, .request ready, .serve 1,
    .serve 0, .respond 1 none, .respond 0 none]

theorem overlapping_replay_delivers :
    let w := runTrace (next fun _ _ => false) { sessionId := "session-1", log := replayedLog }
      overlappingReplay
    ∃ rows, w.firstRead 1 = some rows ∧ ∀ entry ∈ rows, w.Passed 1 entry :=
  completed_replay_delivers "session-1" replayedLog overlappingReplay 1 (by decide +kernel)

end

end ReplayWorld

end InspectionLine
