import InspectionLine.LogRepository

/-! # Redelivered log events

A record of the log table shows that an event has been projected already. What is delivered
again then changes nothing, however much newer events have written since. -/
namespace InspectionLine

namespace LogTables

variable {F : Type}

/-- What the projections of an event keep: the log itself, the terminals and the registered
images. -/
structure Grows (t t' : LogTables F) : Prop where
  logEvents : t'.logEvents = t.logEvents
  terminals : t.visionStationTerminals.entries <+: t'.visionStationTerminals.entries
  artifacts : ∀ path row, t.canonicalImageArtifacts.get? path = some row →
    t'.canonicalImageArtifacts.get? path = some row

variable {t t' t'' : LogTables F}

theorem Grows.refl (t : LogTables F) : Grows t t := ⟨rfl, List.prefix_rfl, fun _ _ h => h⟩

theorem Grows.trans (h : Grows t t') (k : Grows t' t'') : Grows t t'' where
  logEvents := k.logEvents.trans h.logEvents
  terminals := h.terminals.trans k.terminals
  artifacts path row hrow := k.artifacts path row (h.artifacts path row hrow)

theorem grows_insert_terminal (t : LogTables F) (key : TerminalKey) (row : TerminalRow F) :
    Grows t (t.insertTerminal key row) := by
  refine ⟨rfl, ?_, fun _ _ h => h⟩
  simp only [insertTerminal, OrderedDict.insertOrIgnore]
  split
  · exact List.prefix_rfl
  · exact List.prefix_append _ _

theorem grows_insert_artifact (t : LogTables F) (sessionId productId : String) (stationId : ℤ)
    (filePath : String) : Grows t (t.insertArtifact sessionId productId stationId filePath) where
  logEvents := rfl
  terminals := List.prefix_rfl
  artifacts _ _ h := OrderedDict.get?_insertOrIgnore_of_some h _ _

def Leads (t : LogTables F) (r : Except PyError (LogTables F)) : Prop :=
  ∀ t', r = .ok t' → Grows t t'

theorem leads_error (e : PyError) : Leads t (.error e) := by
  intro t' h
  cases h

theorem leads_pure (h : Grows t t') : Leads t (pure t') := by
  intro t'' heq
  cases heq
  exact h

theorem leads_bind {α : Type} {x : Except PyError α} {f : α → Except PyError (LogTables F)}
    (h : ∀ a, Leads t (f a)) : Leads t (x >>= f) := by
  cases x with
  | error e => exact leads_error e
  | ok a => exact h a

theorem Leads.bind {x : Except PyError (LogTables F)}
    {f : LogTables F → Except PyError (LogTables F)} (hx : Leads t x)
    (hf : ∀ t', Leads t' (f t')) : Leads t (x >>= f) := by
  cases x with
  | error e => exact leads_error e
  | ok a => exact fun t' h => (hx a rfl).trans (hf a t' h)

theorem leads_fold {α : Type} {f : LogTables F → α → Except PyError (LogTables F)}
    (hf : ∀ t a, Leads t (f t a)) (as : List α) (t : LogTables F) :
    Leads t (as.foldlM f t) := by
  induction as generalizing t with
  | nil => exact leads_pure (.refl t)
  | cons a as ih =>
    rw [List.foldlM_cons]
    exact (hf t a).bind ih

theorem logged_row {committedAt : String} {event : StoredLogEvent}
    (hrow : t.logEvents.get? event.key = none) (h : Grows (t.logged committedAt event) t') :
    t'.logEvents.get? event.key = some { event, committedAt } := by
  rw [h.logEvents]
  exact OrderedDict.get?_insertOrIgnore_self hrow _

variable [Runtime F]

theorem insert_artifacts_leads (t : LogTables F) (event : StoredLogEvent) (sessionId : String)
    (payload : JsonFields F) : Leads t (t.insertArtifacts event sessionId payload) := by
  refine leads_bind fun paths => leads_fold (fun t path => ?_) _ t
  exact leads_bind fun _ => leads_bind fun _ => leads_pure (grows_insert_artifact ..)

theorem project_terminal_leads (t : LogTables F) (event : StoredLogEvent) (sessionId : String)
    (payload : JsonFields F) (kind : TerminalKind) :
    Leads t (t.projectTerminal event sessionId payload kind) := by
  unfold projectTerminal
  iterate 13 refine leads_bind fun _ => ?_
  intro t' h
  exact (grows_insert_terminal ..).trans (insert_artifacts_leads _ _ _ _ t' h)

theorem project_locked_leads (t : LogTables F) (event : StoredLogEvent) (sessionId : String)
    (payload : JsonFields F) : Leads t (t.projectLocked event sessionId payload) := by
  unfold projectLocked
  iterate 2 refine leads_bind fun _ => ?_
  exact leads_pure ⟨rfl, List.prefix_rfl, fun _ _ h => h⟩

theorem project_timing_leads (t : LogTables F) (sessionId : String) (payload : JsonFields F) :
    Leads t (t.projectTiming sessionId payload) := by
  unfold projectTiming
  iterate 8 refine leads_bind fun _ => ?_
  exact leads_pure ⟨rfl, List.prefix_rfl, fun _ _ h => h⟩

theorem project_gpu_metrics_leads (t : LogTables F) (event : StoredLogEvent) (sessionId : String)
    (payload : JsonFields F) : Leads t (t.projectGpuMetrics event sessionId payload) := by
  unfold projectGpuMetrics
  iterate 6 refine leads_bind fun _ => ?_
  simp only [upsertGpuMetrics]
  split
  · exact leads_pure ⟨rfl, List.prefix_rfl, fun _ _ h => h⟩
  · exact leads_pure (.refl t)

theorem project_payload_leads (t : LogTables F) (event : StoredLogEvent) (sessionId : String)
    (payload : JsonFields F) : Leads t (t.projectPayload event sessionId payload) := by
  unfold projectPayload
  split
  · exact project_terminal_leads _ _ _ _ _
  · exact project_terminal_leads _ _ _ _ _
  · exact insert_artifacts_leads _ _ _ _
  · exact project_locked_leads _ _ _ _
  · exact project_timing_leads _ _ _
  · exact project_gpu_metrics_leads _ _ _ _
  · exact project_gpu_metrics_leads _ _ _ _
  · exact leads_pure (.refl t)

theorem project_event_leads (t : LogTables F) (event : StoredLogEvent) :
    Leads t (t.projectEvent event) := by
  unfold projectEvent
  refine leads_bind fun decoded => ?_
  split
  · exact leads_error _
  · split
    · exact leads_pure (.refl t)
    · simp only
      split
      · exact leads_pure (.refl t)
      · exact project_payload_leads _ _ _ _

theorem append_event_cases (t : LogTables F) (committedAt : String) (event : StoredLogEvent) :
    (∃ e, t.appendEvent committedAt event = (.error e, t)) ∨
    (∃ row, t.logEvents.get? event.key = some row ∧
      row.event.payloadDigest = event.payloadDigest ∧
      t.appendEvent committedAt event = (.ok (), t)) ∨
    (∃ t', t.logEvents.get? event.key = none ∧ Grows (t.logged committedAt event) t' ∧
      t.appendEvent committedAt event = (.ok (), t')) := by
  unfold appendEvent transaction appendBody
  cases hrevision : bindInt event.revision with
  | error e => exact .inl ⟨e, rfl⟩
  | ok revision =>
    obtain rfl := bind_int_eq hrevision
    simp only [bind, Except.bind]
    cases hrow : t.logEvents.get? (event.logId, event.revision) with
    | some row =>
      by_cases hdigest : row.event.payloadDigest = event.payloadDigest
      · exact .inr (.inl ⟨row, hrow, hdigest, by simp [hdigest, pure, Except.pure]⟩)
      · exact .inl ⟨_, by simp [hdigest]; rfl⟩
    | none =>
      cases hseverity : bindInt event.severity with
      | error e => exact .inl ⟨e, rfl⟩
      | ok _ =>
        cases hoccurred : bindInt event.occurredAtNs with
        | error e => exact .inl ⟨e, rfl⟩
        | ok _ =>
          cases hproject : (t.logged committedAt event).projectEvent event with
          | error e => exact .inl ⟨e, by simp⟩
          | ok t' =>
            refine .inr (.inr ⟨t', hrow, project_event_leads _ _ t' hproject, ?_⟩)
            simp

/-! ### Runs -/

structure Delivery where
  committedAt : String
  event : StoredLogEvent

def deliver (t : LogTables F) (d : Delivery) : Except PyError Unit × LogTables F :=
  t.appendEvent d.committedAt d.event

def deliverAll (t : LogTables F) (ds : List Delivery) : LogTables F :=
  ds.foldl (fun t d => (t.deliver d).2) t

/-- The deliveries that succeed and are the first of their key to do so, when the keys in
`seen` have succeeded before. -/
def firstSuccesses (t : LogTables F) (seen : List (String × ℤ)) : List Delivery → List Delivery
  | [] => []
  | d :: ds =>
    match t.deliver d with
    | (.error _, t') => t'.firstSuccesses seen ds
    | (.ok (), t') =>
      if d.event.key ∈ seen then t'.firstSuccesses seen ds
      else d :: t'.firstSuccesses (d.event.key :: seen) ds

theorem deliver_all_first_successes (t : LogTables F) (seen : List (String × ℤ))
    (hseen : ∀ key, key ∈ seen ↔ key ∈ t.logEvents.keys) (ds : List Delivery) :
    t.deliverAll (t.firstSuccesses seen ds) = t.deliverAll ds := by
  induction ds generalizing t seen with
  | nil => rfl
  | cons d ds ih =>
    rcases append_event_cases t d.committedAt d.event with ⟨e, he⟩ | ⟨row, hrow, _, he⟩ |
      ⟨t', hrow, hgrows, he⟩
    · have hstep : t.deliver d = (.error e, t) := he
      simp only [firstSuccesses, deliverAll, List.foldl_cons, hstep]
      exact ih t seen hseen
    · have hstep : t.deliver d = (.ok (), t) := he
      have hmem : d.event.key ∈ seen :=
        (hseen _).mpr (OrderedDict.mem_keys.mpr ⟨row, hrow⟩)
      simp only [firstSuccesses, deliverAll, List.foldl_cons, hstep, if_pos hmem]
      exact ih t seen hseen
    · have hstep : t.deliver d = (.ok (), t') := he
      have hmem : d.event.key ∉ seen := by
        rw [hseen]
        exact OrderedDict.get?_eq_none.mp hrow
      simp only [firstSuccesses, deliverAll, List.foldl_cons, hstep, if_neg hmem]
      refine ih t' _ fun key => ?_
      have hkeys : t'.logEvents.keys = t.logEvents.keys ++ [d.event.key] := by
        rw [hgrows.logEvents]
        exact OrderedDict.keys_insertOrIgnore_of_none hrow _
      rw [hkeys, List.mem_cons, List.mem_append, List.mem_singleton, hseen, or_comm]

/-- Whatever is delivered again and in whatever order, the tables are those of the first
successful delivery of each record, and a call that raises leaves them alone. -/
theorem append_event_idempotent (ds : List Delivery) :
    ({} : LogTables F).deliverAll ds = deliverAll {} (({} : LogTables F).firstSuccesses [] ds) ∧
    ∀ (t : LogTables F) (d : Delivery) (e : PyError), (t.deliver d).1 = .error e →
      (t.deliver d).2 = t := by
  constructor
  · refine (deliver_all_first_successes _ [] (fun key => ?_) ds).symm
    simp [OrderedDict.keys, OrderedDict.empty]
  · intro t d e herror
    rcases append_event_cases t d.committedAt d.event with ⟨e', he⟩ | ⟨_, _, _, he⟩ | ⟨_, _, _, he⟩
    · exact congrArg Prod.snd he
    · rw [show t.deliver d = _ from he] at herror
      cases herror
    · rw [show t.deliver d = _ from he] at herror
      cases herror

end LogTables

end InspectionLine
