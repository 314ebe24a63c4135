import InspectionLine.WorkerPool

/-! # One execution of a job

`_execute_job` step by step: the checks, every call of the loader with its retry, the forward, and
the callback. An image that a loader thread is at work on goes on when the job has ended. -/
namespace InspectionLine

open InputRuns

structure Raised where
  typeName : String
  message : String := ""
  isPreprocessingFailure : Bool := false
  isDeadlineExceeded : Bool := false
  deriving DecidableEq, Repr

namespace Raised

def deadlineExceeded : Raised where
  typeName := "InferenceDeadlineExceeded"
  isDeadlineExceeded := true

def loadOutcome (e : Raised) : LoadOutcome :=
  if e.isDeadlineExceeded then .deadlineExceeded else .raised e.typeName e.isPreprocessingFailure

def inferOutcome (e : Raised) : InferOutcome :=
  if e.isDeadlineExceeded then .deadlineExceeded else .raised e.typeName e.message

def loadFailure (e : Raised) : InferenceFailure :=
  if e.isDeadlineExceeded then queueTimeout
  else if e.isPreprocessingFailure then ⟨.preprocessing, "preprocessing failed: " ++ e.typeName⟩
  else ⟨.fileRead, "image read failed after retry: " ++ e.typeName⟩

def inferFailure (e : Raised) : InferenceFailure :=
  if e.isDeadlineExceeded then queueTimeout
  else ⟨if isOutOfMemory e.typeName e.message then .cudaOom else .model,
    "inference failed: " ++ e.typeName⟩

theorem failure_of_outcome (e : Raised) : e.loadOutcome.failure? = some e.loadFailure ∧
    e.inferOutcome.failure? = some e.inferFailure := by
  unfold loadOutcome loadFailure inferOutcome inferFailure
  cases e.isDeadlineExceeded <;> cases e.isPreprocessingFailure <;> exact ⟨rfl, rfl⟩

end Raised

/-- Where an image is: before its first load, in a call of the loader, or between the two calls. -/
inductive ImagePhase (α : Type*) where
  | waiting
  | loading
  | failed (e : Raised)
  | retrying
  | loaded (image : α)
  | raised (e : Raised)
  | canceled

namespace ImagePhase

variable {α : Type*}

def waits : ImagePhase α → Bool
  | .waiting => true
  | _ => false

def calls : ImagePhase α → Bool
  | .loading | .retrying => true
  | _ => false

def retries : ImagePhase α → Bool
  | .failed _ => true
  | _ => false

def ended : ImagePhase α → Bool
  | .loaded _ | .raised _ => true
  | _ => false

/-- How many calls of the loader can still start. -/
def budget : ImagePhase α → ℕ
  | .waiting => 2
  | .loading | .failed _ => 1
  | .retrying | .loaded _ | .raised _ | .canceled => 0

def rank : ImagePhase α → ℕ
  | .waiting => 4
  | .loading => 3
  | .failed _ => 2
  | .retrying => 1
  | .loaded _ | .raised _ | .canceled => 0

end ImagePhase

/-- Where the worker is in `_execute_job`: at a check, in the loading of the images, or around the
forward. `canceling` is the loop over the futures when one of them raised. -/
inductive ExecutionPhase (α β : Type*) where
  | dequeued
  | wanted
  | collecting (images : List α)
  | canceling (next : ℕ) (e : Raised)
  | loaded (images : List α)
  | ready (images : List α)
  | cleared (images : List α)
  | inferring
  | inferred (result : β)
  | completed (result : β)
  | forwarded (result : β)
  | kept (result : β)
  | returned

namespace ExecutionPhase

variable {α β : Type*}

def checksCanceled : ExecutionPhase α β → Bool
  | .dequeued | .loaded _ | .forwarded _ => true
  | _ => false

def checksExpired : ExecutionPhase α β → Bool
  | .wanted | .ready _ | .inferred _ | .kept _ => true
  | _ => false

/-- The futures are submitted. -/
def submitted : ExecutionPhase α β → Bool
  | .dequeued | .wanted => false
  | _ => true

def awaits : ExecutionPhase α β → Option ℕ
  | .collecting images => some images.length
  | _ => none

def cancels : ExecutionPhase α β → Bool
  | .canceling .. => true
  | _ => false

def infers : ExecutionPhase α β → Bool
  | .cleared _ => true
  | _ => false

def inForward : ExecutionPhase α β → Bool
  | .inferring => true
  | _ => false

def timed : ExecutionPhase α β → Bool
  | .completed _ => true
  | _ => false

def done : ExecutionPhase α β → Bool
  | .returned => true
  | _ => false

end ExecutionPhase

inductive ExecutionEvent (α β : Type*) where
  | checkedCanceled (canceled : Bool)
  | checkedExpired (expired : Bool)
  | load (index : ℕ)
  | loadReturned (index : ℕ) (outcome : Except Raised α)
  | infer (images : List α)
  | inferReturned (outcome : Except Raised β)
  | timing
  | success (result : β)
  | failure (failure : InferenceFailure)
  | canceled (stage : String)

namespace ExecutionEvent

variable {α β : Type*}

def terminal : ExecutionEvent α β → Bool
  | .success _ | .failure _ | .canceled _ => true
  | _ => false

def loads (index : ℕ) : ExecutionEvent α β → Bool
  | .load i => i = index
  | _ => false

def infers : ExecutionEvent α β → Bool
  | .infer _ => true
  | _ => false

/-- No callback, and no call of the loader or of the model. -/
def plain : ExecutionEvent α β → Bool
  | .checkedCanceled _ | .checkedExpired _ | .inferReturned _ | .timing => true
  | _ => false

end ExecutionEvent

/-- An execution on one worker. The other threads show in the queue, which they change. -/
structure JobExecution (α β : Type*) where
  job : InferenceJob
  imageLoadExecutor : Bool
  queue : InferenceQueue
  phase : ExecutionPhase α β := .dequeued
  images : ℕ → ImagePhase α := fun _ => .waiting
  trace : List (ExecutionEvent α β) := []

namespace JobExecution

variable {α β : Type*}

def start (job : InferenceJob) (imageLoadExecutor : Bool) (queue : InferenceQueue) :
    JobExecution α β := { job, imageLoadExecutor, queue }

def imageCount (s : JobExecution α β) : ℕ := s.job.imagePaths.length

/-- The images are loaded by the executor, and not one after another by the worker. -/
def submits (s : JobExecution α β) : Bool := s.imageLoadExecutor && 2 ≤ s.imageCount

def record (s : JobExecution α β) (e : ExecutionEvent α β) : JobExecution α β :=
  { s with trace := s.trace ++ [e] }

def setPhase (s : JobExecution α β) (phase : ExecutionPhase α β) : JobExecution α β :=
  { s with phase }

def setImage (s : JobExecution α β) (index : ℕ) (image : ImagePhase α) : JobExecution α β :=
  { s with images := Function.update s.images index image }

def report (s : JobExecution α β) (e : ExecutionEvent α β) : JobExecution α β :=
  (s.record e).setPhase .returned

/-! ### The checks -/

def cancelUnless (s : JobExecution α β) (stage : String) (phase : ExecutionPhase α β) :
    JobExecution α β :=
  if s.queue.jobCanceled s.job then (s.record (.checkedCanceled true)).report (.canceled stage)
  else (s.record (.checkedCanceled false)).setPhase phase

def checkCanceled (s : JobExecution α β) : JobExecution α β :=
  match s.phase with
  | .dequeued => s.cancelUnless "DEQUEUED_BEFORE_LOAD" .wanted
  | .loaded images => s.cancelUnless "LOADED_BEFORE_FORWARD" (.ready images)
  | .forwarded result => s.cancelUnless "DISCARDED_AFTER_FORWARD" (.kept result)
  | _ => s

def failExpired (s : JobExecution α β) : JobExecution α β :=
  (s.record (.checkedExpired true)).report (.failure queueTimeout)

def checkExpired (s : JobExecution α β) (nowNs : ℤ) : JobExecution α β :=
  let inTime := s.record (.checkedExpired false)
  match s.phase with
  | .wanted => if s.job.expired nowNs then s.failExpired else inTime.setPhase (.collecting [])
  | .ready images =>
    if s.job.expired nowNs then s.failExpired else inTime.setPhase (.cleared images)
  | .inferred result =>
    if s.job.expired nowNs then s.failExpired else inTime.setPhase (.completed result)
  | .kept result => if s.job.expired nowNs then s.failExpired else inTime.report (.success result)
  | _ => s

/-! ### Loading -/

def startLoad (s : JobExecution α β) (index : ℕ) : JobExecution α β :=
  (s.record (.load index)).setImage index .loading

/-- `_load_with_one_retry`: a preprocessing failure is raised on, and so is the second failure. -/
def loadReturns (s : JobExecution α β) (index : ℕ) (outcome : Except Raised α) :
    JobExecution α β :=
  let returned := s.record (.loadReturned index outcome)
  match s.images index, outcome with
  | .loading, .ok image | .retrying, .ok image => returned.setImage index (.loaded image)
  | .loading, .error e =>
    returned.setImage index (if e.isPreprocessingFailure then .raised e else .failed e)
  | .retrying, .error e => returned.setImage index (.raised e)
  | _, _ => s

def retryLoad (s : JobExecution α β) (index : ℕ) (nowNs : ℤ) : JobExecution α β :=
  if s.job.expired nowNs then s.setImage index (.raised .deadlineExceeded)
  else (s.record (.load index)).setImage index .retrying

/-- The next image in the order of the paths. -/
def collect (s : JobExecution α β) : JobExecution α β :=
  match s.phase with
  | .collecting images =>
    if images.length = s.imageCount then s.setPhase (.loaded images)
    else
      match s.images images.length with
      | .loaded image => s.setPhase (.collecting (images ++ [image]))
      | .raised e =>
        if s.submits then s.setPhase (.canceling 0 e) else s.report (.failure e.loadFailure)
      | _ => s
  | _ => s

/-- `future.cancel` succeeds on a future that no thread has started. -/
def cancelFuture (s : JobExecution α β) : JobExecution α β :=
  match s.phase with
  | .canceling next e =>
    if next < s.imageCount then
      if (s.images next).waits then
        (s.setImage next .canceled).setPhase (.canceling (next + 1) e)
      else s.setPhase (.canceling (next + 1) e)
    else s.report (.failure e.loadFailure)
  | _ => s

/-! ### The forward -/

def infer (s : JobExecution α β) : JobExecution α β :=
  match s.phase with
  | .cleared images => (s.record (.infer images)).setPhase .inferring
  | _ => s

def inferReturns (s : JobExecution α β) (outcome : Except Raised β) : JobExecution α β :=
  match s.phase, outcome with
  | .inferring, .ok result => (s.record (.inferReturned outcome)).setPhase (.inferred result)
  | .inferring, .error e =>
    (s.record (.inferReturned outcome)).report (.failure e.inferFailure)
  | _, _ => s

def reportTiming (s : JobExecution α β) : JobExecution α β :=
  match s.phase with
  | .completed result => (s.record .timing).setPhase (.forwarded result)
  | _ => s

inductive ExecutionStep (α β : Type*) where
  | checkCanceled
  | checkExpired (nowNs : ℤ)
  | startLoad (index : ℕ)
  | loadReturns (index : ℕ) (outcome : Except Raised α)
  | retryLoad (index : ℕ) (nowNs : ℤ)
  | collect
  | cancelFuture
  | infer
  | inferReturns (outcome : Except Raised β)
  | reportTiming
  | others (queue : InferenceQueue)

def ExecutionStep.own : ExecutionStep α β → Bool
  | .others _ => false
  | _ => true

def next (s : JobExecution α β) : ExecutionStep α β → JobExecution α β
  | .checkCanceled => s.checkCanceled
  | .checkExpired nowNs => s.checkExpired nowNs
  | .startLoad index => s.startLoad index
  | .loadReturns index outcome => s.loadReturns index outcome
  | .retryLoad index nowNs => s.retryLoad index nowNs
  | .collect => s.collect
  | .cancelFuture => s.cancelFuture
  | .infer => s.infer
  | .inferReturns outcome => s.inferReturns outcome
  | .reportTiming => s.reportTiming
  | .others queue => { s with queue }

/-- The result of the next image is there, or there is no next one. -/
def collects (s : JobExecution α β) : Bool :=
  match s.phase.awaits with
  | some k => k = s.imageCount || (s.images k).ended
  | none => false

/-- A loader thread takes a submitted image whenever it likes, the worker the one it is at. -/
def Admits (s : JobExecution α β) : ExecutionStep α β → Prop
  | .checkCanceled => s.phase.checksCanceled = true
  | .checkExpired _ => s.phase.checksExpired = true
  | .startLoad index => index < s.imageCount ∧ (s.images index).waits = true ∧
      if s.submits then s.phase.submitted = true else s.phase.awaits = some index
  | .loadReturns index _ => index < s.imageCount ∧ (s.images index).calls = true
  | .retryLoad index _ => index < s.imageCount ∧ (s.images index).retries = true
  | .collect => s.collects = true
  | .cancelFuture => s.phase.cancels = true
  | .infer => s.phase.infers = true
  | .inferReturns _ => s.phase.inForward = true
  | .reportTiming => s.phase.timed = true
  | .others _ => True

abbrev Run : JobExecution α β → JobExecution α β → Prop := Execution next Admits

instance (s : JobExecution α β) (e : ExecutionStep α β) : Decidable (s.Admits e) := by
  apply e.casesOn (motive := fun t => Decidable (s.Admits t)) <;> intros <;> dsimp only [Admits] <;>
    infer_instance

/-! ### Calls of the loader -/

/-- An image that failed in the preprocessing is not loaded again. -/
def NotReloaded (trace : List (ExecutionEvent α β)) : Prop :=
  trace.Pairwise fun earlier later => ∀ index e, earlier = .loadReturned index (.error e) →
    e.isPreprocessingFailure = true → later.loads index = false

structure ImagesSound (images : ℕ → ImagePhase α) (trace : List (ExecutionEvent α β)) : Prop where
  budget : ∀ i, trace.countP (·.loads i) + (images i).budget ≤ 2
  spent : ∀ i e, .loadReturned i (.error e) ∈ trace → e.isPreprocessingFailure = true →
    (images i).budget = 0
  notReloaded : NotReloaded trace
  returned : ∀ i image, images i = .loaded image → .loadReturned i (.ok image) ∈ trace

theorem NotReloaded.snoc {trace : List (ExecutionEvent α β)} (h : NotReloaded trace)
    {e : ExecutionEvent α β} (he : ∀ i f, .loadReturned i (.error f) ∈ trace →
      f.isPreprocessingFailure = true → e.loads i = false) : NotReloaded (trace ++ [e]) := by
  refine List.pairwise_append.mpr ⟨h, List.pairwise_singleton _ _, ?_⟩
  intro earlier hearlier later hlater i f hreturned hf
  obtain rfl := List.mem_singleton.mp hlater
  exact he i f (hreturned ▸ hearlier) hf

namespace ImagesSound

variable {images : ℕ → ImagePhase α} {trace : List (ExecutionEvent α β)}

theorem initial : ImagesSound (fun _ => .waiting) ([] : List (ExecutionEvent α β)) where
  budget _ := Nat.le_refl 2
  spent _ _ h := absurd h List.not_mem_nil
  notReloaded := List.Pairwise.nil
  returned _ _ h := nomatch h

theorem quiet (h : ImagesSound images trace) {e : ExecutionEvent α β}
    (hload : ∀ i, e.loads i = false) (hreturned : ∀ i o, e ≠ .loadReturned i o) :
    ImagesSound images (trace ++ [e]) where
  budget i := by
    rw [List.countP_append, List.countP_singleton, hload i]
    exact h.budget i
  spent i f hf := by
    refine h.spent i f ((List.mem_append.mp hf).resolve_right fun hlast => ?_)
    exact hreturned i _ (List.mem_singleton.mp hlast).symm
  notReloaded := h.notReloaded.snoc fun i _ _ _ => hload i
  returned i image hi := List.mem_append_left _ (h.returned i image hi)

theorem still (h : ImagesSound images trace) {i : ℕ} {image : ImagePhase α}
    (hbudget : image.budget ≤ (images i).budget) (hloaded : ∀ v, image ≠ .loaded v) :
    ImagesSound (Function.update images i image) trace where
  budget j := by
    by_cases hj : j = i
    · subst hj
      have := h.budget j
      rw [Function.update_self]
      omega
    · rw [Function.update_of_ne hj]
      exact h.budget j
  spent j f hf hpre := by
    by_cases hj : j = i
    · subst hj
      have := h.spent j f hf hpre
      rw [Function.update_self]
      omega
    · rw [Function.update_of_ne hj]
      exact h.spent j f hf hpre
  notReloaded := h.notReloaded
  returned j v hv := by
    by_cases hj : j = i
    · subst hj
      rw [Function.update_self] at hv
      exact absurd hv (hloaded v)
    · rw [Function.update_of_ne hj] at hv
      exact h.returned j v hv

theorem load (h : ImagesSound images trace) {i : ℕ} {image : ImagePhase α}
    (hbudget : image.budget + 1 = (images i).budget) (hloaded : ∀ v, image ≠ .loaded v) :
    ImagesSound (Function.update images i image) (trace ++ [.load i]) := by
  have hstill : ImagesSound (Function.update images i image) trace := h.still (by omega) hloaded
  refine ⟨fun j => ?_, fun j f hf => ?_, ?_, fun j v hv => ?_⟩
  · rw [List.countP_append, List.countP_singleton]
    by_cases hj : j = i
    · subst hj
      have hself : (ExecutionEvent.load j : ExecutionEvent α β).loads j = true := decide_eq_true rfl
      have := h.budget j
      rw [hself, if_pos rfl, Function.update_self]
      omega
    · have hother : (ExecutionEvent.load i : ExecutionEvent α β).loads j = false :=
        decide_eq_false fun heq => hj heq.symm
      rw [hother]
      exact hstill.budget j
  · refine hstill.spent j f ((List.mem_append.mp hf).resolve_right fun hlast => ?_)
    cases List.mem_singleton.mp hlast
  · refine h.notReloaded.snoc fun j f hf hpre => ?_
    have hspent := h.spent j f hf hpre
    refine decide_eq_false ?_
    rintro rfl
    omega
  · exact List.mem_append_left _ (hstill.returned j v hv)

theorem loadReturned (h : ImagesSound images trace) {i : ℕ} {image : ImagePhase α}
    {outcome : Except Raised α} (hbudget : image.budget ≤ (images i).budget)
    (hpre : ∀ e, outcome = .error e → e.isPreprocessingFailure = true → image.budget = 0)
    (hloaded : ∀ v, image = .loaded v → outcome = .ok v) :
    ImagesSound (Function.update images i image) (trace ++ [.loadReturned i outcome]) := by
  refine ⟨fun j => ?_, fun j f hf hp => ?_, ?_, fun j v hv => ?_⟩
  · have hnone : (ExecutionEvent.loadReturned i outcome : ExecutionEvent α β).loads j = false := rfl
    rw [List.countP_append, List.countP_singleton, hnone, if_neg Bool.false_ne_true]
    by_cases hj : j = i
    · subst hj
      have := h.budget j
      rw [Function.update_self]
      omega
    · rw [Function.update_of_ne hj]
      exact h.budget j
  · by_cases hj : j = i
    · subst hj
      rw [Function.update_self]
      rcases List.mem_append.mp hf with hf | hf
      · have := h.spent j f hf hp
        omega
      · obtain ⟨-, rfl⟩ := ExecutionEvent.loadReturned.inj (List.mem_singleton.mp hf)
        exact hpre f rfl hp
    · rw [Function.update_of_ne hj]
      refine h.spent j f ((List.mem_append.mp hf).resolve_right fun hlast => hj ?_) hp
      exact (ExecutionEvent.loadReturned.inj (List.mem_singleton.mp hlast)).1
  · exact h.notReloaded.snoc fun _ _ _ _ => rfl
  · by_cases hj : j = i
    · subst hj
      rw [Function.update_self] at hv
      rw [hloaded v hv]
      exact List.mem_append_right _ (List.mem_singleton_self _)
    · rw [Function.update_of_ne hj] at hv
      exact List.mem_append_left _ (h.returned j v hv)

end ImagesSound

/-! ### Calls of the model and of the callbacks -/

/-- What an `on_success` rests on: the two checks right before it, the result of the model, and an
image of every path. -/
def Backed (n : ℕ) (before : List (ExecutionEvent α β)) (result : β) : Prop :=
  (∃ head, before = head ++ [.checkedCanceled false, .checkedExpired false]) ∧
    .inferReturned (.ok result) ∈ before ∧ ∀ i < n, ∃ image, .loadReturned i (.ok image) ∈ before

def SuccessesBacked (n : ℕ) (trace : List (ExecutionEvent α β)) : Prop :=
  ∀ before after result, trace = before ++ .success result :: after → Backed n before result

def ForwardsOrdered (n : ℕ) (trace : List (ExecutionEvent α β)) : Prop :=
  ∀ images, .infer images ∈ trace →
    images.length = n ∧ ∀ k (h : k < images.length), .loadReturned k (.ok images[k]) ∈ trace

theorem SuccessesBacked.snoc {n : ℕ} {trace : List (ExecutionEvent α β)}
    (h : SuccessesBacked n trace) {e : ExecutionEvent α β}
    (he : ∀ result, e = .success result → Backed n trace result) :
    SuccessesBacked n (trace ++ [e]) := by
  intro before after result heq
  rcases List.eq_nil_or_concat after with rfl | ⟨rest, last, rfl⟩
  · obtain ⟨rfl, hlast⟩ := List.append_inj' heq rfl
    exact he result (List.head_eq_of_cons_eq hlast)
  · rw [List.concat_eq_append, ← List.cons_append, ← List.append_assoc] at heq
    exact h before rest result (List.append_inj' heq rfl).1

theorem ForwardsOrdered.snoc {n : ℕ} {trace : List (ExecutionEvent α β)}
    (h : ForwardsOrdered n trace) {e : ExecutionEvent α β}
    (he : ∀ images, e = .infer images → images.length = n ∧
      ∀ k (h : k < images.length), .loadReturned k (.ok images[k]) ∈ trace) :
    ForwardsOrdered n (trace ++ [e]) := by
  intro images hmem
  have hall : images.length = n ∧
      ∀ k (h : k < images.length), .loadReturned k (.ok images[k]) ∈ trace := by
    rcases List.mem_append.mp hmem with hmem | hmem
    · exact h images hmem
    · exact he images (List.mem_singleton.mp hmem).symm
  exact ⟨hall.1, fun k hk => List.mem_append_left _ (hall.2 k hk)⟩

def forwardsLeft : ExecutionPhase α β → ℕ
  | .dequeued | .wanted | .collecting _ | .loaded _ | .ready _ | .cleared _ => 1
  | _ => 0

structure CallsSound (n : ℕ) (phase : ExecutionPhase α β) (trace : List (ExecutionEvent α β)) :
    Prop where
  reported : trace.countP (·.terminal) = if phase.done then 1 else 0
  forwards : trace.countP (·.infers) + forwardsLeft phase ≤ 1
  backed : SuccessesBacked n trace
  ordered : ForwardsOrdered n trace

namespace CallsSound

variable {n : ℕ} {phase : ExecutionPhase α β} {trace : List (ExecutionEvent α β)}

theorem initial : CallsSound n (.dequeued : ExecutionPhase α β) [] where
  reported := rfl
  forwards := Nat.le_refl 1
  backed before after result h := by simp at h
  ordered images h := absurd h List.not_mem_nil

theorem move (h : CallsSound n phase trace) {target : ExecutionPhase α β}
    (hdone : target.done = phase.done) (hleft : forwardsLeft target ≤ forwardsLeft phase) :
    CallsSound n target trace where
  reported := hdone ▸ h.reported
  forwards := (Nat.add_le_add_left hleft _).trans h.forwards
  backed := h.backed
  ordered := h.ordered

theorem quiet (h : CallsSound n phase trace) {e : ExecutionEvent α β}
    (hterminal : e.terminal = false) (hinfer : e.infers = false) :
    CallsSound n phase (trace ++ [e]) where
  reported := by
    rw [List.countP_append, List.countP_singleton, hterminal]
    exact h.reported
  forwards := by
    rw [List.countP_append, List.countP_singleton, hinfer]
    exact h.forwards
  backed := h.backed.snoc fun result hresult => by rw [hresult] at hterminal; cases hterminal
  ordered := h.ordered.snoc fun images himages => by rw [himages] at hinfer; cases hinfer

theorem infer (h : CallsSound n phase trace) (hleft : forwardsLeft phase = 1)
    {images : List α} (himages : images.length = n ∧
      ∀ k (h : k < images.length), .loadReturned k (.ok images[k]) ∈ trace)
    (hdone : phase.done = false) : CallsSound n .inferring (trace ++ [.infer images]) where
  reported := by
    rw [List.countP_append, h.reported, hdone]
    rfl
  forwards := by
    have hcall : (ExecutionEvent.infer images : ExecutionEvent α β).infers = true := rfl
    have hnone : forwardsLeft (.inferring : ExecutionPhase α β) = 0 := rfl
    have := h.forwards
    rw [List.countP_append, List.countP_singleton, hcall, if_pos rfl, hnone]
    omega
  backed := h.backed.snoc fun _ heq => nomatch heq
  ordered := h.ordered.snoc fun _ heq => by cases heq; exact himages

theorem report (h : CallsSound n phase trace) (hdone : phase.done = false)
    {e : ExecutionEvent α β} (hterminal : e.terminal = true) (hinfer : e.infers = false)
    (hsuccess : ∀ result, e = .success result → Backed n trace result) :
    CallsSound n .returned (trace ++ [e]) where
  reported := by
    rw [List.countP_append, List.countP_singleton, hterminal, h.reported, hdone]
    rfl
  forwards := by
    have hnone : forwardsLeft (.returned : ExecutionPhase α β) = 0 := rfl
    have := h.forwards
    rw [List.countP_append, List.countP_singleton, hinfer, if_neg Bool.false_ne_true, hnone]
    omega
  backed := h.backed.snoc hsuccess
  ordered := h.ordered.snoc fun images himages => by rw [himages] at hinfer; cases hinfer

end CallsSound

/-! ### What a phase stands for -/

def Gathered (images : ℕ → ImagePhase α) (values : List α) : Prop :=
  ∀ k (h : k < values.length), images k = .loaded values[k]

def AllLoaded (n : ℕ) (images : ℕ → ImagePhase α) : Prop :=
  ∀ i < n, ∃ image, images i = .loaded image

def NoneCanceled (images : ℕ → ImagePhase α) : Prop := ∀ i, images i ≠ .canceled

def PhaseSound (n : ℕ) (images : ℕ → ImagePhase α) (trace : List (ExecutionEvent α β)) :
    ExecutionPhase α β → Prop
  | .dequeued | .wanted => NoneCanceled images
  | .collecting values => values.length ≤ n ∧ Gathered images values ∧ NoneCanceled images
  | .loaded values | .ready values | .cleared values => values.length = n ∧ Gathered images values
  | .inferring => AllLoaded n images
  | .inferred result | .completed result | .forwarded result =>
    AllLoaded n images ∧ .inferReturned (.ok result) ∈ trace
  | .kept result => AllLoaded n images ∧ .inferReturned (.ok result) ∈ trace ∧
      trace.getLast? = some (.checkedCanceled false)
  | .canceling .. | .returned => True

theorem Gathered.all_loaded {n : ℕ} {images : ℕ → ImagePhase α} {values : List α}
    (h : Gathered images values) (hlength : values.length = n) : AllLoaded n images :=
  fun i hi => ⟨_, h i (hlength ▸ hi)⟩

theorem NoneCanceled.update {images : ℕ → ImagePhase α} (h : NoneCanceled images) (i : ℕ)
    {image : ImagePhase α} (himage : image ≠ .canceled) :
    NoneCanceled (Function.update images i image) := by
  intro j
  by_cases hj : j = i
  · subst hj
    rw [Function.update_self]
    exact himage
  · rw [Function.update_of_ne hj]
    exact h j

/-- While an image of a path is not loaded, the worker has not come past the loading. -/
theorem phase_sound_image {n : ℕ} {images : ℕ → ImagePhase α} {trace : List (ExecutionEvent α β)}
    {phase : ExecutionPhase α β} (h : PhaseSound n images trace phase) {i : ℕ} (hi : i < n)
    (hpending : ∀ v, images i ≠ .loaded v) (image : ImagePhase α) (himage : image ≠ .canceled)
    (more : List (ExecutionEvent α β)) :
    PhaseSound n (Function.update images i image) (trace ++ more) phase := by
  have hnot : ¬ AllLoaded n images := fun hall => by
    obtain ⟨v, hv⟩ := hall i hi
    exact hpending v hv
  cases phase with
  | dequeued => exact NoneCanceled.update h i himage
  | wanted => exact NoneCanceled.update h i himage
  | collecting values =>
    obtain ⟨hlength, hgathered, hnone⟩ := h
    refine ⟨hlength, fun k hk => ?_, hnone.update i himage⟩
    have hk' := hgathered k hk
    rw [Function.update_of_ne, hk']
    rintro rfl
    exact hpending _ hk'
  | canceling k e => trivial
  | loaded values => exact absurd (h.2.all_loaded h.1) hnot
  | ready values => exact absurd (h.2.all_loaded h.1) hnot
  | cleared values => exact absurd (h.2.all_loaded h.1) hnot
  | inferring => exact absurd h hnot
  | inferred result => exact absurd h.1 hnot
  | completed result => exact absurd h.1 hnot
  | forwarded result => exact absurd h.1 hnot
  | kept result => exact absurd h.1 hnot
  | returned => trivial

structure Sound (s : JobExecution α β) : Prop where
  images : ImagesSound s.images s.trace
  calls : CallsSound s.imageCount s.phase s.trace
  phase : PhaseSound s.imageCount s.images s.trace s.phase

theorem sound_start (job : InferenceJob) (imageLoadExecutor : Bool) (queue : InferenceQueue) :
    Sound (start job imageLoadExecutor queue : JobExecution α β) where
  images := .initial
  calls := .initial
  phase _ := nofun

variable {s : JobExecution α β}

theorem sound_set_phase (h : Sound s) {target : ExecutionPhase α β}
    (hdone : target.done = s.phase.done) (hleft : forwardsLeft target ≤ forwardsLeft s.phase)
    (htarget : PhaseSound s.imageCount s.images s.trace target) : Sound (s.setPhase target) where
  images := h.images
  calls := h.calls.move hdone hleft
  phase := htarget

theorem sound_record (h : Sound s) {e : ExecutionEvent α β} (he : e.plain = true)
    {target : ExecutionPhase α β} (hdone : target.done = s.phase.done)
    (hleft : forwardsLeft target ≤ forwardsLeft s.phase)
    (htarget : PhaseSound s.imageCount s.images (s.trace ++ [e]) target) :
    Sound ((s.record e).setPhase target) := by
  have hplain : e.terminal = false ∧ e.infers = false ∧ (∀ i, e.loads i = false) ∧
      ∀ i o, e ≠ .loadReturned i o := by
    cases e <;> simp_all [ExecutionEvent.plain, ExecutionEvent.terminal, ExecutionEvent.infers,
      ExecutionEvent.loads]
  obtain ⟨hterminal, hinfer, hload, hreturned⟩ := hplain
  exact ⟨h.images.quiet hload hreturned, (h.calls.quiet hterminal hinfer).move hdone hleft,
    htarget⟩

theorem sound_report (h : Sound s) (hdone : s.phase.done = false) {e : ExecutionEvent α β}
    (he : e.terminal = true) (hsuccess : ∀ result, e = .success result →
      Backed s.imageCount s.trace result) : Sound (s.report e) := by
  have hterminal : e.infers = false ∧ (∀ i, e.loads i = false) ∧
      ∀ i o, e ≠ .loadReturned i o := by
    cases e <;> simp_all [ExecutionEvent.terminal, ExecutionEvent.infers, ExecutionEvent.loads]
  obtain ⟨hinfer, hload, hreturned⟩ := hterminal
  exact ⟨h.images.quiet hload hreturned, h.calls.report hdone he hinfer hsuccess, trivial⟩

/-- The worker gives its job up: with a plain event, and the callback behind it. -/
theorem sound_give_up (h : Sound s) (hdone : s.phase.done = false) {e f : ExecutionEvent α β}
    (he : e.plain = true) (hf : f.terminal = true) (hfailed : ∀ result, f ≠ .success result) :
    Sound ((s.record e).report f) := by
  have hrecorded : Sound ((s.record e).setPhase (.canceling 0 .deadlineExceeded)) :=
    sound_record h he hdone.symm (Nat.zero_le _) trivial
  exact sound_report hrecorded rfl hf fun result hresult => absurd hresult (hfailed result)

theorem sound_cancel_unless (h : Sound s) (hdone : s.phase.done = false) (stage : String)
    {target : ExecutionPhase α β} (htarget : target.done = false)
    (hleft : forwardsLeft target ≤ forwardsLeft s.phase)
    (hphase : PhaseSound s.imageCount s.images (s.trace ++ [.checkedCanceled false]) target) :
    Sound (s.cancelUnless stage target) := by
  unfold cancelUnless
  split
  · exact sound_give_up h hdone rfl rfl nofun
  · exact sound_record h rfl (htarget.trans hdone.symm) hleft hphase

theorem sound_check_canceled (h : Sound s) : Sound s.checkCanceled := by
  have hphase := h.phase
  unfold checkCanceled
  split
  · rename_i heq
    rw [heq] at hphase
    exact sound_cancel_unless h (by rw [heq]; rfl) _ rfl (by rw [heq]; rfl) hphase
  · rename_i images heq
    rw [heq] at hphase
    exact sound_cancel_unless h (by rw [heq]; rfl) _ rfl (by rw [heq]; rfl) hphase
  · rename_i result heq
    rw [heq] at hphase
    refine sound_cancel_unless h (by rw [heq]; rfl) _ rfl (by rw [heq]; rfl) ?_
    exact ⟨hphase.1, List.mem_append_left _ hphase.2, List.getLast?_concat⟩
  · exact h

theorem sound_check_expired (h : Sound s) (nowNs : ℤ) : Sound (s.checkExpired nowNs) := by
  have hfail : s.phase.done = false → Sound s.failExpired := fun hdone =>
    sound_give_up h hdone rfl rfl nofun
  have hphase := h.phase
  unfold checkExpired
  split
  · rename_i heq
    have hdone : s.phase.done = false := by rw [heq]; rfl
    rw [heq] at hphase
    split
    · exact hfail hdone
    · refine sound_record h rfl hdone.symm (by rw [heq]; rfl) ⟨Nat.zero_le _, ?_, hphase⟩
      exact fun k hk => absurd hk (Nat.not_lt_zero k)
  · rename_i images heq
    have hdone : s.phase.done = false := by rw [heq]; rfl
    rw [heq] at hphase
    split
    · exact hfail hdone
    · exact sound_record h rfl hdone.symm (by rw [heq]; rfl) hphase
  · rename_i result heq
    have hdone : s.phase.done = false := by rw [heq]; rfl
    rw [heq] at hphase
    split
    · exact hfail hdone
    · exact sound_record h rfl hdone.symm (by rw [heq]; rfl)
        ⟨hphase.1, List.mem_append_left _ hphase.2⟩
  · rename_i result heq
    have hdone : s.phase.done = false := by rw [heq]; rfl
    rw [heq] at hphase
    obtain ⟨hall, hresult, hlast⟩ := hphase
    split
    · exact hfail hdone
    · have hrecorded : Sound ((s.record (.checkedExpired false)).setPhase
          (.completed result)) :=
        sound_record h rfl hdone.symm (by rw [heq]; rfl) ⟨hall, List.mem_append_left _ hresult⟩
      refine sound_report hrecorded rfl rfl fun r hr => ?_
      obtain rfl := ExecutionEvent.success.inj hr
      obtain ⟨head, hhead⟩ := List.getLast?_eq_some_iff.mp hlast
      refine ⟨⟨head, ?_⟩, List.mem_append_left _ hresult, fun i hi => ?_⟩
      · exact (congrArg (· ++ [_]) hhead).trans (List.append_assoc ..)
      · obtain ⟨image, himage⟩ := hall i hi
        exact ⟨image, List.mem_append_left _ (h.images.returned i image himage)⟩
  · exact h

theorem sound_image (h : Sound s) {i : ℕ} (hi : i < s.imageCount)
    (hpending : ∀ v, s.images i ≠ .loaded v) (image : ImagePhase α) (himage : image ≠ .canceled)
    (e : ExecutionEvent α β) (hterminal : e.terminal = false) (hinfer : e.infers = false)
    (himages : ImagesSound (Function.update s.images i image) (s.trace ++ [e])) :
    Sound ((s.record e).setImage i image) where
  images := himages
  calls := h.calls.quiet hterminal hinfer
  phase := phase_sound_image h.phase hi hpending image himage [e]

theorem sound_start_load (h : Sound s) {i : ℕ} (hi : i < s.imageCount)
    (hwaits : (s.images i).waits = true) : Sound (s.startLoad i) := by
  have hwaiting : s.images i = .waiting := by
    cases himage : s.images i <;> simp_all [ImagePhase.waits]
  refine sound_image h hi ?_ .loading nofun (.load i) rfl rfl (h.images.load ?_ nofun)
  · rw [hwaiting]
    nofun
  · rw [hwaiting]
    rfl

theorem sound_load_returns (h : Sound s) {i : ℕ} (hi : i < s.imageCount)
    (outcome : Except Raised α) : Sound (s.loadReturns i outcome) := by
  have hpending : ∀ {phase : ImagePhase α}, s.images i = phase → phase.calls = true →
      ∀ v, s.images i ≠ .loaded v := by
    intro phase heq hcalls v hv
    rw [← heq, hv] at hcalls
    cases hcalls
  unfold loadReturns
  split
  · rename_i image heq
    refine sound_image h hi (hpending heq rfl) (.loaded image) nofun _ rfl rfl ?_
    exact h.images.loadReturned (Nat.zero_le _) nofun fun v hv => by cases hv; rfl
  · rename_i image heq
    refine sound_image h hi (hpending heq rfl) (.loaded image) nofun _ rfl rfl ?_
    exact h.images.loadReturned (Nat.zero_le _) nofun fun v hv => by cases hv; rfl
  · rename_i e heq
    have hbudget : (s.images i).budget = 1 := by
      rw [heq]
      rfl
    by_cases hpre : e.isPreprocessingFailure = true
    · rw [if_pos hpre]
      refine sound_image h hi (hpending heq rfl) (.raised e) nofun _ rfl rfl ?_
      exact h.images.loadReturned (Nat.zero_le _) (fun _ _ _ => rfl) nofun
    · rw [if_neg hpre]
      refine sound_image h hi (hpending heq rfl) (.failed e) nofun _ rfl rfl ?_
      refine h.images.loadReturned hbudget.ge (fun f hf hpre' => ?_) nofun
      cases hf
      exact absurd hpre' hpre
  · rename_i e heq
    refine sound_image h hi (hpending heq rfl) (.raised e) nofun _ rfl rfl ?_
    exact h.images.loadReturned (Nat.zero_le _) (fun _ _ _ => rfl) nofun
  · exact h

theorem sound_retry_load (h : Sound s) {i : ℕ} (hi : i < s.imageCount)
    (hretries : (s.images i).retries = true) (nowNs : ℤ) : Sound (s.retryLoad i nowNs) := by
  obtain ⟨e, hfailed⟩ : ∃ e, s.images i = .failed e := by
    cases himage : s.images i <;> simp_all [ImagePhase.retries]
  have hpending : ∀ v, s.images i ≠ .loaded v := by
    intro v hv
    cases hfailed.symm.trans hv
  unfold retryLoad
  split
  · refine ⟨h.images.still (Nat.zero_le _) nofun, h.calls, ?_⟩
    have hphase := phase_sound_image h.phase hi hpending (.raised .deadlineExceeded) nofun []
    rwa [List.append_nil] at hphase
  · refine sound_image h hi hpending .retrying nofun (.load i) rfl rfl (h.images.load ?_ nofun)
    rw [hfailed]
    rfl

theorem sound_collect (h : Sound s) : Sound s.collect := by
  have hphase := h.phase
  unfold collect
  split
  · rename_i values heq
    have hdone : s.phase.done = false := by rw [heq]; rfl
    rw [heq] at hphase
    obtain ⟨hle, hgathered, hnone⟩ := hphase
    split
    · rename_i hlength
      exact sound_set_phase h hdone.symm (by rw [heq]; rfl) ⟨hlength, hgathered⟩
    · rename_i hlength
      split
      · rename_i image himage
        refine sound_set_phase h hdone.symm (by rw [heq]; rfl) ⟨?_, fun k hk => ?_, hnone⟩
        · rw [List.length_append, List.length_singleton]
          omega
        · by_cases hlast : k < values.length
          · rw [List.getElem_append_left hlast]
            exact hgathered k hlast
          · rw [List.length_append, List.length_singleton] at hk
            obtain rfl : k = values.length := by omega
            rw [List.getElem_concat_length]
            · exact himage
            · rfl
      · split
        · exact sound_set_phase h hdone.symm (Nat.zero_le _) trivial
        · exact sound_report h hdone rfl nofun
      · exact h
  · exact h

theorem sound_cancel_future (h : Sound s) : Sound s.cancelFuture := by
  unfold cancelFuture
  split
  · rename_i next e heq
    have hdone : s.phase.done = false := by rw [heq]; rfl
    split
    · split
      · exact ⟨h.images.still (Nat.zero_le _) nofun, h.calls.move hdone.symm (Nat.zero_le _),
          trivial⟩
      · exact sound_set_phase h hdone.symm (Nat.zero_le _) trivial
    · exact sound_report h hdone rfl nofun
  · exact h

theorem sound_infer (h : Sound s) : Sound s.infer := by
  have hphase := h.phase
  unfold infer
  split
  · rename_i values heq
    rw [heq] at hphase
    obtain ⟨hlength, hgathered⟩ := hphase
    refine ⟨h.images.quiet (fun _ => rfl) nofun, ?_, hgathered.all_loaded hlength⟩
    refine h.calls.infer (by rw [heq]; rfl) ⟨hlength, fun k hk => ?_⟩ (by rw [heq]; rfl)
    exact h.images.returned k _ (hgathered k hk)
  · exact h

theorem sound_infer_returns (h : Sound s) (outcome : Except Raised β) :
    Sound (s.inferReturns outcome) := by
  have hphase := h.phase
  unfold inferReturns
  split
  · rename_i result heq
    rw [heq] at hphase
    exact sound_record h rfl (by rw [heq]; rfl) (by rw [heq]; rfl)
      ⟨hphase, List.mem_append_right _ (List.mem_singleton_self _)⟩
  · rename_i e heq
    exact sound_give_up h (by rw [heq]; rfl) rfl rfl nofun
  · exact h

theorem sound_report_timing (h : Sound s) : Sound s.reportTiming := by
  have hphase := h.phase
  unfold reportTiming
  split
  · rename_i result heq
    rw [heq] at hphase
    exact sound_record h rfl (by rw [heq]; rfl) (by rw [heq]; rfl)
      ⟨hphase.1, List.mem_append_left _ hphase.2⟩
  · exact h

theorem next_sound (h : Sound s) {e : ExecutionStep α β} (he : s.Admits e) : Sound (s.next e) := by
  cases e with
  | checkCanceled => exact sound_check_canceled h
  | checkExpired nowNs => exact sound_check_expired h nowNs
  | startLoad i => exact sound_start_load h he.1 he.2.1
  | loadReturns i outcome => exact sound_load_returns h he.1 outcome
  | retryLoad i nowNs => exact sound_retry_load h he.1 he.2 nowNs
  | collect => exact sound_collect h
  | cancelFuture => exact sound_cancel_future h
  | infer => exact sound_infer h
  | inferReturns outcome => exact sound_infer_returns h outcome
  | reportTiming => exact sound_report_timing h
  | others queue => exact ⟨h.images, h.calls, h.phase⟩

/-! ### The execution comes to its end -/

/-- How many steps of the worker are left at most. -/
def phaseRank (n : ℕ) : ExecutionPhase α β → ℕ
  | .dequeued => 2 * n + 13
  | .wanted => 2 * n + 12
  | .collecting images => n + 11 + (n - images.length)
  | .canceling next _ => n - next + 1
  | .loaded _ => 8
  | .ready _ => 7
  | .cleared _ => 6
  | .inferring => 5
  | .inferred _ => 4
  | .completed _ => 3
  | .forwarded _ => 2
  | .kept _ => 1
  | .returned => 0

/-- How many steps of its own an execution has left at most. -/
def effort (s : JobExecution α β) : ℕ :=
  phaseRank s.imageCount s.phase + ∑ i ∈ Finset.range s.imageCount, (s.images i).rank

theorem effort_phase {t : JobExecution α β} (hjob : t.job = s.job)
    (himages : ∀ i, (t.images i).rank ≤ (s.images i).rank)
    (hphase : phaseRank s.imageCount t.phase < phaseRank s.imageCount s.phase) :
    t.effort < s.effort := by
  have hcount : t.imageCount = s.imageCount := congrArg (·.imagePaths.length) hjob
  unfold effort
  rw [hcount]
  exact Nat.add_lt_add_of_lt_of_le hphase (Finset.sum_le_sum fun i _ => himages i)

theorem effort_image {t : JobExecution α β} {i : ℕ} {x : ImagePhase α} (hjob : t.job = s.job)
    (hphase : t.phase = s.phase) (himages : t.images = Function.update s.images i x)
    (hi : i < s.imageCount) (hrank : x.rank < (s.images i).rank) : t.effort < s.effort := by
  have hcount : t.imageCount = s.imageCount := congrArg (·.imagePaths.length) hjob
  unfold effort
  rw [hcount, hphase, himages]
  refine Nat.add_lt_add_left (Finset.sum_lt_sum (fun j _ => ?_) ⟨i, ?_, ?_⟩) _
  · by_cases hj : j = i
    · subst hj
      rw [Function.update_self]
      exact hrank.le
    · rw [Function.update_of_ne hj]
  · exact Finset.mem_range.mpr hi
  · rw [Function.update_self]
    exact hrank

theorem rank_update_le {images : ℕ → ImagePhase α} {i : ℕ} {image : ImagePhase α}
    (h : image.rank ≤ (images i).rank) (j : ℕ) :
    (Function.update images i image j).rank ≤ (images j).rank := by
  by_cases hj : j = i
  · subst hj
    rw [Function.update_self]
    exact h
  · rw [Function.update_of_ne hj]

theorem effort_cancel_unless (stage : String) {target : ExecutionPhase α β}
    (h : phaseRank s.imageCount target < phaseRank s.imageCount s.phase) :
    (s.cancelUnless stage target).effort < s.effort := by
  unfold cancelUnless
  split
  · exact effort_phase rfl (fun _ => le_rfl) (Nat.zero_lt_of_lt h)
  · exact effort_phase rfl (fun _ => le_rfl) h

theorem effort_check_canceled (h : s.phase.checksCanceled = true) :
    s.checkCanceled.effort < s.effort := by
  unfold checkCanceled
  cases hphase : s.phase <;> rw [hphase] at h <;> cases h <;>
    exact effort_cancel_unless _ (by rw [hphase]; simp [phaseRank])

theorem effort_check_expired (h : s.phase.checksExpired = true) (nowNs : ℤ) :
    (s.checkExpired nowNs).effort < s.effort := by
  unfold checkExpired
  cases hphase : s.phase <;> rw [hphase] at h <;> cases h <;> dsimp only <;> split <;>
    refine effort_phase rfl (fun _ => le_rfl) ?_ <;> rw [hphase] <;>
    simp only [phaseRank, failExpired, report, record, setPhase, List.length_nil] <;> omega

theorem effort_load_returns {i : ℕ} (hi : i < s.imageCount) (h : (s.images i).calls = true)
    (outcome : Except Raised α) : (s.loadReturns i outcome).effort < s.effort := by
  have himage : ∀ image : ImagePhase α, image.rank < (s.images i).rank →
      ((s.record (.loadReturned i outcome)).setImage i image).effort < s.effort :=
    fun image hrank => effort_image rfl rfl rfl hi hrank
  simp only [loadReturns]
  cases hphase : s.images i <;> rw [hphase] at h himage <;> cases h
  · cases outcome with
    | ok image => exact himage (.loaded image) (by simp [ImagePhase.rank])
    | error e =>
      refine himage _ ?_
      split <;> simp [ImagePhase.rank]
  · cases outcome with
    | ok image => exact himage (.loaded image) (by simp [ImagePhase.rank])
    | error e => exact himage (.raised e) (by simp [ImagePhase.rank])

theorem effort_retry_load {i : ℕ} (hi : i < s.imageCount) (h : (s.images i).retries = true)
    (nowNs : ℤ) : (s.retryLoad i nowNs).effort < s.effort := by
  unfold retryLoad
  cases hphase : s.images i <;> rw [hphase] at h <;> cases h
  split
  · exact effort_image rfl rfl rfl hi (by rw [hphase]; simp [ImagePhase.rank])
  · exact effort_image rfl rfl rfl hi (by rw [hphase]; simp [ImagePhase.rank])

theorem effort_collect (hsound : Sound s) (h : s.collects = true) :
    s.collect.effort < s.effort := by
  have hsoundPhase := hsound.phase
  unfold collects at h
  cases hphase : s.phase <;> rw [hphase] at h <;> try cases h
  rename_i values
  rw [hphase] at hsoundPhase
  have hrank : ∀ target : ExecutionPhase α β, phaseRank s.imageCount target <
      phaseRank s.imageCount (.collecting values : ExecutionPhase α β) →
      (s.setPhase target).effort < s.effort := fun target htarget =>
    effort_phase rfl (fun _ => le_rfl) (hphase ▸ htarget)
  simp only [ExecutionPhase.awaits, Bool.or_eq_true, decide_eq_true_eq] at h
  simp only [collect, hphase]
  split
  · exact hrank (.loaded values) (by simp only [phaseRank]; omega)
  · rename_i hlength
    have hlt : values.length < s.imageCount := by
      have := hsoundPhase.1
      omega
    have hended := h.resolve_left hlength
    cases himage : s.images values.length <;> rw [himage] at hended <;> cases hended
    · refine hrank (.collecting (values ++ [_])) ?_
      simp only [phaseRank, List.length_append, List.length_singleton]
      omega
    · simp only
      split
      · exact hrank (.canceling 0 _) (by simp only [phaseRank]; omega)
      · refine effort_phase rfl (fun _ => le_rfl) ?_
        rw [hphase]
        simp only [report, record, setPhase, phaseRank]
        omega

theorem effort_cancel_future (h : s.phase.cancels = true) : s.cancelFuture.effort < s.effort := by
  unfold cancelFuture
  cases hphase : s.phase <;> rw [hphase] at h <;> cases h
  rename_i next e
  simp only
  split
  · split
    · refine effort_phase rfl (rank_update_le (Nat.zero_le _)) ?_
      rw [hphase]
      simp only [setPhase, phaseRank]
      omega
    · refine effort_phase rfl (fun _ => le_rfl) ?_
      rw [hphase]
      simp only [setPhase, phaseRank]
      omega
  · refine effort_phase rfl (fun _ => le_rfl) ?_
    rw [hphase]
    simp only [report, record, setPhase, phaseRank]
    omega

/-- Every step of the execution itself brings it nearer to its end, and no other thread sets it
back. -/
theorem next_effort (hsound : Sound s) {e : ExecutionStep α β} (he : s.Admits e) :
    if e.own then (s.next e).effort < s.effort else (s.next e).effort = s.effort := by
  cases e with
  | checkCanceled => exact effort_check_canceled he
  | checkExpired nowNs => exact effort_check_expired he nowNs
  | startLoad i =>
    obtain ⟨hi, hwaits, -⟩ := he
    refine effort_image (x := .loading) rfl rfl rfl hi ?_
    cases hphase : s.images i <;> rw [hphase] at hwaits <;> cases hwaits
    simp [ImagePhase.rank]
  | loadReturns i outcome => exact effort_load_returns he.1 he.2 outcome
  | retryLoad i nowNs => exact effort_retry_load he.1 he.2 nowNs
  | collect => exact effort_collect hsound he
  | cancelFuture => exact effort_cancel_future he
  | infer =>
    have h : s.phase.infers = true := he
    simp only [next, infer]
    cases hphase : s.phase <;> rw [hphase] at h <;> cases h
    exact effort_phase rfl (fun _ => le_rfl) (by rw [hphase]; simp [setPhase, phaseRank])
  | inferReturns outcome =>
    have h : s.phase.inForward = true := he
    simp only [next, inferReturns]
    cases hphase : s.phase <;> rw [hphase] at h <;> cases h
    cases outcome with
    | ok result =>
      exact effort_phase rfl (fun _ => le_rfl) (by rw [hphase]; simp [setPhase, phaseRank])
    | error e =>
      exact effort_phase rfl (fun _ => le_rfl) (by rw [hphase]; simp [report, setPhase, phaseRank])
  | reportTiming =>
    have h : s.phase.timed = true := he
    simp only [next, reportTiming]
    cases hphase : s.phase <;> rw [hphase] at h <;> cases h
    exact effort_phase rfl (fun _ => le_rfl) (by rw [hphase]; simp [setPhase, phaseRank])
  | others queue => rfl

/-- An execution that has not returned can go on. -/
theorem step_available (hsound : Sound s) (h : s.phase.done = false) :
    ∃ e : ExecutionStep α β, e.own = true ∧ s.Admits e := by
  have hphaseSound := hsound.phase
  cases hphase : s.phase with
  | dequeued => exact ⟨.checkCanceled, rfl, by rw [Admits, hphase]; rfl⟩
  | wanted => exact ⟨.checkExpired 0, rfl, by rw [Admits, hphase]; rfl⟩
  | collecting values =>
    rw [hphase] at hphaseSound
    obtain ⟨hle, -, hnone⟩ := hphaseSound
    have hcollects : values.length = s.imageCount ∨ (s.images values.length).ended = true →
        s.Admits .collect := fun hended => by
      simpa [Admits, collects, hphase, ExecutionPhase.awaits] using hended
    by_cases hlength : values.length = s.imageCount
    · exact ⟨.collect, rfl, hcollects (.inl hlength)⟩
    have hlt : values.length < s.imageCount := by omega
    cases himage : s.images values.length with
    | waiting =>
      refine ⟨.startLoad values.length, rfl, hlt, by rw [himage]; rfl, ?_⟩
      rw [hphase]
      split <;> rfl
    | loading =>
      exact ⟨.loadReturns values.length (.error .deadlineExceeded), rfl, hlt, by rw [himage]; rfl⟩
    | failed e => exact ⟨.retryLoad values.length 0, rfl, hlt, by rw [himage]; rfl⟩
    | retrying =>
      exact ⟨.loadReturns values.length (.error .deadlineExceeded), rfl, hlt, by rw [himage]; rfl⟩
    | loaded image => exact ⟨.collect, rfl, hcollects (.inr (by rw [himage]; rfl))⟩
    | raised e => exact ⟨.collect, rfl, hcollects (.inr (by rw [himage]; rfl))⟩
    | canceled => exact absurd himage (hnone _)
  | canceling next e => exact ⟨.cancelFuture, rfl, by rw [Admits, hphase]; rfl⟩
  | loaded values => exact ⟨.checkCanceled, rfl, by rw [Admits, hphase]; rfl⟩
  | ready values => exact ⟨.checkExpired 0, rfl, by rw [Admits, hphase]; rfl⟩
  | cleared values => exact ⟨.infer, rfl, by rw [Admits, hphase]; rfl⟩
  | inferring => exact ⟨.inferReturns (.error .deadlineExceeded), rfl, by rw [Admits, hphase]; rfl⟩
  | inferred result => exact ⟨.checkExpired 0, rfl, by rw [Admits, hphase]; rfl⟩
  | completed result => exact ⟨.reportTiming, rfl, by rw [Admits, hphase]; rfl⟩
  | forwarded result => exact ⟨.checkCanceled, rfl, by rw [Admits, hphase]; rfl⟩
  | kept result => exact ⟨.checkExpired 0, rfl, by rw [Admits, hphase]; rfl⟩
  | returned => rw [hphase] at h; cases h

theorem next_job (s : JobExecution α β) (e : ExecutionStep α β) : (s.next e).job = s.job := by
  have hcheck : ∀ stage target, (s.cancelUnless stage target).job = s.job := by
    intro stage target
    unfold cancelUnless
    split <;> rfl
  cases e with
  | checkCanceled =>
    simp only [next, checkCanceled]
    split <;> first | exact hcheck _ _ | rfl
  | checkExpired nowNs =>
    simp only [next, checkExpired]
    split <;> first | rfl | (split <;> rfl)
  | loadReturns i outcome =>
    simp only [next, loadReturns]
    split <;> rfl
  | retryLoad i nowNs =>
    simp only [next, retryLoad]
    split <;> rfl
  | collect =>
    simp only [next, collect]
    repeat' split
    all_goals rfl
  | cancelFuture =>
    simp only [next, cancelFuture]
    repeat' split
    all_goals rfl
  | infer =>
    simp only [next, infer]
    split <;> rfl
  | inferReturns outcome =>
    simp only [next, inferReturns]
    split <;> rfl
  | reportTiming =>
    simp only [next, reportTiming]
    split <;> rfl
  | startLoad i => rfl
  | others queue => rfl

theorem run_sound {job : InferenceJob} {imageLoadExecutor : Bool} {queue : InferenceQueue}
    (hrun : Run (start job imageLoadExecutor queue) s) : s.job = job ∧ Sound s :=
  hrun.invariant (P := fun s : JobExecution α β => s.job = job ∧ Sound s)
    (fun s e h he => ⟨(next_job s e).trans h.1, next_sound h.2 he⟩)
    ⟨rfl, sound_start job imageLoadExecutor queue⟩

/-- Whatever the other threads, the clock, the loader and the model do, an execution goes on until
it returns, and has called exactly one callback then. -/
theorem execution_reports_once {job : InferenceJob} {imageLoadExecutor : Bool}
    {queue : InferenceQueue} (hrun : Run (start job imageLoadExecutor queue) s) :
    (s.trace.countP (·.terminal) = if s.phase.done then 1 else 0) ∧
      (s.phase.done = false → ∃ e : ExecutionStep α β, e.own = true ∧ s.Admits e) ∧
      (∀ e, s.Admits e →
        if e.own then (s.next e).effort < s.effort else (s.next e).effort = s.effort) ∧
      SuccessesBacked job.imagePaths.length s.trace ∧ NotReloaded s.trace ∧
      (∀ i, s.trace.countP (·.loads i) ≤ 2) ∧ s.trace.countP (·.infers) ≤ 1 := by
  obtain ⟨rfl, hsound⟩ := run_sound hrun
  refine ⟨hsound.calls.reported, step_available hsound, fun e he => next_effort hsound he,
    hsound.calls.backed, hsound.images.notReloaded, fun i => ?_, ?_⟩
  · exact (Nat.le_add_right _ _).trans (hsound.images.budget i)
  · exact (Nat.le_add_right _ _).trans hsound.calls.forwards

def twoImages : InferenceJob where
  inferenceJobId := "job-1"
  productId := "product-1"
  fifoSequence := 1
  stationId := 2
  imagePaths := ["upper.png", "lower.png"]

/-- Both images are loaded at once, and the first one only with its second call. -/
def readAgain : List (ExecutionStep ℕ ℕ) := [
  .checkCanceled, .checkExpired 1, .startLoad 1, .startLoad 0, .loadReturns 1 (.ok 11),
  .loadReturns 0 (.error { typeName := "OSError" }), .retryLoad 0 2, .loadReturns 0 (.ok 10),
  .collect, .collect, .collect, .checkCanceled, .checkExpired 3, .infer, .inferReturns (.ok 5),
  .checkExpired 4, .reportTiming, .checkCanceled, .checkExpired 5]

theorem read_again_reported :
    let s := runTrace next (start twoImages true (.new 4 (Nat.succ_pos _))) readAgain
    s.trace.countP (·.terminal) = 1 ∧ s.trace.countP (·.loads 0) = 2 ∧
      SuccessesBacked 2 s.trace :=
  ⟨by decide +kernel, by decide +kernel,
    (execution_reports_once (valid_trace_execution (by decide +kernel))).2.2.2.1⟩

end JobExecution

end InspectionLine
