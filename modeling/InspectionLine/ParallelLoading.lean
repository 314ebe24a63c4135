import InspectionLine.JobExecution

/-! # Images loaded in parallel

The images of a job are loaded by the threads of an executor, each as soon as a thread is free, and
collected in the order of their paths. With a loader that returns the same for the same path and
attempt this is what loading them one after another gives, in every schedule. -/
namespace InspectionLine

open InputRuns

variable {α β : Type*}

def loadWithOneRetry (load : String → ℕ → Except Raised α) (path : String) : Except Raised α :=
  match load path 1 with
  | .ok image => .ok image
  | .error e => if e.isPreprocessingFailure then .error e else load path 2

/-- `tuple(self._load_with_one_retry(job, path) for path in paths)`. -/
def loadOneByOne (load : String → ℕ → Except Raised α) (paths : List String) :
    Except Raised (List α) := paths.mapM (loadWithOneRetry load)

/-- The call of the loader that is under way. -/
def ImagePhase.attempt : ImagePhase α → ℕ
  | .retrying => 2
  | _ => 1

namespace JobExecution

/-- The calls return what the loader returns for the path and the attempt, and the job does not
expire between them. -/
def LoadsBy (load : String → ℕ → Except Raised α) (s : JobExecution α β) :
    ExecutionStep α β → Prop
  | .loadReturns index outcome =>
    s.job.imagePaths[index]?.map (load · (s.images index).attempt) = some outcome
  | .retryLoad _ nowNs => s.job.expired nowNs = false
  | _ => True

abbrev LoadRun (load : String → ℕ → Except Raised α) :
    JobExecution α β → JobExecution α β → Prop :=
  Execution next fun s e => s.Admits e ∧ s.LoadsBy load e

instance [DecidableEq α] (load : String → ℕ → Except Raised α) (s : JobExecution α β)
    (e : ExecutionStep α β) : Decidable (s.LoadsBy load e) := by
  apply e.casesOn (motive := fun t => Decidable (s.LoadsBy load t)) <;> intros <;>
    dsimp only [LoadsBy] <;> infer_instance

/-- `_load_job_images` has not returned. -/
def loadsImages (s : JobExecution α β) : Bool :=
  match s.phase with
  | .collecting _ | .canceling .. => true
  | _ => false

/-- What `_load_job_images` returns or raises next, when no image is waited for. -/
def loadResult? (s : JobExecution α β) : Option (Except Raised (List α)) :=
  match s.phase with
  | .collecting images =>
    if images.length = s.imageCount then some (.ok images)
    else if s.submits then none
    else
      match s.images images.length with
      | .raised e => some (.error e)
      | _ => none
  | .canceling next e => if next < s.imageCount then none else some (.error e)
  | _ => none

def afterLoad (s : JobExecution α β) : Except Raised (List α) → JobExecution α β
  | .ok images => s.setPhase (.loaded images)
  | .error e => s.report (.failure e.loadFailure)

/-! ### One image after the other -/

variable {load : String → ℕ → Except Raised α}

/-- The paths up to the first one whose image fails decide. -/
theorem load_one_by_one_error {paths : List String} {images : List α} {path : String} {e : Raised}
    (hbefore : (paths.take images.length).mapM (loadWithOneRetry load) = .ok images)
    (hpath : paths[images.length]? = some path) (hfails : loadWithOneRetry load path = .error e) :
    loadOneByOne load paths = .error e := by
  obtain ⟨hlt, hget⟩ := List.getElem?_eq_some_iff.mp hpath
  have hsplit : paths = paths.take images.length ++ path :: paths.drop (images.length + 1) := by
    rw [← hget, List.getElem_cons_drop, List.take_append_drop]
  rw [loadOneByOne, hsplit, List.mapM_append, hbefore, List.mapM_cons, hfails]
  rfl

theorem load_one_more {paths : List String} {images : List α} {path : String} {image : α}
    (hbefore : (paths.take images.length).mapM (loadWithOneRetry load) = .ok images)
    (hpath : paths[images.length]? = some path) (hloads : loadWithOneRetry load path = .ok image) :
    (paths.take (images ++ [image]).length).mapM (loadWithOneRetry load) =
      .ok (images ++ [image]) := by
  rw [List.length_append, List.length_singleton, List.take_add_one, hpath, Option.toList_some,
    List.mapM_append, hbefore, List.mapM_cons, hloads]
  rfl

/-! ### What the phases stand for -/

def LoadingAt (load : String → ℕ → Except Raised α) (path : String) : ImagePhase α → Prop
  | .waiting | .loading | .canceled => True
  | .failed _ | .retrying => loadWithOneRetry load path = load path 2
  | .loaded image => loadWithOneRetry load path = .ok image
  | .raised e => loadWithOneRetry load path = .error e

def CollectedBy (load : String → ℕ → Except Raised α) (paths : List String) :
    ExecutionPhase α β → Prop
  | .collecting images => (paths.take images.length).mapM (loadWithOneRetry load) = .ok images
  | .canceling _ e => loadOneByOne load paths = .error e
  | .loaded images => loadOneByOne load paths = .ok images
  | _ => True

structure LoadedBy (load : String → ℕ → Except Raised α) (s : JobExecution α β) : Prop where
  images : ∀ i path, s.job.imagePaths[i]? = some path → LoadingAt load path (s.images i)
  phase : CollectedBy load s.job.imagePaths s.phase

variable {s : JobExecution α β}

theorem LoadedBy.move (h : LoadedBy load s) {t : JobExecution α β} (hjob : t.job = s.job)
    (himages : t.images = s.images) (hphase : CollectedBy load s.job.imagePaths t.phase) :
    LoadedBy load t where
  images i path hpath := by
    rw [himages]
    exact h.images i path (hjob ▸ hpath)
  phase := hjob ▸ hphase

theorem LoadedBy.update (h : LoadedBy load s) {t : JobExecution α β} {i : ℕ} {x : ImagePhase α}
    (hjob : t.job = s.job) (hphase : t.phase = s.phase)
    (himages : t.images = Function.update s.images i x)
    (himage : ∀ path, s.job.imagePaths[i]? = some path → LoadingAt load path x) :
    LoadedBy load t where
  images j path hpath := by
    rw [hjob] at hpath
    rw [himages]
    by_cases hj : j = i
    · subst hj
      rw [Function.update_self]
      exact himage path hpath
    · rw [Function.update_of_ne hj]
      exact h.images j path hpath
  phase := by
    rw [hjob, hphase]
    exact h.phase

/-! ### The steps -/

theorem loaded_by_cancel_unless (h : LoadedBy load s) (stage : String)
    {target : ExecutionPhase α β} (htarget : CollectedBy load s.job.imagePaths target) :
    LoadedBy load (s.cancelUnless stage target) := by
  unfold cancelUnless
  split
  · exact h.move rfl rfl trivial
  · exact h.move rfl rfl htarget

theorem loaded_by_check_canceled (h : LoadedBy load s) : LoadedBy load s.checkCanceled := by
  unfold checkCanceled
  split
  · exact loaded_by_cancel_unless h _ trivial
  · exact loaded_by_cancel_unless h _ trivial
  · exact loaded_by_cancel_unless h _ trivial
  · exact h

theorem loaded_by_check_expired (h : LoadedBy load s) (nowNs : ℤ) :
    LoadedBy load (s.checkExpired nowNs) := by
  have hfail : LoadedBy load s.failExpired := h.move rfl rfl trivial
  simp only [checkExpired]
  split
  · split
    · exact hfail
    · exact h.move rfl rfl rfl
  · split
    · exact hfail
    · exact h.move rfl rfl trivial
  · split
    · exact hfail
    · exact h.move rfl rfl trivial
  · split
    · exact hfail
    · exact h.move rfl rfl trivial
  · exact h

theorem loaded_by_load_returns (h : LoadedBy load s) {i : ℕ} {outcome : Except Raised α}
    (hload : s.LoadsBy load (.loadReturns i outcome)) :
    LoadedBy load (s.loadReturns i outcome) := by
  obtain ⟨path, hpath, houtcome⟩ := Option.map_eq_some_iff.mp hload
  have hold := h.images i path hpath
  have hset : ∀ x : ImagePhase α, LoadingAt load path x →
      LoadedBy load ((s.record (.loadReturned i outcome)).setImage i x) :=
    fun x hx => h.update rfl rfl rfl fun path' hpath' => by
      rw [hpath] at hpath'
      cases hpath'
      exact hx
  simp only [loadReturns]
  cases hphase : s.images i <;> rw [hphase] at hold houtcome <;> try exact h
  · -- the first call decides, unless it fails with what may pass
    have hfirst : load path 1 = outcome := houtcome
    cases outcome with
    | ok image =>
      refine hset (.loaded image) ?_
      rw [LoadingAt, loadWithOneRetry, hfirst]
    | error e =>
      refine hset _ ?_
      cases hkind : e.isPreprocessingFailure with
      | true =>
        rw [if_pos rfl, LoadingAt, loadWithOneRetry, hfirst]
        exact if_pos hkind
      | false =>
        rw [if_neg Bool.false_ne_true, LoadingAt, loadWithOneRetry, hfirst]
        exact if_neg (by rw [hkind]; exact Bool.false_ne_true)
  · have hsecond : loadWithOneRetry load path = outcome := hold.trans houtcome
    cases outcome with
    | ok image => exact hset (.loaded image) hsecond
    | error e => exact hset (.raised e) hsecond

theorem loaded_by_retry_load (h : LoadedBy load s) {i : ℕ} (hretries : (s.images i).retries = true)
    {nowNs : ℤ} (hintime : s.job.expired nowNs = false) : LoadedBy load (s.retryLoad i nowNs) := by
  unfold retryLoad
  rw [hintime, if_neg Bool.false_ne_true]
  refine h.update rfl rfl rfl fun path hpath => ?_
  have hold := h.images i path hpath
  cases hphase : s.images i <;> rw [hphase] at hold hretries <;> cases hretries
  exact hold

theorem load_one_by_one_of_collected {images : List α} (hall : images.length = s.imageCount)
    (hcollected : CollectedBy load s.job.imagePaths (.collecting images : ExecutionPhase α β)) :
    loadOneByOne load s.job.imagePaths = .ok images := by
  have htake : s.job.imagePaths.take images.length = s.job.imagePaths := by
    rw [hall]
    exact List.take_length
  rw [CollectedBy, htake] at hcollected
  exact hcollected

theorem loaded_by_collect (hsound : Sound s) (h : LoadedBy load s) : LoadedBy load s.collect := by
  have hlength := hsound.phase
  have hbefore := h.phase
  unfold collect
  cases hphase : s.phase <;> rw [hphase] at hlength hbefore <;> try exact h
  rename_i images
  have hpaths : images.length ≤ s.job.imagePaths.length := hlength.1
  dsimp only
  split
  · rename_i hall
    exact h.move rfl rfl (load_one_by_one_of_collected hall hbefore)
  · rename_i hmore
    have hlt : images.length < s.job.imagePaths.length := lt_of_le_of_ne hpaths hmore
    have hpath := List.getElem?_eq_getElem hlt
    have himage := h.images _ _ hpath
    cases hnext : s.images images.length <;> rw [hnext] at himage <;> dsimp only <;> try exact h
    · exact h.move rfl rfl (load_one_more hbefore hpath himage)
    · split
      · exact h.move rfl rfl (load_one_by_one_error hbefore hpath himage)
      · exact h.move rfl rfl trivial

theorem loaded_by_cancel_future (h : LoadedBy load s) : LoadedBy load s.cancelFuture := by
  have hraised := h.phase
  unfold cancelFuture
  cases hphase : s.phase <;> rw [hphase] at hraised <;> try exact h
  dsimp only
  split
  · split
    · have hcanceled : ∀ k, LoadedBy load (s.setImage k .canceled) := fun k =>
        h.update (i := k) rfl rfl rfl fun _ _ => trivial
      exact (hcanceled _).move rfl rfl hraised
    · exact h.move rfl rfl hraised
  · exact h.move rfl rfl trivial

theorem loaded_by_next (hsound : Sound s) (h : LoadedBy load s) {e : ExecutionStep α β}
    (he : s.Admits e) (hload : s.LoadsBy load e) : LoadedBy load (s.next e) := by
  cases e with
  | checkCanceled => exact loaded_by_check_canceled h
  | checkExpired nowNs => exact loaded_by_check_expired h nowNs
  | startLoad i => exact h.update rfl rfl rfl fun _ _ => trivial
  | loadReturns i outcome => exact loaded_by_load_returns h hload
  | retryLoad i nowNs => exact loaded_by_retry_load h he.2 hload
  | collect => exact loaded_by_collect hsound h
  | cancelFuture => exact loaded_by_cancel_future h
  | infer =>
    simp only [next, infer]
    split
    · exact h.move rfl rfl trivial
    · exact h
  | inferReturns outcome =>
    simp only [next, inferReturns]
    split
    · exact h.move rfl rfl trivial
    · exact h.move rfl rfl trivial
    · exact h
  | reportTiming =>
    simp only [next, reportTiming]
    split
    · exact h.move rfl rfl trivial
    · exact h
  | others queue => exact h.move rfl rfl h.phase

/-- What is about to be returned or raised is what one image after the other gives. -/
theorem load_result_eq (hsound : Sound s) (h : LoadedBy load s)
    {result : Except Raised (List α)} (hresult : s.loadResult? = some result) :
    loadOneByOne load s.job.imagePaths = result := by
  have hlength := hsound.phase
  have hcollected := h.phase
  unfold loadResult? at hresult
  cases hphase : s.phase <;> rw [hphase] at hlength hcollected hresult <;> dsimp only at hresult <;>
    try cases hresult
  · -- all images are there, or the worker itself has come to one that failed
    rename_i images
    have hpaths : images.length ≤ s.job.imagePaths.length := hlength.1
    split at hresult
    · rename_i hall
      cases hresult
      exact load_one_by_one_of_collected hall hcollected
    · rename_i hmore
      have hlt : images.length < s.job.imagePaths.length := lt_of_le_of_ne hpaths hmore
      have hpath := List.getElem?_eq_getElem hlt
      have himage := h.images _ _ hpath
      split at hresult
      · cases hresult
      · cases hnext : s.images images.length <;> rw [hnext] at himage hresult <;> cases hresult
        exact load_one_by_one_error hcollected hpath himage
  · split at hresult <;> cases hresult
    exact hcollected

/-! ### The loading ends -/

theorem exists_not_expired (job : InferenceJob) : ∃ nowNs, job.expired nowNs = false := by
  unfold InferenceJob.expired
  cases job.queueTotalTimeoutMs with
  | none => exact ⟨0, rfl⟩
  | some timeoutMs =>
    exact ⟨job.enqueuedMonotonicNs + timeoutMs * 1000000, decide_eq_false (by omega)⟩

/-- While the images are loaded a thread can go on. -/
theorem load_step_available (load : String → ℕ → Except Raised α) (hsound : Sound s)
    (hloads : s.loadsImages = true) :
    ∃ e : ExecutionStep α β, e.own = true ∧ s.Admits e ∧ s.LoadsBy load e := by
  have hsoundPhase := hsound.phase
  unfold loadsImages at hloads
  cases hphase : s.phase <;> rw [hphase] at hsoundPhase hloads <;> dsimp only at hloads <;>
    try cases hloads
  · rename_i images
    obtain ⟨hle, -, hnone⟩ := hsoundPhase
    have hcollects : images.length = s.imageCount ∨ (s.images images.length).ended = true →
        s.Admits .collect := fun hended => by
      simpa [Admits, collects, hphase, ExecutionPhase.awaits] using hended
    by_cases hlength : images.length = s.imageCount
    · exact ⟨.collect, rfl, hcollects (.inl hlength), trivial⟩
    have hlt : images.length < s.imageCount := lt_of_le_of_ne hle hlength
    have hpath := List.getElem?_eq_getElem (l := s.job.imagePaths) hlt
    have hreturns : (s.images images.length).calls = true →
        ∃ e : ExecutionStep α β, e.own = true ∧ s.Admits e ∧ s.LoadsBy load e :=
      fun hcalls => ⟨.loadReturns images.length _, rfl, ⟨hlt, hcalls⟩,
        Option.map_eq_some_iff.mpr ⟨_, hpath, rfl⟩⟩
    cases himage : s.images images.length with
    | waiting =>
      refine ⟨.startLoad images.length, rfl, ⟨hlt, by rw [himage]; rfl, ?_⟩, trivial⟩
      rw [hphase]
      split <;> rfl
    | loading => exact hreturns (by rw [himage]; rfl)
    | failed e =>
      obtain ⟨nowNs, hintime⟩ := exists_not_expired s.job
      exact ⟨.retryLoad images.length nowNs, rfl, ⟨hlt, by rw [himage]; rfl⟩, hintime⟩
    | retrying => exact hreturns (by rw [himage]; rfl)
    | loaded image => exact ⟨.collect, rfl, hcollects (.inr (by rw [himage]; rfl)), trivial⟩
    | raised e => exact ⟨.collect, rfl, hcollects (.inr (by rw [himage]; rfl)), trivial⟩
    | canceled => exact absurd himage (hnone _)
  · exact ⟨.cancelFuture, rfl, by rw [Admits, hphase]; rfl, trivial⟩

theorem load_ends (hloads : s.loadsImages = true) {e : ExecutionStep α β} (he : s.Admits e)
    (hends : (s.next e).loadsImages = false) :
    ∃ result, s.loadResult? = some result ∧ s.next e = s.afterLoad result := by
  have hkeeps : (s.next e).phase ≠ s.phase := fun heq => by
    unfold loadsImages at hloads hends
    rw [heq, hloads] at hends
    cases hends
  unfold loadsImages at hloads
  have hother : ∀ admitted : ExecutionPhase α β → Bool,
      (∀ images, admitted (.collecting images) = false) →
      (∀ k e, admitted (.canceling k e) = false) → admitted s.phase ≠ true := by
    intro admitted hcollecting hcanceling
    cases hphase : s.phase <;> rw [hphase] at hloads <;> dsimp only at hloads <;> try cases hloads
    · rw [hcollecting]
      exact Bool.false_ne_true
    · rw [hcanceling]
      exact Bool.false_ne_true
  cases e with
  | startLoad i => exact absurd rfl hkeeps
  | others queue => exact absurd rfl hkeeps
  | loadReturns i outcome =>
    refine absurd ?_ hkeeps
    simp only [next, loadReturns]
    split <;> rfl
  | retryLoad i nowNs =>
    refine absurd ?_ hkeeps
    simp only [next, retryLoad]
    split <;> rfl
  | collect =>
    simp only [next, collect] at hkeeps hends ⊢
    unfold loadResult?
    cases hphase : s.phase <;> rw [hphase] at hloads <;> dsimp only at hloads <;> try cases hloads
    · rename_i images
      simp only [hphase] at hkeeps hends ⊢
      by_cases hall : images.length = s.imageCount
      · rw [if_pos hall, if_pos hall]
        exact ⟨_, rfl, rfl⟩
      · rw [if_neg hall] at hkeeps hends ⊢
        rw [if_neg hall]
        cases himage : s.images images.length <;> rw [himage] at hkeeps hends <;>
          dsimp only at hkeeps hends ⊢ <;> try exact absurd hphase hkeeps
        · cases hends
        · cases hsubmits : s.submits <;> rw [hsubmits] at hends
          · exact ⟨_, rfl, rfl⟩
          · cases hends
    · simp [hphase] at hkeeps
  | cancelFuture =>
    simp only [next, cancelFuture] at hkeeps hends ⊢
    unfold loadResult?
    cases hphase : s.phase <;> rw [hphase] at hloads <;> dsimp only at hloads <;> try cases hloads
    · simp [hphase] at hkeeps
    · rename_i k e
      simp only [hphase] at hends ⊢
      by_cases hmore : k < s.imageCount
      · rw [if_pos hmore] at hends
        split at hends <;> cases hends
      · rw [if_neg hmore, if_neg hmore]
        exact ⟨_, rfl, rfl⟩
  | checkCanceled => exact absurd he (hother (·.checksCanceled) (fun _ => rfl) fun _ _ => rfl)
  | checkExpired nowNs => exact absurd he (hother (·.checksExpired) (fun _ => rfl) fun _ _ => rfl)
  | infer => exact absurd he (hother (·.infers) (fun _ => rfl) fun _ _ => rfl)
  | inferReturns outcome => exact absurd he (hother (·.inForward) (fun _ => rfl) fun _ _ => rfl)
  | reportTiming => exact absurd he (hother (·.timed) (fun _ => rfl) fun _ _ => rfl)

theorem load_run_sound {job : InferenceJob} {imageLoadExecutor : Bool} {queue : InferenceQueue}
    (hrun : LoadRun load (start job imageLoadExecutor queue) s) :
    s.job = job ∧ Sound s ∧ LoadedBy load s :=
  hrun.invariant (P := fun s : JobExecution α β => s.job = job ∧ Sound s ∧ LoadedBy load s)
    (fun s e h he => ⟨(next_job s e).trans h.1, next_sound h.2.1 he.1,
      loaded_by_next h.2.1 h.2.2 he.1 he.2⟩)
    ⟨rfl, sound_start job imageLoadExecutor queue, fun _ _ _ => trivial, trivial⟩

/-- Whether an executor loads the images or the worker itself, and in whatever order they are
loaded: while they are, a thread can go on, each of its steps brings the execution nearer to its
end, and the step that ends the loading returns or raises what one image after the other gives. -/
theorem parallel_load_sequential {job : InferenceJob} {imageLoadExecutor : Bool}
    {queue : InferenceQueue} (hrun : LoadRun load (start job imageLoadExecutor queue) s)
    (hloads : s.loadsImages = true) :
    (∃ e : ExecutionStep α β, e.own = true ∧ s.Admits e ∧ s.LoadsBy load e) ∧
      (∀ e, s.Admits e →
        if e.own then (s.next e).effort < s.effort else (s.next e).effort = s.effort) ∧
      ∀ e, s.Admits e → (s.next e).loadsImages = false →
        s.loadResult? = some (loadOneByOne load job.imagePaths) ∧
          s.next e = s.afterLoad (loadOneByOne load job.imagePaths) := by
  obtain ⟨rfl, hsound, hloaded⟩ := load_run_sound hrun
  refine ⟨load_step_available load hsound hloads, fun e he => next_effort hsound he,
    fun e he hends => ?_⟩
  obtain ⟨result, hresult, hnext⟩ := load_ends hloads he hends
  rw [load_result_eq hsound hloaded hresult]
  exact ⟨hresult, hnext⟩

/-- Both images fail: the lower one at once, the upper one with its second call. -/
def failingLoader : String → ℕ → Except Raised ℕ
  | "upper.png", _ => .error { typeName := "OSError" }
  | _, _ => .error { typeName := "PreprocessingError", isPreprocessingFailure := true }

def lowerFailsFirst : List (ExecutionStep ℕ ℕ) := [
  .checkCanceled, .checkExpired 1, .startLoad 1, .startLoad 0,
  .loadReturns 1 (failingLoader "lower.png" 1), .loadReturns 0 (failingLoader "upper.png" 1),
  .retryLoad 0 2, .loadReturns 0 (failingLoader "upper.png" 2),
  .collect, .cancelFuture, .cancelFuture]

/-- It is the failure of the upper image that is raised. -/
theorem lower_fails_first_raised :
    (runTrace next (start twoImages true (.new 4 (Nat.succ_pos _))) lowerFailsFirst).loadResult? =
      some (.error { typeName := "OSError" }) := by
  have hrun : LoadRun failingLoader (start twoImages true (.new 4 (Nat.succ_pos _)))
      (runTrace next (start twoImages true (.new 4 (Nat.succ_pos _))) lowerFailsFirst) :=
    valid_trace_execution (by decide +kernel)
  obtain ⟨-, -, hends⟩ := parallel_load_sequential hrun (by decide +kernel)
  refine (hends .cancelFuture (by decide +kernel) (by decide +kernel)).1.trans ?_
  decide +kernel

end JobExecution

end InspectionLine
