import InspectionLine.InputRuns
import InspectionLine.LogDelivery
import InspectionLine.NewestKept
import InspectionLine.SuccessfulRuns
import InspectionLine.WholeRuntime
import Mathlib.Data.Finset.Basic

/-! # The images that retention keeps

Registered images get rising orders, so the candidates of a pass are those that came before the
newest ones. A pass deletes their files below the data root, and lets go of a record only with
its file, or when the file is not below the root. -/
namespace InspectionLine

open InputRuns SuccessfulRuns

abbrev RegisteredImage := String × ArtifactRow

theorem OrderedDict.entries_foldl_erase {κ ν : Type*} [DecidableEq κ] (ks : List κ)
    (d : OrderedDict κ ν) :
    (ks.foldl OrderedDict.erase d).entries = d.entries.filter fun p => !ks.contains p.1 := by
  induction ks generalizing d with
  | nil => exact (List.filter_eq_self.mpr fun _ _ => rfl).symm
  | cons k ks ih =>
    rw [List.foldl_cons, ih, OrderedDict.erase, List.filter_filter]
    refine List.filter_congr fun p _ => ?_
    rw [List.contains_cons, Bool.not_or, Bool.and_comm]
    simp [BEq.beq]

namespace LogTables

section
variable {F : Type} {t t' t'' : LogTables F}

abbrev images (t : LogTables F) : List RegisteredImage := t.canonicalImageArtifacts.entries

/-- Images are registered in the order of their rows, and no order comes again. -/
structure InOrder (t : LogTables F) : Prop where
  rising : t.images.Pairwise fun a b => a.2.artifactOrder < b.2.artifactOrder
  given : ∀ image ∈ t.images, image.2.artifactOrder ≤ t.artifactSequence

structure Gains (t : LogTables F) (new : List RegisteredImage) (t' : LogTables F) : Prop where
  images : t'.images = t.images ++ new
  rising : new.Pairwise fun a b => a.2.artifactOrder < b.2.artifactOrder
  fresh : ∀ image ∈ new, t.artifactSequence < image.2.artifactOrder ∧
    image.2.artifactOrder ≤ t'.artifactSequence
  sequence : t.artifactSequence ≤ t'.artifactSequence

theorem gains_nothing (himages : t'.canonicalImageArtifacts = t.canonicalImageArtifacts)
    (hsequence : t.artifactSequence ≤ t'.artifactSequence) : Gains t [] t' where
  images := by rw [LogTables.images, himages, List.append_nil]
  rising := .nil
  fresh _ h := absurd h List.not_mem_nil
  sequence := hsequence

theorem Gains.trans {new later : List RegisteredImage} (h : Gains t new t')
    (k : Gains t' later t'') : Gains t (new ++ later) t'' where
  images := by rw [k.images, h.images, List.append_assoc]
  rising := by
    refine List.pairwise_append.mpr ⟨h.rising, k.rising, fun a ha b hb => ?_⟩
    exact (h.fresh a ha).2.trans_lt (k.fresh b hb).1
  fresh image himage := by
    rcases List.mem_append.mp himage with hnew | hlater
    · exact ⟨(h.fresh image hnew).1, (h.fresh image hnew).2.trans k.sequence⟩
    · exact ⟨h.sequence.trans_lt (k.fresh image hlater).1, (k.fresh image hlater).2⟩
  sequence := h.sequence.trans k.sequence

theorem Gains.of_same {new : List RegisteredImage} (h : Gains t' new t'')
    (himages : t'.canonicalImageArtifacts = t.canonicalImageArtifacts)
    (hsequence : t'.artifactSequence = t.artifactSequence) : Gains t new t'' :=
  (gains_nothing himages hsequence.ge).trans h

theorem Gains.in_order {new : List RegisteredImage} (h : Gains t new t') (ht : t.InOrder) :
    t'.InOrder where
  rising := by
    rw [h.images]
    refine List.pairwise_append.mpr ⟨ht.rising, h.rising, fun a ha b hb => ?_⟩
    exact (ht.given a ha).trans_lt (h.fresh b hb).1
  given image himage := by
    rw [h.images] at himage
    rcases List.mem_append.mp himage with hold | hnew
    · exact (ht.given image hold).trans h.sequence
    · exact (h.fresh image hnew).2

theorem insert_artifact_gains (t : LogTables F) (sessionId productId : String) (stationId : ℤ)
    (filePath : String) :
    ∃ new, Gains t new (t.insertArtifact sessionId productId stationId filePath) := by
  unfold insertArtifact OrderedDict.insertOrIgnore
  split
  · exact ⟨[], gains_nothing rfl (Nat.le_succ _)⟩
  · exact ⟨[(filePath, _)], rfl, List.pairwise_singleton _ _, by simp, Nat.le_succ _⟩

/-! ### What is registered by an event -/

variable [Runtime F]

abbrev Enrolls (t : LogTables F) (x : Except PyError (LogTables F)) : Prop :=
  Ends (fun t' => ∃ new, Gains t new t') x

theorem insert_artifacts_enrolls (t : LogTables F) (event : StoredLogEvent)
    (sessionId : String) (payload : JsonFields F) :
    t.Enrolls (t.insertArtifacts event sessionId payload) := by
  refine ends_bind fun paths _ => ends_fold (fun s path hs => ?_) _
    ⟨[], gains_nothing rfl le_rfl⟩
  refine ends_bind fun n _ => ends_bind fun stationId _ => ends_pure ?_
  obtain ⟨new, hnew⟩ := hs
  obtain ⟨later, hlater⟩ := insert_artifact_gains s sessionId
    (payload.field "product_id" (.str event.productId)).toStr stationId path.toStr
  exact ⟨new ++ later, hnew.trans hlater⟩

theorem project_terminal_enrolls (t : LogTables F) (event : StoredLogEvent)
    (sessionId : String) (payload : JsonFields F) (kind : TerminalKind) :
    t.Enrolls (t.projectTerminal event sessionId payload kind) := by
  unfold projectTerminal
  iterate 13 refine ends_bind fun _ _ => ?_
  intro t' ht'
  obtain ⟨new, hnew⟩ := insert_artifacts_enrolls _ event sessionId payload t' ht'
  exact ⟨new, hnew.of_same rfl rfl⟩

theorem project_gpu_metrics_enrolls (t : LogTables F) (event : StoredLogEvent)
    (sessionId : String) (payload : JsonFields F) :
    t.Enrolls (t.projectGpuMetrics event sessionId payload) := by
  unfold projectGpuMetrics
  iterate 6 refine ends_bind fun _ _ => ?_
  refine ends_pure ⟨[], ?_⟩
  simp only [upsertGpuMetrics]
  split
  · exact gains_nothing rfl le_rfl
  · exact gains_nothing rfl le_rfl

theorem project_payload_enrolls (t : LogTables F) (event : StoredLogEvent)
    (sessionId : String) (payload : JsonFields F) :
    t.Enrolls (t.projectPayload event sessionId payload) := by
  unfold projectPayload
  split
  · exact project_terminal_enrolls t event sessionId payload _
  · exact project_terminal_enrolls t event sessionId payload _
  · exact insert_artifacts_enrolls t event sessionId payload
  · unfold projectLocked
    iterate 2 refine ends_bind fun _ _ => ?_
    exact ends_pure ⟨[], gains_nothing rfl le_rfl⟩
  · unfold projectTiming
    iterate 8 refine ends_bind fun _ _ => ?_
    exact ends_pure ⟨[], gains_nothing rfl le_rfl⟩
  · exact project_gpu_metrics_enrolls t event sessionId payload
  · exact project_gpu_metrics_enrolls t event sessionId payload
  · exact ends_pure ⟨[], gains_nothing rfl le_rfl⟩

theorem project_event_enrolls (t : LogTables F) (event : StoredLogEvent) :
    t.Enrolls (t.projectEvent event) := by
  have hnothing : ∃ new, Gains t new t := ⟨[], gains_nothing rfl le_rfl⟩
  refine ends_bind fun decoded _ => ?_
  split
  · exact ends_error _ _
  split
  · exact ends_pure hnothing
  · dsimp only
    split
    · exact ends_pure hnothing
    · exact project_payload_enrolls t event _ _

theorem append_event_gains (t : LogTables F) (committedAt : String) (event : StoredLogEvent) :
    ∃ new, Gains t new (t.appendEvent committedAt event).2 := by
  have hbody : t.Enrolls (t.appendBody committedAt event) := by
    refine ends_bind fun revision _ => ?_
    split
    · split
      · exact ends_error _ _
      · exact ends_pure ⟨[], gains_nothing rfl le_rfl⟩
    · refine ends_bind fun _ _ => ends_bind fun _ _ => fun t' ht' => ?_
      obtain ⟨new, hnew⟩ := project_event_enrolls _ event t' ht'
      exact ⟨new, hnew.of_same rfl rfl⟩
  unfold appendEvent transaction
  split
  · rename_i t' ht'
    exact hbody t' ht'
  · exact ⟨[], gains_nothing rfl le_rfl⟩

end

/-! ### One pass -/

section
variable {F : Type} {t : LogTables F}

theorem InOrder.eq_of_order (h : t.InOrder) {a b : RegisteredImage} (ha : a ∈ t.images)
    (hb : b ∈ t.images) (hab : a.2.artifactOrder = b.2.artifactOrder) : a = b := by
  have hnodup : (t.images.map (·.2.artifactOrder)).Nodup :=
    List.pairwise_map.mpr (h.rising.imp fun hlt => hlt.ne)
  exact List.inj_on_of_nodup_map hnodup ha hb hab

theorem retention_candidates_eq (h : t.InOrder) (keepLatest : ℕ) :
    t.retentionCandidates keepLatest = (NewestKept.candidates keepLatest t.images).map (·.1) := by
  unfold retentionCandidates NewestKept.candidates
  refine congrArg (fun images : List RegisteredImage => (images.drop keepLatest).map (·.1)) ?_
  have htrans : IsTrans RegisteredImage fun a b => b.2.artifactOrder ≤ a.2.artifactOrder :=
    ⟨fun _ _ _ h k => k.trans h⟩
  have htotal : Std.Total fun a b : RegisteredImage => b.2.artifactOrder ≤ a.2.artifactOrder :=
    ⟨fun _ _ => le_total _ _⟩
  have hsorted := List.pairwise_insertionSort
    (fun a b : RegisteredImage => b.2.artifactOrder ≤ a.2.artifactOrder) t.images
  have hreverse : t.images.reverse.Pairwise fun a b => b.2.artifactOrder ≤ a.2.artifactOrder :=
    List.pairwise_reverse.mpr (h.rising.imp fun hlt => hlt.le)
  have hperm := List.perm_insertionSort
    (fun a b : RegisteredImage => b.2.artifactOrder ≤ a.2.artifactOrder) t.images
  refine List.Perm.eq_of_pairwise ?_ hsorted hreverse (hperm.trans (List.reverse_perm _).symm)
  intro a b ha hb hba hab
  exact h.eq_of_order (hperm.mem_iff.mp ha) (List.mem_reverse.mp hb) (le_antisymm hab hba)

/-- Striking off those of the candidates that are let go of is a pass over the images. -/
theorem images_remove_candidates (h : t.InOrder) (keepLatest : ℕ) (removes : String → Bool) :
    (t.removeImageRecords ((t.retentionCandidates keepLatest).filter removes)).images =
      NewestKept.pass keepLatest (fun image => removes image.1) t.images := by
  have hnodup : t.images.Nodup := t.canonicalImageArtifacts.nodup.of_map _
  unfold images removeImageRecords
  rw [OrderedDict.entries_foldl_erase]
  refine NewestKept.filter_eq_pass hnodup fun image himage => ?_
  rw [Bool.not_eq_false', List.contains_iff_mem, retention_candidates_eq h, List.mem_filter,
    List.mem_map]
  refine and_congr_left fun _ => ⟨?_, fun hcandidate => ⟨image, hcandidate, rfl⟩⟩
  rintro ⟨other, hother, hsame⟩
  have heq : other = image := List.inj_on_of_nodup_map t.canonicalImageArtifacts.nodup
    (NewestKept.mem_of_candidate hother) himage hsame
  exact heq ▸ hother

theorem InOrder.sublist {t' : LogTables F} (h : t.InOrder) (himages : t'.images.Sublist t.images)
    (hsequence : t'.artifactSequence = t.artifactSequence) : t'.InOrder where
  rising := h.rising.sublist himages
  given image himage := hsequence ▸ h.given image (himages.subset himage)

end

end LogTables

/-! ### The files below the data root -/

/-- The file that a path names, and whether it lies below the data root. -/
structure DataRoot where
  resolve : String → String
  contains : String → Bool

structure RetentionPass where
  removedRecords : List String := []
  files : Finset String

namespace DataRoot

variable (root : DataRoot) (raises : String → Bool)

/-- A candidate outside is refused, and one whose file cannot be deleted keeps its record. -/
def visit (pass : RetentionPass) (rawPath : String) : RetentionPass :=
  let path := root.resolve rawPath
  if root.contains path = false then
    { pass with removedRecords := pass.removedRecords ++ [rawPath] }
  else if raises rawPath then pass
  else {
    removedRecords := pass.removedRecords ++ [rawPath]
    files := pass.files.erase path }

def releases (rawPath : String) : Bool := !root.contains (root.resolve rawPath) || !raises rawPath

def deletes (rawPath : String) : Bool := root.contains (root.resolve rawPath) && !raises rawPath

variable {root raises}

theorem visit_spec (pass : RetentionPass) (rawPath : String) :
    (root.visit raises pass rawPath).removedRecords =
      pass.removedRecords ++ [rawPath].filter (root.releases raises) ∧
    (root.visit raises pass rawPath).files =
      if root.deletes raises rawPath then pass.files.erase (root.resolve rawPath)
      else pass.files := by
  unfold visit
  by_cases hinside : root.contains (root.resolve rawPath) = true
  · by_cases hraises : raises rawPath = true
    · simp [hinside, hraises, releases, deletes]
    · simp [hinside, hraises, releases, deletes]
  · simp [hinside, releases, deletes]

theorem removed_records_foldl (paths : List String) (pass : RetentionPass) :
    (paths.foldl (root.visit raises) pass).removedRecords =
      pass.removedRecords ++ paths.filter (root.releases raises) := by
  induction paths generalizing pass with
  | nil => exact (List.append_nil _).symm
  | cons path paths ih =>
    rw [List.foldl_cons, ih, (visit_spec pass path).1, List.append_assoc, ← List.filter_append,
      List.singleton_append]

theorem mem_files_foldl (paths : List String) (pass : RetentionPass) (file : String) :
    file ∈ (paths.foldl (root.visit raises) pass).files ↔
      file ∈ pass.files ∧ ∀ path ∈ paths, root.deletes raises path = true →
        root.resolve path ≠ file := by
  induction paths generalizing pass with
  | nil => simp
  | cons path paths ih =>
    rw [List.foldl_cons, ih, (visit_spec pass path).2, List.forall_mem_cons, ← and_assoc]
    refine and_congr_left fun _ => ?_
    by_cases hdeletes : root.deletes raises path = true
    · rw [if_pos hdeletes, Finset.mem_erase, and_comm]
      exact and_congr_right fun _ => ⟨fun hne _ => hne.symm, fun hne => (hne hdeletes).symm⟩
    · rw [if_neg hdeletes]
      exact ⟨fun hfile => ⟨hfile, fun h => absurd h hdeletes⟩, And.left⟩

end DataRoot

/-- What else a callback of the Log node depends on. -/
structure RetentionContext where
  committedAt : String := ""
  commitRaises : Bool := false
  /-- Whose path cannot be resolved. -/
  resolveRaises : String → Bool := fun _ => false
  /-- Whose file cannot be looked up or deleted. -/
  raises : String → Bool := fun _ => false
  /-- Whether the records that are let go of cannot be removed. -/
  removalRaises : Bool := false

namespace RetentionContext

/-- The candidates that a pass comes to: a path that cannot be resolved ends it. -/
def visited (c : RetentionContext) (paths : List String) : List String :=
  paths.takeWhile (!c.resolveRaises ·)

/-- The pass comes to its end, and what it lets go of is removed. -/
def completes (c : RetentionContext) (paths : List String) : Bool :=
  paths.all (!c.resolveRaises ·) && !c.removalRaises

def storage (c : RetentionContext) (root : DataRoot) (keepLatest : ℕ) (completes : Bool) :
    Storage where
  committedAt := c.committedAt
  commitRaises := c.commitRaises
  keepLatest := keepLatest
  removes path := completes && root.releases c.raises path

theorem visited_subset (c : RetentionContext) (paths : List String) :
    ∀ path ∈ c.visited paths, path ∈ paths := fun _ hpath =>
  (List.takeWhile_sublist _).subset hpath

theorem visited_of_completes {c : RetentionContext} {paths : List String}
    (h : c.completes paths = true) : c.visited paths = paths :=
  List.takeWhile_eq_self_iff.mpr fun path hpath =>
    List.all_eq_true.mp (Bool.and_eq_true_iff.mp h).1 path hpath

end RetentionContext

namespace LogNode

section
variable {F : Type} (n : LogNode F) (root : DataRoot) (keepLatest : ℕ)

/-- The files are deleted one by one; the records go all together in the end. -/
def enforceImageRetentionOnDisk (c : RetentionContext) (files : Finset String) :
    LogNode F × Finset String :=
  if keepLatest < 1 then (n, files)
  else
    let paths := n.tables.retentionCandidates keepLatest
    let pass := (c.visited paths).foldl (root.visit c.raises) { files }
    if c.completes paths then
      ({ n with tables := n.tables.removeImageRecords pass.removedRecords }, pass.files)
    else (n, pass.files)

/-- The pass over the files lets go of the records that the node is said to let go of. -/
theorem enforce_on_disk_node (c : RetentionContext) (files : Finset String) :
    (n.enforceImageRetentionOnDisk root keepLatest c files).1 =
      n.enforceImageRetention (c.storage root keepLatest
        (c.completes (n.tables.retentionCandidates keepLatest))) := by
  unfold enforceImageRetentionOnDisk enforceImageRetention
  by_cases hkeep : keepLatest < 1
  · rw [if_pos hkeep]
    exact (if_pos hkeep).symm
  · rw [if_neg hkeep]
    refine Eq.trans ?_ (if_neg hkeep).symm
    by_cases hcompletes : c.completes (n.tables.retentionCandidates keepLatest) = true
    · simp only [RetentionContext.visited_of_completes hcompletes,
        DataRoot.removed_records_foldl, List.nil_append, RetentionContext.storage, hcompletes,
        Bool.true_and, if_true]
    · simp only [RetentionContext.storage,
        Bool.eq_false_of_not_eq_true hcompletes, Bool.false_and, List.filter_false]
      rfl

end

section
variable {F : Type} [Runtime F] (n : LogNode F) (root : DataRoot) (keepLatest : ℕ)

def stored (c : RetentionContext) (message : LogEventMessage) : LogNode F :=
  if message.sessionId ≠ n.sessionId ∨ n.initialized = false then n
  else (n.persist (c.storage root keepLatest true) message.toEvent).2

def handleLogEventOnDisk (c : RetentionContext) (message : LogEventMessage)
    (files : Finset String) : Option LogPersistedAck × LogNode F × Finset String :=
  if message.sessionId ≠ n.sessionId ∨ n.initialized = false then (none, n, files)
  else match n.persist (c.storage root keepLatest true) message.toEvent with
    | (.error _, n) => (none, n, files)
    | (.ok (), n) =>
      (some {
        sessionId := n.sessionId
        producerNode := message.sourceNode
        producerInstanceId := message.producerInstanceId
        ackedLogIds := [message.logId]
        ackedRevisions := [message.revision] },
        n.enforceImageRetentionOnDisk root keepLatest c files)

variable (c : RetentionContext) (message : LogEventMessage) (files : Finset String)

/-- With the files beside it the node does what it does without them. -/
theorem handle_log_event_on_disk :
    ((n.handleLogEventOnDisk root keepLatest c message files).1,
      (n.handleLogEventOnDisk root keepLatest c message files).2.1) =
      n.handleLogEvent (c.storage root keepLatest (c.completes
        ((n.stored root keepLatest c message).tables.retentionCandidates keepLatest))) message := by
  unfold handleLogEventOnDisk handleLogEvent stored
  by_cases hskip : message.sessionId ≠ n.sessionId ∨ n.initialized = false
  · rw [if_pos hskip, if_pos hskip]
  · rw [if_neg hskip, if_neg hskip, if_neg hskip]
    have hpersist : ∀ completes, n.persist (c.storage root keepLatest completes) message.toEvent =
        n.persist (c.storage root keepLatest true) message.toEvent := fun _ => rfl
    rw [hpersist (c.completes _)]
    generalize n.persist (c.storage root keepLatest true) message.toEvent = persisted
    obtain ⟨result, n'⟩ := persisted
    cases result with
    | error e => rfl
    | ok _ => exact Prod.ext rfl (enforce_on_disk_node ..)

theorem handle_log_event_on_disk_cases :
    (n.stored root keepLatest c message = n ∧
      n.handleLogEventOnDisk root keepLatest c message files = (none, n, files)) ∨
    ∃ tables new ack, n.tables.Gains new tables ∧
      n.stored root keepLatest c message = { n with tables } ∧
      n.handleLogEventOnDisk root keepLatest c message files = (some ack,
        ({ n with tables } : LogNode F).enforceImageRetentionOnDisk root keepLatest c files) := by
  unfold stored handleLogEventOnDisk
  split
  · exact .inl ⟨rfl, rfl⟩
  · rcases persist_cases n (c.storage root keepLatest true) message.toEvent with ⟨e, he⟩ |
      ⟨tables, happend, he⟩
    · rw [he]
      exact .inl ⟨rfl, rfl⟩
    · rw [he]
      obtain ⟨new, hnew⟩ := n.tables.append_event_gains
        (c.storage root keepLatest true).committedAt message.toEvent
      rw [happend] at hnew
      exact .inr ⟨tables, new, _, hnew, rfl, rfl⟩

end

end LogNode

/-! ### Runs -/

/-- The Log node and the files below its data root, beside all files that were ever saved and all
images that were ever registered. -/
structure ImageStore (F : Type) where
  node : LogNode F
  files : Finset String := ∅
  saved : Finset String := ∅
  registered : List RegisteredImage := []

inductive RetentionStep where
  | save (file : String)
  | deliver (message : LogEventMessage) (c : RetentionContext)
  | initializeNodeResources (sessionId : String)

namespace ImageStore

section
variable {F : Type}

abbrev images (w : ImageStore F) : List RegisteredImage := w.node.tables.images

/-- A file is written before an image of its name is registered. -/
def Admits (root : DataRoot) (w : ImageStore F) : RetentionStep → Prop
  | .save file => ∀ image ∈ w.registered, root.resolve image.1 ≠ file
  | .deliver _ _ | .initializeNodeResources _ => True

structure Retained (root : DataRoot) (keepLatest : ℕ) (w : ImageStore F) : Prop where
  /-- The newest images of the table are the newest that were ever registered. -/
  newest : w.images.rtake keepLatest = w.registered.rtake keepLatest
  /-- What was deleted was below the data root and not among the newest. -/
  deleted : ∀ file ∈ w.saved, file ∉ w.files →
    ∃ image ∈ NewestKept.candidates keepLatest w.registered,
      root.resolve image.1 = file ∧ root.contains file = true
  /-- A record that was let go of has no file below the data root. -/
  released : ∀ image ∈ w.registered, image ∉ w.images →
    root.contains (root.resolve image.1) = true → root.resolve image.1 ∉ w.files

structure Invariant (root : DataRoot) (keepLatest : ℕ) (w : ImageStore F) : Prop where
  inOrder : w.node.tables.InOrder
  kept : NewestKept.Kept keepLatest w.registered w.images
  rising : w.registered.Pairwise fun a b => a.2.artifactOrder < b.2.artifactOrder
  given : ∀ image ∈ w.registered, image.2.artifactOrder ≤ w.node.tables.artifactSequence
  retained : w.Retained root keepLatest

variable {root : DataRoot} {keepLatest : ℕ} {w : ImageStore F}

theorem Invariant.nodup (h : w.Invariant root keepLatest) : w.registered.Nodup :=
  h.rising.imp fun hlt heq => hlt.ne (congrArg (·.2.artifactOrder) heq)

theorem Invariant.register (h : w.Invariant root keepLatest) {tables : LogTables F}
    {new : List RegisteredImage} (hnew : w.node.tables.Gains new tables) :
    Invariant root keepLatest
      { w with node := { w.node with tables }, registered := w.registered ++ new } := by
  have hkept : NewestKept.Kept keepLatest (w.registered ++ new) tables.images := by
    rw [hnew.images]
    exact h.kept.append new
  refine ⟨hnew.in_order h.inOrder, hkept, ?_, fun image himage => ?_, hkept.newest, ?_, ?_⟩
  · refine List.pairwise_append.mpr ⟨h.rising, hnew.rising, fun a ha b hb => ?_⟩
    exact (h.given a ha).trans_lt (hnew.fresh b hb).1
  · rcases List.mem_append.mp himage with hold | hfresh
    · exact (h.given image hold).trans hnew.sequence
    · exact (hnew.fresh image hfresh).2
  · intro file hsaved hgone
    obtain ⟨image, hcandidate, hfile⟩ := h.retained.deleted file hsaved hgone
    exact ⟨image, NewestKept.candidate_append hcandidate new, hfile⟩
  · intro image himage hreleased hinside
    have hmem : image ∉ w.images ++ new := hnew.images ▸ hreleased
    rw [List.mem_append, not_or] at hmem
    have hold := (List.mem_append.mp himage).resolve_right hmem.2
    exact h.retained.released image hold hmem.1 hinside

/-- The files that a pass deletes are those of candidates. -/
theorem Invariant.delete (h : w.Invariant root keepLatest) {paths : List String}
    (hpaths : ∀ path ∈ paths, path ∈ w.node.tables.retentionCandidates keepLatest)
    (raises : String → Bool) : Invariant root keepLatest
      { w with files := (paths.foldl (root.visit raises) { files := w.files }).files } := by
  refine ⟨h.inOrder, h.kept, h.rising, h.given, h.retained.newest, ?_, ?_⟩
  · intro file hsaved hgone
    by_cases hbefore : file ∈ w.files
    · rw [DataRoot.mem_files_foldl, not_and] at hgone
      obtain ⟨path, hpath, hdeletes, hfile⟩ :
          ∃ path ∈ paths, root.deletes raises path = true ∧ root.resolve path = file := by
        simpa using hgone hbefore
      have hcandidate := hpaths path hpath
      rw [LogTables.retention_candidates_eq h.inOrder, List.mem_map] at hcandidate
      obtain ⟨image, himage, rfl⟩ := hcandidate
      refine ⟨image, h.kept.candidate h.nodup himage, hfile, ?_⟩
      exact hfile ▸ (Bool.and_eq_true_iff.mp hdeletes).1
    · exact h.retained.deleted file hsaved hbefore
  · intro image himage hreleased hinside hfile
    rw [DataRoot.mem_files_foldl] at hfile
    exact h.retained.released image himage hreleased hinside hfile.1

/-- A pass lets go of candidates only, and of their files before. -/
theorem Invariant.enforce (h : w.Invariant root keepLatest) (c : RetentionContext) :
    Invariant root keepLatest { w with
      node := (w.node.enforceImageRetentionOnDisk root keepLatest c w.files).1
      files := (w.node.enforceImageRetentionOnDisk root keepLatest c w.files).2 } := by
  unfold LogNode.enforceImageRetentionOnDisk
  by_cases hkeep : keepLatest < 1
  · simp only [if_pos hkeep]
    exact h
  have hdeleted := h.delete (c.visited_subset _) c.raises
  by_cases hcompletes :
      c.completes (w.node.tables.retentionCandidates keepLatest) = true
  · simp only [if_neg hkeep, if_pos hcompletes, RetentionContext.visited_of_completes hcompletes,
      DataRoot.removed_records_foldl, List.nil_append] at hdeleted ⊢
    have himages := LogTables.images_remove_candidates h.inOrder keepLatest
      (root.releases c.raises)
    have hkept := h.kept.pass fun image => root.releases c.raises image.1
    rw [← himages] at hkept
    have hsublist := NewestKept.pass_sublist keepLatest
      (fun image => root.releases c.raises image.1) w.images
    rw [← himages] at hsublist
    refine ⟨h.inOrder.sublist hsublist rfl, hkept, h.rising, h.given, hkept.newest,
      hdeleted.retained.deleted, ?_⟩
    intro image himage hreleased hinside
    by_cases hbefore : image ∈ w.images
    · rw [DataRoot.mem_files_foldl, not_and]
      intro hfile hspared
      have hgone : image ∉ NewestKept.pass keepLatest
          (fun image => root.releases c.raises image.1) w.images := himages ▸ hreleased
      obtain ⟨hcandidate, hreleases⟩ := NewestKept.dropped hbefore hgone
      have hpath : image.1 ∈ w.node.tables.retentionCandidates keepLatest := by
        rw [LogTables.retention_candidates_eq h.inOrder]
        exact List.mem_map_of_mem hcandidate
      refine hspared image.1 hpath ?_ rfl
      simpa [DataRoot.releases, DataRoot.deletes, hinside] using hreleases
    · exact hdeleted.retained.released image himage hbefore hinside
  · simp only [if_neg hkeep, if_neg hcompletes]
    exact hdeleted

def start (sessionId : String) : ImageStore F := { node := { sessionId } }

theorem start_invariant (sessionId : String) :
    (start sessionId : ImageStore F).Invariant root keepLatest where
  inOrder := ⟨.nil, fun _ h => absurd h List.not_mem_nil⟩
  kept := ⟨List.Sublist.refl _, rfl⟩
  rising := .nil
  given _ h := absurd h List.not_mem_nil
  retained := ⟨rfl, fun _ h => absurd h (Finset.notMem_empty _),
    fun _ h => absurd h List.not_mem_nil⟩

theorem Invariant.save (h : w.Invariant root keepLatest) {file : String}
    (hunnamed : ∀ image ∈ w.registered, root.resolve image.1 ≠ file) :
    Invariant root keepLatest
      { w with files := insert file w.files, saved := insert file w.saved } := by
  refine ⟨h.inOrder, h.kept, h.rising, h.given, h.retained.newest, ?_, ?_⟩
  · intro other hsaved hgone
    rw [Finset.mem_insert, not_or] at hgone
    exact h.retained.deleted other ((Finset.mem_insert.mp hsaved).resolve_left hgone.1) hgone.2
  · intro image himage hreleased hinside hfile
    rcases Finset.mem_insert.mp hfile with hsame | hold
    · exact hunnamed image himage hsame
    · exact h.retained.released image himage hreleased hinside hold

end

section
variable {F : Type} [Runtime F]

def next (root : DataRoot) (keepLatest : ℕ) (w : ImageStore F) : RetentionStep → ImageStore F
  | .save file => { w with files := insert file w.files, saved := insert file w.saved }
  | .deliver message c =>
    let (_, node, files) := w.node.handleLogEventOnDisk root keepLatest c message w.files
    { w with
      node, files
      registered := w.registered ++
        (w.node.stored root keepLatest c message).tables.images.drop w.images.length }
  | .initializeNodeResources sessionId =>
    { w with node := { w.node with sessionId, initialized := true } }

variable {root : DataRoot} {keepLatest : ℕ} {w : ImageStore F}

theorem next_invariant (h : w.Invariant root keepLatest) {e : RetentionStep}
    (hadmits : w.Admits root e) : (w.next root keepLatest e).Invariant root keepLatest := by
  cases e with
  | save file => exact h.save hadmits
  | deliver message c =>
    rcases w.node.handle_log_event_on_disk_cases root keepLatest c message w.files with
      ⟨hstored, hhandle⟩ | ⟨tables, new, ack, hnew, hstored, hhandle⟩
    · simp only [next, hstored, hhandle, List.drop_length, List.append_nil]
      exact h
    · simp only [next, hstored, hhandle, hnew.images, List.drop_left]
      exact (h.register hnew).enforce c
  | initializeNodeResources sessionId =>
    obtain ⟨hnewest, hdeleted, hreleased⟩ := h.retained
    exact ⟨h.inOrder, h.kept, h.rising, h.given, hnewest, hdeleted, hreleased⟩

/-- Where a pass has come to its end, the images that are left beyond the newest have files that
could not be deleted. -/
theorem Invariant.bounded (h : w.Invariant root keepLatest) (hkeep : 1 ≤ keepLatest)
    {message : LogEventMessage} {c : RetentionContext}
    (hacked : (w.node.handleLogEventOnDisk root keepLatest c message w.files).1.isSome = true)
    (hcompletes : c.completes
      ((w.node.stored root keepLatest c message).tables.retentionCandidates keepLatest) = true) :
    ((w.next root keepLatest (.deliver message c)).images.filter fun image =>
      root.releases c.raises image.1).length ≤ keepLatest := by
  rcases w.node.handle_log_event_on_disk_cases root keepLatest c message w.files with
    ⟨_, hhandle⟩ | ⟨tables, new, ack, hnew, hstored, hhandle⟩
  · rw [hhandle] at hacked
    cases hacked
  · rw [hstored] at hcompletes
    simp only [next, images, hhandle, LogNode.enforceImageRetentionOnDisk,
      if_neg (Nat.not_lt.mpr hkeep), if_pos hcompletes,
      RetentionContext.visited_of_completes hcompletes, DataRoot.removed_records_foldl,
      List.nil_append]
    rw [LogTables.images_remove_candidates (hnew.in_order h.inOrder)]
    exact NewestKept.length_filter_pass_le _ _ _

/-- Retention deletes no image that is among the newest ever registered, nothing outside the data
root and nothing that was not registered; no file is left without a record, and after an
acknowledgement whose pass has come to its end no more records are left than are to be kept, those
apart whose files resist. -/
theorem image_retention {sessionId : String}
    (hrun : Execution (next root keepLatest) (Admits root) (start sessionId : ImageStore F) w) :
    w.Retained root keepLatest ∧
    ((w.registered.map fun image => root.resolve image.1).Nodup →
      ∀ image ∈ w.images.rtake keepLatest, root.resolve image.1 ∈ w.saved →
        root.resolve image.1 ∈ w.files) ∧
    (1 ≤ keepLatest → ∀ message c,
      (w.node.handleLogEventOnDisk root keepLatest c message w.files).1.isSome = true →
      c.completes ((w.node.stored root keepLatest c message).tables.retentionCandidates
        keepLatest) = true →
        ((w.next root keepLatest (.deliver message c)).images.filter fun image =>
          root.releases c.raises image.1).length ≤ keepLatest) := by
  have hinvariant := hrun.invariant (fun _ _ h hadmits => next_invariant h hadmits)
    (start_invariant sessionId)
  refine ⟨hinvariant.retained, fun hdistinct image himage hsaved => ?_,
    fun hkeep _ _ hacked hcompletes => hinvariant.bounded hkeep hacked hcompletes⟩
  -- what is deleted is an old image, and no other has its file
  by_contra hgone
  obtain ⟨old, hold, hsame, -⟩ := hinvariant.retained.deleted _ hsaved hgone
  rw [hinvariant.kept.newest] at himage
  have heq : old = image := List.inj_on_of_nodup_map hdistinct (NewestKept.mem_of_candidate hold)
    (List.mem_of_mem_drop himage) hsame
  exact NewestKept.not_candidate_of_newest hinvariant.nodup himage (heq ▸ hold)

end

/-! ### Two captures of which one image is kept -/

section

def discardPayload (path : String) : String :=
  "\x7b\"payload\":\x7b\"image_paths\":[\"" ++ path ++ "\"]\x7d,\"session_id\":\"s\"\x7d"

local instance retentionNumbers : Runtime ℤ := .whole [
  (discardPayload "/data/a.png",
    "8758cc9a9127348ecdcbc0cf840b376fddcfe2d9a214ad4dd0be8b43eedbefc7"),
  (discardPayload "/data/b.png",
    "15d59435c13b3880a65e0fde7386d9e460577f3781ad4c3d704abc121f2c80e7")]

def plainRoot : DataRoot where
  resolve path := path
  contains path := "/data/".isPrefixOf path

def discardMessage (logId payloadJson : String) : LogEventMessage where
  sessionId := "session-1"
  logId := logId
  revision := 1
  severity := 1
  eventType := "VISION_CAPTURE_DISCARDED"
  sourceNode := "vision"
  producerInstanceId := "instance-1"
  productId := "product-1"
  payloadJson := payloadJson
  payloadDigest := Runtime.sha256Text ℤ payloadJson
  occurredAtNs := 0

/-- The record of the first file cannot be removed at first. -/
def threeEvents : List RetentionStep := [
  .initializeNodeResources "session-1",
  .save "/data/a.png",
  .save "/data/b.png",
  .deliver (discardMessage "log-1" (discardPayload "/data/a.png")) {},
  .deliver (discardMessage "log-2" (discardPayload "/data/b.png")) { removalRaises := true }]

def afterThree : ImageStore ℤ := runTrace (next plainRoot 1) (start "session-1") threeEvents

def thirdMessage : LogEventMessage := discardMessage "log-3" (discardPayload "/data/b.png")

theorem one_image_kept :
    afterThree.Retained plainRoot 1 ∧ "/data/a.png" ∉ afterThree.files ∧
      afterThree.images.length = 2 ∧
      (afterThree.next plainRoot 1 (.deliver thirdMessage {})).images.length ≤ 1 := by
  have hrun : Execution (next plainRoot 1) (Admits plainRoot) (start "session-1" : ImageStore ℤ)
      afterThree := valid_trace_execution
    ⟨trivial, fun _ h => absurd h List.not_mem_nil, fun _ h => absurd h List.not_mem_nil, trivial,
      trivial, trivial⟩
  obtain ⟨hretained, -, hbounded⟩ := image_retention hrun
  have hfacts : ((afterThree.node.handleLogEventOnDisk plainRoot 1 {} thirdMessage
      afterThree.files).1.isSome = true) ∧ "/data/a.png" ∉ afterThree.files ∧
        afterThree.images.length = 2 := by decide +kernel
  have hcompletes : ∀ paths, ({} : RetentionContext).completes paths = true := fun _ =>
    Bool.and_eq_true_iff.mpr ⟨List.all_eq_true.mpr fun _ _ => rfl, rfl⟩
  have hleft := hbounded le_rfl thirdMessage {} hfacts.1 (hcompletes _)
  have hall : ∀ image : RegisteredImage, plainRoot.releases (fun _ => false) image.1 = true :=
    fun _ => Bool.or_true _
  rw [List.filter_eq_self.mpr fun image _ => hall image] at hleft
  exact ⟨hretained, hfacts.2.1, hfacts.2.2, hleft⟩

end

end ImageStore

end InspectionLine
