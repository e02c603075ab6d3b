import BulkImport.Control.Worker
import BulkImport.Import.PipelineSpec

/-!
# The job-row writes of the services

What `ProcessImport`, `ProcessAsyncExport` and the worker write to their job's row. Each begins
with `SetStarted`; after it, every `SET` it sends keeps the row's id, and keeps its timestamps in
line with its status (`Job.Stamped`) whenever they were: counters, `SetCompleted`, `SetFailed`,
and an `Update` from an in-memory job whose timestamps match its status.
-/

namespace BulkImport

/-- `completed` and `failed`, the statuses that `completed_at` goes with. -/
def JobStatus.finished : JobStatus → Bool
  | .completed | .failed => true
  | _ => false

/-- A job's timestamps match its status: `completed_at` is set exactly when the job is finished,
`started_at` only once it has left `pending`, and always while it is `processing`. -/
structure Job.Stamped (j : Job) : Prop where
  /-- `completed_at` is set exactly when the job is finished. -/
  completed : j.completedAt.isSome = j.status.finished
  /-- `started_at` is set only once the job has left `pending`. -/
  started : j.startedAt.isSome → j.status ≠ .pending
  /-- A `processing` job has a start time. -/
  processing : j.status = .processing → j.startedAt.isSome

/-- Whether a job's timestamps match its status, decided field by field. -/
instance (j : Job) : Decidable j.Stamped :=
  decidable_of_iff (j.completedAt.isSome = j.status.finished ∧
      (j.startedAt.isSome → j.status ≠ .pending) ∧ (j.status = .processing → j.startedAt.isSome))
    ⟨fun ⟨a, b, c⟩ => ⟨a, b, c⟩, fun ⟨a, b, c⟩ => ⟨a, b, c⟩⟩

/-- A `SET` that keeps a row's id, and keeps its timestamps in line with its status. -/
structure StampSafe (g : Job → Job) : Prop where
  /-- The row keeps its id. -/
  id_eq : ∀ j, (g j).id = j.id
  /-- A stamped row stays stamped. -/
  stamped : ∀ j, j.Stamped → (g j).Stamped

/-- `SetStarted` with some clock reading. -/
def StartSet (g : Job → Job) : Prop := ∃ t, g = Job.setStarted t

/-- `SetStarted` makes a row `processing` with a start time; its timestamps match when the row
had no completion time. -/
theorem setStarted_stamped {j : Job} (h : j.completedAt = none) (t : Time) :
    (j.setStarted t).Stamped :=
  ⟨by simp [Job.setStarted, h, JobStatus.finished], by simp [Job.setStarted],
    fun _ => rfl⟩

/-- The counters a pipeline writes, `SetTotalRecords` and `UpdateProgress`, are stamp-safe. -/
theorem counterSet_stampSafe {g : Job → Job} (h : JobRepository.CounterSet g) : StampSafe g := by
  rcases h with ⟨t, rfl⟩ | ⟨p, s, f, rfl⟩ <;> exact ⟨fun _ => rfl, fun _ h => ⟨h.1, h.2, h.3⟩⟩

/-- `SetCompleted` makes a row `completed` with a completion time and keeps its start time. -/
theorem setCompleted_stampSafe (t : Time) (s f : Int) : StampSafe (Job.setCompleted t s f) :=
  ⟨fun _ => rfl, fun _ h => ⟨rfl, by simp [Job.setCompleted], by simp [Job.setCompleted]⟩⟩

/-- `SetFailed` makes a row `failed` with a completion time and keeps its start time. -/
theorem setFailed_stampSafe (t : Time) (m : String) : StampSafe (Job.setFailed t m) :=
  ⟨fun _ => rfl, fun _ h => ⟨rfl, by simp [Job.setFailed], by simp [Job.setFailed]⟩⟩

/-- `Update` writes the in-memory job's status and timestamps together. -/
theorem overwrite_stampSafe {mem : Job} (h : mem.Stamped) : StampSafe (Job.overwrite mem) :=
  ⟨fun _ => rfl, fun _ _ => ⟨h.1, h.2, h.3⟩⟩

/-- A property of rows that every `SET` of `S` keeps on the rows it rewrites holds of the whole
table after the update, when it held before. -/
theorem RowEdit.forall {k : Uuid} {S : (Job → Job) → Prop} {js js' : List Job} {P : Job → Prop}
    (h : RowEdit k S js js') (hS : ∀ g, S g → ∀ j ∈ js, j.id = k → P j → P (g j))
    (hP : ∀ j ∈ js, P j) : ∀ j ∈ js', P j := by
  obtain ⟨g, hg, rfl⟩ := h
  intro j' hj'
  obtain ⟨j, hj, rfl⟩ := List.mem_map.mp hj'
  by_cases hk : j.id = k
  · simpa [hk] using hS g hg j hj hk (hP j hj)
  · simpa [hk] using hP j hj

/-- An update by a `SET` of `S` is an update by a `SET` of any larger class. -/
theorem RowEdit.mono {k : Uuid} {S S' : (Job → Job) → Prop} (hS : ∀ g, S g → S' g)
    {js js' : List Job} (h : RowEdit k S js js') : RowEdit k S' js js' :=
  let ⟨g, hg, he⟩ := h; ⟨g, hS g hg, he⟩

variable {R : List Job → List Job → Prop}

namespace JobRepository

/-- `SetStarted` writes the job's row by `SetStarted` with the clock's reading. -/
theorem setStarted_jobsBy (id : Uuid) : JobsBy (RowEdit id StartSet) (setStarted id) :=
  JobsBy.now_rule.bind fun t => updateWith_jobsBy ⟨t, rfl⟩

/-- `SetCompleted` writes only the job's row, by a stamp-safe `SET`. -/
theorem setCompleted_jobsBy (id : Uuid) (s f : Int) :
    JobsBy (RowEdit id StampSafe) (setCompleted id s f) :=
  JobsBy.now_rule.bind fun t => updateWith_jobsBy (setCompleted_stampSafe t s f)

/-- `SetFailed` writes only the job's row, by a stamp-safe `SET`. -/
theorem setFailed_jobsBy (id : Uuid) (m : String) :
    JobsBy (RowEdit id StampSafe) (setFailed id m) :=
  JobsBy.now_rule.bind fun t => updateWith_jobsBy (setFailed_stampSafe t m)

/-- `Update` of an in-memory job whose timestamps match its status writes only its row, by a
stamp-safe `SET`. -/
theorem update_jobsBy {job : Job} {k : Uuid} (hk : job.id = k) (h : job.Stamped) :
    JobsBy (RowEdit k StampSafe) (update job) :=
  hk ▸ updateWith_jobsBy (overwrite_stampSafe h)

end JobRepository

/-- The counters a pipeline writes are stamp-safe `SET`s. -/
theorem JobsBy.counters_stampSafe {α : Type} {k : Uuid} {x : Op α}
    (h : JobsBy (RowEdit k JobRepository.CounterSet) x) : JobsBy (RowEdit k StampSafe) x :=
  h.mono fun _ _ => RowEdit.mono fun _ => counterSet_stampSafe

/-- The pipeline of the job's resource writes only the job's row, by stamp-safe `SET`s. -/
theorem processResource_jobsBy (cfg : ImportConfig) (job : Job) (file : ImportFile) :
    JobsBy (RowEdit job.id StampSafe) (processResource cfg job file) := by
  unfold processResource
  split
  · exact (processUsersImport_jobsBy cfg job file).counters_stampSafe
  · exact (processArticlesImport_jobsBy cfg job file).counters_stampSafe
  · exact (processCommentsImport_jobsBy cfg job file).counters_stampSafe

/-- `ProcessImport` is `SetStarted` followed by stamp-safe writes to its job's row. -/
theorem processImport_start (cfg : ImportConfig) (file : ImportFile) (job : Job) :
    ∃ rest : Unit → Op Job,
      processImport cfg file job =
        (Op.wrap "failed to update job status: " (JobRepository.setStarted job.id) >>= rest) ∧
      ∀ u, JobsBy (RowEdit job.id StampSafe) (rest u) := by
  refine ⟨_, rfl, fun _ => (processResource_jobsBy cfg job file).attempt.bind fun r => ?_⟩
  rcases r with e | ⟨⟩ <;> dsimp only
  · exact ((JobRepository.setFailed_jobsBy _ _).attempt.bind fun _ => JobsBy.pure_rule _).bind
      fun _ => JobsBy.fail_rule e
  · refine (JobRepository.getByID_jobsBy _).bind fun r => ?_
    rcases r with ⟨_ | fj, _⟩ <;> dsimp only
    · exact JobsBy.pure_rule _
    · exact (JobRepository.setCompleted_jobsBy _ _ _).attempt.bind fun _ => JobsBy.pure_rule _

/-! ## The export service -/

/-- Creating the export file leaves the jobs table alone. -/
theorem createFile_jobsBy (path : String) : JobsBy R (createFile path) :=
  JobsBy.call_of_jobs fun _ _ _ h => by cases h; rfl

/-- Writing to the export file leaves the jobs table alone. -/
theorem writeFile_jobsBy (path : String) (bytes : List Char) : JobsBy R (writeFile path bytes) :=
  JobsBy.call_of_jobs fun db _ _ h => by
    split at h <;> cases h
    rfl

/-- Reading the export file's size leaves the jobs table alone. -/
theorem statFile_jobsBy (path : String) : JobsBy R (statFile path) :=
  JobsBy.call_of_jobs fun db _ _ h => by
    split at h <;> cases h
    rfl

/-- `writeLines` leaves the jobs table alone. -/
theorem writeLines_jobsBy {E : Type} (marshal : E → Option JVal) (writeErr path : String) :
    ∀ count es, JobsBy R (writeLines marshal writeErr path count es)
  | _, [] => JobsBy.pure_rule _
  | count, e :: es => by
    simp only [writeLines]
    split
    · exact writeLines_jobsBy marshal writeErr path count es
    · exact ((writeFile_jobsBy _ _).wrap _).bind fun _ => writeLines_jobsBy marshal writeErr path _ es

/-- The cursor of `GetAllWithCursor` moves the jobs table only as its callback does. -/
theorem getAllWithCursor_jobsBy {E σ : Type} (res : ResourceType) (rows : Db → List E) (size : Nat)
    {callback : σ → List E → Op σ} (hcb : ∀ acc b, JobsBy R (callback acc b)) (acc : σ) :
    JobsBy R (getAllWithCursor res rows size callback acc) :=
  (JobsBy.call_of_jobs fun _ _ _ h => by cases h; rfl).bind fun _ => cursorLoop_jobsBy hcb _ _ _

/-- `handleExportFailure` writes only the job's row, by `SetFailed`. -/
theorem handleExportFailure_jobsBy (id : Uuid) (msg : String) :
    JobsBy (RowEdit id StampSafe) (handleExportFailure id msg) :=
  (JobRepository.setFailed_jobsBy _ _).attempt.bind fun _ => JobsBy.pure_rule _

/-- `ProcessAsyncExport` is `SetStarted` followed by stamp-safe writes to its job's row, when the
in-memory job, which its `Update` writes back, has timestamps that match its status. -/
theorem processAsyncExport_start (cfg : ExportConfig) (job : Job) (filters : ExportFilters)
    (hj : job.Stamped) :
    ∃ rest : Unit → Op Job,
      processAsyncExport cfg job filters =
        (Op.wrap "failed to update job status: " (JobRepository.setStarted job.id) >>= rest) ∧
      ∀ u, JobsBy (RowEdit job.id StampSafe) (rest u) := by
  refine ⟨_, rfl, fun _ => JobsBy.now_rule.bind fun t => (createFile_jobsBy _).attempt.bind
    fun r => ?_⟩
  rcases r with e | ⟨⟩ <;> dsimp only
  · exact (handleExportFailure_jobsBy _ _).bind fun _ => JobsBy.fail_rule e
  have hstream : JobsBy (RowEdit job.id StampSafe) (match job.resource with
      | .users => streamUsers cfg (exportPath cfg job t) filters
      | .articles => streamArticles cfg (exportPath cfg job t) filters
      | .comments => streamComments cfg (exportPath cfg job t) filters) := by
    split <;> exact getAllWithCursor_jobsBy _ _ _ (writeLines_jobsBy _ _ _) _
  refine hstream.attempt.bind fun r => ?_
  rcases r with e | _ <;> dsimp only
  · exact (handleExportFailure_jobsBy _ _).bind fun _ => JobsBy.fail_rule e
  · refine (statFile_jobsBy _).attempt.bind fun _ =>
      (JobRepository.update_jobsBy ?_ ?_).attempt.bind fun _ =>
      (JobRepository.setCompleted_jobsBy _ _ _).attempt.bind fun _ => JobsBy.pure_rule _
    · rfl
    · exact ⟨hj.1, hj.2, hj.3⟩

/-! ## The worker -/

/-- `failJob` writes back a failed job with a completion time, whatever it was before. -/
theorem failJob_jobsBy (job : Job) (msg : String) :
    JobsBy (RowEdit job.id StampSafe) (failJob job msg) := by
  refine JobsBy.now_rule.bind fun t => ?_
  dsimp only
  refine (JobRepository.update_jobsBy ?_ ?_).attempt.bind fun _ => JobsBy.pure_rule _
  · rfl
  · exact ⟨rfl, fun _ => nofun, nofun⟩

/-- Opening an upload leaves the jobs table alone. -/
theorem openFile_jobsBy (path : String) : JobsBy R (openFile path) :=
  JobsBy.call_of_jobs fun db _ _ h => by
    split at h <;> cases h
    rfl

/-- Removing an upload leaves the jobs table alone. -/
theorem removeUpload_jobsBy (path : String) : JobsBy R (removeUpload path) :=
  JobsBy.ite_rule ((JobsBy.call_of_jobs fun _ _ _ h => by cases h; rfl).attempt.bind fun _ =>
    JobsBy.pure_rule _) (JobsBy.pure_rule _)

/-! ## Which rows a run writes -/

/-- A `SET` that keeps a row's id. -/
def IdSafe (g : Job → Job) : Prop := ∀ j, (g j).id = j.id

/-- Stamp-safe writes keep the ids of the rows. -/
theorem JobsBy.idSafe_of_stampSafe {α : Type} {k : Uuid} {x : Op α}
    (h : JobsBy (RowEdit k StampSafe) x) : JobsBy (RowEdit k IdSafe) x :=
  h.mono fun _ _ => RowEdit.mono fun _ hg => hg.id_eq

/-- `SetStarted` keeps the ids of the rows. -/
theorem JobsBy.idSafe_of_start {α : Type} {k : Uuid} {x : Op α}
    (h : JobsBy (RowEdit k StartSet) x) : JobsBy (RowEdit k IdSafe) x :=
  h.mono fun _ _ => RowEdit.mono fun _ ⟨_, hg⟩ => hg ▸ fun _ => rfl

/-- `ProcessImport` writes only its job's row, and keeps the row's id. -/
theorem processImport_jobsBy (cfg : ImportConfig) (file : ImportFile) (job : Job) :
    JobsBy (RowEdit job.id IdSafe) (processImport cfg file job) := by
  obtain ⟨rest, he, hrest⟩ := processImport_start cfg file job
  rw [he]
  exact ((JobRepository.setStarted_jobsBy _).wrap _).idSafe_of_start.bind fun u =>
    (hrest u).idSafe_of_stampSafe

/-- The worker's import run writes only its own job's row, and keeps its id. -/
theorem processImportJob_jobsBy (cfg : ImportConfig) (job : Job) (src : JobSource) :
    JobsBy (RowEdit job.id IdSafe) (processImportJob cfg job src) := by
  have tail : ∀ y : PUnit, JobsBy (RowEdit job.id IdSafe)
      (pure y >>= fun _ => removeUpload src.filePath) :=
    fun _ => (JobsBy.pure_rule _).bind fun _ => removeUpload_jobsBy _
  unfold processImportJob
  dsimp only
  refine JobsBy.ite_rule ((openFile_jobsBy _).attempt.bind fun r => ?_)
    (JobsBy.ite_rule ?_ ?_)
  · rcases r with e | file
    · exact (failJob_jobsBy _ _).idSafe_of_stampSafe.bind fun _ => tail ()
    · exact (processImport_jobsBy _ _ _).attempt.bind fun _ => tail ()
  · exact (failJob_jobsBy _ _).idSafe_of_stampSafe.bind fun _ => tail ()
  · exact (processImport_jobsBy _ _ _).attempt.bind fun _ => tail ()

/-- The worker's export run writes only its own job's row, and keeps its id. -/
theorem processExportJob_jobsBy (cfg : ExportConfig) (job : Job) (filters : ExportFilters)
    (hj : job.Stamped) : JobsBy (RowEdit job.id IdSafe) (processExportJob cfg job filters) := by
  obtain ⟨rest, he, hrest⟩ := processAsyncExport_start cfg job filters hj
  unfold processExportJob
  rw [he]
  exact (((JobRepository.setStarted_jobsBy _).wrap _).idSafe_of_start.bind fun u =>
    (hrest u).idSafe_of_stampSafe).attempt.bind fun _ => JobsBy.pure_rule _

end BulkImport
