import BulkImport.Store.Repo
import BulkImport.Store.Triple

/-!
# What the repositories write to the jobs table

Every method of `Repo` as a `JobsBy` fact: the staging, entity and journal statements leave the
jobs table alone, the reads too, and each `JobRepository` update rewrites the rows of its job with
its `SET`. Services are proved about from these, never from the methods' bodies.
-/

namespace BulkImport

variable {R : List Job → List Job → Prop}

/-- An update of job `k` with a `SET` of `S`. -/
theorem updateWith_jobsBy {stmt : Stmt} {k : Uuid} {g : Job → Job} {S : (Job → Job) → Prop}
    (hg : S g) : JobsBy (RowEdit k S) (JobRepository.updateWith stmt k g) :=
  JobsBy.call_rule fun db _ db' h => by
    obtain ⟨jobs, hj, he⟩ := except_map_eq_ok.mp h
    cases he
    exact .inr ⟨g, hg, updateJobRow_ok hj⟩

/-- The cursor of a `Get*WithCursor` moves the jobs table only as its callback does. -/
theorem cursorLoop_jobsBy {Rw σ : Type} {fetch : Stmt} {size : Nat}
    {callback : σ → List Rw → Op σ} (hcb : ∀ acc b, JobsBy R (callback acc b)) :
    ∀ acc batch rows, JobsBy R (cursorLoop fetch size callback acc batch rows)
  | acc, batch, [] => by
    simp only [cursorLoop]
    exact JobsBy.ite_rule (JobsBy.pure_rule _) (hcb _ _)
  | acc, batch, r :: rs => by
    simp only [cursorLoop]
    refine (JobsBy.call_of_jobs fun _ _ _ h => ?_).attempt.bind fun res => ?_
    · cases h; rfl
    rcases res with e | ⟨⟩ <;> dsimp only
    · refine JobsBy.ite_rule (JobsBy.bind (JobsBy.pure_rule _) fun _ => ?_)
        (JobsBy.bind (hcb _ _) fun _ => ?_) <;> exact JobsBy.fail_rule e
    · refine JobsBy.ite_rule (JobsBy.bind (hcb _ _) fun _ => ?_) ?_ <;>
        exact cursorLoop_jobsBy hcb _ _ rs

namespace StagingRepository

variable {F : Type} (slot : StagingSlot F) (jobId : Uuid)

/-- `CreateStaging*` leaves the jobs table alone. -/
theorem createStaging_jobsBy (rows : List (StagingRow F)) :
    JobsBy R (createStaging slot jobId rows) := by
  refine JobsBy.ite_rule (JobsBy.pure_rule _) (JobsBy.call_of_jobs fun db _ db' h => ?_)
  obtain ⟨t, -, he⟩ := except_map_eq_ok.mp h
  cases he
  exact slot.jobs_set t db

/-- A marking statement on a staging table leaves the jobs table alone. -/
theorem mark_jobsBy (stmt : Stmt) (f : Db → List (StagingRow F) → List (StagingRow F) × Nat) :
    JobsBy R (mark slot stmt f) :=
  JobsBy.call_of_jobs fun db _ _ h => by cases h; exact slot.jobs_set _ db

/-- `GetValidStaging*` moves the jobs table only as its callback does. -/
theorem getValidStaging_jobsBy {σ : Type} (size : Nat) {callback : σ → List (StagingRow F) → Op σ}
    (hcb : ∀ acc b, JobsBy R (callback acc b)) (acc : σ) :
    JobsBy R (getValidStaging slot jobId size callback acc) :=
  (JobsBy.call_of_jobs fun _ _ _ h => by cases h; rfl).bind fun _ => cursorLoop_jobsBy hcb _ _ _

/-- `CleanupStaging*` leaves the jobs table alone. -/
theorem cleanupStaging_jobsBy : JobsBy R (cleanupStaging slot jobId) :=
  JobsBy.call_of_jobs fun db _ _ h => by cases h; exact slot.jobs_set _ db

end StagingRepository

namespace JobRepository

/-- `GetByID` leaves the jobs table alone. -/
theorem getByID_jobsBy (id : Uuid) : JobsBy R (getByID id) := by
  refine (JobsBy.call_of_jobs fun _ _ _ h => ?_).attempt.bind fun r => ?_
  · cases h; rfl
  · rcases r with _ | _ <;> exact JobsBy.pure_rule _

/-- `AddErrors` leaves the jobs table alone. -/
theorem addErrors_jobsBy (page : List JobError) : JobsBy R (addErrors page) := by
  refine JobsBy.ite_rule (JobsBy.pure_rule _) (JobsBy.call_of_jobs fun db _ db' h => ?_)
  obtain ⟨t, -, he⟩ := except_map_eq_ok.mp h
  cases he
  rfl

/-- The `SET`s of the counter columns, which leave status and timestamps alone. -/
def CounterSet (g : Job → Job) : Prop :=
  (∃ t, g = Job.setTotal t) ∨ ∃ p s f, g = Job.setProgress p s f

/-- `UpdateProgress` writes only the job's row, by a counter `SET`. -/
theorem updateProgress_jobsBy (id : Uuid) (p s f : Int) :
    JobsBy (RowEdit id CounterSet) (updateProgress id p s f) :=
  updateWith_jobsBy (.inr ⟨p, s, f, rfl⟩)

/-- `SetTotalRecords` writes only the job's row, by a counter `SET`. -/
theorem setTotalRecords_jobsBy (id : Uuid) (t : Int) :
    JobsBy (RowEdit id CounterSet) (setTotalRecords id t) :=
  updateWith_jobsBy (.inl ⟨t, rfl⟩)

end JobRepository

/-- `CreateBatch`'s fill draws ids and reads the clock, and calls nothing. -/
theorem fillId_quiet (id : Uuid) : Quiet (fillId id) :=
  Quiet.ite_rule Quiet.newUuid_rule (Quiet.pure_rule _)

/-- Filling in the ids and times of users sends no statement. -/
theorem UserRepository.fill_quiet (t : Time) : ∀ us, Quiet (UserRepository.fill t us)
  | [] => Quiet.pure_rule _
  | u :: us => (fillId_quiet u.id).bind fun _ => (fill_quiet t us).bind fun _ => Quiet.pure_rule _

/-- Filling in the ids and times of articles sends no statement. -/
theorem ArticleRepository.fill_quiet (t : Time) : ∀ as, Quiet (ArticleRepository.fill t as)
  | [] => Quiet.pure_rule _
  | a :: as => (fillId_quiet a.id).bind fun _ => (fill_quiet t as).bind fun _ => Quiet.pure_rule _

/-- Filling in the ids and times of comments sends no statement. -/
theorem CommentRepository.fill_quiet (t : Time) : ∀ cs, Quiet (CommentRepository.fill t cs)
  | [] => Quiet.pure_rule _
  | c :: cs => (fillId_quiet c.id).bind fun _ => (fill_quiet t cs).bind fun _ => Quiet.pure_rule _

/-- A statement that writes one table other than `jobs`. -/
theorem call_map_jobsBy {α β : Type} {stmt : Stmt} {rows : List Nat} {x : Db → Except String β}
    {g : Db → β → α × Db} (hg : ∀ db b, (g db b).2.jobs = db.jobs) :
    JobsBy R (call stmt rows fun db => (x db).map (g db)) :=
  JobsBy.call_of_jobs fun db _ _ h => by
    obtain ⟨b, -, he⟩ := except_map_eq_ok.mp h
    rw [← hg db b, he]

/-- `CreateBatch` of users leaves the jobs table alone. -/
theorem UserRepository.createBatch_jobsBy (rows : List Nat) (users : List User) :
    JobsBy R (UserRepository.createBatch rows users) :=
  JobsBy.ite_rule (JobsBy.pure_rule _) (JobsBy.now_rule.bind fun t =>
    (UserRepository.fill_quiet t users).jobsBy.bind fun _ => call_map_jobsBy fun _ _ => rfl)

/-- `CreateBatch` of articles leaves the jobs table alone. -/
theorem ArticleRepository.createBatch_jobsBy (rows : List Nat) (articles : List Article) :
    JobsBy R (ArticleRepository.createBatch rows articles) :=
  JobsBy.ite_rule (JobsBy.pure_rule _) (JobsBy.now_rule.bind fun t =>
    (ArticleRepository.fill_quiet t articles).jobsBy.bind fun _ => call_map_jobsBy fun _ _ => rfl)

/-- `CreateBatch` of comments leaves the jobs table alone. -/
theorem CommentRepository.createBatch_jobsBy (rows : List Nat) (comments : List Comment) :
    JobsBy R (CommentRepository.createBatch rows comments) :=
  JobsBy.ite_rule (JobsBy.pure_rule _) (JobsBy.now_rule.bind fun t =>
    (CommentRepository.fill_quiet t comments).jobsBy.bind fun _ => call_map_jobsBy fun _ _ => rfl)

end BulkImport
