import BulkImport.Store.Target

/-!
# The `jobs` and `job_errors` tables

The statements of `JobRepository` (`internal/repository/postgres/job_repo.go`) as functions of
the tables. Every `UPDATE jobs ... WHERE id = $1` rewrites the one row with that id, or no row
(without error) when there is none; the written row must meet the table's constraints: the
status `CHECK` (which leaves out `cancelled`), `INTEGER` counters, and the widths of `file_path`
and `idempotency_key`. `Create` also needs a fresh id and a fresh idempotency key, and
`AddErrors` inserts its page in one transaction, all or nothing.

The `updated_at` column, which every statement and the trigger write, is left out: no modelled
decision reads it.
-/

namespace BulkImport

/-- The constraints of a `jobs` row. -/
def jobRowError (j : Job) : Option String :=
  firstError
    [if j.status = .cancelled then some (errCheck "jobs" "jobs_status_check") else none,
     if [j.totalRecords, j.processedRecords, j.successfulRecords, j.failedRecords].all fitsInt4
     then none else some "pq: integer out of range",
     columnError [(255, j.idempotencyKey), (1024, j.filePath), (0, j.errorMessage)]]

/-- `JobRepository.Create`'s `INSERT`: the job appended, unless its id or its idempotency key is
taken or the row breaks a constraint. -/
def insertJob (j : Job) (jobs : List Job) : Except String (List Job) :=
  if jobs.any (·.id == j.id) then .error (errUnique "jobs_pkey")
  else if j.idempotencyKey.isSome && jobs.any (·.idempotencyKey == j.idempotencyKey) then
    .error (errUnique "jobs_idempotency_key_key")
  else match jobRowError j with
    | some e => .error e
    | none => .ok (jobs ++ [j])

/-- An `UPDATE jobs SET ... WHERE id = $1`: the job's row rewritten by `f`, if the new row meets the
constraints. -/
def updateJobRow (id : Uuid) (f : Job → Job) (jobs : List Job) : Except String (List Job) :=
  match (jobs.filter (·.id == id)).filterMap (jobRowError ∘ f) with
  | e :: _ => .error e
  | [] => .ok (jobs.map fun j => if j.id == id then f j else j)

/-- The `SET` of `JobRepository.Update`: every column it writes, from the in-memory job. -/
def Job.overwrite (mem : Job) (row : Job) : Job :=
  { row with status := mem.status, totalRecords := mem.totalRecords,
             processedRecords := mem.processedRecords, successfulRecords := mem.successfulRecords,
             failedRecords := mem.failedRecords, errorMessage := mem.errorMessage,
             startedAt := mem.startedAt, completedAt := mem.completedAt, filePath := mem.filePath }

/-- The `SET` of `UpdateProgress`. -/
def Job.setProgress (processed successful failed : Int) (j : Job) : Job :=
  { j with processedRecords := processed, successfulRecords := successful, failedRecords := failed }

/-- The `SET` of `SetStarted`. -/
def Job.setStarted (now : Time) (j : Job) : Job :=
  { j with status := .processing, startedAt := some now }

/-- The `SET` of `SetCompleted`. -/
def Job.setCompleted (now : Time) (successful failed : Int) (j : Job) : Job :=
  { j with status := .completed, successfulRecords := successful, failedRecords := failed,
           completedAt := some now }

/-- The `SET` of `SetFailed`. -/
def Job.setFailed (now : Time) (msg : String) (j : Job) : Job :=
  { j with status := .failed, errorMessage := some msg, completedAt := some now }

/-- The `SET` of `SetTotalRecords`. -/
def Job.setTotal (total : Int) (j : Job) : Job := { j with totalRecords := total }

/-- The `SET` of `IncrementProgress`. -/
def Job.increment (successDelta failedDelta : Int) (j : Job) : Job :=
  { j with processedRecords := j.processedRecords + successDelta + failedDelta,
           successfulRecords := j.successfulRecords + successDelta,
           failedRecords := j.failedRecords + failedDelta }

/-- The constraints of a `job_errors` row: its job exists, its row number is an `INTEGER`, and
its texts fit their columns. -/
def jobErrorRowError (jobs : List Job) (e : JobError) : Option String :=
  firstError
    [if jobs.any (·.id == e.jobId) then none
     else some (errForeignKey "job_errors" "job_errors_job_id_fkey"),
     if fitsInt4 e.rowNumber then none else some "pq: integer out of range",
     columnError [(255, some e.recordIdentifier), (255, some e.fieldName), (100, some e.errorCode),
       (0, some e.errorMessage)]]

/-- `AddErrors`' transaction: the page appended, or the first refusal. -/
def insertJobErrors (jobs : List Job) (page : List JobError) (errs : List JobError) :
    Except String (List JobError) :=
  match page.filterMap (jobErrorRowError jobs) with
  | e :: _ => .error e
  | [] => .ok (errs ++ page)

/-! ## What the statements write -/

/-- `SetStarted` makes a row `processing`. -/
@[simp] theorem setStarted_status (now : Time) (j : Job) : (j.setStarted now).status = .processing := rfl

/-- `SetStarted` records the start time. -/
@[simp] theorem setStarted_startedAt (now : Time) (j : Job) : (j.setStarted now).startedAt = some now := rfl

/-- `SetCompleted` makes a row `completed`. -/
@[simp] theorem setCompleted_status (now : Time) (s f : Int) (j : Job) :
    (j.setCompleted now s f).status = .completed := rfl

/-- `SetFailed` makes a row `failed`. -/
@[simp] theorem setFailed_status (now : Time) (msg : String) (j : Job) :
    (j.setFailed now msg).status = .failed := rfl

/-- An update rewrites the job's row and no other. -/
theorem updateJobRow_ok {id : Uuid} {f : Job → Job} {jobs jobs' : List Job}
    (h : updateJobRow id f jobs = .ok jobs') : jobs' = jobs.map fun j => if j.id == id then f j else j := by
  unfold updateJobRow at h
  split at h
  · cases h
  · cases h; rfl

/-- An insert appends the job, whose id no row had. -/
theorem insertJob_ok {j : Job} {jobs jobs' : List Job} (h : insertJob j jobs = .ok jobs') :
    jobs' = jobs ++ [j] ∧ ∀ r ∈ jobs, r.id ≠ j.id := by
  unfold insertJob at h
  split at h
  · cases h
  rename_i hid
  split at h
  · cases h
  split at h
  · cases h
  cases h
  refine ⟨rfl, fun r hr he => hid ?_⟩
  exact List.any_eq_true.mpr ⟨r, hr, by simp [he]⟩

end BulkImport
