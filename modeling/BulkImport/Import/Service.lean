import BulkImport.Export.Stream

/-!
# The import service's entry points

`ProcessImport` and `ProcessJob` of `internal/service/import/format.go`: start the job, run the
resource's pipeline, and record its outcome, `SetFailed` with the pipeline's error or
`SetCompleted` with the counts read back by `GetByID`. `GetByID` ignores its error and hands back
a zero job with it, so a failed read completes the job with zero counts.

`ProcessJob` is the older entry point that opens the job's file itself; nothing calls it. After a
successful pipeline it reads `finalJob` for its log line even when `GetByID` found no row, a nil
dereference that the model returns as the error of the Go runtime's panic.
-/

namespace BulkImport

/-- `os.Open` of a file of the upload directory. -/
def openFile (path : String) : Op ImportFile :=
  call .openFile [] fun db =>
    match db.uploads.find? (·.path == path) with
    | some f => .ok (f, db)
    | none => .error ("open " ++ path ++ ": no such file or directory")

/-- The import service's `handleJobFailure`: `SetFailed`, whose error is ignored. -/
def handleJobFailure (jobId : Uuid) (msg : String) : Op Unit := do
  let _ ← Op.attempt (JobRepository.setFailed jobId msg)

/-- The pipeline of the job's resource. -/
def processResource (cfg : ImportConfig) (job : Job) (file : ImportFile) : Op Unit :=
  match job.resource with
  | .users => processUsersImport cfg job file
  | .articles => processArticlesImport cfg job file
  | .comments => processCommentsImport cfg job file

/-- `ProcessImport`: the job as the caller holds it afterwards. -/
def processImport (cfg : ImportConfig) (file : ImportFile) (job : Job) : Op Job := do
  Op.wrap "failed to update job status: " (JobRepository.setStarted job.id)
  match ← Op.attempt (processResource cfg job file) with
  | .error e => do
    handleJobFailure job.id e
    Op.fail e
  | .ok () => do
    match (← JobRepository.getByID job.id).1 with
    | some fj => do
      let _ ← Op.attempt (JobRepository.setCompleted job.id fj.successfulRecords fj.failedRecords)
      pure { job with status := .completed, successfulRecords := fj.successfulRecords,
                      failedRecords := fj.failedRecords }
    | none => pure job

/-- `ProcessJob`. -/
def processJob (cfg : ImportConfig) (job : Job) : Op Unit := do
  Op.wrap "failed to update job status: " (JobRepository.setStarted job.id)
  match ← Op.attempt (openFile (job.filePath.getD "")) with
  | .error e => do
    handleJobFailure job.id ("Failed to open file: " ++ e)
    Op.fail e
  | .ok file => do
    match ← Op.attempt (processResource cfg job file) with
    | .error e => do
      handleJobFailure job.id e
      Op.fail e
    | .ok () => do
      match (← JobRepository.getByID job.id).1 with
      | some fj => do
        let _ ← Op.attempt (JobRepository.setCompleted job.id fj.successfulRecords fj.failedRecords)
      | none => Op.fail "runtime error: invalid memory address or nil pointer dereference"

end BulkImport
