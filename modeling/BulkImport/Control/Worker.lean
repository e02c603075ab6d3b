import BulkImport.Import.Service

/-!
# The controller and its worker pool

The handlers `CreateImport` and `CreateAsyncExport` (`part_004`) create a pending job and hand it
to the worker pool of `internal/worker` (`models.go`), whose workers take submitted jobs and run
`processImportJob` or `processExportJob` on them. The handlers are modelled from the point where
the request is read: `createImport` receives the resource, the path the upload was saved at and
the idempotency key; reading the multipart form or downloading a URL, and the idempotency lookups,
come before it.

The pool's channels are non-blocking sends, so a submission can fail (the queue is full), and
the handler ignores that. A `System` is the world together with the jobs submitted and not yet
taken; a `System.Step` is one handler run, or one worker taking any submitted job and processing
it to the end. Jobs are only ever written under their own id, so a job's row passes through the
same states whatever runs interleave with its own.
-/

namespace BulkImport

/-- `Pool.failJob`: the in-memory job marked failed, then written back whole by `Update`, whose
error is only logged. -/
def failJob (job : Job) (msg : String) : Op Job := do
  let t ← now
  let job := { job with status := .failed, errorMessage := some msg, completedAt := some t }
  let _ ← Op.attempt (JobRepository.update job)
  pure job

/-- `worker.JobSource`. -/
structure JobSource where
  /-- `FilePath`, the saved upload, or empty. -/
  filePath : String
  /-- `URL`, the file's URL, or empty. -/
  url : String

/-- What the parsers meet on a `nil` `*os.File`: every read fails. -/
def ImportFile.unreadable : ImportFile :=
  ⟨"", ⟨.error "invalid argument", []⟩, ⟨[], some "invalid argument"⟩⟩

/-- The cleanup `CreateImport` hands the pool: `os.Remove` of the upload, error ignored. -/
def removeUpload (path : String) : Op Unit := do
  if path ≠ "" ∧ !("http".data.isPrefixOf path.data) then
    let _ ← Op.attempt (call .removeFile [] fun db =>
      .ok ((), { db with uploads := db.uploads.filter (·.path != path) }))

/-- `Pool.processImportJob`: open the source, or fail the job; run `ProcessImport`, whose error
is only logged; then the deferred cleanup. -/
def processImportJob (cfg : ImportConfig) (job : Job) (source : JobSource) : Op Unit := do
  if source.filePath ≠ "" then
    match ← Op.attempt (openFile source.filePath) with
    | .error e => do
      let _ ← failJob job ("failed to open file: " ++ e)
    | .ok file => do
      let _ ← Op.attempt (processImport cfg file job)
  else if source.url ≠ "" then do
    let _ ← failJob job "URL imports not yet implemented"
  else do
    let _ ← Op.attempt (processImport cfg ImportFile.unreadable job)
  removeUpload source.filePath

/-- `Pool.processExportJob`: `ProcessAsyncExport`, whose error is only logged. -/
def processExportJob (cfg : ExportConfig) (job : Job) (filters : ExportFilters) : Op Unit := do
  let _ ← Op.attempt (processAsyncExport cfg job filters)

/-- The job `CreateImport` builds: pending, with the saved file's path and, when one was sent,
the idempotency key. -/
def importJobOf (id : Uuid) (resource : ResourceType) (filePath key : String) : Job :=
  ⟨id, .typeImport, resource, .pending, if key = "" then none else some key, some filePath,
    0, 0, 0, 0, none, none, none⟩

/-- `CreateImport` from the saved upload on: the job created, or `none` for the 500 answer. -/
def createImport (resource : ResourceType) (filePath key : String) : Op (Option Job) := do
  let job := importJobOf (← newUuid) resource filePath key
  match ← Op.attempt (JobRepository.create job) with
  | .ok job => pure (some job)
  | .error _ => pure none

/-- The job `CreateAsyncExport` builds: pending, with nothing else set. -/
def exportJobOf (id : Uuid) (resource : ResourceType) : Job :=
  ⟨id, .typeExport, resource, .pending, none, none, 0, 0, 0, 0, none, none, none⟩

/-- `CreateAsyncExport` from the parsed request on: a format other than `ndjson` or `json` is
refused before any call; otherwise the job created, or `none` for the 500 answer. -/
def createAsyncExport (resource : ResourceType) (format : String) : Op (Option Job) := do
  let format := if format = "" then "ndjson" else format
  if format ≠ "ndjson" ∧ format ≠ "json" then pure none
  else do
    let job := exportJobOf (← newUuid) resource
    match ← Op.attempt (JobRepository.create job) with
    | .ok job => pure (some job)
    | .error _ => pure none

/-! ## The system -/

/-- The world, and the jobs submitted to the pool and not yet taken by a worker. -/
structure System where
  /-- The state of the database and its environment. -/
  world : World
  /-- The import jobs submitted, each with its source. -/
  imports : List (Job × JobSource)
  /-- The export jobs submitted, each with its filters. -/
  exports : List (Job × ExportFilters)

/-- What a handler's submission adds to a queue: the created job, when the send went through. -/
def submitted {α : Type} (r : Except String (Option Job)) (sent : Bool) (item : Job → α) : List α :=
  match r with
  | .ok (some j) => if sent then [item j] else []
  | _ => []

/-- Which of two runs takes its next step. -/
inductive Turn where
  /-- the first run takes its step -/
  | first
  /-- the second run takes its step -/
  | second
  deriving DecidableEq

/-- One action of the system, run to its end. -/
inductive System.Step (ci : ImportConfig) (ce : ExportConfig) : System → System → Prop
  /-- `POST /v1/imports` creates a job and, if the send goes through, queues it -/
  | createImport (s : System) (res : ResourceType) (path key : String) (sent : Bool) :
      System.Step ci ce s
        ⟨(createImport res path key s.world).2,
          s.imports ++ submitted (createImport res path key s.world).1 sent fun j => (j, ⟨path, ""⟩),
          s.exports⟩
  /-- `POST /v1/exports` creates a job and, if the send goes through, queues it -/
  | createAsyncExport (s : System) (res : ResourceType) (format : String) (filters : ExportFilters)
      (sent : Bool) :
      System.Step ci ce s
        ⟨(createAsyncExport res format s.world).2, s.imports,
          s.exports ++ submitted (createAsyncExport res format s.world).1 sent fun j => (j, filters)⟩
  /-- a worker takes a queued import and runs it -/
  | importWorker (s : System) (pre post : List (Job × JobSource)) (q : Job × JobSource)
      (h : s.imports = pre ++ q :: post) :
      System.Step ci ce s ⟨(processImportJob ci q.1 q.2 s.world).2, pre ++ post, s.exports⟩
  /-- a worker takes a queued export and runs it -/
  | exportWorker (s : System) (pre post : List (Job × ExportFilters)) (q : Job × ExportFilters)
      (h : s.exports = pre ++ q :: post) :
      System.Step ci ce s ⟨(processExportJob ce q.1 q.2 s.world).2, s.imports, pre ++ post⟩

end BulkImport
