import BulkImport.Import.Pipeline

/-!
# The export service

`internal/service/export/export_service.go`: `StreamUsers`, `StreamArticles` and
`StreamComments` write one JSON line per row the cursor of `GetAllWithCursor` (`part_000`)
delivers, `StreamJSON` frames the same records as one array, and `ProcessAsyncExport` runs a
stream into a new file and records the outcome on the job.

A record is written as `json.Marshal` writes it, as a `JVal` whose text `render` gives. Times are
written by `time.Time.MarshalJSON` in the RFC 3339 layout with nanoseconds, in UTC; a time outside
the years 0 to 9999 makes `Marshal` fail, and the stream skips the record. `GetAllWithCursor`'s
query keeps the rows its filters select and orders them by `created_at`; rows with equal
timestamps keep their table order, one of the orders PostgreSQL may return.

A writer is a file of `Db.exports`; `os.Create`, each `Write` and `Stat` are calls that can fail.
-/

namespace BulkImport

/-! ## The records as `json.Marshal` writes them -/

/-- A `time.Time` field. -/
def timeJson (t : Time) : Option JVal := (formatRFC3339Nano t).map .str

/-- `json.Marshal` of a `models.User`. -/
def userJson (u : User) : Option JVal := do
  let c ← timeJson u.createdAt
  let up ← timeJson u.updatedAt
  pure (.obj [("id", .str u.id.toText), ("email", .str u.email), ("name", .str u.name),
    ("role", .str u.role), ("active", .bool u.active), ("created_at", c), ("updated_at", up)])

/-- `json.Marshal` of a `models.Article`: `published_at` is omitted when `nil`. -/
def articleJson (a : Article) : Option JVal := do
  let p ← match a.publishedAt with
    | some t => (timeJson t).map fun v => [("published_at", v)]
    | none => some []
  let c ← timeJson a.createdAt
  let up ← timeJson a.updatedAt
  pure (.obj ([("id", .str a.id.toText), ("slug", .str a.slug), ("title", .str a.title),
    ("body", .str a.body), ("author_id", .str a.authorId.toText), ("tags", a.tags)] ++ p ++
    [("status", .str a.status), ("created_at", c), ("updated_at", up)]))

/-- `json.Marshal` of a `models.Comment`. -/
def commentJson (c : Comment) : Option JVal := do
  let cr ← timeJson c.createdAt
  let up ← timeJson c.updatedAt
  pure (.obj [("id", .str c.id.toText), ("article_id", .str c.articleId.toText),
    ("user_id", .str c.userId.toText), ("body", .str c.body), ("created_at", cr),
    ("updated_at", up)])

/-! ## The cursors of `GetAllWithCursor` -/

/-- A time at or after another. -/
def Time.le (a b : Time) : Bool := a.unixNanos ≤ b.unixNanos

/-- The `created_at` bounds of `buildSelectQuery`. -/
def inWindow (f : ExportFilters) (t : Time) : Bool :=
  (f.createdAfter.all fun a => a.le t) && (f.createdBefore.all fun b => t.le b)

/-- `UserRepository.buildSelectQuery`: role, active and the window. -/
def userSelected (f : ExportFilters) (u : User) : Bool :=
  (f.role.all (· == u.role)) && (f.active.all (· == u.active)) && inWindow f u.createdAt

/-- `ArticleRepository.buildSelectQuery`: status, author and the window. -/
def articleSelected (f : ExportFilters) (a : Article) : Bool :=
  (f.status.all (· == a.status)) && (f.authorId.all (· == a.authorId)) && inWindow f a.createdAt

/-- `CommentRepository.buildSelectQuery`: article, user and the window. -/
def commentSelected (f : ExportFilters) (c : Comment) : Bool :=
  (f.articleId.all (· == c.articleId)) && (f.userId.all (· == c.userId)) && inWindow f c.createdAt

/-- `SELECT * ... WHERE ... ORDER BY created_at ASC`. -/
def selectOrdered {E : Type} (selected : E → Bool) (createdAt : E → Time) (rows : List E) : List E :=
  (rows.filter selected).insertionSort fun a b => (createdAt a).le (createdAt b)

/-- The users `GetAllWithCursor` reads under the filters, in order. -/
def selectUsers (f : ExportFilters) (db : Db) : List User :=
  selectOrdered (userSelected f) (·.createdAt) db.users

/-- The articles `GetAllWithCursor` reads under the filters, in order. -/
def selectArticles (f : ExportFilters) (db : Db) : List Article :=
  selectOrdered (articleSelected f) (·.createdAt) db.articles

/-- The comments `GetAllWithCursor` reads under the filters, in order. -/
def selectComments (f : ExportFilters) (db : Db) : List Comment :=
  selectOrdered (commentSelected f) (·.createdAt) db.comments

/-- `GetAllWithCursor` over a table: the query, then its cursor with batches of `size`. -/
def getAllWithCursor {E σ : Type} (res : ResourceType) (rows : Db → List E) (size : Nat)
    (callback : σ → List E → Op σ) (acc : σ) : Op σ := do
  let rs ← call (.selectAll res) [] fun db => .ok (rows db, db)
  cursorLoop (.fetchRow res) size callback acc [] rs

/-! ## Files -/

/-- `os.Create`: an empty file at the path, replacing any file there. -/
def createFile (path : String) : Op Unit :=
  call .createFile [] fun db =>
    .ok ((), { db with exports := db.exports.filter (·.1 != path) ++ [(path, [])] })

/-- `w.Write`: the bytes appended to the file. -/
def writeFile (path : String) (bytes : List Char) : Op Unit :=
  call .writeFile [] fun db =>
    if db.exports.any (·.1 == path) then
      .ok ((), { db with
        exports := db.exports.map fun f => if f.1 == path then (f.1, f.2 ++ bytes) else f })
    else .error ("write " ++ path ++ ": file already closed")

/-- `file.Stat().Size()`: the file's length in bytes. -/
def statFile (path : String) : Op Nat :=
  call .statFile [] fun db =>
    match db.exports.find? (·.1 == path) with
    | some f => .ok ((String.mk f.2).utf8ByteSize, db)
    | none => .error ("stat " ++ path ++ ": no such file or directory")

/-! ## The streams -/

/-- The callback of `StreamUsers` and its siblings: each record that marshals is written with its
newline and counted; one that does not is skipped; a failed write stops the stream. -/
def writeLines {E : Type} (marshal : E → Option JVal) (writeErr : String) (path : String) :
    Nat → List E → Op Nat
  | count, [] => pure count
  | count, e :: es =>
    match marshal e with
    | none => writeLines marshal writeErr path count es
    | some v => do
      Op.wrap writeErr (writeFile path (render v ++ ['\n']))
      writeLines marshal writeErr path (count + 1) es

/-- `StreamUsers` into the file at `path`: the number of records written. -/
def streamUsers (cfg : ExportConfig) (path : String) (filters : ExportFilters) : Op Nat :=
  getAllWithCursor .users (selectUsers filters) cfg.batchSize.val
    (writeLines userJson "failed to write user data: " path) 0

/-- `StreamArticles` into the file at `path`. -/
def streamArticles (cfg : ExportConfig) (path : String) (filters : ExportFilters) : Op Nat :=
  getAllWithCursor .articles (selectArticles filters) cfg.batchSize.val
    (writeLines articleJson "failed to write article data: " path) 0

/-- `StreamComments` into the file at `path`. -/
def streamComments (cfg : ExportConfig) (path : String) (filters : ExportFilters) : Op Nat :=
  getAllWithCursor .comments (selectComments filters) cfg.batchSize.val
    (writeLines commentJson "failed to write comment data: " path) 0

/-- The callback of `StreamJSON`: `writeRecord` for each record that marshals, with `",\n"` before
every record but the first; the flag says whether one was written yet. -/
def writeElements {E : Type} (marshal : E → Option JVal) (path : String) :
    Bool → List E → Op Bool
  | first, [] => pure first
  | first, e :: es =>
    match marshal e with
    | none => writeElements marshal path first es
    | some v => do
      if !first then writeFile path [',', '\n']
      writeFile path (render v)
      writeElements marshal path false es

/-- `StreamJSON` into the file at `path`: `"[\n"`, the records, `"\n]"`. -/
def streamJSON (cfg : ExportConfig) (path : String) (resource : ResourceType)
    (filters : ExportFilters) : Op Unit := do
  writeFile path ['[', '\n']
  let size := cfg.batchSize.val
  let _ ← match resource with
    | .users => getAllWithCursor .users (selectUsers filters) size (writeElements userJson path) true
    | .articles =>
      getAllWithCursor .articles (selectArticles filters) size (writeElements articleJson path) true
    | .comments =>
      getAllWithCursor .comments (selectComments filters) size (writeElements commentJson path) true
  writeFile path ['\n', ']']

/-! ## `ProcessAsyncExport` -/

/-- The text of a `models.ResourceType`. -/
def ResourceType.text : ResourceType → String
  | .users => "users"
  | .articles => "articles"
  | .comments => "comments"

/-- `time.Now().Unix()`: seconds, rounded down. -/
def Time.unix (t : Time) : Int := t.unixNanos.fdiv 1000000000

/-- The export file's path: `filepath.Join(OutputPath, resource_idprefix_unix.ndjson)`, the join
taken as the plain separator; `filepath.Join` also cleans the path, which drops the leading `./`
of the default `OutputPath`. -/
def exportPath (cfg : ExportConfig) (job : Job) (t : Time) : String :=
  cfg.outputPath ++ "/" ++ job.resource.text ++ "_" ++ String.mk (job.id.toText.data.take 8) ++
    "_" ++ toString t.unix ++ ".ndjson"

/-- The export service's `handleJobFailure`: `SetFailed`, whose error is ignored. -/
def handleExportFailure (jobId : Uuid) (msg : String) : Op Unit := do
  let _ ← Op.attempt (JobRepository.setFailed jobId msg)

/-- `ProcessAsyncExport`: the job started, the stream written to a new file, then the in-memory
job, with the file and an estimated count (the file's size over 200), written back by `Update`
before `SetCompleted`. The job as the caller holds it afterwards. -/
def processAsyncExport (cfg : ExportConfig) (job : Job) (filters : ExportFilters) : Op Job := do
  Op.wrap "failed to update job status: " (JobRepository.setStarted job.id)
  let path := exportPath cfg job (← now)
  match ← Op.attempt (createFile path) with
  | .error e => do
    handleExportFailure job.id ("Failed to create output file: " ++ e)
    Op.fail e
  | .ok () => do
    let r ← Op.attempt <| match job.resource with
      | .users => streamUsers cfg path filters
      | .articles => streamArticles cfg path filters
      | .comments => streamComments cfg path filters
    match r with
    | .error e => do
      handleExportFailure job.id e
      Op.fail e
    | .ok _ => do
      let size ← Op.attempt (statFile path)
      let recordCount : Int := match size with
        | .ok n => n / 200
        | .error _ => 0
      let job := { job with filePath := some path, totalRecords := recordCount,
                            processedRecords := recordCount, successfulRecords := recordCount }
      let _ ← Op.attempt (JobRepository.update job)
      let _ ← Op.attempt (JobRepository.setCompleted job.id recordCount 0)
      pure job

end BulkImport
