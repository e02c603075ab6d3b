import BulkImport.Store.Jobs
import BulkImport.Import.Parsers

/-!
# The world a run acts on, and the calls it makes

The services of `internal/service` act on the database, the file system and the clock, and any
call they make may fail. A `World` holds the tables, the files, and three oracles that fix an
environment: `fault n` is the error the `n`-th call fails with (none when it succeeds),
`fresh n` is the `n`-th value `uuid.New()` returns, and `clock` is what `time.Now()` reads.
Quantifying over worlds quantifies over every initial state, every pattern of failures and every
choice of generated ids.

Service code is an `Op`: a function from the world to an outcome and the world after. Every
call goes through `call`, which consults the fault oracle, applies the statement to the tables
when the call succeeds, leaves them as they were when it fails (each modelled statement is one
transaction), and appends an `Event` to the log. An event names the statement, carries the row
numbers the call is about, says whether it succeeded, and records the `jobs` table after it, so
that the log is also the sequence of states every job row passes through.
-/

namespace BulkImport

/-- The tables and files the services read and write. -/
structure Db where
  /-- The `users` table. -/
  users : List User
  /-- The `articles` table. -/
  articles : List Article
  /-- The `comments` table. -/
  comments : List Comment
  /-- The `jobs` table. -/
  jobs : List Job
  /-- The `job_errors` table, the journal. -/
  jobErrors : List JobError
  /-- The `staging_users` table. -/
  stagingUsers : StagingTable UserFields
  /-- The `staging_articles` table. -/
  stagingArticles : StagingTable ArticleFields
  /-- The `staging_comments` table. -/
  stagingComments : StagingTable CommentFields
  /-- The files of the upload directory. -/
  uploads : List ImportFile
  /-- The files written by the exports, with their bytes, the HTTP responses included. -/
  exports : List (String × List Char)
  /-- The `idempotency_keys` table. -/
  idempotencyKeys : List IdempotencyKey

/-- The statements and system calls a run issues, as its log names them. -/
inductive Stmt where
  /-- `CreateStaging*` -/
  | createStaging (res : ResourceType)
  /-- `MarkDuplicate*InBatch` -/
  | markDuplicateInBatch (res : ResourceType)
  /-- `MarkDuplicate*AgainstExisting` -/
  | markDuplicateAgainstExisting (res : ResourceType)
  /-- `MarkInvalid*FK*` -/
  | markInvalidFK (res : ResourceType)
  /-- the query of `GetValidStaging*` -/
  | getValidStaging (res : ResourceType)
  /-- a fetch of its cursor -/
  | fetchStaging (res : ResourceType)
  /-- `CleanupStaging*` -/
  | cleanupStaging (res : ResourceType)
  /-- `CreateBatch` of a repository -/
  | createBatch (res : ResourceType)
  /-- the query of `GetAllWithCursor` -/
  | selectAll (res : ResourceType)
  /-- a fetch of its cursor -/
  | fetchRow (res : ResourceType)
  /-- `JobRepository.Create` -/
  | createJob
  /-- `JobRepository.GetByID` -/
  | getJob
  /-- `JobRepository.Update` -/
  | updateJob
  /-- `UpdateProgress` -/
  | updateProgress
  /-- `SetStarted` -/
  | setStarted
  /-- `SetCompleted` -/
  | setCompleted
  /-- `SetFailed` -/
  | setFailed
  /-- `SetTotalRecords` -/
  | setTotalRecords
  /-- `AddErrors`, a page of the journal -/
  | addErrors
  /-- the count of `GetErrors` -/
  | countErrors
  /-- the page query of `GetErrors` -/
  | getErrors
  /-- `IdempotencyRepository.GetByKey` -/
  | getIdempotencyKey
  /-- `IdempotencyRepository.Create` -/
  | createIdempotencyKey
  /-- `os.Open` of an upload -/
  | openFile
  /-- `os.Remove` of an upload -/
  | removeFile
  /-- `os.Create` of an export file -/
  | createFile
  /-- a write to an export file -/
  | writeFile
  /-- `file.Stat` of an export file -/
  | statFile
  deriving DecidableEq, Repr

/-- One call of a run: the statement, the row numbers it carries, whether it succeeded, and the
`jobs` table after it. -/
structure Event where
  /-- The statement sent. -/
  stmt : Stmt
  /-- The row numbers it carries. -/
  rows : List Nat
  /-- Whether it succeeded. -/
  ok : Bool
  /-- The `jobs` table after it. -/
  jobs : List Job

/-- The state of the system and of its environment. -/
structure World where
  /-- The database and the files. -/
  db : Db
  /-- The injected failure of each call, by the call's index. -/
  fault : Nat → Option String
  /-- The number of calls made so far. -/
  calls : Nat
  /-- The ids `uuid.New` hands out, in order. -/
  fresh : Nat → Uuid
  /-- The number of ids handed out so far. -/
  minted : Nat
  /-- The reading of `time.Now`. -/
  clock : Time
  /-- The calls made so far, in order. -/
  log : List Event

/-- The empty database. -/
def Db.empty : Db := ⟨[], [], [], [], [], ⟨[], 0⟩, ⟨[], 0⟩, ⟨[], 0⟩, [], [], []⟩

/-- A world before its first call, over the tables `db` and with the failures `fault`; the ids
`uuid.New()` gives are those of `Uuid.ofSeed`, and the clock reads zero. -/
def World.start (db : Db) (fault : Nat → Option String) : World :=
  ⟨db, fault, 0, Uuid.ofSeed, 0, ⟨0⟩, []⟩

/-- Outcomes compare by constructor and content, so that a run's outcome can be evaluated. -/
instance exceptDecidableEq {ε α : Type} [DecidableEq ε] [DecidableEq α] :
    DecidableEq (Except ε α)
  | .error a, .error b =>
    if h : a = b then isTrue (h ▸ rfl) else isFalse fun he => h (Except.error.inj he)
  | .ok a, .ok b => if h : a = b then isTrue (h ▸ rfl) else isFalse fun he => h (Except.ok.inj he)
  | .error _, .ok _ => isFalse nofun
  | .ok _, .error _ => isFalse nofun

/-- Service code: from a world, an outcome and the world after. -/
def Op (α : Type) : Type := World → Except String α × World

/-- The state and error monad of service code: a run reads and writes the world and may fail with a
message. -/
instance : Monad Op where
  pure a w := (.ok a, w)
  bind x f w := match (x w).1 with
    | .ok a => f a (x w).2
    | .error e => (.error e, (x w).2)

namespace Op

/-- `return err`. -/
def fail {α : Type} (e : String) : Op α := fun w => (.error e, w)

/-- The outcome of `x` as a value: how the model reads a call whose error the Go code drops. -/
def attempt {α : Type} (x : Op α) : Op (Except String α) := fun w => (.ok (x w).1, (x w).2)

/-- `fmt.Errorf(msg + "%w", err)`: the error of `x` with a prefix. -/
def wrap {α : Type} (msg : String) (x : Op α) : Op α := fun w =>
  match (x w).1 with
  | .error e => (.error (msg ++ e), (x w).2)
  | .ok a => (.ok a, (x w).2)

/-- `pure` returns its value and leaves the world. -/
@[simp] theorem pure_apply {α : Type} (a : α) (w : World) : (pure a : Op α) w = (.ok a, w) := rfl

/-- A sequence runs the rest on the world the first run leaves, unless it failed. -/
@[simp] theorem bind_apply {α β : Type} (x : Op α) (f : α → Op β) (w : World) :
    (x >>= f) w = match (x w).1 with
      | .ok a => f a (x w).2
      | .error e => (.error e, (x w).2) := rfl

/-- `fail` fails with its message and leaves the world. -/
@[simp] theorem fail_apply {α : Type} (e : String) (w : World) : (fail e : Op α) w = (.error e, w) :=
  rfl

/-- `attempt` returns the outcome of the run as a value. -/
@[simp] theorem attempt_apply {α : Type} (x : Op α) (w : World) :
    attempt x w = (.ok (x w).1, (x w).2) := rfl

/-- Sequencing is associative. -/
theorem bind_assoc {α β γ : Type} (x : Op α) (f : α → Op β) (g : β → Op γ) :
    x >>= f >>= g = x >>= fun a => f a >>= g := by
  funext w
  simp only [bind_apply]
  rcases x w with ⟨_ | a, w'⟩ <;> rfl

/-- `pure` followed by a run is that run. -/
theorem pure_bind {α β : Type} (a : α) (f : α → Op β) : pure a >>= f = f a := rfl

end Op

/-- A call: it fails with the injected fault of its index, or else with the statement's own
refusal, and otherwise applies the statement; either way it is logged. -/
def call {α : Type} (stmt : Stmt) (rows : List Nat) (f : Db → Except String (α × Db)) : Op α :=
  fun w =>
    let next := { w with calls := w.calls + 1 }
    match (w.fault w.calls).elim (f w.db) .error with
    | .ok (a, db) => (.ok a, { next with db := db, log := w.log ++ [⟨stmt, rows, true, db.jobs⟩] })
    | .error e => (.error e, { next with log := w.log ++ [⟨stmt, rows, false, w.db.jobs⟩] })

/-- `time.Now()`. -/
def now : Op Time := fun w => (.ok w.clock, w)

/-- `uuid.New()`. -/
def newUuid : Op Uuid := fun w => (.ok (w.fresh w.minted), { w with minted := w.minted + 1 })

/-- The batch size of `config.ImportConfig` and `config.ExportConfig`, which the loops need
positive: with `0` the error pages of `recordValidationErrors` never advance, and a negative
size makes the first `make` panic. -/
structure BatchSize where
  /-- The size. -/
  val : Nat
  /-- It is positive. -/
  pos : 0 < val

/-- `config.ImportConfig`, with the fields the import service reads. -/
structure ImportConfig where
  /-- `BatchSize`, the rows of a batch. -/
  batchSize : BatchSize
  /-- `UploadPath`, the upload directory. -/
  uploadPath : String

/-- `config.ExportConfig`, with the fields the export service reads. -/
structure ExportConfig where
  /-- `BatchSize`, the rows a cursor fetches at a time. -/
  batchSize : BatchSize
  /-- `OutputPath`, the directory of the export files. -/
  outputPath : String

/-- The import settings `config.Load` falls back to: `IMPORT_BATCH_SIZE` 1000, `UPLOAD_PATH`
`./uploads`. -/
def ImportConfig.default : ImportConfig := ⟨⟨1000, by decide⟩, "./uploads"⟩

/-- The export settings `config.Load` falls back to: `EXPORT_BATCH_SIZE` 5000, `EXPORT_PATH`
`./exports`. -/
def ExportConfig.default : ExportConfig := ⟨⟨5000, by decide⟩, "./exports"⟩

end BulkImport
