import BulkImport.Store.World

/-!
# The repositories

The methods of `StagingRepository`, `JobRepository` (`internal/repository/postgres`) and of the
three entity repositories (`part_000`) that the services call, each one `Op` under the method's
name in a namespace named after its receiver. A method is one `call` of the statement it sends,
with what it does in memory around it: `CreateBatch` fills a missing id and zero timestamps
before its statement, `GetByID` hands back a zero job together with any error other than
`sql.ErrNoRows`, and the cursors of `GetValidStaging*` and `GetAllWithCursor` fetch their rows
one by one, a fetch being a call that can fail like any other.

The row numbers a call carries are those of its rows: the staged rows of `CreateStaging*`, the
journal entries of `AddErrors`, and for `CreateBatch` the staging rows the entities were
converted from, which the pipeline passes along so that the log can say which rows reached a
target table.
-/

namespace BulkImport

/-- A staging table of the database: its resource, how a statement reads and writes it, and its
text columns with their widths. Writing the table reads back what was written and leaves the
jobs table alone; writing the jobs or the journal leaves the table alone. -/
structure StagingSlot (F : Type) where
  /-- The resource whose rows the table stages. -/
  res : ResourceType
  /-- The table in the database. -/
  get : Db → StagingTable F
  /-- The database with the table replaced. -/
  set : StagingTable F → Db → Db
  /-- The text columns of a row's fields: the width of each and its value. -/
  columns : F → List (Nat × Option String)
  /-- The table reads back what was written. -/
  get_set : ∀ t db, get (set t db) = t
  /-- Writing the table leaves the jobs table alone. -/
  jobs_set : ∀ t db, (set t db).jobs = db.jobs
  /-- Writing the jobs table leaves the staging table alone. -/
  get_jobs : ∀ js db, get { db with jobs := js } = get db
  /-- Writing the journal leaves the staging table alone. -/
  get_jobErrors : ∀ es db, get { db with jobErrors := es } = get db

/-- `staging_users`. -/
def usersSlot : StagingSlot UserFields :=
  ⟨.users, (·.stagingUsers), fun t db => { db with stagingUsers := t }, UserFields.columns,
    fun _ _ => rfl, fun _ _ => rfl, fun _ _ => rfl, fun _ _ => rfl⟩

/-- `staging_articles`. -/
def articlesSlot : StagingSlot ArticleFields :=
  ⟨.articles, (·.stagingArticles), fun t db => { db with stagingArticles := t },
    ArticleFields.columns, fun _ _ => rfl, fun _ _ => rfl, fun _ _ => rfl, fun _ _ => rfl⟩

/-- `staging_comments`. -/
def commentsSlot : StagingSlot CommentFields :=
  ⟨.comments, (·.stagingComments), fun t db => { db with stagingComments := t },
    CommentFields.columns, fun _ _ => rfl, fun _ _ => rfl, fun _ _ => rfl, fun _ _ => rfl⟩

/-! ## Cursors -/

/-- The loop of a cursor over `rows`, from the partial batch `batch`: each row is fetched by a
call; a batch that reaches `size` rows goes to the callback at once; when the rows run out, or a
fetch fails, what is left goes to the callback, and a failed fetch's error is returned after it
(`rows.Err()`). The callback threads an accumulator. -/
def cursorLoop {R σ : Type} (fetch : Stmt) (size : Nat) (callback : σ → List R → Op σ) :
    σ → List R → List R → Op σ
  | acc, batch, [] => if batch.isEmpty then pure acc else callback acc batch
  | acc, batch, r :: rs => do
    match ← Op.attempt (call fetch [] fun db => .ok ((), db)) with
    | .error e => do
      let _ ← if batch.isEmpty then pure acc else callback acc batch
      Op.fail e
    | .ok () =>
      if size ≤ (batch ++ [r]).length then do
        let acc ← callback acc (batch ++ [r])
        cursorLoop fetch size callback acc [] rs
      else cursorLoop fetch size callback acc (batch ++ [r]) rs

namespace StagingRepository

variable {F : Type}

/-- `CreateStaging*`: nothing for no rows, and otherwise one transaction inserting them under the
job's id. -/
def createStaging (slot : StagingSlot F) (jobId : Uuid) (rows : List (StagingRow F)) : Op Unit :=
  if rows.isEmpty then pure ()
  else
    call (.createStaging slot.res) (rows.map (·.rowNumber)) fun db =>
      (insertStaging slot.columns (db.jobs.any (·.id == jobId))
          (rows.map fun r => { r with jobId := jobId }) (slot.get db)).map fun t => ((), slot.set t db)

/-- `CreateStagingUsers`. -/
def createStagingUsers : Uuid → List (StagingRow UserFields) → Op Unit := createStaging usersSlot

/-- `CreateStagingArticles`. -/
def createStagingArticles : Uuid → List (StagingRow ArticleFields) → Op Unit :=
  createStaging articlesSlot

/-- `CreateStagingComments`. -/
def createStagingComments : Uuid → List (StagingRow CommentFields) → Op Unit :=
  createStaging commentsSlot

/-- A mark statement: `f` rewrites the table's rows from the database as it is, and the call
returns the number of rows it matched. -/
def mark (slot : StagingSlot F) (stmt : Stmt)
    (f : Db → List (StagingRow F) → List (StagingRow F) × Nat) : Op Nat :=
  call stmt [] fun db =>
    let t := slot.get db
    let r := f db t.rows
    .ok (r.2, slot.set { t with rows := r.1 } db)

/-- `MarkDuplicateUsersInBatch`. -/
def markDuplicateUsersInBatch (jobId : Uuid) : Op Nat :=
  mark usersSlot (.markDuplicateInBatch .users) fun _ => BulkImport.markDuplicateUsersInBatch jobId

/-- `MarkDuplicateUsersAgainstExisting`. -/
def markDuplicateUsersAgainstExisting (jobId : Uuid) : Op Nat :=
  mark usersSlot (.markDuplicateAgainstExisting .users) fun db =>
    BulkImport.markDuplicateUsersAgainstExisting db.users jobId

/-- `MarkDuplicateArticlesInBatch`. -/
def markDuplicateArticlesInBatch (jobId : Uuid) : Op Nat :=
  mark articlesSlot (.markDuplicateInBatch .articles) fun _ =>
    BulkImport.markDuplicateArticlesInBatch jobId

/-- `MarkDuplicateArticlesAgainstExisting`. -/
def markDuplicateArticlesAgainstExisting (jobId : Uuid) : Op Nat :=
  mark articlesSlot (.markDuplicateAgainstExisting .articles) fun db =>
    BulkImport.markDuplicateArticlesAgainstExisting db.articles jobId

/-- `MarkInvalidAuthorFKArticles`. -/
def markInvalidAuthorFKArticles (jobId : Uuid) : Op Nat :=
  mark articlesSlot (.markInvalidFK .articles) fun db =>
    BulkImport.markInvalidAuthorFKArticles db.users jobId

/-- `MarkDuplicateCommentsInBatch`. -/
def markDuplicateCommentsInBatch (jobId : Uuid) : Op Nat :=
  mark commentsSlot (.markDuplicateInBatch .comments) fun _ =>
    BulkImport.markDuplicateCommentsInBatch jobId

/-- `MarkInvalidFKComments`. -/
def markInvalidFKComments (jobId : Uuid) : Op Nat :=
  mark commentsSlot (.markInvalidFK .comments) fun db =>
    BulkImport.markInvalidFKComments db.articles db.users jobId

/-- `GetValidStaging*`: the query, then its cursor with batches of `size`. -/
def getValidStaging {σ : Type} (slot : StagingSlot F) (jobId : Uuid) (size : Nat)
    (callback : σ → List (StagingRow F) → Op σ) (acc : σ) : Op σ := do
  let rows ← call (.getValidStaging slot.res) [] fun db => .ok (validStaging jobId (slot.get db).rows, db)
  cursorLoop (.fetchStaging slot.res) size callback acc [] rows

/-- `CleanupStaging*`. -/
def cleanupStaging (slot : StagingSlot F) (jobId : Uuid) : Op Unit :=
  call (.cleanupStaging slot.res) [] fun db => .ok ((), slot.set (BulkImport.cleanupStaging jobId (slot.get db)) db)

end StagingRepository

/-! ## `JobRepository` -/

/-- A job of Go's zero value, as far as its counters go: what `GetByID` returns with an error. -/
def Job.zero : Job :=
  ⟨Uuid.nil, .typeImport, .users, .pending, none, none, 0, 0, 0, 0, none, none, none⟩

namespace JobRepository

/-- An `UPDATE jobs ... WHERE id = $1` with the `SET` `f`. -/
def updateWith (stmt : Stmt) (id : Uuid) (f : Job → Job) : Op Unit :=
  call stmt [] fun db => (updateJobRow id f db.jobs).map fun jobs => ((), { db with jobs := jobs })

/-- `Create`: a missing id drawn from `uuid.New()`, then the `INSERT`; the job as written. -/
def create (job : Job) : Op Job := do
  let job ← if job.id = Uuid.nil then do pure { job with id := ← newUuid } else pure job
  call .createJob [] fun db => (insertJob job db.jobs).map fun jobs => (job, { db with jobs := jobs })

/-- `GetByID`: the job, or nothing when no row has the id (`sql.ErrNoRows`), or a zero job
together with any other error. -/
def getByID (id : Uuid) : Op (Option Job × Option String) := do
  match ← Op.attempt (call .getJob [] fun db => .ok (db.jobs.find? (·.id == id), db)) with
  | .ok j => pure (j, none)
  | .error e => pure (some Job.zero, some e)

/-- `Update`: the columns it writes, from the in-memory job. -/
def update (job : Job) : Op Unit := updateWith .updateJob job.id (Job.overwrite job)

/-- `UpdateProgress`. -/
def updateProgress (id : Uuid) (processed successful failed : Int) : Op Unit :=
  updateWith .updateProgress id (Job.setProgress processed successful failed)

/-- `SetStarted`. -/
def setStarted (id : Uuid) : Op Unit := do
  let t ← now
  updateWith .setStarted id (Job.setStarted t)

/-- `SetCompleted`. -/
def setCompleted (id : Uuid) (successful failed : Int) : Op Unit := do
  let t ← now
  updateWith .setCompleted id (Job.setCompleted t successful failed)

/-- `SetFailed`. -/
def setFailed (id : Uuid) (msg : String) : Op Unit := do
  let t ← now
  updateWith .setFailed id (Job.setFailed t msg)

/-- `SetTotalRecords`. -/
def setTotalRecords (id : Uuid) (total : Int) : Op Unit :=
  updateWith .setTotalRecords id (Job.setTotal total)

/-- `AddErrors`: nothing for an empty page, and otherwise one transaction inserting it. -/
def addErrors (page : List JobError) : Op Unit :=
  if page.isEmpty then pure ()
  else
    call .addErrors (page.map (·.rowNumber)) fun db =>
      (insertJobErrors db.jobs page db.jobErrors).map fun errs => ((), { db with jobErrors := errs })

end JobRepository

/-! ## The entity repositories -/

/-- Go's zero `time.Time`, January 1 of year 1, which `IsZero` tests for. -/
def Time.zero : Time := ⟨-62135596800000000000⟩

/-- A missing id drawn from `uuid.New()`, as `CreateBatch` does before its statement. -/
def fillId (id : Uuid) : Op Uuid := if id = Uuid.nil then newUuid else pure id

/-- A zero timestamp replaced by the clock. -/
def fillTime (now t : Time) : Time := if t = Time.zero then now else t

namespace UserRepository

/-- The in-memory part of `CreateBatch` for each user: id, `created_at` and `updated_at`. -/
def fill (now : Time) : List User → Op (List User)
  | [] => pure []
  | u :: us => do
    let id ← fillId u.id
    let rest ← fill now us
    pure ({ u with id := id, createdAt := fillTime now u.createdAt,
                   updatedAt := fillTime now u.updatedAt } :: rest)

/-- `CreateBatch`: nothing for no users, and otherwise one upsert; the count of rows written. The
row numbers are those of the staging rows the users came from. -/
def createBatch (rows : List Nat) (users : List User) : Op Nat :=
  if users.isEmpty then pure 0
  else do
    let t ← now
    let users ← fill t users
    call (.createBatch .users) rows fun db =>
      (insertUsers t users db.users).map fun tbl => (users.length, { db with users := tbl })

end UserRepository

namespace ArticleRepository

/-- The in-memory part of `CreateBatch` for each article: id, `created_at` and `updated_at`. -/
def fill (now : Time) : List Article → Op (List Article)
  | [] => pure []
  | a :: as => do
    let id ← fillId a.id
    let rest ← fill now as
    pure ({ a with id := id, createdAt := fillTime now a.createdAt,
                   updatedAt := fillTime now a.updatedAt } :: rest)

/-- `CreateBatch` over the `users` table the foreign key reads. -/
def createBatch (rows : List Nat) (articles : List Article) : Op Nat :=
  if articles.isEmpty then pure 0
  else do
    let t ← now
    let articles ← fill t articles
    call (.createBatch .articles) rows fun db =>
      (insertArticles t db.users articles db.articles).map fun tbl =>
        (articles.length, { db with articles := tbl })

end ArticleRepository

namespace CommentRepository

/-- The in-memory part of `CreateBatch` for each comment: id and `created_at`. -/
def fill (now : Time) : List Comment → Op (List Comment)
  | [] => pure []
  | c :: cs => do
    let id ← fillId c.id
    let rest ← fill now cs
    pure ({ c with id := id, createdAt := fillTime now c.createdAt } :: rest)

/-- `CreateBatch` over the `articles` and `users` tables the foreign keys read. -/
def createBatch (rows : List Nat) (comments : List Comment) : Op Nat :=
  if comments.isEmpty then pure 0
  else do
    let t ← now
    let comments ← fill t comments
    call (.createBatch .comments) rows fun db =>
      (insertComments t db.articles db.users comments db.comments).map fun tbl =>
        (comments.length, { db with comments := tbl })

end CommentRepository

end BulkImport
