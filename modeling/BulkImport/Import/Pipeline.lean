import BulkImport.Store.Repo

/-!
# The import pipeline

`processUsersImport`, `processArticlesImport` and `processCommentsImport` of
`internal/service/import/format.go`. Each runs four phases over a parsed file:

1. every record the parser delivers is validated and staged (`processRecord`, the closures
   `processUser`, `processArticle` and `processComment`), the staging rows going to the database
   in batches, with a progress update after each batch;
2. the staged rows are marked: duplicates within the job, duplicates of target rows, and broken
   foreign keys; the three members differ here, which is why each keeps its own body;
3. the rows that stay valid are read back in batches, converted, and upserted (`promote`);
4. the validator findings are journalled in pages, the staging rows deleted, and the final
   counts written.

The closures' shared state (the pending batch, the findings, the three counters) is the record
`Phase1`. The calls whose errors the Go code drops with `_` or never checks go through
`Op.attempt`.
-/

namespace BulkImport

/-- The state the phase-1 closure shares with its pipeline. -/
structure Phase1 (F : Type) where
  /-- The staging rows not yet inserted. -/
  batch : List (StagingRow F)
  /-- The validators' findings so far. -/
  errors : List ValidationError
  /-- The records handed to the callback. -/
  totalRows : Nat
  /-- Those with no finding. -/
  validRows : Nat
  /-- Those with a finding or not decoded. -/
  invalidRows : Nat

/-- The phase-1 state before the first record. -/
def Phase1.init {F : Type} : Phase1 F := ⟨[], [], 0, 0, 0⟩

section Phase1

variable {R F : Type}

/-- The phase-1 callback for one delivery: a record that did not parse is staged invalid, with no
finding, and never triggers an insert; a record that parsed is validated, staged, counted, and
the batch inserted when it has `size` rows. -/
def processRecord (validate : Nat → R → List ValidationError) (stage : R → F) (empty : F)
    (insert : List (StagingRow F) → Op Unit) (size : Nat) (jobId : Uuid) (s : Phase1 F) :
    Nat × Option R → Op (Phase1 F)
  | (row, none) =>
    pure { s with batch := s.batch ++ [parseErrorRow jobId row empty], totalRows := s.totalRows + 1,
                  invalidRows := s.invalidRows + 1 }
  | (row, some r) => do
    let errs := validate row r
    let s : Phase1 F :=
      { batch := s.batch ++ [stagedRow jobId row (stage r) errs],
        errors := s.errors ++ errs,
        totalRows := s.totalRows + 1,
        validRows := if errs.isEmpty then s.validRows + 1 else s.validRows,
        invalidRows := if errs.isEmpty then s.invalidRows else s.invalidRows + 1 }
    if size ≤ s.batch.length then do
      insert s.batch
      let _ ← Op.attempt (JobRepository.updateProgress jobId s.totalRows s.validRows s.invalidRows)
      pure { s with batch := [] }
    else pure s

/-- The parser's loop over its deliveries, each handed to the callback; an error of the callback
stops the parse and is returned. -/
def parseLoop (step : Phase1 F → Nat × Option R → Op (Phase1 F)) :
    Phase1 F → List (Nat × Option R) → Op (Phase1 F)
  | s, [] => pure s
  | s, d :: ds => do parseLoop step (← step s d) ds

end Phase1

/-! ## Conversion -/

/-- A staged timestamp as `convertStagingTo*` reads it: the parsed value, or the clock when it is
missing or does not parse. -/
def timeOr (now : Time) : Option String → Time
  | some s => (parseRFC3339 s).getD now
  | none => now

/-- A staged id as `convertStagingTo*` reads it: `uuid.Parse` of a non-empty text, or else a value
of `uuid.New()`. -/
def convertId (id : Option String) : Op (Except String Uuid) :=
  match id with
  | some s =>
    if s = "" then do pure (.ok (← newUuid))
    else pure ((Uuid.parse s).elim (.error "invalid UUID format") .ok)
  | none => do pure (.ok (← newUuid))

/-- A staged reference as `convertStagingTo*` reads it: `uuid.Parse` when present, the nil UUID
when `NULL`. -/
def convertRef : Option String → Except String Uuid
  | some s => (Uuid.parse s).elim (.error "invalid UUID format") .ok
  | none => .ok Uuid.nil

/-- `convertStagingToUser`. -/
def convertStagingToUser (su : StagingRow UserFields) : Op (Except String User) := do
  let t ← now
  let f := su.fields
  pure <| (← convertId f.id).map fun id =>
    { id := id, email := f.email.getD "", name := f.name.getD "", role := f.role.getD "",
      active := f.active.getD true, createdAt := timeOr t f.createdAt,
      updatedAt := timeOr t f.updatedAt }

/-- `convertStagingToArticle`. -/
def convertStagingToArticle (sa : StagingRow ArticleFields) : Op (Except String Article) := do
  let t ← now
  let f := sa.fields
  pure <| (← convertId f.id).bind fun id => (convertRef f.authorId).map fun authorId =>
    { id := id, slug := f.slug.getD "", title := f.title.getD "", body := f.body.getD "",
      authorId := authorId, tags := (f.tags.map strArray).getD (.arr []),
      publishedAt := f.publishedAt.bind parseRFC3339, status := f.status.getD "",
      createdAt := t, updatedAt := t }

/-- `convertStagingToComment`; `updated_at` is left to the database. -/
def convertStagingToComment (sc : StagingRow CommentFields) : Op (Except String Comment) := do
  let t ← now
  let f := sc.fields
  pure <| (← convertId f.id).bind fun id => (convertRef f.articleId).bind fun articleId =>
    (convertRef f.userId).map fun userId =>
      { id := id, articleId := articleId, userId := userId, body := f.body.getD "",
        createdAt := timeOr t f.createdAt, updatedAt := Time.zero }

/-! ## Promotion -/

section Promote

variable {F E : Type}

/-- The rows of a batch the promote callback keeps, converted, with their row numbers: those that
are valid and not duplicates and that convert; a row that fails to convert is skipped. -/
def convertBatch (convert : StagingRow F → Op (Except String E)) :
    List (StagingRow F) → Op (List (Nat × E))
  | [] => pure []
  | r :: rs => do
    let head ← if r.isValid && !r.isDuplicate then do
        match ← convert r with
        | .ok e => pure [(r.rowNumber, e)]
        | .error _ => pure []
      else pure []
    let rest ← convertBatch convert rs
    pure (head ++ rest)

/-- The promote callback: the batch converted and, when anything is left, upserted; the count of
rows written accumulates. -/
def promoteBatch (convert : StagingRow F → Op (Except String E))
    (createBatch : List Nat → List E → Op Nat) (successful : Nat) (batch : List (StagingRow F)) :
    Op Nat := do
  let kept ← convertBatch convert batch
  if kept.isEmpty then pure successful
  else do
    let count ← createBatch (kept.map (·.1)) (kept.map (·.2))
    pure (successful + count)

end Promote

/-! ## The journal -/

/-- The slices `jobErrors[i : min(i + size, n)]` of the paging loop, from a partial page. -/
def pages {α : Type} (size : Nat) : List α → List α → List (List α)
  | page, [] => if page.isEmpty then [] else [page]
  | page, x :: xs =>
    if size ≤ (page ++ [x]).length then (page ++ [x]) :: pages size [] xs
    else pages size (page ++ [x]) xs

/-- The journal entry of a finding. -/
def ValidationError.toJobError (jobId : Uuid) (e : ValidationError) : JobError :=
  ⟨jobId, e.rowNumber, e.recordIdentifier, e.fieldName, e.code, e.message⟩

/-- Each page handed to `AddErrors`, whose errors are ignored. -/
def addPages : List (List JobError) → Op Unit
  | [] => pure ()
  | p :: ps => do
    let _ ← Op.attempt (JobRepository.addErrors p)
    addPages ps

/-- `recordValidationErrors`. -/
def recordValidationErrors (size : Nat) (jobId : Uuid) (errs : List ValidationError) : Op Unit :=
  if errs.isEmpty then pure ()
  else addPages (pages size [] (errs.map (ValidationError.toJobError jobId)))

/-! ## The three pipelines -/

/-- The parser's deliveries, or its error: the CSV header error wrapped, as the pipelines wrap
`NewCSVParser`'s. -/
def openDelivery {R : Type} (d : Except String (Delivery R)) (csv : Bool) : Op (Delivery R) :=
  match d with
  | .ok d => pure d
  | .error e => Op.fail (if csv then "failed to create CSV parser: " ++ e else e)

/-- Phase 1 over a delivery: the loop, the parser's own error after it, and the remainder batch. -/
def stageAll {R F : Type} (step : Phase1 F → Nat × Option R → Op (Phase1 F))
    (insert : List (StagingRow F) → Op Unit) (d : Delivery R) : Op (Phase1 F) := do
  let s ← parseLoop step Phase1.init d.calls
  match d.err with
  | some e => Op.fail e
  | none => do
    if !s.batch.isEmpty then insert s.batch
    pure s

/-- Phase 4: the journal, the staging rows deleted, the final counts; no error of these is
checked. -/
def finish {F : Type} (cfg : ImportConfig) (slot : StagingSlot F) (jobId : Uuid) (s : Phase1 F)
    (successful : Nat) : Op Unit := do
  recordValidationErrors cfg.batchSize.val jobId s.errors
  let _ ← Op.attempt (StagingRepository.cleanupStaging slot jobId)
  let _ ← Op.attempt (JobRepository.updateProgress jobId s.totalRows successful
    ((s.totalRows : Int) - successful))

/-- `processUser`. -/
def processUser (cfg : ImportConfig) (jobId : Uuid) :
    Phase1 UserFields → Nat × Option UserImport → Op (Phase1 UserFields) :=
  processRecord validateUserImport stageUserFields UserFields.empty
    (fun b => Op.wrap "failed to create staging users: " (StagingRepository.createStagingUsers jobId b))
    cfg.batchSize.val jobId

/-- `processArticle`. -/
def processArticle (cfg : ImportConfig) (jobId : Uuid) :
    Phase1 ArticleFields → Nat × Option ArticleImport → Op (Phase1 ArticleFields) :=
  processRecord validateArticleImport stageArticleFields ArticleFields.empty
    (fun b => Op.wrap "failed to create staging articles: "
      (StagingRepository.createStagingArticles jobId b))
    cfg.batchSize.val jobId

/-- `processComment`: a failed insert is returned as it is. -/
def processComment (cfg : ImportConfig) (jobId : Uuid) :
    Phase1 CommentFields → Nat × Option CommentImport → Op (Phase1 CommentFields) :=
  processRecord validateCommentImport stageCommentFields CommentFields.empty
    (StagingRepository.createStagingComments jobId) cfg.batchSize.val jobId

/-- `processUsersImport`: the two mark statements' errors fail the import. -/
def processUsersImport (cfg : ImportConfig) (job : Job) (file : ImportFile) : Op Unit := do
  let path := job.filePath.getD ""
  let d ← openDelivery (deliverUsers path file) !(detectFormat path).isNDJSON
  let s ← stageAll (processUser cfg job.id)
    (fun b => Op.wrap "failed to create staging users: " (StagingRepository.createStagingUsers job.id b)) d
  let _ ← Op.attempt (JobRepository.setTotalRecords job.id s.totalRows)
  let _ ← Op.wrap "failed to mark duplicates in batch: "
    (StagingRepository.markDuplicateUsersInBatch job.id)
  let _ ← Op.wrap "failed to mark duplicates against existing: "
    (StagingRepository.markDuplicateUsersAgainstExisting job.id)
  let successful ← StagingRepository.getValidStaging usersSlot job.id cfg.batchSize.val
    (promoteBatch convertStagingToUser fun rows users =>
      Op.wrap "failed to insert users batch: " (UserRepository.createBatch rows users)) 0
  finish cfg usersSlot job.id s successful

/-- `processArticlesImport`: the three mark statements' errors are dropped. -/
def processArticlesImport (cfg : ImportConfig) (job : Job) (file : ImportFile) : Op Unit := do
  let path := job.filePath.getD ""
  let d ← openDelivery (deliverArticles path file) (detectFormat path).isCSV
  let s ← stageAll (processArticle cfg job.id)
    (fun b => Op.wrap "failed to create staging articles: "
      (StagingRepository.createStagingArticles job.id b)) d
  let _ ← Op.attempt (JobRepository.setTotalRecords job.id s.totalRows)
  let _ ← Op.attempt (StagingRepository.markDuplicateArticlesInBatch job.id)
  let _ ← Op.attempt (StagingRepository.markDuplicateArticlesAgainstExisting job.id)
  let _ ← Op.attempt (StagingRepository.markInvalidAuthorFKArticles job.id)
  let successful ← StagingRepository.getValidStaging articlesSlot job.id cfg.batchSize.val
    (promoteBatch convertStagingToArticle ArticleRepository.createBatch) 0
  finish cfg articlesSlot job.id s successful

/-- `processCommentsImport`: no mark against existing rows, and the two mark statements' errors
are dropped. -/
def processCommentsImport (cfg : ImportConfig) (job : Job) (file : ImportFile) : Op Unit := do
  let path := job.filePath.getD ""
  let d ← openDelivery (deliverComments path file) (detectFormat path).isCSV
  let s ← stageAll (processComment cfg job.id) (StagingRepository.createStagingComments job.id) d
  let _ ← Op.attempt (JobRepository.setTotalRecords job.id s.totalRows)
  let _ ← Op.attempt (StagingRepository.markDuplicateCommentsInBatch job.id)
  let _ ← Op.attempt (StagingRepository.markInvalidFKComments job.id)
  let successful ← StagingRepository.getValidStaging commentsSlot job.id cfg.batchSize.val
    (promoteBatch convertStagingToComment CommentRepository.createBatch) 0
  finish cfg commentsSlot job.id s successful

end BulkImport
