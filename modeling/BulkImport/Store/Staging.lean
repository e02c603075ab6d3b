import BulkImport.Domain.Validation
import Mathlib.Data.List.Sort

/-!
# The staging tables

`staging_users`, `staging_articles` and `staging_comments` (the migration in `part_005`) share
their bookkeeping columns and differ in their text columns, so a row is a `StagingRow F` whose
`fields : F` are the resource's columns. What phase 1 stages for a record is the field mapping of
the `processUser` / `processArticle` / `processComment` closures of `format.go`; what the
statements of `internal/repository/postgres/staging_repo.go` do to a table is given here as pure
functions, one per statement:

* `insertStaging` is `CreateStaging*`: one multi-row `INSERT`, all or nothing, which fails on a
  value too long for its `VARCHAR(n)` column, a NUL character, a row number outside `INTEGER`,
  or a job id missing from `jobs`;
* `markWhere` is the shape of every mark statement: an `UPDATE ... WHERE` whose condition reads
  the table as it was before the statement, and whose count is the number of rows it matched;
* `validStaging` is the query of `GetValidStaging*`, ordered by `staging_id`.
-/

namespace BulkImport

/-- A row of a staging table: the common columns, and the resource's text columns `fields`. -/
structure StagingRow (F : Type) where
  /-- The `SERIAL` id of the row. -/
  stagingId : Nat
  /-- The job that staged the row. -/
  jobId : Uuid
  /-- The row number the parser gave the record. -/
  rowNumber : Nat
  /-- The resource's text columns. -/
  fields : F
  /-- The first finding's code and message, or the mark's code, if any. -/
  validationError : Option String
  /-- Whether the row may be promoted. -/
  isValid : Bool
  /-- Whether a dedup statement marked the row. -/
  isDuplicate : Bool
  /-- The `processed` column; `MarkProcessed`, which would set it, is never called. -/
  processed : Bool

/-- The text columns of `staging_users`; `active` is the staged Boolean. -/
structure UserFields where
  /-- The `id` column. -/
  id : Option String
  /-- The `email` column. -/
  email : Option String
  /-- The `name` column. -/
  name : Option String
  /-- The `role` column. -/
  role : Option String
  /-- The `active` column. -/
  active : Option Bool
  /-- The `created_at` column. -/
  createdAt : Option String
  /-- The `updated_at` column. -/
  updatedAt : Option String

/-- The text columns of `staging_articles`; `tags` stands for the text `json.Marshal` writes for
the record's tag slice. -/
structure ArticleFields where
  /-- The `id` column. -/
  id : Option String
  /-- The `slug` column. -/
  slug : Option String
  /-- The `title` column. -/
  title : Option String
  /-- The `body` column. -/
  body : Option String
  /-- The `author_id` column. -/
  authorId : Option String
  /-- The `tags` column, as the record's tag slice. -/
  tags : Option (List String)
  /-- The `published_at` column. -/
  publishedAt : Option String
  /-- The `status` column. -/
  status : Option String

/-- The text columns of `staging_comments`. -/
structure CommentFields where
  /-- The `id` column. -/
  id : Option String
  /-- The `article_id` column. -/
  articleId : Option String
  /-- The `user_id` column. -/
  userId : Option String
  /-- The `body` column. -/
  body : Option String
  /-- The `created_at` column. -/
  createdAt : Option String

/-- A staging table and its `SERIAL` sequence. -/
structure StagingTable (F : Type) where
  /-- The rows, in insertion order. -/
  rows : List (StagingRow F)
  /-- The last value the sequence handed out. -/
  seq : Nat

/-! ## What phase 1 stages -/

/-- A field that `processUser` stages only when it is non-empty. -/
def optText (s : String) : Option String := if s = "" then none else some s

/-- The columns `processUser` stages for a user: the email trimmed and lower-cased, the role
lower-cased, `active` as the test `strings.ToLower(active) == "true"`. -/
def stageUserFields (u : UserImport) : UserFields where
  id := optText u.id
  email := (optText u.email).map fun e => toLower (trimSpace e)
  name := optText u.name
  role := (optText u.role).map toLower
  active := (optText u.active).map fun a => toLower a == "true"
  createdAt := optText u.createdAt
  updatedAt := optText u.updatedAt

/-- The columns `processArticle` stages for an article: the slug trimmed, lower-cased and with
its spaces made hyphens, the status lower-cased, the tags whenever the slice is not `nil`. -/
def stageArticleFields (a : ArticleImport) : ArticleFields where
  id := optText a.id
  slug := (optText a.slug).map fun s => spacesToHyphens (toLower (trimSpace s))
  title := optText a.title
  body := optText a.body
  authorId := optText a.authorId
  tags := a.tags
  publishedAt := optText a.publishedAt
  status := (optText a.status).map toLower

/-- The columns `processComment` stages for a comment, as delivered. -/
def stageCommentFields (c : CommentImport) : CommentFields :=
  ⟨optText c.id, optText c.articleId, optText c.userId, optText c.body, optText c.createdAt⟩

/-- The columns of a row that did not parse: none. -/
def UserFields.empty : UserFields := ⟨none, none, none, none, none, none, none⟩

/-- The columns of an article row that did not parse: none. -/
def ArticleFields.empty : ArticleFields := ⟨none, none, none, none, none, none, none, none⟩

/-- The columns of a comment row that did not parse: none. -/
def CommentFields.empty : CommentFields := ⟨none, none, none, none, none⟩

/-- The staging row of a delivered record with its validator's findings: valid when there are
none, and otherwise carrying the first finding as `code: message`. -/
def stagedRow {F : Type} (jobId : Uuid) (row : Nat) (fields : F) (errs : List ValidationError) :
    StagingRow F where
  stagingId := 0
  jobId := jobId
  rowNumber := row
  fields := fields
  validationError := errs.head?.map fun e => e.code ++ ": " ++ e.message
  isValid := errs.isEmpty
  isDuplicate := false
  processed := false

/-- The staging row of a line that did not parse. -/
def parseErrorRow {F : Type} (jobId : Uuid) (row : Nat) (empty : F) : StagingRow F where
  stagingId := 0
  jobId := jobId
  rowNumber := row
  fields := empty
  validationError := some (ErrCode.fileParseError ++ ": Invalid record format")
  isValid := false
  isDuplicate := false
  processed := false

/-! ## `CreateStaging*` -/

/-- The first column value the database refuses, as its error: columns are `(n, value)` with
`n = 0` for `TEXT` and `n` the limit of a `VARCHAR(n)`. -/
def columnError : List (Nat × Option String) → Option String
  | [] => none
  | (n, some s) :: cs =>
    if !fitsText s then some "pq: invalid byte sequence for encoding \"UTF8\": 0x00"
    else if n ≠ 0 ∧ n < s.length then
      some ("pq: value too long for type character varying(" ++ Nat.repr n ++ ")")
    else columnError cs
  | (_, none) :: cs => columnError cs

/-- The text of a staged Boolean in the `VARCHAR(50)` column `active`. -/
def boolText (b : Bool) : String := if b then "true" else "false"

/-- The columns of `staging_users` with their widths, in the `INSERT`'s order. -/
def UserFields.columns (f : UserFields) : List (Nat × Option String) :=
  [(255, f.id), (255, f.email), (255, f.name), (50, f.role), (50, f.active.map boolText),
    (255, f.createdAt), (255, f.updatedAt)]

/-- The columns of `staging_articles` with their widths; `body` is `TEXT`. -/
def ArticleFields.columns (f : ArticleFields) : List (Nat × Option String) :=
  [(255, f.id), (500, f.slug), (500, f.title), (0, f.body), (255, f.authorId),
    (255, f.tags.map fun ts => (strArray ts).text), (255, f.publishedAt), (50, f.status)]

/-- The columns of `staging_comments` with their widths; `body` is `TEXT`. -/
def CommentFields.columns (f : CommentFields) : List (Nat × Option String) :=
  [(255, f.id), (255, f.articleId), (255, f.userId), (0, f.body), (255, f.createdAt)]

/-- Why the database refuses one staging row: its row number outside `INTEGER`, a column value,
or its `validation_error` (`VARCHAR(255)`). -/
def stagingRowError {F : Type} (columns : F → List (Nat × Option String)) (r : StagingRow F) :
    Option String :=
  if !fitsInt4 r.rowNumber then some "pq: integer out of range"
  else columnError (columns r.fields ++ [(255, r.validationError)])

/-- The rows numbered from the sequence, as the `SERIAL` column numbers an `INSERT`'s rows. -/
def numberFrom {F : Type} : Nat → List (StagingRow F) → List (StagingRow F)
  | _, [] => []
  | n, r :: rs => { r with stagingId := n } :: numberFrom (n + 1) rs

/-- `CreateStaging*`: the rows appended with fresh staging ids, or the first refusal; the job must
exist, since `job_id` references `jobs(id)`. -/
def insertStaging {F : Type} (columns : F → List (Nat × Option String)) (jobExists : Bool)
    (rows : List (StagingRow F)) (t : StagingTable F) : Except String (StagingTable F) :=
  if !jobExists then .error "pq: insert or update on table violates foreign key constraint"
  else
    match (rows.map (stagingRowError columns)).reduceOption.head? with
    | some e => .error e
    | none => .ok ⟨t.rows ++ numberFrom (t.seq + 1) rows, t.seq + rows.length⟩

/-! ## The mark statements -/

/-- An `UPDATE ... SET ... WHERE hit`: the rows it matches are rewritten by `set`, and the count
is the number of rows it matched. -/
def markWhere {F : Type} (hit : StagingRow F → Bool) (set : StagingRow F → StagingRow F)
    (rows : List (StagingRow F)) : List (StagingRow F) × Nat :=
  (rows.map fun r => if hit r then set r else r, (rows.filter hit).length)

/-- The `SET` of the duplicate marks: duplicate, invalid, with the code as the error. -/
def markDuplicate {F : Type} (code : String) (r : StagingRow F) : StagingRow F :=
  { r with isDuplicate := true, validationError := some code, isValid := false }

/-- The `SET` of the foreign-key marks: invalid, with the code as the error. -/
def markInvalid {F : Type} (code : String) (r : StagingRow F) : StagingRow F :=
  { r with validationError := some code, isValid := false }

/-- The condition of `MarkDuplicate*InBatch`: a row of the job whose key (not `NULL`) equals the
key of a row of the same job with a smaller staging id, in the table before the statement. -/
def dupInBatch {F : Type} (key : F → Option String) (jobId : Uuid) (rows : List (StagingRow F))
    (r : StagingRow F) : Bool :=
  r.jobId == jobId && (key r.fields).isSome &&
    rows.any fun r2 => r2.jobId == r.jobId && key r2.fields == key r.fields &&
      r2.stagingId < r.stagingId

/-- The condition of `MarkDuplicate*AgainstExisting`: a valid row of the job whose key is held by
a target row, and whose id is `NULL` or the text of no target row's id. -/
def dupAgainstExisting {F : Type} (key idOf : F → Option String) (existingKeys : List String)
    (existingIds : List String) (jobId : Uuid) (r : StagingRow F) : Bool :=
  r.jobId == jobId && r.isValid &&
    (match key r.fields with | some k => k ∈ existingKeys | none => false) &&
    (match idOf r.fields with | some i => i ∉ existingIds | none => true)

/-- `MarkDuplicateUsersInBatch`: on `LOWER(email)`, code `DUPLICATE_EMAIL`. -/
def markDuplicateUsersInBatch (jobId : Uuid) (rows : List (StagingRow UserFields)) :
    List (StagingRow UserFields) × Nat :=
  markWhere (dupInBatch (fun f => f.email.map toLower) jobId rows)
    (markDuplicate ErrCode.duplicateEmail) rows

/-- `MarkDuplicateArticlesInBatch`: on `LOWER(slug)`, code `DUPLICATE_SLUG`. -/
def markDuplicateArticlesInBatch (jobId : Uuid) (rows : List (StagingRow ArticleFields)) :
    List (StagingRow ArticleFields) × Nat :=
  markWhere (dupInBatch (fun f => f.slug.map toLower) jobId rows)
    (markDuplicate ErrCode.duplicateSlug) rows

/-- `MarkDuplicateCommentsInBatch`: on the id text itself, code `DUPLICATE_ID`. -/
def markDuplicateCommentsInBatch (jobId : Uuid) (rows : List (StagingRow CommentFields)) :
    List (StagingRow CommentFields) × Nat :=
  markWhere (dupInBatch (fun f => f.id) jobId rows) (markDuplicate "DUPLICATE_ID") rows

/-- The texts `u.id::text` of a table's ids. -/
def idTexts {E : Type} (id : E → Uuid) (rows : List E) : List String :=
  rows.map fun e => (id e).toText

/-- A referencing column that is not `NULL` and names no row: the test `col IS NOT NULL AND NOT
EXISTS (... WHERE x.id::text = col)`. -/
def dangling (ids : List String) : Option String → Bool
  | some x => x ∉ ids
  | none => false

/-- `MarkDuplicateUsersAgainstExisting`, over the `users` table. -/
def markDuplicateUsersAgainstExisting (users : List User) (jobId : Uuid)
    (rows : List (StagingRow UserFields)) : List (StagingRow UserFields) × Nat :=
  markWhere (dupAgainstExisting (fun f => f.email.map toLower) (·.id)
      (users.map fun u => toLower u.email) (idTexts (·.id) users) jobId)
    (markDuplicate ErrCode.duplicateEmail) rows

/-- `MarkDuplicateArticlesAgainstExisting`, over the `articles` table. -/
def markDuplicateArticlesAgainstExisting (articles : List Article) (jobId : Uuid)
    (rows : List (StagingRow ArticleFields)) : List (StagingRow ArticleFields) × Nat :=
  markWhere (dupAgainstExisting (fun f => f.slug.map toLower) (·.id)
      (articles.map fun a => toLower a.slug) (idTexts (·.id) articles) jobId)
    (markDuplicate ErrCode.duplicateSlug) rows

/-- `MarkInvalidAuthorFKArticles`: the job's valid rows whose author is no user. -/
def markInvalidAuthorFKArticles (users : List User) (jobId : Uuid)
    (rows : List (StagingRow ArticleFields)) : List (StagingRow ArticleFields) × Nat :=
  markWhere (fun r => r.jobId == jobId && r.isValid && dangling (idTexts (·.id) users) r.fields.authorId)
    (markInvalid "INVALID_AUTHOR_FK") rows

/-- The `CASE` of `MarkInvalidFKComments`: the article first, then the user. -/
def commentFKCode (articles : List Article) (users : List User) (f : CommentFields) : String :=
  if dangling (idTexts (·.id) articles) f.articleId then "INVALID_ARTICLE_FK"
  else if dangling (idTexts (·.id) users) f.userId then "INVALID_USER_FK"
  else "INVALID_FK"

/-- `MarkInvalidFKComments`: the job's valid rows whose article or user does not exist. -/
def markInvalidFKComments (articles : List Article) (users : List User) (jobId : Uuid)
    (rows : List (StagingRow CommentFields)) : List (StagingRow CommentFields) × Nat :=
  markWhere (fun r => r.jobId == jobId && r.isValid &&
      (dangling (idTexts (·.id) articles) r.fields.articleId ||
        dangling (idTexts (·.id) users) r.fields.userId))
    (fun r => markInvalid (commentFKCode articles users r.fields) r) rows

/-- `GetValidStaging*`'s query: the job's valid, non-duplicate, unprocessed rows by staging id. -/
def validStaging {F : Type} (jobId : Uuid) (rows : List (StagingRow F)) : List (StagingRow F) :=
  (rows.filter fun r => r.jobId == jobId && r.isValid && !r.isDuplicate && !r.processed).insertionSort
    fun a b => a.stagingId ≤ b.stagingId

/-- `CleanupStaging*`: the job's rows deleted. -/
def cleanupStaging {F : Type} (jobId : Uuid) (t : StagingTable F) : StagingTable F :=
  { t with rows := t.rows.filter fun r => r.jobId != jobId }

/-! ## What the statements keep -/

/-- What a mark statement may do to a row: keep its identity, its row number and its columns,
and at most take its validity away. -/
def StagingRow.Weakens {F : Type} (r r' : StagingRow F) : Prop :=
  r'.stagingId = r.stagingId ∧ r'.jobId = r.jobId ∧ r'.rowNumber = r.rowNumber ∧
    r'.fields = r.fields ∧ (r'.isValid = true → r.isValid = true)

/-- A row weakens to itself. -/
theorem StagingRow.Weakens.refl {F : Type} (r : StagingRow F) : r.Weakens r :=
  ⟨rfl, rfl, rfl, rfl, id⟩

/-- A statement that rewrites each row of the table in place by a function that weakens every
row: it keeps the rows' order, ids, jobs, row numbers and columns, and never makes a row valid. -/
def RewritesInPlace {F : Type} (m : List (StagingRow F) → List (StagingRow F) × Nat) : Prop :=
  ∀ rows, ∃ g : StagingRow F → StagingRow F, (∀ r : StagingRow F, r.Weakens (g r)) ∧
    (m rows).1 = rows.map g

/-- A row marked a duplicate is invalid. -/
@[simp] theorem markDuplicate_isValid {F : Type} (code : String) (r : StagingRow F) :
    (markDuplicate code r).isValid = false := rfl

/-- A row marked invalid is invalid. -/
@[simp] theorem markInvalid_isValid {F : Type} (code : String) (r : StagingRow F) :
    (markInvalid code r).isValid = false := rfl

/-- Marking a row a duplicate only takes its validity away. -/
theorem markDuplicate_weakens {F : Type} (code : String) (r : StagingRow F) :
    r.Weakens (markDuplicate code r) :=
  ⟨rfl, rfl, rfl, rfl, fun h => nomatch h⟩

/-- Marking a row invalid only takes its validity away. -/
theorem markInvalid_weakens {F : Type} (code : String) (r : StagingRow F) :
    r.Weakens (markInvalid code r) :=
  ⟨rfl, rfl, rfl, rfl, fun h => nomatch h⟩

/-- A mark whose `SET` weakens the rows it matches rewrites the table in place. -/
theorem markWhere_rewritesInPlace {F : Type} (hit : List (StagingRow F) → StagingRow F → Bool)
    {set : StagingRow F → StagingRow F} (hw : ∀ r : StagingRow F, r.Weakens (set r)) :
    RewritesInPlace fun rows => markWhere (hit rows) set rows := fun rows =>
  ⟨fun r => if hit rows r then set r else r, fun r => by
    by_cases h : hit rows r
    · simpa only [h, ite_true] using hw r
    · simpa only [h] using StagingRow.Weakens.refl r, rfl⟩

/-- Every mark statement rewrites the staging rows in place and at most takes validity away. -/
theorem marks_rewriteInPlace (jobId : Uuid) (users : List User) (articles : List Article) :
    RewritesInPlace (markDuplicateUsersInBatch jobId) ∧
    RewritesInPlace (markDuplicateUsersAgainstExisting users jobId) ∧
    RewritesInPlace (markDuplicateArticlesInBatch jobId) ∧
    RewritesInPlace (markDuplicateArticlesAgainstExisting articles jobId) ∧
    RewritesInPlace (markInvalidAuthorFKArticles users jobId) ∧
    RewritesInPlace (markDuplicateCommentsInBatch jobId) ∧
    RewritesInPlace (markInvalidFKComments articles users jobId) :=
  ⟨markWhere_rewritesInPlace _ (markDuplicate_weakens _),
    markWhere_rewritesInPlace (fun _ => _) (markDuplicate_weakens _),
    markWhere_rewritesInPlace _ (markDuplicate_weakens _),
    markWhere_rewritesInPlace (fun _ => _) (markDuplicate_weakens _),
    markWhere_rewritesInPlace (fun _ => _) (markInvalid_weakens _),
    markWhere_rewritesInPlace _ (markDuplicate_weakens _),
    markWhere_rewritesInPlace (fun _ => _) fun r => markInvalid_weakens _ r⟩

/-- An insert appends the rows, numbered from the sequence. -/
theorem insertStaging_ok {F : Type} {columns : F → List (Nat × Option String)} {ex : Bool}
    {rows : List (StagingRow F)} {t t' : StagingTable F} (h : insertStaging columns ex rows t = .ok t') :
    t'.rows = t.rows ++ numberFrom (t.seq + 1) rows := by
  unfold insertStaging at h
  split at h
  · cases h
  · split at h
    · cases h
    · cases h; rfl

/-- `GetValidStaging*` reads only the job's valid, non-duplicate, unprocessed rows. -/
theorem mem_validStaging {F : Type} {jobId : Uuid} {rows : List (StagingRow F)} {r : StagingRow F}
    (h : r ∈ validStaging jobId rows) :
    r ∈ rows ∧ r.jobId = jobId ∧ r.isValid = true ∧ r.isDuplicate = false ∧ r.processed = false := by
  have h' := (List.perm_insertionSort _ _).mem_iff.mp h
  simp only [List.mem_filter, Bool.and_eq_true, beq_iff_eq, Bool.not_eq_true'] at h'
  exact ⟨h'.1, h'.2.1.1.1, h'.2.1.1.2, h'.2.1.2, h'.2.2⟩

/-! ## The rows of one job -/

section JobRows

variable {F : Type}

/-- The rows of job `k` in a staging table, in the table's order. -/
def jobRows (k : Uuid) (rows : List (StagingRow F)) : List (StagingRow F) :=
  rows.filter (·.jobId == k)

/-- The valid rows among `rows` carry no row number of `bad`. -/
def RowsSound (bad : List Nat) (rows : List (StagingRow F)) : Prop :=
  ∀ r ∈ rows, r.isValid = true → r.rowNumber ∉ bad

/-- A staging table during phase 1 of job `k`, with `batch` pending and the rows `next` still to
come: the row numbers of the job's rows, then of the batch, then of the rows to come, strictly
increase, and no valid row of the job or of the batch carries a row number of `bad`. -/
def Staged (bad : List Nat) (k : Uuid) (batch : List (StagingRow F)) (next : List Nat)
    (rows : List (StagingRow F)) : Prop :=
  ((jobRows k rows ++ batch).map (·.rowNumber) ++ next).Pairwise (· < ·) ∧
    RowsSound bad (jobRows k rows ++ batch)

/-- A staging table after phase 1 of job `k`: the job's row numbers strictly increase and its
valid rows carry no row number of `bad`. -/
def Tidy (bad : List Nat) (k : Uuid) (rows : List (StagingRow F)) : Prop :=
  Staged bad k [] [] rows

variable {bad : List Nat} {k : Uuid}

/-- Two lists of rows whose valid rows avoid `bad`, joined. -/
theorem RowsSound.append {a b : List (StagingRow F)} (ha : RowsSound bad a) (hb : RowsSound bad b) :
    RowsSound bad (a ++ b) := fun r hr =>
  (List.mem_append.mp hr).elim (ha r) (hb r)

/-- Numbering rows from the sequence does not change whether their valid rows avoid `bad`. -/
theorem rowsSound_numberFrom (rows : List (StagingRow F)) :
    ∀ n, RowsSound bad (numberFrom n rows) ↔ RowsSound bad rows := by
  induction rows with
  | nil => intro; exact Iff.rfl
  | cons r rs ih =>
    intro n
    simp only [numberFrom, RowsSound, List.forall_mem_cons] at ih ⊢
    rw [ih]

/-- Numbering rows from the sequence keeps their row numbers. -/
theorem numberFrom_rowNumbers (rows : List (StagingRow F)) :
    ∀ n, (numberFrom n rows).map (·.rowNumber) = rows.map (·.rowNumber) := by
  induction rows with
  | nil => intro; rfl
  | cons r rs ih => intro n; simp only [numberFrom, List.map_cons, ih]

/-- Rows given the job's id are all rows of the job, numbered or not. -/
theorem jobRows_numberFrom (rows : List (StagingRow F)) : ∀ n,
    jobRows k (numberFrom n (rows.map fun r => { r with jobId := k })) =
      numberFrom n (rows.map fun r => { r with jobId := k }) := by
  induction rows with
  | nil => intro; rfl
  | cons r rs ih => intro n; simp only [jobRows, List.map_cons, numberFrom, List.filter_cons,
      beq_self_eq_true, ite_true] at ih ⊢; rw [ih]

/-- The insert of a batch of job `k` moves the batch into the table. -/
theorem Staged.insert {batch : List (StagingRow F)} {next : List Nat} {t t' : StagingTable F}
    (h : Staged bad k batch next t.rows)
    (ht : t'.rows = t.rows ++ numberFrom (t.seq + 1) (batch.map fun r => { r with jobId := k })) :
    Staged bad k [] next t'.rows := by
  have hj : jobRows k t'.rows = jobRows k t.rows ++
      numberFrom (t.seq + 1) (batch.map fun r => { r with jobId := k }) := by
    rw [ht, jobRows, List.filter_append]; exact congrArg _ (jobRows_numberFrom batch _)
  refine ⟨?_, ?_⟩
  · rw [hj, List.append_nil, List.map_append, numberFrom_rowNumbers, List.map_map]
    simpa only [List.map_append] using h.1
  · rw [hj, List.append_nil]
    refine (RowsSound.append (fun r hr => h.2 r (List.mem_append_left _ hr))
      ((rowsSound_numberFrom _ _).mpr fun r hr => ?_))
    obtain ⟨r₀, hr₀, rfl⟩ := List.mem_map.mp hr
    exact h.2 r₀ (List.mem_append_right _ hr₀)

/-- A staged table is tidy. -/
theorem Staged.tidy {batch : List (StagingRow F)} {next : List Nat} {rows : List (StagingRow F)}
    (h : Staged bad k batch next rows) : Tidy bad k rows := by
  refine ⟨?_, fun r hr => h.2 r (List.mem_append_left _ (by simpa only [List.append_nil] using hr))⟩
  refine h.1.sublist ?_
  simp only [List.append_nil, List.map_append, List.append_assoc]
  exact List.sublist_append_left _ _

/-- A row added to the batch moves from the rows to come to the batch. -/
theorem Staged.snoc {batch : List (StagingRow F)} {next : List Nat} {rows : List (StagingRow F)}
    {r : StagingRow F} (h : Staged bad k batch (r.rowNumber :: next) rows)
    (hr : r.isValid = true → r.rowNumber ∉ bad) : Staged bad k (batch ++ [r]) next rows := by
  refine ⟨by simpa only [List.map_append, List.map_cons, List.map_nil, List.append_assoc,
    List.singleton_append] using h.1, ?_⟩
  rw [← List.append_assoc]
  exact h.2.append fun r' hr' => by rw [List.mem_singleton.mp hr']; exact hr

/-- A statement that rewrites each row in place, keeping its job and row number and at most
taking its validity away, keeps a staged table staged. -/
theorem Staged.map {batch : List (StagingRow F)} {next : List Nat} {rows : List (StagingRow F)}
    {g : StagingRow F → StagingRow F} (hg : ∀ r : StagingRow F, r.Weakens (g r)) (h : Staged bad k batch next rows) :
    Staged bad k batch next (rows.map g) := by
  have hj : jobRows k (rows.map g) = (jobRows k rows).map g := by
    simp only [jobRows, List.filter_map]
    congr 1
    exact List.filter_congr fun r _ => by simp only [Function.comp, (hg r).2.1]
  have hn : ((jobRows k rows).map g).map (·.rowNumber) = (jobRows k rows).map (·.rowNumber) := by
    simp only [List.map_map]
    exact List.map_congr_left fun r _ => (hg r).2.2.1
  refine ⟨by rw [hj, List.map_append, hn, ← List.map_append]; exact h.1, fun r hr hv => ?_⟩
  rw [hj] at hr
  rcases List.mem_append.mp hr with hr | hr
  · obtain ⟨r₀, hr₀, rfl⟩ := List.mem_map.mp hr
    rw [(hg r₀).2.2.1]
    exact h.2 r₀ (List.mem_append_left _ hr₀) ((hg r₀).2.2.2.2 hv)
  · exact h.2 r (List.mem_append_right _ hr) hv

/-- After `CleanupStaging*` the job has no row left, so the table is tidy. -/
theorem tidy_cleanup (t : StagingTable F) : Tidy bad k (cleanupStaging k t).rows := by
  have : jobRows k (cleanupStaging k t).rows = [] := by
    simp only [jobRows, cleanupStaging, List.filter_filter]
    exact List.filter_eq_nil_iff.mpr fun r _ => by simp
  exact ⟨by simp [this], by simp [this, RowsSound]⟩

/-- The job's row numbers in a tidy table are distinct. -/
theorem Tidy.nodup {rows : List (StagingRow F)} (h : Tidy bad k rows) :
    ((jobRows k rows).map (·.rowNumber)).Nodup := by
  have := h.1
  simp only [List.append_nil] at this
  exact this.imp Nat.ne_of_lt

end JobRows

end BulkImport
