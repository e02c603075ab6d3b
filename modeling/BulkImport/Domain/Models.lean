import BulkImport.Basic.Uuid
import BulkImport.Basic.Time
import BulkImport.Basic.Json

/-!
# The data model

The records of `internal/domain/models/models.go` and `internal/domain/errors/errors.go` that the
pipeline, the controller and the exporters read or write. An import record (`UserImport`,
`ArticleImport`, `CommentImport`) is what a parser delivers, every field a string; an entity
(`User`, `Article`, `Comment`) is a row of a target table; a `Job` is a row of `jobs`.

Go's nil slice of `ArticleImport.Tags` is `none`. `Job` keeps the columns that some modelled
statement writes or reads; the timestamps `created_at` and `updated_at`, `file_url` and
`file_format` are left out, since no modelled decision reads them.
-/

namespace BulkImport

/-- `models.UserImport`: a user as the parsers deliver it. -/
structure UserImport where
  /-- `ID`, the field `id` of the file. -/
  id : String
  /-- `Email`, the field `email` of the file. -/
  email : String
  /-- `Name`, the field `name` of the file. -/
  name : String
  /-- `Role`, the field `role` of the file. -/
  role : String
  /-- `Active`, the field `active` of the file. -/
  active : String
  /-- `CreatedAt`, the field `created_at` of the file. -/
  createdAt : String
  /-- `UpdatedAt`, the field `updated_at` of the file. -/
  updatedAt : String
  deriving DecidableEq, Repr

/-- `models.ArticleImport`: an article as the parsers deliver it. -/
structure ArticleImport where
  /-- `ID`, the field `id` of the file. -/
  id : String
  /-- `Slug`, the field `slug` of the file. -/
  slug : String
  /-- `Title`, the field `title` of the file. -/
  title : String
  /-- `Body`, the field `body` of the file. -/
  body : String
  /-- `AuthorID`, the field `author_id` of the file. -/
  authorId : String
  /-- `Tags`, the field `tags` of the file; `none` for Go's nil slice. -/
  tags : Option (List String)
  /-- `PublishedAt`, the field `published_at` of the file. -/
  publishedAt : String
  /-- `Status`, the field `status` of the file. -/
  status : String
  deriving DecidableEq, Repr

/-- `models.CommentImport`: a comment as the parsers deliver it. -/
structure CommentImport where
  /-- `ID`, the field `id` of the file. -/
  id : String
  /-- `ArticleID`, the field `article_id` of the file. -/
  articleId : String
  /-- `UserID`, the field `user_id` of the file. -/
  userId : String
  /-- `Body`, the field `body` of the file. -/
  body : String
  /-- `CreatedAt`, the field `created_at` of the file. -/
  createdAt : String
  deriving DecidableEq, Repr

/-- `models.User`, a row of `users`. -/
structure User where
  /-- `ID`, the `id` column. -/
  id : Uuid
  /-- `Email`, the `email` column. -/
  email : String
  /-- `Name`, the `name` column. -/
  name : String
  /-- `Role`, the `role` column. -/
  role : String
  /-- `Active`, the `active` column. -/
  active : Bool
  /-- `CreatedAt`, the `created_at` column. -/
  createdAt : Time
  /-- `UpdatedAt`, the `updated_at` column. -/
  updatedAt : Time
  deriving DecidableEq

/-- `models.Article`, a row of `articles`; `tags` is the `JSONB` value. -/
structure Article where
  /-- `ID`, the `id` column. -/
  id : Uuid
  /-- `Slug`, the `slug` column. -/
  slug : String
  /-- `Title`, the `title` column. -/
  title : String
  /-- `Body`, the `body` column. -/
  body : String
  /-- `AuthorID`, the `author_id` column. -/
  authorId : Uuid
  /-- `Tags`, the `tags` column, a `JSONB` value. -/
  tags : JVal
  /-- `PublishedAt`, the `published_at` column. -/
  publishedAt : Option Time
  /-- `Status`, the `status` column. -/
  status : String
  /-- `CreatedAt`, the `created_at` column. -/
  createdAt : Time
  /-- `UpdatedAt`, the `updated_at` column. -/
  updatedAt : Time

/-- `models.Comment`, a row of `comments`. -/
structure Comment where
  /-- `ID`, the `id` column. -/
  id : Uuid
  /-- `ArticleID`, the `article_id` column. -/
  articleId : Uuid
  /-- `UserID`, the `user_id` column. -/
  userId : Uuid
  /-- `Body`, the `body` column. -/
  body : String
  /-- `CreatedAt`, the `created_at` column. -/
  createdAt : Time
  /-- `UpdatedAt`, the `updated_at` column. -/
  updatedAt : Time
  deriving DecidableEq

/-- `models.AllowedUserRoles`. -/
def allowedUserRoles : List String := ["admin", "reader", "author"]

/-- `models.AllowedArticleStatuses`. -/
def allowedArticleStatuses : List String := ["draft", "published", "archived"]

/-- `models.MaxCommentWords`. -/
def maxCommentWords : Nat := 500

/-! The error codes of `errors.go` that the pipeline writes. -/
namespace ErrCode

/-- `ErrCodeInvalidUUID`. -/
def invalidUuid : String := "INVALID_UUID"
/-- `ErrCodeInvalidEmail`. -/
def invalidEmail : String := "INVALID_EMAIL"
/-- `ErrCodeDuplicateEmail`. -/
def duplicateEmail : String := "DUPLICATE_EMAIL"
/-- `ErrCodeInvalidName`. -/
def invalidName : String := "INVALID_NAME"
/-- `ErrCodeInvalidRole`. -/
def invalidRole : String := "INVALID_ROLE"
/-- `ErrCodeInvalidBoolean`. -/
def invalidBoolean : String := "INVALID_BOOLEAN"
/-- `ErrCodeInvalidTimestamp`. -/
def invalidTimestamp : String := "INVALID_TIMESTAMP"
/-- `ErrCodeMissingField`. -/
def missingField : String := "MISSING_FIELD"
/-- `ErrCodeInvalidSlug`. -/
def invalidSlug : String := "INVALID_SLUG"
/-- `ErrCodeDuplicateSlug`. -/
def duplicateSlug : String := "DUPLICATE_SLUG"
/-- `ErrCodeInvalidTitle`. -/
def invalidTitle : String := "INVALID_TITLE"
/-- `ErrCodeInvalidAuthor`. -/
def invalidAuthor : String := "INVALID_AUTHOR"
/-- `ErrCodeInvalidTags`. -/
def invalidTags : String := "INVALID_TAGS"
/-- `ErrCodeInvalidStatus`. -/
def invalidStatus : String := "INVALID_STATUS"
/-- `ErrCodeDraftWithPublished`. -/
def draftWithPublished : String := "INVALID_PUBLISHED_AT"
/-- `ErrCodeMissingPublishedAt`. -/
def missingPublishedAt : String := "MISSING_PUBLISHED_AT"
/-- `ErrCodeInvalidArticle`. -/
def invalidArticle : String := "INVALID_ARTICLE"
/-- `ErrCodeInvalidUser`. -/
def invalidUser : String := "INVALID_USER"
/-- `ErrCodeBodyTooLong`. -/
def bodyTooLong : String := "BODY_TOO_LONG"
/-- `ErrCodeBodyEmpty`. -/
def bodyEmpty : String := "BODY_EMPTY"
/-- `ErrCodeFileParseError`. -/
def fileParseError : String := "FILE_PARSE_ERROR"

end ErrCode

/-- `errors.ValidationError`, one finding of a validator about one row. -/
structure ValidationError where
  /-- `RowNumber`, the row the finding is about. -/
  rowNumber : Nat
  /-- `RecordIdentifier`. -/
  recordIdentifier : String
  /-- `FieldName`. -/
  fieldName : String
  /-- `Code`, one of `ErrCode`. -/
  code : String
  /-- `Message`. -/
  message : String
  deriving DecidableEq, Repr

/-- `models.JobError`, a row of `job_errors`. `recordValidationErrors` always passes the
identifier and the field name, so neither is `NULL`. -/
structure JobError where
  /-- `JobID`, the `job_id` column. -/
  jobId : Uuid
  /-- `RowNumber`, the `row_number` column. -/
  rowNumber : Nat
  /-- `RecordIdentifier`, the `record_identifier` column. -/
  recordIdentifier : String
  /-- `FieldName`, the `field_name` column. -/
  fieldName : String
  /-- `ErrorCode`, the `error_code` column. -/
  errorCode : String
  /-- `ErrorMessage`, the `error_message` column. -/
  errorMessage : String
  deriving DecidableEq

/-- `models.JobType`. -/
inductive JobType where
  /-- `JobTypeImport`, `"import"` -/
  | typeImport
  /-- `JobTypeExport`, `"export"` -/
  | typeExport
  deriving DecidableEq, Repr

/-- `models.JobStatus`. -/
inductive JobStatus where
  /-- `JobStatusPending`, `"pending"` -/
  | pending
  /-- `JobStatusProcessing`, `"processing"` -/
  | processing
  /-- `JobStatusCompleted`, `"completed"` -/
  | completed
  /-- `JobStatusFailed`, `"failed"` -/
  | failed
  /-- `JobStatusCancelled`, `"cancelled"` -/
  | cancelled
  deriving DecidableEq, Repr

/-- `models.ResourceType`. -/
inductive ResourceType where
  /-- `ResourceTypeUsers`, `"users"` -/
  | users
  /-- `ResourceTypeArticles`, `"articles"` -/
  | articles
  /-- `ResourceTypeComments`, `"comments"` -/
  | comments
  deriving DecidableEq, Repr

/-- `models.Job`, a row of `jobs`, with the columns the modelled statements write or read. -/
structure Job where
  /-- `ID`, the `id` column. -/
  id : Uuid
  /-- `Type`, the `type` column. -/
  type : JobType
  /-- `Resource`, the `resource` column. -/
  resource : ResourceType
  /-- `Status`, the `status` column. -/
  status : JobStatus
  /-- `IdempotencyKey`, the `idempotency_key` column. -/
  idempotencyKey : Option String
  /-- `FilePath`, the `file_path` column. -/
  filePath : Option String
  /-- `TotalRecords`, the `total_records` column. -/
  totalRecords : Int
  /-- `ProcessedRecords`, the `processed_records` column. -/
  processedRecords : Int
  /-- `SuccessfulRecords`, the `successful_records` column. -/
  successfulRecords : Int
  /-- `FailedRecords`, the `failed_records` column. -/
  failedRecords : Int
  /-- `ErrorMessage`, the `error_message` column. -/
  errorMessage : Option String
  /-- `StartedAt`, the `started_at` column. -/
  startedAt : Option Time
  /-- `CompletedAt`, the `completed_at` column. -/
  completedAt : Option Time
  deriving DecidableEq

/-- `models.IdempotencyKey`, a row of `idempotency_keys`, with the columns the middleware and the
handler read or write. -/
structure IdempotencyKey where
  /-- `Key`, the `idempotency_key` column. -/
  key : String
  /-- `JobID`, the `job_id` column. -/
  jobId : Uuid
  /-- `StatusCode`, the `status_code` column. -/
  statusCode : Int
  /-- `CreatedAt`, the `created_at` column. -/
  createdAt : Time
  /-- `ExpiresAt`, the `expires_at` column. -/
  expiresAt : Time
  deriving DecidableEq

/-- `models.ExportFilters`. -/
structure ExportFilters where
  /-- `Status`, the `status` filter, `none` when not set. -/
  status : Option String := none
  /-- `Role`, the `role` filter, `none` when not set. -/
  role : Option String := none
  /-- `Active`, the `active` filter, `none` when not set. -/
  active : Option Bool := none
  /-- `CreatedAfter`, the `created_after` filter, `none` when not set. -/
  createdAfter : Option Time := none
  /-- `CreatedBefore`, the `created_before` filter, `none` when not set. -/
  createdBefore : Option Time := none
  /-- `AuthorID`, the `author_id` filter, `none` when not set. -/
  authorId : Option Uuid := none
  /-- `ArticleID`, the `article_id` filter, `none` when not set. -/
  articleId : Option Uuid := none
  /-- `UserID`, the `user_id` filter, `none` when not set. -/
  userId : Option Uuid := none

end BulkImport
