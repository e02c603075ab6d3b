import BulkImport.Control.Worker

/-!
# Where the import's checks and the target tables part

Two places where the checks of an import and the tables it writes disagree:

* `MarkInvalidAuthorFKArticles` and `MarkInvalidFKComments` (`staging_repo.go`) compare a staged
  reference with the text `u.id::text`, the canonical lower-case spelling, while the validators
  and `convertStagingTo*` read it with `uuid.Parse`, which accepts other spellings of the same
  UUID. A respelled reference to an existing row is marked as dangling.
* `ValidateArticleImport` admits the status `archived` (`AllowedArticleStatuses`), which the
  `CHECK` constraint of `articles` (`part_005`) refuses, so a validated article makes the promote
  phase's `CreateBatch` fail, and the job with it.
-/

namespace BulkImport

/-! ## Foreign keys compared as text -/

/-- A reference that `uuid.Parse` reads as `x` but that is not `x`'s canonical text names no row,
as `NOT EXISTS (... WHERE x.id::text = col)` tests it. -/
theorem dangling_of_respelled {E : Type} {id : E → Uuid} {rows : List E} {a : String} {x : Uuid}
    (hparse : Uuid.parse a = some x) (hspell : a ≠ x.toText) :
    dangling (idTexts id rows) (some a) = true := by
  simp only [dangling, idTexts, List.mem_map, not_exists, not_and, decide_eq_true_eq]
  intro e _ he
  have : x = id e := Option.some_injective _ (hparse.symm.trans (he ▸ Uuid.parse_toText _))
  exact hspell (he ▸ this ▸ rfl)

/-- `MarkInvalidAuthorFKArticles` marks a valid staged article of the job whose author text is a
non-canonical spelling of a UUID, whatever `users` holds, so also when a user has that id. -/
theorem markInvalidAuthorFKArticles_respelled {users : List User} {jobId : Uuid}
    {rows : List (StagingRow ArticleFields)} {r : StagingRow ArticleFields} {a : String} {x : Uuid}
    (hr : r ∈ rows) (hjob : r.jobId = jobId) (hvalid : r.isValid = true)
    (ha : r.fields.authorId = some a) (hparse : Uuid.parse a = some x)
    (hspell : a ≠ x.toText) :
    markInvalid "INVALID_AUTHOR_FK" r ∈ (markInvalidAuthorFKArticles users jobId rows).1 := by
  refine List.mem_map.mpr ⟨r, hr, ?_⟩
  rw [if_pos]
  simp [hjob, hvalid, ha, dangling_of_respelled hparse hspell]

/-- The author of the fixtures below. -/
def sampleAuthor : User := ⟨Uuid.ofSeed 9, "a@b.co", "Alice", "author", true, ⟨0⟩, ⟨0⟩⟩

/-- The author's id in upper case, a spelling `uuid.Parse` accepts. -/
def upperAuthorText : String := "00000000-0000-0000-0000-00000000000A"

/-- An article record by that author. -/
def upperAuthorArticle : ArticleImport :=
  ⟨"", "hello-world", "Hello", "Body", upperAuthorText, none, "", "draft"⟩

/-- A CSV upload of articles with one record. -/
def articleUpload (row : List String) : ImportFile :=
  ⟨"uploads/articles.csv", ⟨.ok ["slug", "title", "body", "author_id", "status"], [some row]⟩,
    ⟨[], none⟩⟩

/-- The queued import job of that upload. -/
def articleJob : Job := importJobOf (Uuid.ofSeed 100) .articles "uploads/articles.csv" ""

/-- The staging row `processArticle` makes of it at row 2 of a job. -/
def upperAuthorRow : StagingRow ArticleFields :=
  stagedRow (Uuid.ofSeed 100) 2 (stageArticleFields upperAuthorArticle)
    (validateArticleImport 2 upperAuthorArticle)

/-- An article whose author id is the upper-case spelling of a user's id passes validation and is
marked `INVALID_AUTHOR_FK`. -/
theorem upper_case_author_marked :
    validateArticleImport 2 upperAuthorArticle = [] ∧
      Uuid.parse upperAuthorText = some sampleAuthor.id ∧
      markInvalid "INVALID_AUTHOR_FK" upperAuthorRow ∈
        (markInvalidAuthorFKArticles [sampleAuthor] (Uuid.ofSeed 100) [upperAuthorRow]).1 :=
  ⟨by decide, by decide,
    markInvalidAuthorFKArticles_respelled (x := sampleAuthor.id) (List.mem_singleton.mpr rfl) rfl
      (by decide) rfl (by decide) (by decide)⟩

/-- The import of that article completes and writes no article. -/
example : (processArticlesImport ImportConfig.default articleJob
    (articleUpload ["hello-world", "Hello", "Body", upperAuthorText, "draft"])
    (World.start { Db.empty with users := [sampleAuthor], jobs := [articleJob] } fun _ => none)
    ).2.db.articles.length = 0 := by
  decide

/-! ## The status `archived` -/

/-- The article `convertStagingToArticle` builds carries the staged status. -/
theorem convertStagingToArticle_status {sa : StagingRow ArticleFields} {w : World}
    {art : Article} (h : (convertStagingToArticle sa w).1 = .ok (.ok art)) :
    art.status = sa.fields.status.getD "" := by
  simp only [convertStagingToArticle, Op.bind_apply, now, Op.pure_apply] at h
  split at h <;> simp only [Prod.fst, Except.ok.injEq, reduceCtorEq] at h
  rename_i id _
  rcases id with _ | id <;> cases hr : convertRef sa.fields.authorId <;>
    simp only [Except.bind, Except.map, hr, reduceCtorEq, Except.ok.injEq] at h
  exact h ▸ rfl

/-- An article whose status is neither `draft` nor `published` breaks `articles_status_check`. -/
theorem articleRowError_status {users : List User} {others : List Article} {a : Article}
    (h : a.status ∉ ["draft", "published"]) : articleRowError users others a ≠ none :=
  firstError_ne_none (x := errCheck "articles" "articles_status_check") (by simp [h])

/-- A statement whose rows include one that every version of it, merged or not, breaks, fails. -/
theorem upsertAll_error {E : Type} {id : E → Uuid} {merge : E → E → E}
    {check : List E → E → Option String} (bad : E → Prop)
    (hcheck : ∀ others e, bad e → check others e ≠ none)
    (hmerge : ∀ old e, bad e → bad (merge old e)) :
    ∀ (touched : List Uuid) (es tbl : List E), (∃ e ∈ es, bad e) →
      ∃ err, upsertAll id merge check touched es tbl = .error err
  | _, [], _, ⟨_, he, _⟩ => absurd he (List.not_mem_nil _)
  | touched, e :: es, tbl, ⟨b, hb, hbad⟩ => by
    unfold upsertAll
    split_ifs
    · exact ⟨_, rfl⟩
    cases hf : tbl.find? (id · == id e) <;> simp only [hf] <;> split
    all_goals first
      | exact ⟨_, rfl⟩
      | rename_i hnone
        rcases List.mem_cons.mp hb with rfl | hb
        · exact absurd hnone (hcheck _ _ (by first | exact hmerge _ _ hbad | exact hbad))
        · exact upsertAll_error bad hcheck hmerge _ es _ ⟨b, hb, hbad⟩

/-- Every tag finding is about the field `tags`. -/
theorem tagFindings_field {row : Nat} {identifier : String} {tags : Option (List String)}
    {e : ValidationError} (h : e ∈ tagFindings (ValidationError.mk row identifier) tags) :
    e.fieldName = "tags" := by
  rcases tags with _ | tags
  · cases h
  · simp only [tagFindings] at h
    split_ifs at h
    · cases h
    all_goals rcases List.mem_append.mp h with h | h <;>
      first | exact absurd h (List.not_mem_nil _) | rw [List.mem_singleton.mp h]

/-- `ValidateArticleImport` has no finding about the status of an article whose status is
`archived`, in any case: `AllowedArticleStatuses` lists it. -/
theorem validateArticleImport_archived {row : Nat} {a : ArticleImport}
    (h : toLower a.status = "archived") :
    ∀ e ∈ validateArticleImport row a, e.fieldName ≠ "status" := by
  intro e he
  have hne : a.status ≠ "" := by rintro h0; rw [h0] at h; exact absurd h (by decide)
  simp only [validateArticleImport, List.mem_append] at he
  rcases he with (((((((((he | he) | he) | he) | he) | he) | he) | he) | he) | he)
  case inr => rw [tagFindings_field he]; decide
  all_goals split_ifs at he <;> simp only [List.mem_singleton, List.not_mem_nil] at he <;>
    simp_all [allowedArticleStatuses]

/-- An article record whose status is `archived`, in any case, draws no status finding from the
validator, and the row the promote phase builds from its staging row breaks
`articles_status_check`: every `CreateBatch` that carries it fails. -/
theorem archived_article_admitted_then_refused {a : ArticleImport}
    (harch : toLower a.status = "archived") (row : Nat) (jobId : Uuid) :
    (∀ e ∈ validateArticleImport row a, e.fieldName ≠ "status") ∧
      ∀ (w : World) (art : Article),
        (convertStagingToArticle (stagedRow jobId row (stageArticleFields a)
          (validateArticleImport row a)) w).1 = .ok (.ok art) →
        ∀ (now : Time) (users : List User) (batch tbl : List Article), art ∈ batch →
          ∃ err, insertArticles now users batch tbl = .error err := by
  refine ⟨validateArticleImport_archived harch, fun w art hconv now users batch tbl hmem => ?_⟩
  have hne : a.status ≠ "" := by rintro h0; rw [h0] at harch; exact absurd harch (by decide)
  have hstatus : art.status = "archived" := by
    rw [convertStagingToArticle_status hconv]
    simp [stagedRow, stageArticleFields, optText, hne, harch]
  unfold insertArticles
  apply upsertAll_error (fun x : Article => x.status ∉ ["draft", "published"])
  · exact fun _ _ h => articleRowError_status h
  · exact fun _ _ h => h
  · exact ⟨art, hmem, show art.status ∉ _ by rw [hstatus]; decide⟩

/-- An archived article by the sample author. -/
def archivedArticle : ArticleImport :=
  ⟨"", "hello-world", "Hello", "Body", (Uuid.ofSeed 9).toText, none, "", "archived"⟩

/-- An archived article raises no finding on its status, and every upsert of a batch that holds its
converted row fails. -/
theorem archived_article_refused :
    toLower archivedArticle.status = "archived" ∧
      ((∀ e ∈ validateArticleImport 2 archivedArticle, e.fieldName ≠ "status") ∧
        ∀ (w : World) (art : Article),
          (convertStagingToArticle (stagedRow (Uuid.ofSeed 100) 2
            (stageArticleFields archivedArticle) (validateArticleImport 2 archivedArticle)) w).1 =
            .ok (.ok art) →
          ∀ (now : Time) (users : List User) (batch tbl : List Article), art ∈ batch →
            ∃ err, insertArticles now users batch tbl = .error err) :=
  ⟨by decide, archived_article_admitted_then_refused (a := archivedArticle) (by decide) 2
    (Uuid.ofSeed 100)⟩

/-- The import of an archived article fails with the constraint's error. -/
example : (processArticlesImport ImportConfig.default articleJob
    (articleUpload ["hello-world", "Hello", "Body", (Uuid.ofSeed 9).toText, "archived"])
    (World.start { Db.empty with users := [sampleAuthor], jobs := [articleJob] } fun _ => none)).1 =
    .error (errCheck "articles" "articles_status_check") := by
  decide

end BulkImport
