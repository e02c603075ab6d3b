import BulkImport.Import.Pipeline
import BulkImport.Store.RepoSpec

/-!
# What the import pipelines write to the jobs table

The three pipelines of `format.go` write their job's row only through `SetTotalRecords` and
`UpdateProgress`, which set counters and nothing else; every other statement they send goes to
the staging, target and journal tables.
-/

namespace BulkImport

variable {R : List Job → List Job → Prop}

section Phase1

variable {Rec F : Type}

/-- The parse loop moves the jobs table only as its steps do. -/
theorem parseLoop_jobsBy {step : Phase1 F → Nat × Option Rec → Op (Phase1 F)}
    (hstep : ∀ s c, JobsBy R (step s c)) : ∀ s cs, JobsBy R (parseLoop step s cs)
  | _, [] => JobsBy.pure_rule _
  | s, c :: cs => (hstep s c).bind fun s' => parseLoop_jobsBy hstep s' cs

/-- One delivery of phase 1 writes the job's row only by counter `SET`s, given inserts that do. -/
theorem processRecord_jobsBy {validate : Nat → Rec → List ValidationError} {stage : Rec → F}
    {empty : F} {insert : List (StagingRow F) → Op Unit} {size : Nat} {jobId : Uuid}
    (hins : ∀ b, JobsBy (RowEdit jobId JobRepository.CounterSet) (insert b)) (s : Phase1 F) :
    ∀ c, JobsBy (RowEdit jobId JobRepository.CounterSet)
      (processRecord validate stage empty insert size jobId s c)
  | (_, none) => JobsBy.pure_rule _
  | (_, some _) => JobsBy.ite_rule ((hins _).bind fun _ =>
      (JobRepository.updateProgress_jobsBy _ _ _ _).attempt.bind fun _ => JobsBy.pure_rule _)
      (JobsBy.pure_rule _)

/-- Phase 1 moves the jobs table only as its steps and its last insert do. -/
theorem stageAll_jobsBy {step : Phase1 F → Nat × Option Rec → Op (Phase1 F)}
    {insert : List (StagingRow F) → Op Unit} (hstep : ∀ s c, JobsBy R (step s c))
    (hins : ∀ b, JobsBy R (insert b)) (d : Delivery Rec) : JobsBy R (stageAll step insert d) := by
  refine (parseLoop_jobsBy hstep _ _).bind fun s => ?_
  rcases d.err with _ | e <;> dsimp only
  · exact JobsBy.ite_rule ((hins _).bind fun _ => JobsBy.pure_rule _)
      ((JobsBy.pure_rule _).bind fun _ => JobsBy.pure_rule _)
  · exact JobsBy.fail_rule e

end Phase1

/-- Opening a delivery leaves the jobs table alone. -/
theorem openDelivery_jobsBy {Rec : Type} (d : Except String (Delivery Rec)) (csv : Bool) :
    JobsBy R (openDelivery d csv) := by
  rcases d with e | d
  · exact JobsBy.fail_rule _
  · exact JobsBy.pure_rule _

/-! ## Conversion and promotion -/

/-- Reading or minting a row's id sends no statement. -/
theorem convertId_quiet (id : Option String) : Quiet (convertId id) := by
  unfold convertId
  rcases id with _ | s
  · exact Quiet.newUuid_rule.bind fun _ => Quiet.pure_rule _
  · exact Quiet.ite_rule (Quiet.newUuid_rule.bind fun _ => Quiet.pure_rule _) (Quiet.pure_rule _)

/-- `convertStagingToUser` sends no statement. -/
theorem convertStagingToUser_quiet (su : StagingRow UserFields) :
    Quiet (convertStagingToUser su) :=
  Quiet.now_rule.bind fun _ => (convertId_quiet _).bind fun _ => Quiet.pure_rule _

/-- `convertStagingToArticle` sends no statement. -/
theorem convertStagingToArticle_quiet (sa : StagingRow ArticleFields) :
    Quiet (convertStagingToArticle sa) :=
  Quiet.now_rule.bind fun _ => (convertId_quiet _).bind fun _ => Quiet.pure_rule _

/-- `convertStagingToComment` sends no statement. -/
theorem convertStagingToComment_quiet (sc : StagingRow CommentFields) :
    Quiet (convertStagingToComment sc) :=
  Quiet.now_rule.bind fun _ => (convertId_quiet _).bind fun _ => Quiet.pure_rule _

section Promote

variable {F E : Type} {convert : StagingRow F → Op (Except String E)}

/-- Converting a batch row by row sends no statement when each conversion sends none. -/
theorem convertBatch_quiet (hc : ∀ r, Quiet (convert r)) : ∀ rows, Quiet (convertBatch convert rows)
  | [] => Quiet.pure_rule _
  | r :: rs => by
    have tail : ∀ (y : List (Nat × E)), Quiet (do let rest ← convertBatch convert rs; pure (y ++ rest)) :=
      fun _ => (convertBatch_quiet hc rs).bind fun _ => Quiet.pure_rule _
    refine Quiet.ite_rule ((hc r).bind fun c => ?_) ((Quiet.pure_rule _).bind tail)
    rcases c with _ | _ <;> exact (Quiet.pure_rule _).bind tail

/-- The converted rows a promote batch keeps come from valid, non-duplicate rows of the batch. -/
def KeptFrom (rows : List (StagingRow F)) (kept : List (Nat × E)) : Prop :=
  ∀ x ∈ kept, ∃ r ∈ rows, r.rowNumber = x.1 ∧ r.isValid = true ∧ r.isDuplicate = false

/-- Whatever the conversion does, `convertBatch` keeps only valid, non-duplicate rows. -/
theorem convertBatch_kept (convert : StagingRow F → Op (Except String E)) :
    ∀ rows, Triple (fun _ => True) (convertBatch convert rows) (fun kept _ => KeptFrom rows kept)
      (fun _ _ => True)
  | [] => fun _ _ _ h => nomatch h
  | r :: rs => by
    have tail : ∀ y, KeptFrom (r :: rs) y → Triple (fun _ => True)
        (do let rest ← convertBatch convert rs; pure (y ++ rest))
        (fun kept _ => KeptFrom (r :: rs) kept) (fun _ _ => True) := fun y hy =>
      (convertBatch_kept convert rs).bind fun rest _ hrest x hx =>
        (List.mem_append.mp hx).elim (hy x) fun hx =>
          let ⟨r', hr', h⟩ := hrest x hx
          ⟨r', List.mem_cons_of_mem _ hr', h⟩
    refine Triple.ite_rule (fun hc => (Triple.any _).bind fun c => ?_)
      (fun _ => fun w _ => tail [] nofun w trivial)
    rcases c with _ | e
    · exact fun w _ => tail [] nofun w trivial
    · simp only [Bool.and_eq_true, Bool.not_eq_true'] at hc
      exact fun w _ => tail [(r.rowNumber, e)]
        (fun x hx => ⟨r, List.mem_cons_self _ _, by rw [List.mem_singleton.mp hx], hc⟩) w trivial

/-- The promote callback moves the jobs table only as its upsert does. -/
theorem promoteBatch_jobsBy {createBatch : List Nat → List E → Op Nat}
    (hc : ∀ r, Quiet (convert r)) (hb : ∀ rows es, JobsBy R (createBatch rows es))
    (successful : Nat) (batch : List (StagingRow F)) :
    JobsBy R (promoteBatch convert createBatch successful batch) :=
  (convertBatch_quiet hc batch).jobsBy.bind fun _ =>
    JobsBy.ite_rule (JobsBy.pure_rule _) ((hb _ _).bind fun _ => JobsBy.pure_rule _)

end Promote

/-! ## The journal and the last phase -/

/-- Journal pages leave the jobs table alone. -/
theorem addPages_jobsBy : ∀ ps, JobsBy R (addPages ps)
  | [] => JobsBy.pure_rule _
  | p :: ps => (JobRepository.addErrors_jobsBy p).attempt.bind fun _ => addPages_jobsBy ps

/-- `recordValidationErrors` leaves the jobs table alone. -/
theorem recordValidationErrors_jobsBy (size : Nat) (jobId : Uuid) (errs : List ValidationError) :
    JobsBy R (recordValidationErrors size jobId errs) :=
  JobsBy.ite_rule (JobsBy.pure_rule _) (addPages_jobsBy _)

/-- The end of phase 2 writes the job's row only through `UpdateProgress`. -/
theorem finish_jobsBy {F : Type} (cfg : ImportConfig) (slot : StagingSlot F) (jobId : Uuid)
    (s : Phase1 F) (successful : Nat) :
    JobsBy (RowEdit jobId JobRepository.CounterSet) (finish cfg slot jobId s successful) :=
  (recordValidationErrors_jobsBy _ _ _).bind fun _ =>
    (StagingRepository.cleanupStaging_jobsBy slot jobId).attempt.bind fun _ =>
      (JobRepository.updateProgress_jobsBy _ _ _ _).attempt

/-! ## The pipelines -/

/-- `processUsersImport` writes its job's row only through the two counter statements. -/
theorem processUsersImport_jobsBy (cfg : ImportConfig) (job : Job) (file : ImportFile) :
    JobsBy (RowEdit job.id JobRepository.CounterSet) (processUsersImport cfg job file) := by
  have hins : ∀ b, JobsBy (RowEdit job.id JobRepository.CounterSet)
      (Op.wrap "failed to create staging users: " (StagingRepository.createStagingUsers job.id b)) :=
    fun b => (StagingRepository.createStaging_jobsBy _ _ b).wrap _
  exact (openDelivery_jobsBy _ _).bind fun d =>
    (stageAll_jobsBy (processRecord_jobsBy hins) hins d).bind fun s =>
    (JobRepository.setTotalRecords_jobsBy _ _).attempt.bind fun _ =>
    ((StagingRepository.mark_jobsBy _ _ _).wrap _).bind fun _ =>
    ((StagingRepository.mark_jobsBy _ _ _).wrap _).bind fun _ =>
    (StagingRepository.getValidStaging_jobsBy _ _ _
      (promoteBatch_jobsBy convertStagingToUser_quiet fun _ _ =>
        (UserRepository.createBatch_jobsBy _ _).wrap _) 0).bind fun _ =>
    finish_jobsBy _ _ _ _ _

/-- `processArticlesImport` writes its job's row only through the two counter statements. -/
theorem processArticlesImport_jobsBy (cfg : ImportConfig) (job : Job) (file : ImportFile) :
    JobsBy (RowEdit job.id JobRepository.CounterSet) (processArticlesImport cfg job file) := by
  have hins : ∀ b, JobsBy (RowEdit job.id JobRepository.CounterSet)
      (Op.wrap "failed to create staging articles: "
        (StagingRepository.createStagingArticles job.id b)) :=
    fun b => (StagingRepository.createStaging_jobsBy _ _ b).wrap _
  exact (openDelivery_jobsBy _ _).bind fun d =>
    (stageAll_jobsBy (processRecord_jobsBy hins) hins d).bind fun s =>
    (JobRepository.setTotalRecords_jobsBy _ _).attempt.bind fun _ =>
    (StagingRepository.mark_jobsBy _ _ _).attempt.bind fun _ =>
    (StagingRepository.mark_jobsBy _ _ _).attempt.bind fun _ =>
    (StagingRepository.mark_jobsBy _ _ _).attempt.bind fun _ =>
    (StagingRepository.getValidStaging_jobsBy _ _ _
      (promoteBatch_jobsBy convertStagingToArticle_quiet
        ArticleRepository.createBatch_jobsBy) 0).bind fun _ =>
    finish_jobsBy _ _ _ _ _

/-- `processCommentsImport` writes its job's row only through the two counter statements. -/
theorem processCommentsImport_jobsBy (cfg : ImportConfig) (job : Job) (file : ImportFile) :
    JobsBy (RowEdit job.id JobRepository.CounterSet) (processCommentsImport cfg job file) := by
  have hins : ∀ b, JobsBy (RowEdit job.id JobRepository.CounterSet)
      (StagingRepository.createStagingComments job.id b) :=
    StagingRepository.createStaging_jobsBy _ _
  exact (openDelivery_jobsBy _ _).bind fun d =>
    (stageAll_jobsBy (processRecord_jobsBy hins) hins d).bind fun s =>
    (JobRepository.setTotalRecords_jobsBy _ _).attempt.bind fun _ =>
    (StagingRepository.mark_jobsBy _ _ _).attempt.bind fun _ =>
    (StagingRepository.mark_jobsBy _ _ _).attempt.bind fun _ =>
    (StagingRepository.getValidStaging_jobsBy _ _ _
      (promoteBatch_jobsBy convertStagingToComment_quiet
        CommentRepository.createBatch_jobsBy) 0).bind fun _ =>
    finish_jobsBy _ _ _ _ _

end BulkImport
