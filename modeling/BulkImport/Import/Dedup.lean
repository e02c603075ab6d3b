import BulkImport.Import.Journal

/-!
# Which staged row survives deduplication

`MarkDuplicate*InBatch` (`staging_repo.go`) marks a row of a job when a row of the same job with
the same key and a smaller `staging_id` exists, valid or not: the first occurrence of a key wins,
as the specification's glossary defines it, and a later valid row is discarded behind an earlier
rejected one. The other marks of phase 2 only take validity away. So after phase 2 at most one
row of each key is valid and not a duplicate, the row with the smallest staging id of its key;
since phase 1 assigns staging ids in the order the parser delivers rows, that is also the row
with the smallest row number.

The phase-2 statements are the prefix of each pipeline up to its last mark; an equation lemma
ties each prefix to its pipeline.
-/

namespace BulkImport

section InBatch

variable {F : Type} (key : F → Option String) (jobId : Uuid)

/-- Every valid row of the job whose key is not `NULL` holds the smallest staging id among the
job's rows with its key. -/
def FirstOfKey (rows : List (StagingRow F)) : Prop :=
  ∀ r ∈ rows, r.jobId = jobId → r.isValid = true → ∀ x, key r.fields = some x →
    ∀ r' ∈ rows, r'.jobId = jobId → key r'.fields = some x → r.stagingId ≤ r'.stagingId

variable {key jobId}

/-- A row of the job whose key is not `NULL` and that no row of its key precedes stays as it is. -/
theorem dupInBatch_eq_false {rows : List (StagingRow F)} {r : StagingRow F} {x : String}
    (hjob : r.jobId = jobId) (hkey : key r.fields = some x)
    (hmin : ∀ r' ∈ rows, r'.jobId = jobId → key r'.fields = some x → r.stagingId ≤ r'.stagingId) :
    dupInBatch key jobId rows r = false := by
  simp only [dupInBatch, hjob, hkey, beq_self_eq_true, Option.isSome_some, Bool.true_and,
    List.any_eq_false, Bool.and_eq_true, beq_iff_eq, decide_eq_true_eq, not_and, not_lt]
  exact fun r' hr' h => hmin r' hr' h.1 h.2

/-- A row of the job with key `x` that comes after a row of the job with that key is a duplicate
in batch. -/
theorem dupInBatch_of_lt {rows : List (StagingRow F)} {r₀ r : StagingRow F} {x : String}
    (h₀ : r₀ ∈ rows) (hjob : r₀.jobId = jobId) (hkey : key r₀.fields = some x)
    (hj : r.jobId = jobId) (hk : key r.fields = some x) (hlt : r₀.stagingId < r.stagingId) :
    dupInBatch key jobId rows r = true := by
  simp only [dupInBatch, hj, hk, beq_self_eq_true, Option.isSome_some, Bool.true_and,
    List.any_eq_true, Bool.and_eq_true, beq_iff_eq, decide_eq_true_eq]
  exact ⟨r₀, h₀, ⟨hjob, hkey⟩, hlt⟩

/-- A mark whose `SET` weakens the rows it matches weakens every row. -/
theorem markWhere_weakens (hit : StagingRow F → Bool) {set : StagingRow F → StagingRow F}
    (hw : ∀ r : StagingRow F, r.Weakens (set r)) (r : StagingRow F) :
    r.Weakens (if hit r then set r else r) := by
  split
  · exact hw r
  · exact StagingRow.Weakens.refl r

/-- `MarkDuplicate*InBatch` leaves only the first row of each key valid. -/
theorem firstOfKey_markInBatch (code : String) (rows : List (StagingRow F)) :
    FirstOfKey key jobId (markWhere (dupInBatch key jobId rows) (markDuplicate code) rows).1 := by
  intro r hr hjob hvalid x hkey r' hr' hjob' hkey'
  obtain ⟨r₁, hr₁, rfl⟩ := List.mem_map.mp hr
  obtain ⟨r₁', hr₁', rfl⟩ := List.mem_map.mp hr'
  by_cases hd : dupInBatch key jobId rows r₁ = true
  · simp [hd] at hvalid
  rw [if_neg hd] at hjob hkey ⊢
  obtain ⟨hid', hjob₁', -, hf', -⟩ :=
    markWhere_weakens (dupInBatch key jobId rows) (markDuplicate_weakens code) r₁'
  rw [hid']
  rw [hjob₁'] at hjob'
  rw [hf'] at hkey'
  exact Nat.le_of_not_lt fun hlt => hd (dupInBatch_of_lt hr₁' hjob' hkey' hjob hkey hlt)

/-- A rewrite that weakens every row keeps the first rows of their keys the only valid ones. -/
theorem FirstOfKey.map {rows : List (StagingRow F)} {g : StagingRow F → StagingRow F}
    (hg : ∀ r : StagingRow F, r.Weakens (g r)) (h : FirstOfKey key jobId rows) :
    FirstOfKey key jobId (rows.map g) := by
  intro r hr hjob hvalid x hkey r' hr' hjob' hkey'
  obtain ⟨r₁, hr₁, rfl⟩ := List.mem_map.mp hr
  obtain ⟨r₁', hr₁', rfl⟩ := List.mem_map.mp hr'
  obtain ⟨hi, hj, -, hf, hv⟩ := hg r₁
  obtain ⟨hi', hj', -, hf', -⟩ := hg r₁'
  rw [hi, hi']
  rw [hj] at hjob
  rw [hf] at hkey
  rw [hj'] at hjob'
  rw [hf'] at hkey'
  exact h r₁ hr₁ hjob (hv hvalid) x hkey r₁' hr₁' hjob' hkey'

/-- In-batch deduplication keeps the first occurrence of a key and nothing else of it: take a
table whose rows of the job have distinct staging ids, and the row `r₀` with the smallest staging
id among the job's rows with key `x`. After `MarkDuplicate*InBatch` the row `r₀` is still there,
unchanged, and every other row of the job with key `x`, valid or not, is a duplicate, invalid,
with the code as its error: so the only row with key `x` that can be valid and not a duplicate
is `r₀`. -/
theorem markInBatch_keeps_first (code : String) {rows : List (StagingRow F)}
    {r₀ : StagingRow F} {x : String}
    (hids : ((jobRows jobId rows).map (·.stagingId)).Nodup) (h₀ : r₀ ∈ rows)
    (hjob : r₀.jobId = jobId) (hkey : key r₀.fields = some x)
    (hmin : ∀ r ∈ rows, r.jobId = jobId → key r.fields = some x → r₀.stagingId ≤ r.stagingId) :
    r₀ ∈ (markWhere (dupInBatch key jobId rows) (markDuplicate code) rows).1 ∧
      (∀ r ∈ (markWhere (dupInBatch key jobId rows) (markDuplicate code) rows).1,
        r.jobId = jobId → key r.fields = some x → r ≠ r₀ →
          r.isDuplicate = true ∧ r.isValid = false ∧ r.validationError = some code) ∧
      ∀ r ∈ (markWhere (dupInBatch key jobId rows) (markDuplicate code) rows).1,
        r.jobId = jobId → key r.fields = some x → r.isValid = true → r.isDuplicate = false →
          r = r₀ := by
  have hkept : (if dupInBatch key jobId rows r₀ then markDuplicate code r₀ else r₀) = r₀ := by
    rw [dupInBatch_eq_false hjob hkey hmin]; rfl
  have hmem : ∀ {r}, r ∈ rows → r.jobId = jobId → r ∈ jobRows jobId rows := fun h hj =>
    List.mem_filter.mpr ⟨h, by simpa using hj⟩
  -- a row of the result with key `x` is `r₀` or a marked later row
  have hcases : ∀ r ∈ (markWhere (dupInBatch key jobId rows) (markDuplicate code) rows).1,
      r.jobId = jobId → key r.fields = some x → r = r₀ ∨ ∃ r₁, r = markDuplicate code r₁ := by
    intro r hr hj hk
    obtain ⟨r₁, hr₁, rfl⟩ := List.mem_map.mp hr
    obtain ⟨-, hj₁, -, hf₁, -⟩ := markWhere_weakens _ (markDuplicate_weakens code) r₁
    rw [hj₁] at hj
    rw [hf₁] at hk
    rcases Nat.lt_or_eq_of_le (hmin r₁ hr₁ hj hk) with hlt | heq
    · exact .inr ⟨r₁, by rw [dupInBatch_of_lt h₀ hjob hkey hj hk hlt]; rfl⟩
    · obtain rfl := List.inj_on_of_nodup_map hids (hmem hr₁ hj) (hmem h₀ hjob) heq.symm
      exact .inl hkept
  refine ⟨List.mem_map.mpr ⟨r₀, h₀, hkept⟩, fun r hr hj hk hne => ?_, fun r hr hj hk _ hd => ?_⟩
  · obtain ⟨r₁, rfl⟩ := (hcases r hr hj hk).resolve_left hne
    exact ⟨rfl, rfl, rfl⟩
  · exact (hcases r hr hj hk).resolve_right fun ⟨_, h⟩ => by subst h; cases hd

end InBatch

/-- An article whose slug is not in kebab case. -/
def draftFastArticle : ArticleImport :=
  ⟨"", "Draft Fast", "First", "Body one", (Uuid.ofSeed 9).toText, none, "", "draft"⟩

/-- The article whose slug the first one is staged under. -/
def kebabArticle : ArticleImport :=
  ⟨"", "draft-fast", "Second", "Body two", (Uuid.ofSeed 9).toText, none, "", "draft"⟩

/-- The staging row phase 1 makes of the first at row 2 of a CSV, as the insert numbers it. -/
def draftFastRow : StagingRow ArticleFields :=
  { stagedRow (Uuid.ofSeed 100) 2 (stageArticleFields draftFastArticle)
      (validateArticleImport 2 draftFastArticle) with stagingId := 1 }

/-- The staging rows of the two articles at rows 2 and 3. -/
def draftFastRows : List (StagingRow ArticleFields) :=
  [draftFastRow, { stagedRow (Uuid.ofSeed 100) 3 (stageArticleFields kebabArticle)
      (validateArticleImport 3 kebabArticle) with stagingId := 2 }]

/-- The in-batch mark of the two articles staged under one slug keeps the first row and marks the
second. -/
theorem draft_fast_kept_first :
    ((jobRows (Uuid.ofSeed 100) draftFastRows).map (·.stagingId)).Nodup ∧
      draftFastRow ∈ draftFastRows ∧ draftFastRow.jobId = Uuid.ofSeed 100 ∧
      draftFastRow.fields.slug.map toLower = some "draft-fast" ∧
      (∀ r ∈ draftFastRows, r.jobId = Uuid.ofSeed 100 → r.fields.slug.map toLower = some "draft-fast" →
        draftFastRow.stagingId ≤ r.stagingId) ∧
      (draftFastRow ∈ (markDuplicateArticlesInBatch (Uuid.ofSeed 100) draftFastRows).1 ∧
        (∀ r ∈ (markDuplicateArticlesInBatch (Uuid.ofSeed 100) draftFastRows).1,
          r.jobId = Uuid.ofSeed 100 → r.fields.slug.map toLower = some "draft-fast" →
          r ≠ draftFastRow → r.isDuplicate = true ∧ r.isValid = false ∧
            r.validationError = some ErrCode.duplicateSlug) ∧
        ∀ r ∈ (markDuplicateArticlesInBatch (Uuid.ofSeed 100) draftFastRows).1,
          r.jobId = Uuid.ofSeed 100 → r.fields.slug.map toLower = some "draft-fast" →
          r.isValid = true → r.isDuplicate = false → r = draftFastRow) :=
  ⟨by decide, List.mem_cons_self _ _, rfl, by decide, by decide,
    markInBatch_keeps_first ErrCode.duplicateSlug (by decide) (List.mem_cons_self _ _) rfl
      (by decide) (by decide)⟩

/-- The first row is rejected (its slug is not in kebab case) but staged under the slug of the
second, valid row; the in-batch mark discards the valid row as its duplicate, and no row of the
slug is left valid. -/
theorem invalid_first_slug_discards_valid_row :
    validateArticleImport 2 draftFastArticle ≠ [] ∧ validateArticleImport 3 kebabArticle = [] ∧
      ∀ r ∈ (markDuplicateArticlesInBatch (Uuid.ofSeed 100) draftFastRows).1,
        r.fields.slug.map toLower = some "draft-fast" → r.isValid = false := by
  decide

/-! ## Keys that are not ids

The marks of phase 2 find duplicates by natural key only (email, slug) for users and articles, so
rows that share an id under different keys survive into one batch of phase 3, whose upsert
`ON CONFLICT (id) DO UPDATE` then meets the id twice. -/

/-- An id in canonical form. -/
def sharedId : String := "0a0a0a0a-0a0a-0a0a-0a0a-0a0a0a0a0a0a"

/-- A users CSV upload of two valid rows with the same id and different emails. -/
def sharedIdUpload : ImportFile :=
  ⟨"uploads/users.csv", ⟨.ok ["id", "email", "name", "role"],
    [some [sharedId, "a@b.co", "Alice", "reader"], some [sharedId, "c@d.co", "Carol", "reader"]]⟩,
    ⟨[], none⟩⟩

/-- The job of that upload. -/
def sharedIdJob : Job := importJobOf (Uuid.ofSeed 100) .users "uploads/users.csv" ""

/-- Both rows survive the marks and meet in one batch, whose upsert fails. -/
theorem shared_id_fails_promotion :
    (processUsersImport ImportConfig.default sharedIdJob sharedIdUpload
      (World.start { Db.empty with jobs := [sharedIdJob] } fun _ => none)).1 =
      .error ("failed to insert users batch: " ++ errAffectTwice) := by
  decide

/-! ## What phases 1 and 2 do to a staging table -/

section Steps

variable {F : Type}

/-- One statement of phases 1 and 2 on a staging table of job `k`: an insert of rows of the job,
numbered from the sequence, or a rewrite of every row in place that weakens it. -/
inductive StagingStep (k : Uuid) : StagingTable F → StagingTable F → Prop
  /-- an insert of rows of the job, numbered from the sequence -/
  | insert (t : StagingTable F) (rows : List (StagingRow F)) (hk : ∀ r ∈ rows, r.jobId = k) :
      StagingStep k t ⟨t.rows ++ numberFrom (t.seq + 1) rows, t.seq + rows.length⟩
  /-- a rewrite of every row in place that weakens it -/
  | rewrite (t : StagingTable F) (g : StagingRow F → StagingRow F)
      (hg : ∀ r : StagingRow F, r.Weakens (g r)) : StagingStep k t ⟨t.rows.map g, t.seq⟩

/-- Every call of `x` leaves the staging table of `slot` as it was or changes it by an `R` step. -/
def SlotBy {α : Type} (slot : StagingSlot F) (R : StagingTable F → StagingTable F → Prop)
    (x : Op α) : Prop :=
  ∀ J : StagingTable F → Prop, (∀ t t', J t → R t t' → J t') →
    Keeps (fun db => J (slot.get db)) (fun _ => True) x

namespace SlotBy

variable {α β : Type} {slot : StagingSlot F} {R : StagingTable F → StagingTable F → Prop} {x : Op α}

/-- A value leaves the staging table alone. -/
theorem pure_rule (a : α) : SlotBy slot R (pure a) := fun _ _ => Keeps.pure_rule a

/-- An error leaves the staging table alone. -/
theorem fail_rule (e : String) : SlotBy slot R (Op.fail e : Op α) := fun _ _ => Keeps.fail_rule e

/-- Two runs that each move the staging table by `R` steps move it by `R` steps in sequence. -/
theorem bind {f : α → Op β} (hx : SlotBy slot R x) (hf : ∀ a, SlotBy slot R (f a)) :
    SlotBy slot R (x >>= f) := fun J hJ => (hx J hJ).bind fun a => hf a J hJ

/-- A run whose error is only read moves the staging table as the run does. -/
theorem attempt (h : SlotBy slot R x) : SlotBy slot R (Op.attempt x) := fun J hJ => (h J hJ).attempt

/-- A run whose error is prefixed moves the staging table as the run does. -/
theorem wrap (msg : String) (h : SlotBy slot R x) : SlotBy slot R (Op.wrap msg x) := fun J hJ =>
  (h J hJ).wrap msg

/-- Both branches moving the staging table by `R` steps, so does the choice. -/
theorem ite_rule {c : Prop} [Decidable c] {y : Op α} (hx : SlotBy slot R x) (hy : SlotBy slot R y) :
    SlotBy slot R (if c then x else y) := fun J hJ => Keeps.ite_rule (hx J hJ) (hy J hJ)

/-- A call whose statement leaves the staging table as it was or moves it by an `R` step. -/
theorem call_rule {stmt : Stmt} {rows : List Nat} {f : Db → Except String (α × Db)}
    (hf : ∀ db a db', f db = .ok (a, db') → slot.get db' = slot.get db ∨ R (slot.get db) (slot.get db')) :
    SlotBy slot R (call stmt rows f) := fun _ hJ =>
  Keeps.call_rule (fun db a db' hj h => (hf db a db' h).elim (fun he => he ▸ hj) (hJ _ _ hj))
    fun _ _ _ => trivial

/-- A property of the table that `R` steps keep holds after `x`, and `x` only appends to the log. -/
theorem run (J : StagingTable F → Prop) (h : SlotBy slot R x) (hJ : ∀ t t', J t → R t t' → J t')
    {w : World} (hw : J (slot.get w.db)) :
    J (slot.get (x w).2.db) ∧ Logged (fun _ => True) w.log (x w).2.log :=
  (h J hJ w.log).run_inv ⟨hw, [], by simp, by simp⟩

end SlotBy

variable {slot : StagingSlot F} {k : Uuid}

/-- A job-row update leaves every staging table alone. -/
theorem updateWith_slotBy {R : StagingTable F → StagingTable F → Prop} (stmt : Stmt) (id : Uuid)
    (g : Job → Job) : SlotBy slot R (JobRepository.updateWith stmt id g) :=
  SlotBy.call_rule fun db _ db' h => by
    obtain ⟨js, -, he⟩ := except_map_eq_ok.mp h
    cases he
    exact .inl (slot.get_jobs js db)

/-- A successful insert appends the rows, numbered from the sequence, and moves the sequence. -/
theorem insertStaging_eq {columns : F → List (Nat × Option String)} {ex : Bool}
    {rows : List (StagingRow F)} {t t' : StagingTable F} (h : insertStaging columns ex rows t = .ok t') :
    t' = ⟨t.rows ++ numberFrom (t.seq + 1) rows, t.seq + rows.length⟩ := by
  unfold insertStaging at h
  split at h
  · cases h
  · split at h
    · cases h
    · cases h; rfl

/-- `CreateStaging*` is an insert step of the job's rows. -/
theorem createStaging_slotBy (rows : List (StagingRow F)) :
    SlotBy slot (StagingStep k) (StagingRepository.createStaging slot k rows) := by
  refine SlotBy.ite_rule (SlotBy.pure_rule _) (SlotBy.call_rule fun db _ db' h => .inr ?_)
  obtain ⟨t, ht, he⟩ := except_map_eq_ok.mp h
  cases he
  rw [slot.get_set, insertStaging_eq ht]
  exact .insert _ _ fun r hr => by obtain ⟨_, _, rfl⟩ := List.mem_map.mp hr; rfl

/-- A mark that rewrites the rows in place is a rewrite step. -/
theorem mark_slotBy (stmt : Stmt) {f : Db → List (StagingRow F) → List (StagingRow F) × Nat}
    (hf : ∀ db, RewritesInPlace (f db)) :
    SlotBy slot (StagingStep k) (StagingRepository.mark slot stmt f) :=
  SlotBy.call_rule fun db _ db' h => by
    cases h
    obtain ⟨g, hg, he⟩ := hf db (slot.get db).rows
    refine .inr ?_
    rw [slot.get_set, he]
    exact .rewrite _ g hg

end Steps

section Phase1

variable {F Rec : Type} {slot : StagingSlot F} {R : StagingTable F → StagingTable F → Prop}

/-- The parse loop moves the staging table only as its callback does. -/
theorem parseLoop_slotBy {step : Phase1 F → Nat × Option Rec → Op (Phase1 F)}
    (hstep : ∀ s c, SlotBy slot R (step s c)) : ∀ s cs, SlotBy slot R (parseLoop step s cs)
  | _, [] => SlotBy.pure_rule _
  | s, c :: cs => (hstep s c).bind fun s' => parseLoop_slotBy hstep s' cs

/-- The phase-1 callback moves the staging table only as its insert does. -/
theorem processRecord_slotBy {validate : Nat → Rec → List ValidationError} {stage : Rec → F}
    {empty : F} {insert : List (StagingRow F) → Op Unit} {size : Nat} {jobId : Uuid}
    (hins : ∀ b, SlotBy slot R (insert b)) (s : Phase1 F) :
    ∀ c, SlotBy slot R (processRecord validate stage empty insert size jobId s c)
  | (_, none) => SlotBy.pure_rule _
  | (_, some _) => SlotBy.ite_rule ((hins _).bind fun _ =>
      (updateWith_slotBy _ _ _).attempt.bind fun _ => SlotBy.pure_rule _) (SlotBy.pure_rule _)

/-- Phase 1 moves the staging table only as its callback and its insert do. -/
theorem stageAll_slotBy {step : Phase1 F → Nat × Option Rec → Op (Phase1 F)}
    {insert : List (StagingRow F) → Op Unit} (hstep : ∀ s c, SlotBy slot R (step s c))
    (hins : ∀ b, SlotBy slot R (insert b)) (d : Delivery Rec) :
    SlotBy slot R (stageAll step insert d) := by
  refine (parseLoop_slotBy hstep _ _).bind fun s => ?_
  rcases d.err with _ | e <;> dsimp only
  · exact SlotBy.ite_rule ((hins _).bind fun _ => SlotBy.pure_rule _)
      ((SlotBy.pure_rule _).bind fun _ => SlotBy.pure_rule _)
  · exact SlotBy.fail_rule e

/-- Opening the parser's delivery leaves the staging table alone. -/
theorem openDelivery_slotBy (d : Except String (Delivery Rec)) (csv : Bool) :
    SlotBy slot R (openDelivery d csv) := by
  rcases d with e | d
  · exact SlotBy.fail_rule _
  · exact SlotBy.pure_rule _

end Phase1

/-! ## Staging ids follow the parser's order -/

section Sequenced

variable {F : Type} {k : Uuid}

/-- The staging ids of the job's rows strictly increase in the table's order, and none is past
the sequence. -/
def Sequenced (k : Uuid) (t : StagingTable F) : Prop :=
  ((jobRows k t.rows).map (·.stagingId)).Pairwise (· < ·) ∧ ∀ r ∈ jobRows k t.rows, r.stagingId ≤ t.seq

/-- The rows an insert numbers from `n` get the staging ids `n`, `n + 1`, and so on. -/
theorem numberFrom_stagingIds (rows : List (StagingRow F)) :
    ∀ n, (numberFrom n rows).map (·.stagingId) = List.range' n rows.length := by
  induction rows with
  | nil => intro; rfl
  | cons r rs ih => intro n; simp only [numberFrom, List.map_cons, ih, List.length_cons,
      List.range'_succ]

/-- Numbering rows of the job keeps them rows of the job. -/
theorem jobRows_numberFrom_of {rows : List (StagingRow F)} (hk : ∀ r ∈ rows, r.jobId = k) :
    ∀ n, jobRows k (numberFrom n rows) = numberFrom n rows := by
  induction rows with
  | nil => intro; rfl
  | cons r rs ih =>
    intro n
    simp only [jobRows, numberFrom, List.filter_cons, hk r (List.mem_cons_self _ _), beq_self_eq_true,
      ite_true] at ih ⊢
    rw [ih fun r hr => hk r (List.mem_cons_of_mem _ hr)]

/-- Every statement of phases 1 and 2 keeps the job's staging ids in order. -/
theorem Sequenced.step {t t' : StagingTable F} (h : Sequenced k t) (hs : StagingStep k t t') :
    Sequenced k t' := by
  cases hs with
  | insert rows hk =>
    have hj : jobRows k (t.rows ++ numberFrom (t.seq + 1) rows) =
        jobRows k t.rows ++ numberFrom (t.seq + 1) rows := by
      rw [jobRows, List.filter_append]; exact congrArg _ (jobRows_numberFrom_of hk _)
    refine ⟨?_, fun r hr => ?_⟩
    · rw [hj, List.map_append, List.pairwise_append, numberFrom_stagingIds]
      refine ⟨h.1, List.pairwise_lt_range' _ _, fun a ha b hb => ?_⟩
      obtain ⟨r, hr, rfl⟩ := List.mem_map.mp ha
      have := List.mem_range'.mp hb
      have := h.2 r hr
      omega
    · rw [hj] at hr
      show r.stagingId ≤ t.seq + rows.length
      rcases List.mem_append.mp hr with hr | hr
      · have := h.2 r hr
        omega
      · have := List.mem_range'.mp ((numberFrom_stagingIds rows _) ▸ List.mem_map_of_mem _ hr)
        omega
  | rewrite g hg =>
    have hj : jobRows k (t.rows.map g) = (jobRows k t.rows).map g := by
      simp only [jobRows, List.filter_map]
      congr 1
      exact List.filter_congr fun r _ => by simp only [Function.comp, (hg r).2.1]
    have hids : ((jobRows k t.rows).map g).map (·.stagingId) = (jobRows k t.rows).map (·.stagingId) := by
      simp only [List.map_map]
      exact List.map_congr_left fun r _ => (hg r).1
    refine ⟨by rw [hj, hids]; exact h.1, fun r hr => ?_⟩
    rw [hj] at hr
    obtain ⟨r₀, hr₀, rfl⟩ := List.mem_map.mp hr
    rw [(hg r₀).1]
    exact h.2 r₀ hr₀

/-- A table with no row of the job is sequenced for it. -/
theorem sequenced_of_fresh {t : StagingTable F} (h : jobRows k t.rows = []) : Sequenced k t :=
  ⟨by simp [h], by simp [h]⟩

end Sequenced

/-! ## First occurrence wins -/

section FirstWins

variable {F : Type} {key : F → Option String} {k : Uuid}

/-- After phase 2: for every key, at most one row of the job with that key is valid and not a
duplicate, and such a row has the smallest row number among the job's rows with the key. -/
def FirstWins (key : F → Option String) (k : Uuid) (rows : List (StagingRow F)) : Prop :=
  ∀ x : String,
    ((jobRows k rows).filter fun r => key r.fields == some x && r.isValid && !r.isDuplicate).length
      ≤ 1 ∧
    ∀ r ∈ jobRows k rows, key r.fields = some x → r.isValid = true → r.isDuplicate = false →
      ∀ r' ∈ jobRows k rows, key r'.fields = some x → r.rowNumber ≤ r'.rowNumber

/-- Rows ordered both by staging id and by row number: a smaller staging id has the smaller row
number. -/
theorem rowNumber_le_of_stagingId_le :
    ∀ {rows : List (StagingRow F)}, (rows.map (·.stagingId)).Pairwise (· < ·) →
      (rows.map (·.rowNumber)).Pairwise (· < ·) →
      ∀ r ∈ rows, ∀ r' ∈ rows, r.stagingId ≤ r'.stagingId → r.rowNumber ≤ r'.rowNumber
  | [], _, _ => by simp
  | a :: rows, hs, hn => by
    simp only [List.map_cons, List.pairwise_cons, List.mem_map, forall_exists_index, and_imp,
      forall_apply_eq_imp_iff₂] at hs hn
    intro r hr r' hr' hle
    rcases List.mem_cons.mp hr with rfl | hr₁ <;> rcases List.mem_cons.mp hr' with rfl | hr₁'
    · exact le_refl _
    · exact (hn.1 r' hr₁').le
    · exact absurd (hs.1 r hr₁) (Nat.not_lt.mpr hle)
    · exact rowNumber_le_of_stagingId_le hs.2 hn.2 r hr₁ r' hr₁' hle

/-- A list without repeats whose members are all equal has at most one member. -/
theorem length_le_one_of_nodup {α : Type} :
    ∀ {l : List α}, l.Nodup → (∀ a ∈ l, ∀ b ∈ l, a = b) → l.length ≤ 1
  | [], _, _ | [_], _, _ => by simp
  | a :: b :: _, hn, h => absurd (h a (by simp) b (by simp)) fun he =>
      (List.nodup_cons.mp hn).1 (he ▸ List.mem_cons_self _ _)

/-- Phase 2's conclusion from three facts about the table: the job's row numbers and staging ids
increase together, and every valid row holds the smallest staging id of its key. -/
theorem firstWins_of {bad : List Nat} {rows : List (StagingRow F)} (ht : Tidy bad k rows)
    (hs : ((jobRows k rows).map (·.stagingId)).Pairwise (· < ·)) (hf : FirstOfKey key k rows) :
    FirstWins key k rows := by
  intro x
  have hjr : ∀ r ∈ jobRows k rows, r ∈ rows ∧ r.jobId = k := fun r hr => by
    simpa [jobRows] using hr
  have hn : ((jobRows k rows).map (·.rowNumber)).Pairwise (· < ·) := by simpa using ht.1
  have hmin : ∀ r ∈ jobRows k rows, key r.fields = some x → r.isValid = true →
      ∀ r' ∈ jobRows k rows, key r'.fields = some x → r.stagingId ≤ r'.stagingId :=
    fun r hr hk hv r' hr' hk' =>
      hf r (hjr r hr).1 (hjr r hr).2 hv x hk r' (hjr r' hr').1 (hjr r' hr').2 hk'
  refine ⟨?_, fun r hr hk hv _ r' hr' hk' =>
    rowNumber_le_of_stagingId_le hs hn r hr r' hr' (hmin r hr hk hv r' hr' hk')⟩
  have hsub := List.filter_sublist (p := fun r : StagingRow F =>
    key r.fields == some x && r.isValid && !r.isDuplicate) (jobRows k rows)
  rw [← List.length_map _ (·.stagingId)]
  refine length_le_one_of_nodup ((hs.imp Nat.ne_of_lt).sublist (hsub.map _)) ?_
  simp only [List.mem_map, List.mem_filter, Bool.and_eq_true, beq_iff_eq, Bool.not_eq_true']
  rintro _ ⟨r, ⟨hr, ⟨hk, hv⟩, -⟩, rfl⟩ _ ⟨r', ⟨hr', ⟨hk', hv'⟩, -⟩, rfl⟩
  exact Nat.le_antisymm (hmin r hr hk hv r' hr' hk') (hmin r' hr' hk' hv' r hr hk)

end FirstWins

/-! ## The in-batch mark as a run sees it -/

section Marked

variable {F : Type} {slot : StagingSlot F} {key : F → Option String} {k : Uuid}
  {res : ResourceType} {base : List Event}

/-- An event that is not a failed in-batch mark of `res`. -/
def OkMark (res : ResourceType) (ev : Event) : Prop :=
  ev.stmt = .markDuplicateInBatch res → ev.ok = true

/-- Events logged after `base` up to a longer log were logged up to any point in between. -/
theorem Logged.of_append {V : Event → Prop} {log evs : List Event} (h : Logged V base (log ++ evs))
    (h₁ : Logged (fun _ => True) base log) : Logged V base log := by
  obtain ⟨e, he, hv⟩ := h
  obtain ⟨e₁, rfl, -⟩ := h₁
  rw [List.append_assoc, List.append_cancel_left_eq] at he
  exact ⟨e₁, rfl, fun ev hev => hv ev (he ▸ List.mem_append_left _ hev)⟩

/-- An event logged last after `base` satisfies what every event logged after `base` does. -/
theorem Logged.last {V : Event → Prop} {log : List Event} {ev : Event}
    (h : Logged V base (log ++ [ev])) (h₁ : Logged (fun _ => True) base log) : V ev := by
  obtain ⟨e, he, hv⟩ := h
  obtain ⟨e₁, rfl, -⟩ := h₁
  rw [List.append_assoc, List.append_cancel_left_eq] at he
  exact hv ev (he ▸ List.mem_append_right _ (List.mem_singleton_self _))

/-- Since `base`, the log has grown, and if no in-batch mark of `res` failed the valid rows are the
first of their keys. -/
def MarkedFrom (slot : StagingSlot F) (key : F → Option String) (k : Uuid) (res : ResourceType)
    (base : List Event) (w : World) : Prop :=
  Logged (fun _ => True) base w.log ∧
    (Logged (OkMark res) base w.log → FirstOfKey key k (slot.get w.db).rows)

/-- The in-batch mark itself: a success leaves the valid rows first of their keys, a failure is a
failed in-batch mark in the log. -/
theorem markInBatch_marked (code : String) :
    Triple (fun w => Logged (fun _ => True) base w.log)
      (StagingRepository.mark slot (.markDuplicateInBatch res)
        fun _ rows => markWhere (dupInBatch key k rows) (markDuplicate code) rows)
      (fun _ => MarkedFrom slot key k res base) (fun _ => MarkedFrom slot key k res base) :=
  Triple.call_rule (fun _ _ _ hw _ h => by
      cases h
      refine ⟨hw.snoc trivial, fun _ => ?_⟩
      rw [slot.get_set]
      exact firstOfKey_markInBatch code _)
    fun _ _ hw _ => ⟨hw.snoc trivial, fun hl => absurd (hl.last hw rfl) Bool.false_ne_true⟩

/-- A later mark that rewrites the rows in place keeps them first of their keys. -/
theorem mark_marked (stmt : Stmt) {f : Db → List (StagingRow F) → List (StagingRow F) × Nat} (hf : ∀ db, RewritesInPlace (f db)) :
    Triple (MarkedFrom slot key k res base) (StagingRepository.mark slot stmt f)
      (fun _ => MarkedFrom slot key k res base) (fun _ => MarkedFrom slot key k res base) :=
  Triple.call_rule (fun w _ _ hw _ h => by
      cases h
      obtain ⟨g, hg, he⟩ := hf w.db (slot.get w.db).rows
      refine ⟨hw.1.snoc trivial, fun hl => ?_⟩
      rw [slot.get_set]
      dsimp only
      rw [he]
      exact (hw.2 (hl.of_append hw.1)).map hg)
    fun _ _ hw _ => ⟨hw.1.snoc trivial, fun hl => hw.2 (hl.of_append hw.1)⟩

end Marked

/-! ## Phase 2 of the three pipelines -/

/-- `processUsersImport` up to its last mark: phases 1 and 2. -/
def stageAndMarkUsers (cfg : ImportConfig) (job : Job) (file : ImportFile) :
    Op (Phase1 UserFields) := do
  let path := job.filePath.getD ""
  let d ← openDelivery (deliverUsers path file) !(detectFormat path).isNDJSON
  let s ← stageAll (processUser cfg job.id)
    (fun b => Op.wrap "failed to create staging users: " (StagingRepository.createStagingUsers job.id b)) d
  let _ ← Op.attempt (JobRepository.setTotalRecords job.id s.totalRows)
  let _ ← Op.wrap "failed to mark duplicates in batch: "
    (StagingRepository.markDuplicateUsersInBatch job.id)
  let _ ← Op.wrap "failed to mark duplicates against existing: "
    (StagingRepository.markDuplicateUsersAgainstExisting job.id)
  pure s

/-- The rest of `processUsersImport`: phases 3 and 4. -/
def promoteAndFinishUsers (cfg : ImportConfig) (job : Job) (s : Phase1 UserFields) : Op Unit := do
  let successful ← StagingRepository.getValidStaging usersSlot job.id cfg.batchSize.val
    (promoteBatch convertStagingToUser fun rows users =>
      Op.wrap "failed to insert users batch: " (UserRepository.createBatch rows users)) 0
  finish cfg usersSlot job.id s successful

/-- `processUsersImport` is its phases 1 and 2, then promotion and the end of the job. -/
theorem processUsersImport_eq (cfg : ImportConfig) (job : Job) (file : ImportFile) :
    processUsersImport cfg job file =
      stageAndMarkUsers cfg job file >>= promoteAndFinishUsers cfg job := by
  simp only [processUsersImport, stageAndMarkUsers, promoteAndFinishUsers, Op.bind_assoc,
    Op.pure_bind]

/-- `processArticlesImport` up to its last mark. -/
def stageAndMarkArticles (cfg : ImportConfig) (job : Job) (file : ImportFile) :
    Op (Phase1 ArticleFields) := do
  let path := job.filePath.getD ""
  let d ← openDelivery (deliverArticles path file) (detectFormat path).isCSV
  let s ← stageAll (processArticle cfg job.id)
    (fun b => Op.wrap "failed to create staging articles: "
      (StagingRepository.createStagingArticles job.id b)) d
  let _ ← Op.attempt (JobRepository.setTotalRecords job.id s.totalRows)
  let _ ← Op.attempt (StagingRepository.markDuplicateArticlesInBatch job.id)
  let _ ← Op.attempt (StagingRepository.markDuplicateArticlesAgainstExisting job.id)
  let _ ← Op.attempt (StagingRepository.markInvalidAuthorFKArticles job.id)
  pure s

/-- The rest of `processArticlesImport`. -/
def promoteAndFinishArticles (cfg : ImportConfig) (job : Job) (s : Phase1 ArticleFields) :
    Op Unit := do
  let successful ← StagingRepository.getValidStaging articlesSlot job.id cfg.batchSize.val
    (promoteBatch convertStagingToArticle ArticleRepository.createBatch) 0
  finish cfg articlesSlot job.id s successful

/-- `processArticlesImport` is its phases 1 and 2, then promotion and the end of the job. -/
theorem processArticlesImport_eq (cfg : ImportConfig) (job : Job) (file : ImportFile) :
    processArticlesImport cfg job file =
      stageAndMarkArticles cfg job file >>= promoteAndFinishArticles cfg job := by
  simp only [processArticlesImport, stageAndMarkArticles, promoteAndFinishArticles, Op.bind_assoc,
    Op.pure_bind]

/-- `processCommentsImport` up to its last mark. -/
def stageAndMarkComments (cfg : ImportConfig) (job : Job) (file : ImportFile) :
    Op (Phase1 CommentFields) := do
  let path := job.filePath.getD ""
  let d ← openDelivery (deliverComments path file) (detectFormat path).isCSV
  let s ← stageAll (processComment cfg job.id) (StagingRepository.createStagingComments job.id) d
  let _ ← Op.attempt (JobRepository.setTotalRecords job.id s.totalRows)
  let _ ← Op.attempt (StagingRepository.markDuplicateCommentsInBatch job.id)
  let _ ← Op.attempt (StagingRepository.markInvalidFKComments job.id)
  pure s

/-- The rest of `processCommentsImport`. -/
def promoteAndFinishComments (cfg : ImportConfig) (job : Job) (s : Phase1 CommentFields) :
    Op Unit := do
  let successful ← StagingRepository.getValidStaging commentsSlot job.id cfg.batchSize.val
    (promoteBatch convertStagingToComment CommentRepository.createBatch) 0
  finish cfg commentsSlot job.id s successful

/-- `processCommentsImport` is its phases 1 and 2, then promotion and the end of the job. -/
theorem processCommentsImport_eq (cfg : ImportConfig) (job : Job) (file : ImportFile) :
    processCommentsImport cfg job file =
      stageAndMarkComments cfg job file >>= promoteAndFinishComments cfg job := by
  simp only [processCommentsImport, stageAndMarkComments, promoteAndFinishComments, Op.bind_assoc,
    Op.pure_bind]

/-- Phases 1 and 2 of the pipeline of the job's resource. -/
def stageAndMark (cfg : ImportConfig) (job : Job) (file : ImportFile) : Op Unit :=
  match job.resource with
  | .users => do let _ ← stageAndMarkUsers cfg job file
  | .articles => do let _ ← stageAndMarkArticles cfg job file
  | .comments => do let _ ← stageAndMarkComments cfg job file

/-- `FirstWins` on the staging table of `res`, under the key its in-batch mark compares: the
lower-cased email, the lower-cased slug, the comment's id. -/
def Db.FirstWins (db : Db) (res : ResourceType) (k : Uuid) : Prop :=
  match res with
  | .users => BulkImport.FirstWins (fun f => f.email.map toLower) k db.stagingUsers.rows
  | .articles => BulkImport.FirstWins (fun f => f.slug.map toLower) k db.stagingArticles.rows
  | .comments => BulkImport.FirstWins (fun f => f.id) k db.stagingComments.rows

/-! ## After phase 2 -/

section After

variable {F : Type} {slot : StagingSlot F} {key : F → Option String} {k : Uuid} {res : ResourceType}

/-- A run that only appends to the log. -/
theorem SlotBy.logged {α : Type} {R : StagingTable F → StagingTable F → Prop} {x : Op α}
    (h : SlotBy slot R x) (base : List Event) :
    Triple (fun w => Logged (fun _ => True) base w.log) x
      (fun _ w => Logged (fun _ => True) base w.log) (fun _ _ => True) :=
  ((h (fun _ => True) fun _ _ _ _ => trivial) base).conseq (fun _ hw => ⟨trivial, hw⟩)
    (fun _ _ hw => hw.2) fun _ _ _ => trivial

/-- What phases 1 and 2 of a pipeline leave, from the three facts a run of them keeps: the job's
row numbers in order (the journal's invariant), its staging ids in order, and the valid rows first
of their keys unless an in-batch mark failed. -/
theorem firstWins_of_run {α : Type} {x : Op α} {bad : List Nat}
    (h₁ : ∀ base, Triple
      (Holds (fun db => jobRows k (slot.get db).rows = []) (JournalSound res bad) base) x
      (fun _ => Holds (fun db => Tidy bad k (slot.get db).rows) (JournalSound res bad) base)
      (fun _ => Holds (fun db => Tidy bad k (slot.get db).rows) (JournalSound res bad) base))
    (h₂ : SlotBy slot (StagingStep k) x)
    (h₃ : ∀ base, Triple (fun w => Logged (fun _ => True) base w.log) x
      (fun _ => MarkedFrom slot key k res base) (fun _ _ => True))
    {w : World} (hfresh : jobRows k (slot.get w.db).rows = []) {a : α} (hok : (x w).1 = .ok a) :
    FirstWins key k (slot.get (x w).2.db).rows ∨ ¬Logged (OkMark res) w.log (x w).2.log := by
  have ht := (h₁ w.log).run_inv ⟨hfresh, [], by simp, by simp⟩
  have hs := h₂.run (Sequenced k) (fun _ _ h hs => h.step hs) (sequenced_of_fresh hfresh)
  have hm := (h₃ w.log).post_of_ok ⟨[], by simp, by simp⟩ hok
  by_cases hl : Logged (OkMark res) w.log (x w).2.log
  · exact .inl (firstWins_of ht.1 hs.1.1 (hm.2 hl))
  · exact .inr hl

end After

/-! ## The three pipelines -/

section Users

variable (cfg : ImportConfig) (job : Job) (file : ImportFile)

/-- Phases 1 and 2 of the users pipeline move the staging users by insert and rewrite steps of the
job. -/
theorem stageAndMarkUsers_slotBy : SlotBy usersSlot (StagingStep job.id) (stageAndMarkUsers cfg job file) :=
  (openDelivery_slotBy _ _).bind fun d => (stageAll_slotBy
    (fun s c => processRecord_slotBy (fun _ => (createStaging_slotBy _).wrap _) s c)
    (fun _ => (createStaging_slotBy _).wrap _) d).bind fun _ =>
  (updateWith_slotBy _ _ _).attempt.bind fun _ =>
  ((mark_slotBy _ fun _ => (marks_rewriteInPlace job.id [] []).1).wrap _).bind fun _ =>
  ((mark_slotBy _ fun db => (marks_rewriteInPlace job.id db.users []).2.1).wrap _).bind fun _ =>
  SlotBy.pure_rule _

/-- Phases 1 and 2 of the users pipeline, from no row of the job, leave the job's rows tidy. -/
theorem stageAndMarkUsers_tidy {bad : List Nat} (hbad : ∀ d, deliverUsers (job.filePath.getD "") file = .ok d →
      ∀ c ∈ d.calls, Judged validateUserImport bad c) (base : List Event) :
    Triple (Holds (fun db => jobRows job.id (usersSlot.get db).rows = []) (JournalSound .users bad) base)
      (stageAndMarkUsers cfg job file)
      (fun _ => Holds (fun db => Tidy bad job.id (usersSlot.get db).rows) (JournalSound .users bad) base)
      (fun _ => Holds (fun db => Tidy bad job.id (usersSlot.get db).rows) (JournalSound .users bad)
        base) := by
  refine (openDelivery_fresh usersSlot _ _ base).bind fun d => Triple.of_hyp fun hd => ?_
  refine (stageAll_staged usersSlot (fun s hs c hc next base => processRecord_staged usersSlot
    (createStaging_wrap_staged usersSlot _) s hs c hc next base)
    (createStaging_wrap_staged usersSlot _) (deliverUsers_ordered hd) (hbad d hd) base).bind fun s =>
    Triple.of_hyp fun _ => ?_
  exact ((setTotalRecords_journal usersSlot _ _).attempt.bind fun _ =>
    ((mark_journal usersSlot _ (by nofun) (by nofun) fun _ =>
      (marks_rewriteInPlace job.id [] []).1).wrap _).bind fun _ =>
    ((mark_journal usersSlot _ (by nofun) (by nofun) fun db =>
      (marks_rewriteInPlace job.id db.users []).2.1).wrap _).bind fun _ => Keeps.pure_rule _) base

/-- Phases 1 and 2 of the users pipeline leave valid only the first row of each lower-cased
email, when every mark they sent succeeded. -/
theorem stageAndMarkUsers_marked (base : List Event) :
    Triple (fun w => Logged (fun _ => True) base w.log) (stageAndMarkUsers cfg job file)
      (fun _ => MarkedFrom usersSlot (fun f => f.email.map toLower) job.id .users base)
      (fun _ _ => True) :=
  ((openDelivery_slotBy _ _ : SlotBy usersSlot (StagingStep job.id) _).logged base).bind fun d =>
  ((stageAll_slotBy (fun s c => processRecord_slotBy (fun _ => (createStaging_slotBy _).wrap _) s c)
    (fun _ => (createStaging_slotBy _).wrap _) d).logged base).bind fun _ =>
  ((updateWith_slotBy _ _ _ : SlotBy usersSlot (StagingStep job.id) _).attempt.logged base).bind
    fun _ =>
  (Triple.wrap _ ((markInBatch_marked ErrCode.duplicateEmail).conseq (fun _ h => h) (fun _ _ h => h)
    fun _ _ _ => trivial)).bind fun _ =>
  (Triple.wrap _ ((mark_marked _ fun db => (marks_rewriteInPlace job.id db.users []).2.1).conseq
    (fun _ h => h) (fun _ _ h => h) fun _ _ _ => trivial)).bind fun _ _ h => h

end Users

section Articles

variable (cfg : ImportConfig) (job : Job) (file : ImportFile)

/-- Phases 1 and 2 of the articles pipeline move the staging articles by insert and rewrite steps
of the job. -/
theorem stageAndMarkArticles_slotBy :
    SlotBy articlesSlot (StagingStep job.id) (stageAndMarkArticles cfg job file) :=
  (openDelivery_slotBy _ _).bind fun d => (stageAll_slotBy
    (fun s c => processRecord_slotBy (fun _ => (createStaging_slotBy _).wrap _) s c)
    (fun _ => (createStaging_slotBy _).wrap _) d).bind fun _ =>
  (updateWith_slotBy _ _ _).attempt.bind fun _ =>
  (mark_slotBy _ fun _ => (marks_rewriteInPlace job.id [] []).2.2.1).attempt.bind fun _ =>
  (mark_slotBy _ fun db => (marks_rewriteInPlace job.id [] db.articles).2.2.2.1).attempt.bind fun _ =>
  (mark_slotBy _ fun db => (marks_rewriteInPlace job.id db.users []).2.2.2.2.1).attempt.bind fun _ =>
  SlotBy.pure_rule _

/-- Phases 1 and 2 of the articles pipeline, from no row of the job, leave the job's rows tidy. -/
theorem stageAndMarkArticles_tidy {bad : List Nat}
    (hbad : ∀ d, deliverArticles (job.filePath.getD "") file = .ok d →
      ∀ c ∈ d.calls, Judged validateArticleImport bad c) (base : List Event) :
    Triple (Holds (fun db => jobRows job.id (articlesSlot.get db).rows = [])
        (JournalSound .articles bad) base)
      (stageAndMarkArticles cfg job file)
      (fun _ => Holds (fun db => Tidy bad job.id (articlesSlot.get db).rows)
        (JournalSound .articles bad) base)
      (fun _ => Holds (fun db => Tidy bad job.id (articlesSlot.get db).rows)
        (JournalSound .articles bad) base) := by
  refine (openDelivery_fresh articlesSlot _ _ base).bind fun d => Triple.of_hyp fun hd => ?_
  refine (stageAll_staged articlesSlot (fun s hs c hc next base => processRecord_staged articlesSlot
    (createStaging_wrap_staged articlesSlot _) s hs c hc next base)
    (createStaging_wrap_staged articlesSlot _) (deliverArticles_ordered hd) (hbad d hd) base).bind
    fun s => Triple.of_hyp fun _ => ?_
  exact ((setTotalRecords_journal articlesSlot _ _).attempt.bind fun _ =>
    (mark_journal articlesSlot _ (by nofun) (by nofun) fun _ =>
      (marks_rewriteInPlace job.id [] []).2.2.1).attempt.bind fun _ =>
    (mark_journal articlesSlot _ (by nofun) (by nofun) fun db =>
      (marks_rewriteInPlace job.id [] db.articles).2.2.2.1).attempt.bind fun _ =>
    (mark_journal articlesSlot _ (by nofun) (by nofun) fun db =>
      (marks_rewriteInPlace job.id db.users []).2.2.2.2.1).attempt.bind fun _ =>
    Keeps.pure_rule _) base

/-- Phases 1 and 2 of the articles pipeline leave valid only the first row of each lower-cased
slug, when every mark they sent succeeded. -/
theorem stageAndMarkArticles_marked (base : List Event) :
    Triple (fun w => Logged (fun _ => True) base w.log) (stageAndMarkArticles cfg job file)
      (fun _ => MarkedFrom articlesSlot (fun f => f.slug.map toLower) job.id .articles base)
      (fun _ _ => True) :=
  ((openDelivery_slotBy _ _ : SlotBy articlesSlot (StagingStep job.id) _).logged base).bind fun d =>
  ((stageAll_slotBy (fun s c => processRecord_slotBy (fun _ => (createStaging_slotBy _).wrap _) s c)
    (fun _ => (createStaging_slotBy _).wrap _) d).logged base).bind fun _ =>
  ((updateWith_slotBy _ _ _ : SlotBy articlesSlot (StagingStep job.id) _).attempt.logged base).bind
    fun _ =>
  (Triple.attempt (Q := fun _ => _) (markInBatch_marked ErrCode.duplicateSlug)).bind fun _ =>
  (Triple.attempt (Q := fun _ => _) (mark_marked _ fun db =>
    (marks_rewriteInPlace job.id [] db.articles).2.2.2.1)).bind fun _ =>
  (Triple.attempt (Q := fun _ => _) (mark_marked _ fun db =>
    (marks_rewriteInPlace job.id db.users []).2.2.2.2.1)).bind fun _ _ h => h

end Articles

section Comments

variable (cfg : ImportConfig) (job : Job) (file : ImportFile)

/-- Phases 1 and 2 of the comments pipeline move the staging comments by insert and rewrite steps
of the job. -/
theorem stageAndMarkComments_slotBy :
    SlotBy commentsSlot (StagingStep job.id) (stageAndMarkComments cfg job file) :=
  (openDelivery_slotBy _ _).bind fun d => (stageAll_slotBy
    (fun s c => processRecord_slotBy (fun _ => createStaging_slotBy _) s c)
    (fun _ => createStaging_slotBy _) d).bind fun _ =>
  (updateWith_slotBy _ _ _).attempt.bind fun _ =>
  (mark_slotBy _ fun _ => (marks_rewriteInPlace job.id [] []).2.2.2.2.2.1).attempt.bind fun _ =>
  (mark_slotBy _ fun db =>
    (marks_rewriteInPlace job.id db.users db.articles).2.2.2.2.2.2).attempt.bind fun _ =>
  SlotBy.pure_rule _

/-- Phases 1 and 2 of the comments pipeline, from no row of the job, leave the job's rows tidy. -/
theorem stageAndMarkComments_tidy {bad : List Nat}
    (hbad : ∀ d, deliverComments (job.filePath.getD "") file = .ok d →
      ∀ c ∈ d.calls, Judged validateCommentImport bad c) (base : List Event) :
    Triple (Holds (fun db => jobRows job.id (commentsSlot.get db).rows = [])
        (JournalSound .comments bad) base)
      (stageAndMarkComments cfg job file)
      (fun _ => Holds (fun db => Tidy bad job.id (commentsSlot.get db).rows)
        (JournalSound .comments bad) base)
      (fun _ => Holds (fun db => Tidy bad job.id (commentsSlot.get db).rows)
        (JournalSound .comments bad) base) := by
  refine (openDelivery_fresh commentsSlot _ _ base).bind fun d => Triple.of_hyp fun hd => ?_
  refine (stageAll_staged commentsSlot (fun s hs c hc next base => processRecord_staged commentsSlot
    (createStaging_staged commentsSlot) s hs c hc next base)
    (createStaging_staged commentsSlot) (deliverComments_ordered hd) (hbad d hd) base).bind
    fun s => Triple.of_hyp fun _ => ?_
  exact ((setTotalRecords_journal commentsSlot _ _).attempt.bind fun _ =>
    (mark_journal commentsSlot _ (by nofun) (by nofun) fun _ =>
      (marks_rewriteInPlace job.id [] []).2.2.2.2.2.1).attempt.bind fun _ =>
    (mark_journal commentsSlot _ (by nofun) (by nofun) fun db =>
      (marks_rewriteInPlace job.id db.users db.articles).2.2.2.2.2.2).attempt.bind fun _ =>
    Keeps.pure_rule _) base

/-- Phases 1 and 2 of the comments pipeline leave valid only the first row of each id, when
every mark they sent succeeded. -/
theorem stageAndMarkComments_marked (base : List Event) :
    Triple (fun w => Logged (fun _ => True) base w.log) (stageAndMarkComments cfg job file)
      (fun _ => MarkedFrom commentsSlot (fun f => f.id) job.id .comments base)
      (fun _ _ => True) :=
  ((openDelivery_slotBy _ _ : SlotBy commentsSlot (StagingStep job.id) _).logged base).bind fun d =>
  ((stageAll_slotBy (fun s c => processRecord_slotBy (fun _ => createStaging_slotBy _) s c)
    (fun _ => createStaging_slotBy _) d).logged base).bind fun _ =>
  ((updateWith_slotBy _ _ _ : SlotBy commentsSlot (StagingStep job.id) _).attempt.logged base).bind
    fun _ =>
  (Triple.attempt (Q := fun _ => _) (markInBatch_marked "DUPLICATE_ID")).bind fun _ =>
  (Triple.attempt (Q := fun _ => _) (mark_marked _ fun db =>
    (marks_rewriteInPlace job.id db.users db.articles).2.2.2.2.2.2)).bind fun _ _ h => h

end Comments

/-! ## First occurrence wins, for every pipeline -/

/-- The run of a unit-valued sequel of `x`: the same world, and a return exactly when `x` returns. -/
theorem Op.discard_run {α : Type} (x : Op α) (w : World) :
    ((do let _ ← x : Op Unit) w).2 = (x w).2 ∧
      (((do let _ ← x : Op Unit) w).1 = .ok () → ∃ a, (x w).1 = .ok a) := by
  simp only [Op.bind_apply]
  rcases x w with ⟨_ | a, w'⟩
  · exact ⟨rfl, nofun⟩
  · exact ⟨rfl, fun _ => ⟨a, rfl⟩⟩

/-- First occurrence wins: for every configuration, job, file and world in which the job has no
staging rows yet, phases 1 and 2 that return leave, for every key of the job's resource, at most
one staging row of the job with that key valid and not a duplicate, and that row has the smallest
row number among the job's rows with the key; unless an in-batch mark the run sent failed, which
the articles and comments pipelines do not check. -/
theorem first_occurrence_wins (cfg : ImportConfig) (job : Job) (file : ImportFile) (w : World)
    (hfresh : w.db.stagingRows job.resource job.id = [])
    (hok : (stageAndMark cfg job file w).1 = .ok ()) :
    (stageAndMark cfg job file w).2.db.FirstWins job.resource job.id ∨
      ¬Logged (OkMark job.resource) w.log (stageAndMark cfg job file w).2.log := by
  unfold stageAndMark at hok ⊢
  rcases hres : job.resource <;> rw [hres] at hfresh hok <;> dsimp only at hok ⊢
  · obtain ⟨h₂, h₁⟩ := Op.discard_run (stageAndMarkUsers cfg job file) w
    obtain ⟨_, ha⟩ := h₁ hok
    rw [h₂]
    exact (firstWins_of_run (stageAndMarkUsers_tidy cfg job file
      (judged_badRows (fun _ _ _ => validateUserImport_row) fun _ => deliverUsers_ordered))
      (stageAndMarkUsers_slotBy cfg job file) (stageAndMarkUsers_marked cfg job file)
      (List.map_eq_nil_iff.mp hfresh) ha :)
  · obtain ⟨h₂, h₁⟩ := Op.discard_run (stageAndMarkArticles cfg job file) w
    obtain ⟨_, ha⟩ := h₁ hok
    rw [h₂]
    exact (firstWins_of_run (stageAndMarkArticles_tidy cfg job file
      (judged_badRows (fun _ _ _ => validateArticleImport_row) fun _ => deliverArticles_ordered))
      (stageAndMarkArticles_slotBy cfg job file) (stageAndMarkArticles_marked cfg job file)
      (List.map_eq_nil_iff.mp hfresh) ha :)
  · obtain ⟨h₂, h₁⟩ := Op.discard_run (stageAndMarkComments cfg job file) w
    obtain ⟨_, ha⟩ := h₁ hok
    rw [h₂]
    exact (firstWins_of_run (stageAndMarkComments_tidy cfg job file
      (judged_badRows (fun _ _ _ => validateCommentImport_row) fun _ => deliverComments_ordered))
      (stageAndMarkComments_slotBy cfg job file) (stageAndMarkComments_marked cfg job file)
      (List.map_eq_nil_iff.mp hfresh) ha :)

/-- A CSV upload of the two articles above. -/
def draftFastUpload : ImportFile :=
  ⟨"uploads/articles.csv", ⟨.ok ["slug", "title", "body", "author_id", "status"],
    [some ["Draft Fast", "First", "Body one", (Uuid.ofSeed 9).toText, "draft"],
     some ["draft-fast", "Second", "Body two", (Uuid.ofSeed 9).toText, "draft"]]⟩, ⟨[], none⟩⟩

/-- The queued import job of that upload. -/
def draftFastJob : Job := importJobOf (Uuid.ofSeed 100) .articles "uploads/articles.csv" ""

/-- A world whose only row is that job's, with no call failing. -/
def draftFastWorld : World := World.start { Db.empty with jobs := [draftFastJob] } fun _ => none

/-- Phases 1 and 2 of the upload of the two articles keep the first row of their slug. -/
theorem draft_fast_upload_first_wins :
    draftFastWorld.db.stagingRows draftFastJob.resource draftFastJob.id = [] ∧
      (stageAndMark ImportConfig.default draftFastJob draftFastUpload draftFastWorld).1 = .ok () ∧
      ((stageAndMark ImportConfig.default draftFastJob draftFastUpload
          draftFastWorld).2.db.FirstWins draftFastJob.resource draftFastJob.id ∨
        ¬Logged (OkMark draftFastJob.resource) draftFastWorld.log
          (stageAndMark ImportConfig.default draftFastJob draftFastUpload draftFastWorld).2.log) := by
  have hok : (stageAndMark ImportConfig.default draftFastJob draftFastUpload draftFastWorld).1 =
      .ok () := by decide
  exact ⟨by decide, hok, first_occurrence_wins _ _ _ _ (by decide) hok⟩

end BulkImport
