import BulkImport.Store.Repo
import Mathlib.Tactic.Linarith

/-!
# The error pages

`GET /v1/imports/:job_id/errors` (`ImportHandler.GetImportErrors`, `part_004`) reads `page` and
`per_page` with `strconv.Atoi`, clamps them, and asks `JobRepository.GetErrors` for the job's
journal entries `ORDER BY row_number ASC LIMIT perPage OFFSET (page - 1) * perPage`. The offset is
computed in Go's 64-bit `int` (`pageOffset`).

Where the offset does not wrap, a page is the slice `[(page - 1) * perPage, page * perPage)` of
the ordered journal (`getImportErrors_run`), pages `1` to `totalPages` partition the journal and
every later page is empty (`pages_partition`). A page number whose offset wraps to `0` answers
with the first page's entries, however far past the last page it is
(`wrapped_page_repeats_first`).
-/

namespace BulkImport

/-! ## Go's integers -/

/-- Go's 64-bit `int`: an integer wrapped to `[-2^63, 2^63)`. -/
def wrapInt64 (n : Int) : Int := (n + 2 ^ 63) % 2 ^ 64 - 2 ^ 63

/-- The value of a list of decimal digits. -/
def decimalValue (ds : List Char) : Nat :=
  ds.foldl (fun n c => 10 * n + (c.toNat - '0'.toNat)) 0

/-- `strconv.Atoi` with its error dropped, as the handlers call it: an optional sign and decimal
digits give their value, clamped to Go's 64-bit `int` as `ParseInt` clamps on a range error; any
other text gives `0`. -/
def atoi (s : String) : Int :=
  let (neg, ds) : Bool × List Char := match s.data with
    | '-' :: ds => (true, ds)
    | '+' :: ds => (false, ds)
    | ds => (false, ds)
  if ds.isEmpty || !ds.all isDigit then 0
  else
    let v : Int := if neg then -(decimalValue ds : Int) else decimalValue ds
    max (-2 ^ 63) (min (2 ^ 63 - 1) v)

/-- An integer in `[0, 2^63)` is its own 64-bit wrap. -/
theorem wrapInt64_of_lt {n : Int} (h₀ : 0 ≤ n) (h₁ : n < 2 ^ 63) : wrapInt64 n = n := by
  unfold wrapInt64
  rw [Int.emod_eq_of_lt (by omega) (by omega)]
  omega

/-! ## `GetErrors` -/

/-- The `page` clamp of `GetImportErrors` and `GetErrors`: below `1` is `1`. -/
def clampPage (page : Int) : Int := if page < 1 then 1 else page

/-- The `per_page` clamp of both: below `1` is `100`, above `1000` is `1000`. -/
def clampPerPage (perPage : Int) : Int :=
  if perPage < 1 then 100 else if perPage > 1000 then 1000 else perPage

/-- A page number of at least `1` is kept. -/
theorem clampPage_of_pos {page : Int} (h : 1 ≤ page) : clampPage page = page := if_neg (by omega)

/-- Clamping a page number twice is clamping it once. -/
theorem clampPage_idem (page : Int) : clampPage (clampPage page) = clampPage page := by
  unfold clampPage
  split_ifs <;> omega

/-- Clamping a page size twice is clamping it once. -/
theorem clampPerPage_idem (perPage : Int) :
    clampPerPage (clampPerPage perPage) = clampPerPage perPage := by
  unfold clampPerPage
  split_ifs <;> omega

/-- A page size in `[1, 1000]` is kept. -/
theorem clampPerPage_of_mem {perPage : Int} (h₀ : 1 ≤ perPage) (h₁ : perPage ≤ 1000) :
    clampPerPage perPage = perPage := by
  simp only [clampPerPage, if_neg (show ¬perPage < 1 by omega),
    if_neg (show ¬perPage > 1000 by omega)]

/-- The `OFFSET` of `GetErrors`: `(page - 1) * perPage` in Go's `int`. -/
def pageOffset (page perPage : Int) : Int := wrapInt64 ((page - 1) * perPage)

/-- The job's journal entries in the order of `ORDER BY row_number ASC`, entries of one row in
the order they were inserted. -/
def orderedErrors (errs : List JobError) (jobId : Uuid) : List JobError :=
  (errs.filter (·.jobId == jobId)).insertionSort fun a b => a.rowNumber ≤ b.rowNumber

/-- `JobRepository.GetErrors`: the count of the job's entries, then at most `perPage` of them from
the offset; PostgreSQL refuses a negative `OFFSET`. -/
def JobRepository.getErrors (jobId : Uuid) (page perPage : Int) : Op (List JobError × Nat) := do
  let page := clampPage page
  let perPage := clampPerPage perPage
  let offset := pageOffset page perPage
  let total ← call .countErrors [] fun db =>
    .ok ((db.jobErrors.filter (·.jobId == jobId)).length, db)
  let errs ← call .getErrors [] fun db =>
    if offset < 0 then .error "pq: OFFSET must not be negative"
    else .ok (((orderedErrors db.jobErrors jobId).drop offset.toNat).take perPage.toNat, db)
  pure (errs, total)

/-! ## `GetImportErrors` -/

/-- `PaginationInfo`. -/
structure PaginationInfo where
  /-- `page`, after the clamp. -/
  page : Int
  /-- `per_page`, after the clamp. -/
  perPage : Int
  /-- `total_errors`, the job's journal entries. -/
  totalErrors : Nat
  /-- `total_pages`, as the handler computes it. -/
  totalPages : Int
  deriving DecidableEq

/-- `GetImportErrorsResponse`, the body of an answer with status 200. -/
structure ErrorsPage where
  /-- `job_id`, the job's id as text. -/
  jobId : String
  /-- `errors`, the entries of the page. -/
  errors : List JobError
  /-- `pagination`. -/
  pagination : PaginationInfo
  deriving DecidableEq

/-- What `GetImportErrors` answers: an error status with its text, or a page. -/
inductive ErrorsAnswer where
  /-- an error status and its message -/
  | error (status : Nat) (msg : String)
  /-- status 200 and a page of the journal -/
  | page (body : ErrorsPage)
  deriving DecidableEq

/-- The handler's `totalPages`: `total / perPage`, and one more for a remainder. -/
def totalPagesOf (total : Nat) (perPage : Int) : Int :=
  total / perPage + if total % perPage > 0 then 1 else 0

/-- `ImportHandler.GetImportErrors`, from the path parameter and the two query values (`none` when
absent, where `DefaultQuery` gives `"1"` and `"100"`). `Service.GetJobErrors` hands the call to
`JobRepository.GetErrors` as it is. -/
def getImportErrors (jobIdParam : String) (pageParam perPageParam : Option String) :
    Op ErrorsAnswer :=
  match Uuid.parse jobIdParam with
  | none => pure (.error 400 "invalid job_id")
  | some jobId => do
    let page := clampPage (atoi (pageParam.getD "1"))
    let perPage := clampPerPage (atoi (perPageParam.getD "100"))
    match ← JobRepository.getByID jobId with
    | (_, some _) => pure (.error 500 "failed to get job")
    | (none, none) => pure (.error 404 "job not found")
    | (some _, none) =>
      match ← Op.attempt (JobRepository.getErrors jobId page perPage) with
      | .error _ => pure (.error 500 "failed to get errors")
      | .ok (errs, total) =>
        pure (.page ⟨jobId.toText, errs, ⟨page, perPage, total, totalPagesOf total perPage⟩⟩)

/-! ## Runs -/

section Runs

variable {k : Uuid} {w : World}

/-- From a world with no failure, `GetByID` of a job that exists finds a job and changes no
table. -/
theorem getByID_found (hf : ∀ n, w.fault n = none) (hjob : ∃ j ∈ w.db.jobs, j.id = k) :
    ∃ j w', JobRepository.getByID k w = (.ok (some j, none), w') ∧ w'.db = w.db ∧
      w'.fault = w.fault := by
  cases h : w.db.jobs.find? (·.id == k) with
  | none =>
    obtain ⟨j, hj, rfl⟩ := hjob
    exact absurd (List.find?_eq_none.mp h j hj) (by simp)
  | some j =>
    exact ⟨j,
      { w with calls := w.calls + 1, log := w.log ++ [⟨.getJob, [], true, w.db.jobs⟩] },
      by simp [JobRepository.getByID, call, hf, h], rfl, rfl⟩

/-- From a world with no failure and an offset that is not negative, `GetErrors` returns the
count of the job's entries and the slice of the ordered journal at the offset. -/
theorem getErrors_run (hf : ∀ n, w.fault n = none) {page perPage : Int}
    (hoff : 0 ≤ pageOffset (clampPage page) (clampPerPage perPage)) :
    (JobRepository.getErrors k page perPage w).1 =
      .ok (((orderedErrors w.db.jobErrors k).drop
          (pageOffset (clampPage page) (clampPerPage perPage)).toNat).take
          (clampPerPage perPage).toNat,
        (w.db.jobErrors.filter (·.jobId == k)).length) := by
  simp [JobRepository.getErrors, call, hf, not_lt.mpr hoff]

/-- `GetImportErrors` of a job that exists, from a world with no failure, at a page whose offset
is not negative: the slice of the ordered journal at the offset, with the pagination of the
clamped values. -/
theorem getImportErrors_run {pageText perPageText : String} {P p : Int}
    (hP : clampPage (atoi pageText) = P) (hp : clampPerPage (atoi perPageText) = p)
    (hf : ∀ n, w.fault n = none) (hjob : ∃ j ∈ w.db.jobs, j.id = k)
    (hoff : 0 ≤ pageOffset P p) :
    (getImportErrors k.toText (some pageText) (some perPageText) w).1 =
      .ok (.page ⟨k.toText,
        ((orderedErrors w.db.jobErrors k).drop (pageOffset P p).toNat).take p.toNat,
        ⟨P, p, (w.db.jobErrors.filter (·.jobId == k)).length,
          totalPagesOf (w.db.jobErrors.filter (·.jobId == k)).length p⟩⟩) := by
  obtain ⟨j, w', hw', hdb, hfault⟩ := getByID_found hf hjob
  have hP' : clampPage P = P := hP ▸ clampPage_idem _
  have hp' : clampPerPage p = p := hp ▸ clampPerPage_idem _
  have hrun := getErrors_run (k := k) (w := w') (fun n => hfault ▸ hf n)
    (show 0 ≤ pageOffset (clampPage P) (clampPerPage p) by rwa [hP', hp'])
  rw [hP', hp', hdb] at hrun
  simp only [getImportErrors, Uuid.parse_toText, Option.getD_some, hP, hp, Op.bind_apply, hw',
    Op.attempt_apply, hrun, Op.pure_apply]

end Runs

/-! ## The pages of a journal -/

/-- The handler's `totalPages` for a page size that is a natural number, computed in natural
numbers. -/
theorem totalPagesOf_natCast (E p : Nat) :
    totalPagesOf E p = ((E / p + if E % p > 0 then 1 else 0 : Nat) : Int) := by
  unfold totalPagesOf
  split_ifs <;> push_cast <;> omega

/-- `totalPages` pages of `perPage` entries hold the whole journal. -/
theorem le_totalPages_mul {E p : Nat} (hp : 0 < p) :
    E ≤ (E / p + if E % p > 0 then 1 else 0) * p := by
  split_ifs with hr
  · exact (Nat.lt_mul_div_succ E hp).le.trans_eq (Nat.mul_comm _ _)
  · rw [Nat.add_zero, Nat.div_mul_cancel (Nat.dvd_of_mod_eq_zero (by omega))]

/-- Pages `0` to `n - 1` of `p` entries concatenate to a list of at most `n * p` entries. -/
theorem join_pages {α : Type} (p : Nat) :
    ∀ (n : Nat) (l : List α), l.length ≤ n * p →
      ((List.range n).map fun i => (l.drop (i * p)).take p).flatten = l
  | 0, l, h => by simp_all
  | n + 1, l, h => by
    have hrest : (l.drop p).length ≤ n * p := by
      rw [List.length_drop]; rw [Nat.succ_mul] at h; omega
    have hshift : ∀ i, l.drop ((i + 1) * p) = (l.drop p).drop (i * p) := fun i => by
      rw [List.drop_drop, Nat.succ_mul, Nat.add_comm]
    rw [List.range_succ_eq_map, List.map_cons, List.map_map, List.flatten_cons]
    simp only [Function.comp_def, Nat.succ_eq_add_one, hshift, join_pages p n _ hrest, Nat.zero_mul,
      List.drop_zero, List.take_append_drop]

/-- The slices `[(page - 1) * p, page * p)` of pages `1` to `totalPages` concatenate to the
journal, and every later slice is empty. -/
theorem pages_partition {α : Type} (l : List α) {p : Nat} (hp : 0 < p) :
    ((List.range (totalPagesOf l.length p).toNat).map fun i => (l.drop (i * p)).take p).flatten = l ∧
      ∀ i, (totalPagesOf l.length p).toNat ≤ i → (l.drop (i * p)).take p = [] := by
  rw [totalPagesOf_natCast, Int.toNat_ofNat]
  refine ⟨join_pages p _ l (le_totalPages_mul hp), fun i hi => ?_⟩
  rw [List.drop_eq_nil_of_le ((le_totalPages_mul hp).trans (Nat.mul_le_mul_right p hi)),
    List.take_nil]

/-! ## A page past the last one -/

/-- A page number whose offset wraps to `0` in Go's `int` answers with the first page's entries
and reports the page number it was given. -/
theorem wrapped_page_repeats_first {k : Uuid} {pageText perPageText : String} {w : World}
    (hf : ∀ n, w.fault n = none) (hjob : ∃ j ∈ w.db.jobs, j.id = k)
    (hp : 1 ≤ atoi perPageText ∧ atoi perPageText ≤ 1000) (hP : 1 ≤ atoi pageText)
    (hwrap : pageOffset (atoi pageText) (atoi perPageText) = 0) :
    (getImportErrors k.toText (some pageText) (some perPageText) w).1 =
      .ok (.page ⟨k.toText, (orderedErrors w.db.jobErrors k).take (atoi perPageText).toNat,
        ⟨atoi pageText, atoi perPageText, (w.db.jobErrors.filter (·.jobId == k)).length,
          totalPagesOf (w.db.jobErrors.filter (·.jobId == k)).length (atoi perPageText)⟩⟩) := by
  rw [getImportErrors_run (clampPage_of_pos hP) (clampPerPage_of_mem hp.1 hp.2) hf hjob
    hwrap.symm.le, hwrap]
  rfl

/-- A job with one journal entry. -/
def pagedJob : Job := { Job.zero with id := Uuid.ofSeed 7 }

/-- The world of `pagedJob`, whose journal holds one entry. -/
def pagedJournalWorld : World :=
  World.start
    { Db.empty with
      jobs := [pagedJob]
      jobErrors := [⟨Uuid.ofSeed 7, 1, "", "email", "INVALID_EMAIL", "invalid email format"⟩] }
    fun _ => none

/-- Page `2^62 + 1` of four entries, over a journal of one entry: a page past the last that holds
the first entry. -/
theorem far_page_returns_first_entries :
    ∃ body, (getImportErrors (Uuid.ofSeed 7).toText (some "4611686018427387905") (some "4")
        pagedJournalWorld).1 = .ok (.page body) ∧
      body.errors ≠ [] ∧ body.pagination.totalPages < body.pagination.page :=
  ⟨_, wrapped_page_repeats_first (fun _ => rfl) ⟨pagedJob, List.mem_singleton_self _, rfl⟩
    (by decide) (by decide) (by decide), by decide, by decide⟩

end BulkImport
