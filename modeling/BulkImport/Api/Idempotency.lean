import BulkImport.Control.Worker
import BulkImport.Store.Triple

/-!
# Idempotent submission

`POST /v1/imports` runs behind the `Idempotency` middleware (`internal/api/router.go`,
`middleware/metrics.go`): a `POST` whose `Idempotency-Key` header parses as a UUID is looked up
with `IdempotencyRepository.GetByKey`, answered 500 when the lookup fails and with the stored job
when the key is known; only then does `CreateImport` (`part_004`) run, which looks the key up
once more, creates the job and stores the key.

`GetByKey` and `Create` (`part_000`) name the column `key`, but the column of `idempotency_keys`
is `idempotency_key` (`001_initial_schema.sql`), so PostgreSQL refuses both statements while it
plans them. Every lookup fails, and a request with a valid key is answered 500 by its first step,
before any write: under every schedule of two such requests, both are refused and the database is
as it was (`keyed_imports_refused`). Whatever the key, no run writes `idempotency_keys` either:
`Create` fails on the same column (`runPosts_idempotencyKeys`).
-/

namespace BulkImport

/-- The columns of `idempotency_keys`. -/
def idempotencyKeysColumns : List String :=
  ["id", "idempotency_key", "job_id", "status_code", "response_body", "created_at", "expires_at"]

/-- PostgreSQL's error for a column that a statement names and its table lacks. -/
def errUndefinedColumn (col : String) : String := "pq: column \"" ++ col ++ "\" does not exist"

/-- PostgreSQL's error for a `NULL` in a `NOT NULL` column. -/
def errNotNull (table col : String) : String :=
  "pq: null value in column \"" ++ col ++ "\" of relation \"" ++ table ++
    "\" violates not-null constraint"

/-- The error planning a statement over `idempotency_keys` raises: the first column it names that
the table lacks. -/
def undefinedColumn (cols : List String) : Option String :=
  (cols.find? fun c => !idempotencyKeysColumns.contains c).map errUndefinedColumn

/-- The record `GetByKey` returns beside an error: Go's zero `models.IdempotencyKey`. -/
def IdempotencyKey.zero : IdempotencyKey := ⟨"", Uuid.nil, 0, Time.zero, Time.zero⟩

/-- `config.IdempotencyTTL()` with `IDEMPOTENCY_TTL_HOURS` unset: 24 hours, in nanoseconds. -/
def idempotencyTTL : Int := 24 * 3600 * 1000000000

namespace IdempotencyRepository

/-- The columns of `SELECT * FROM idempotency_keys WHERE key = $1 AND expires_at > NOW()`. -/
def getByKeyColumns : List String := ["key", "expires_at"]

/-- The columns of `INSERT INTO idempotency_keys (key, job_id, created_at, expires_at)`. -/
def createColumns : List String := ["key", "job_id", "created_at", "expires_at"]

/-- `GetByKey`: the record of the key that has not expired, nothing for `sql.ErrNoRows`, or the
zero record together with any other error. -/
def getByKey (key : String) : Op (Option IdempotencyKey × Option String) := do
  let t ← now
  match ← Op.attempt (call .getIdempotencyKey [] fun db =>
      match undefinedColumn getByKeyColumns with
      | some e => .error e
      | none => .ok (db.idempotencyKeys.find? fun k =>
          k.key == key && decide (t.unixNanos < k.expiresAt.unixNanos), db)) with
  | .ok k => pure (k, none)
  | .error e => pure (some IdempotencyKey.zero, some e)

/-- `Create`: a zero `created_at` set to `time.Now()`, then the `INSERT`, which leaves
`status_code`, `NOT NULL` without a default, `NULL`, and meets the unique key and the job's
foreign key. -/
def create (k : IdempotencyKey) : Op Unit := do
  let t ← now
  let k := if k.createdAt = Time.zero then { k with createdAt := t } else k
  call .createIdempotencyKey [] fun db =>
    match firstError
        [undefinedColumn createColumns,
         if createColumns.contains "status_code" then none
         else some (errNotNull "idempotency_keys" "status_code"),
         if db.idempotencyKeys.any (·.key == k.key) then
           some (errUnique "idempotency_keys_idempotency_key_key") else none,
         if db.jobs.any (·.id == k.jobId) then none
         else some (errForeignKey "idempotency_keys" "idempotency_keys_job_id_fkey")] with
    | some e => .error e
    | none => .ok ((), { db with idempotencyKeys := db.idempotencyKeys ++ [k] })

end IdempotencyRepository

/-! ## The middleware and the handler -/

/-- An answer of the import routes: a `gin.H{"error": ...}`, the middleware's stored answer
(`job_id`, `already_processed`, `original_timestamp`), or a `CreateImportResponse` of a job. -/
inductive Answer where
  /-- an error status and its `error` text -/
  | error (status : Int) (msg : String)
  /-- the stored answer of an earlier request with the key -/
  | stored (status : Int) (jobId : Uuid) (originalTimestamp : Time)
  /-- a status and the job created -/
  | job (status : Int) (job : Job)
  deriving DecidableEq

/-- The answer to a keyed request whose lookup failed. -/
def lookupFailed : Answer := .error 500 "failed to check idempotency key"

/-- `middleware.Idempotency` up to `c.Next()`: an answer that aborts the request, or `none` to
let the handler run. -/
def idempotencyCheck (method key : String) : Op (Option Answer) :=
  if method ≠ "POST" ∨ key = "" then pure none
  else if (Uuid.parse key).isNone then pure (some (.error 400 "invalid idempotency key format"))
  else do
    match ← IdempotencyRepository.getByKey key with
    | (_, some _) => pure (some lookupFailed)
    | (some k, none) => pure (some (.stored k.statusCode k.jobId k.createdAt))
    | (none, none) => pure none

/-- `middleware.Idempotency` in front of `next`. -/
def idempotency (method key : String) (next : Op Answer) : Op Answer := do
  match ← idempotencyCheck method key with
  | some a => pure a
  | none => next

/-- `CreateImport`'s own lookup of the key: with a record, also the zero record `GetByKey`
returns beside an error, the record's job is read, and a job found is answered 200. -/
def createImportCheck (key : String) : Op (Option Answer) :=
  if key = "" then pure none
  else do
    match ← IdempotencyRepository.getByKey key with
    | (some k, _) => do
      match ← JobRepository.getByID k.jobId with
      | (some job, none) => pure (some (.job 200 job))
      | _ => pure none
    | (none, _) => pure none

/-- The key stored after the job is created, to expire a TTL after the job's creation; the error
is only logged. -/
def storeIdempotencyKey (job : Job) (key : String) : Op Unit :=
  if key = "" then pure ()
  else do
    let t ← now
    let _ ← Op.attempt (IdempotencyRepository.create
      ⟨key, job.id, 0, Time.zero, ⟨t.unixNanos + idempotencyTTL⟩⟩)

/-- `CreateImport` with the key of the request's header, from the saved upload on; the submission
to the pool is the system's (`System.Step.createImport`). -/
def createImportHandler (resource : ResourceType) (path key : String) : Op Answer := do
  match ← createImportCheck key with
  | some a => pure a
  | none =>
    match ← createImport resource path key with
    | none => pure (.error 500 "failed to create job")
    | some job => do
      storeIdempotencyKey job key
      pure (.job 202 job)

/-- `POST /v1/imports`: the middleware, then the handler. -/
def postImports (resource : ResourceType) (path key : String) : Op Answer :=
  idempotency "POST" key (createImportHandler resource path key)

/-! ## A request step by step -/

/-- Where a `POST /v1/imports` stands: received, past the middleware, past the handler's lookup,
with its job created, with its key stored, or answered. -/
inductive PostRun where
  /-- before the middleware -/
  | received
  /-- past the middleware -/
  | admitted
  /-- past the handler's own check of the key -/
  | checked
  /-- with its job created -/
  | created (job : Job)
  /-- with its key stored -/
  | stored (job : Job)
  /-- answered -/
  | answered (a : Answer)
  deriving DecidableEq

/-- The next step of a request. -/
def PostRun.advance (resource : ResourceType) (path key : String) : PostRun → Op PostRun
  | .received => do
    match ← idempotencyCheck "POST" key with
    | some a => pure (.answered a)
    | none => pure .admitted
  | .admitted => do
    match ← createImportCheck key with
    | some a => pure (.answered a)
    | none => pure .checked
  | .checked => do
    match ← createImport resource path key with
    | none => pure (.answered (.error 500 "failed to create job"))
    | some job => pure (.created job)
  | .created job => do
    storeIdempotencyKey job key
    pure (.stored job)
  | .stored job => pure (.answered (.job 202 job))
  | .answered a => pure (.answered a)

/-- Two requests with one key, of `a` and of `b` (each a resource and a saved path), under a
schedule. -/
def runPosts (a b : ResourceType × String) (key : String) :
    List Turn → PostRun × PostRun → Op (PostRun × PostRun)
  | [], st => pure st
  | .first :: ts, (ra, rb) => do runPosts a b key ts (← ra.advance a.1 a.2 key, rb)
  | .second :: ts, (ra, rb) => do runPosts a b key ts (ra, ← rb.advance b.1 b.2 key)

/-- Run alone, a request's five steps are the route: the steps cut `postImports` where another
request's statements can fall in, and add nothing. -/
theorem PostRun.advance_five (resource : ResourceType) (path key : String) :
    (do
      let r ← PostRun.received.advance resource path key
      let r ← r.advance resource path key
      let r ← r.advance resource path key
      let r ← r.advance resource path key
      r.advance resource path key) =
      (do let a ← postImports resource path key; pure (PostRun.answered a)) := by
  simp only [postImports, idempotency, createImportHandler, PostRun.advance, Op.bind_assoc]
  congr 1
  funext o
  cases o with
  | some a => rfl
  | none =>
    simp only [Op.pure_bind, PostRun.advance, Op.bind_assoc]
    congr 1
    funext o
    cases o with
    | some a => rfl
    | none =>
      simp only [Op.pure_bind, PostRun.advance, Op.bind_assoc]
      congr 1
      funext o
      cases o with
      | none => rfl
      | some job => simp only [Op.pure_bind, PostRun.advance, Op.bind_assoc]

/-! ## Every lookup fails -/

/-- A call whose statement refuses the tables fails and leaves them as they were, whether or not
a fault is injected. -/
theorem call_refused {α : Type} (stmt : Stmt) (rows : List Nat)
    {f : Db → Except String (α × Db)} {w : World} {e : String} (hf : f w.db = .error e) :
    (∃ e', (call stmt rows f w).1 = .error e') ∧ (call stmt rows f w).2.db = w.db := by
  cases h : w.fault w.calls <;> simp [call, h, hf]

/-- `GetByKey` fails on every world, without a write: the statement names the column `key`. -/
theorem getByKey_fails (key : String) (w : World) :
    ∃ e, (IdempotencyRepository.getByKey key w).1 = .ok (some IdempotencyKey.zero, some e) ∧
      (IdempotencyRepository.getByKey key w).2.db = w.db := by
  obtain ⟨⟨e, he⟩, hdb⟩ := call_refused .getIdempotencyKey []
    (f := fun db => match undefinedColumn IdempotencyRepository.getByKeyColumns with
      | some e => .error e
      | none => .ok (db.idempotencyKeys.find? fun k =>
          k.key == key && decide (w.clock.unixNanos < k.expiresAt.unixNanos), db)) (w := w) rfl
  simp only [IdempotencyRepository.getByKey, Op.bind_apply, now, Op.attempt_apply]
  rw [he]
  exact ⟨e, rfl, hdb⟩

/-- The middleware answers every `POST` with a valid key 500, without a write. -/
theorem idempotencyCheck_refused {key : String} (hkey : (Uuid.parse key).isSome) (w : World) :
    (idempotencyCheck "POST" key w).1 = .ok (some lookupFailed) ∧
      (idempotencyCheck "POST" key w).2.db = w.db := by
  have hne : key ≠ "" := by rintro rfl; exact absurd hkey (by decide)
  have hnone : (Uuid.parse key).isNone = false := by cases h : Uuid.parse key <;> simp_all
  obtain ⟨e, he, hdb⟩ := getByKey_fails key w
  simp only [idempotencyCheck, ne_eq, not_true_eq_false, hne, or_self, if_false, hnone,
    Bool.false_eq_true, Op.bind_apply, he, Op.pure_apply, true_and]
  exact hdb

/-- Whatever the handler does, a request with a valid key never reaches it. -/
theorem idempotency_refused {key : String} (hkey : (Uuid.parse key).isSome) (next : Op Answer)
    (w : World) :
    (idempotency "POST" key next w).1 = .ok lookupFailed ∧
      (idempotency "POST" key next w).2.db = w.db := by
  obtain ⟨h₁, h₂⟩ := idempotencyCheck_refused hkey w
  simp only [idempotency, Op.bind_apply, h₁, Op.pure_apply, true_and]
  exact h₂

/-! ## The keys table is never written -/

section Keys

variable {K : List IdempotencyKey}

/-- A call whose statement, when it succeeds, leaves `idempotency_keys` as it was. -/
theorem call_keys {α : Type} {stmt : Stmt} {rows : List Nat} {f : Db → Except String (α × Db)}
    (hf : ∀ db a db', f db = .ok (a, db') → db'.idempotencyKeys = db.idempotencyKeys) :
    Keeps (·.idempotencyKeys = K) (fun _ => True) (call stmt rows f) :=
  Keeps.call_rule (fun db a db' h hok => (hf db a db' hok).trans h) fun _ _ _ => trivial

/-- `GetByKey` leaves `idempotency_keys` as it was. -/
theorem getByKey_keys (key : String) :
    Keeps (·.idempotencyKeys = K) (fun _ => True) (IdempotencyRepository.getByKey key) := by
  refine Keeps.now_rule.bind fun _ => (call_keys fun _ _ _ h => ?_).attempt.bind fun r => ?_
  · split at h <;> cases h
    rfl
  · rcases r with _ | _ <;> exact Keeps.pure_rule _

/-- `Create` leaves `idempotency_keys` as it was: planning it fails on the column `key`, so it
never inserts. -/
theorem IdempotencyRepository.create_keys (k : IdempotencyKey) :
    Keeps (·.idempotencyKeys = K) (fun _ => True) (IdempotencyRepository.create k) := by
  refine Keeps.now_rule.bind fun _ => call_keys fun _ _ _ h => ?_
  split at h
  · cases h
  · rename_i hnone
    exact absurd hnone (by simp [firstError, undefinedColumn, IdempotencyRepository.createColumns,
      idempotencyKeysColumns])

/-- `GetByID` leaves `idempotency_keys` as it was. -/
theorem getByID_keys (id : Uuid) :
    Keeps (·.idempotencyKeys = K) (fun _ => True) (JobRepository.getByID id) := by
  refine (call_keys fun _ _ _ h => ?_).attempt.bind fun r => ?_
  · cases h
    rfl
  · rcases r with _ | _ <;> exact Keeps.pure_rule _

/-- `Create` of a job leaves `idempotency_keys` as it was. -/
theorem JobRepository.create_keys (job : Job) :
    Keeps (·.idempotencyKeys = K) (fun _ => True) (JobRepository.create job) := by
  have hcall : ∀ j : Job, Keeps (·.idempotencyKeys = K) (fun _ => True)
      (call .createJob [] fun db => (insertJob j db.jobs).map fun jobs => (j, { db with jobs })) :=
    fun _ => call_keys fun _ _ _ h => by
      obtain ⟨_, -, he⟩ := except_map_eq_ok.mp h
      cases he
      rfl
  unfold JobRepository.create
  dsimp only
  split
  · exact Keeps.newUuid_rule.bind fun _ => (Keeps.pure_rule _).bind fun _ => hcall _
  · exact (Keeps.pure_rule _).bind fun _ => hcall _

/-- `CreateImport` leaves `idempotency_keys` as it was. -/
theorem createImport_keys (resource : ResourceType) (path key : String) :
    Keeps (·.idempotencyKeys = K) (fun _ => True) (createImport resource path key) :=
  Keeps.newUuid_rule.bind fun _ => (JobRepository.create_keys _).attempt.bind fun r => by
    rcases r with _ | _ <;> exact Keeps.pure_rule _

/-- `storeIdempotencyKey` leaves `idempotency_keys` as it was: its `Create` always fails. -/
theorem storeIdempotencyKey_keys (job : Job) (key : String) :
    Keeps (·.idempotencyKeys = K) (fun _ => True) (storeIdempotencyKey job key) :=
  Keeps.ite_rule (Keeps.pure_rule _) (Keeps.now_rule.bind fun _ =>
    (IdempotencyRepository.create_keys _).attempt.bind fun _ => Keeps.pure_rule _)

/-- The middleware's check leaves `idempotency_keys` as it was. -/
theorem idempotencyCheck_keys (method key : String) :
    Keeps (·.idempotencyKeys = K) (fun _ => True) (idempotencyCheck method key) := by
  refine Keeps.ite_rule (Keeps.pure_rule _) (Keeps.ite_rule (Keeps.pure_rule _)
    ((getByKey_keys key).bind fun r => ?_))
  rcases r with ⟨_ | _, _ | _⟩ <;> exact Keeps.pure_rule _

/-- `CreateImport`'s own check of the key leaves `idempotency_keys` as it was. -/
theorem createImportCheck_keys (key : String) :
    Keeps (·.idempotencyKeys = K) (fun _ => True) (createImportCheck key) := by
  refine Keeps.ite_rule (Keeps.pure_rule _) ((getByKey_keys key).bind fun r => ?_)
  rcases r with ⟨_ | k, _⟩
  · exact Keeps.pure_rule _
  · refine (getByID_keys k.jobId).bind fun r => ?_
    rcases r with ⟨_ | _, _ | _⟩ <;> exact Keeps.pure_rule _

/-- `CreateImport`'s handler leaves `idempotency_keys` as it was. -/
theorem createImportHandler_keys (resource : ResourceType) (path key : String) :
    Keeps (·.idempotencyKeys = K) (fun _ => True) (createImportHandler resource path key) := by
  refine (createImportCheck_keys key).bind fun r => ?_
  rcases r with _ | _
  · refine (createImport_keys resource path key).bind fun r => ?_
    rcases r with _ | job
    · exact Keeps.pure_rule _
    · exact (storeIdempotencyKey_keys job key).bind fun _ => Keeps.pure_rule _
  · exact Keeps.pure_rule _

/-- One step of a request leaves `idempotency_keys` as it was. -/
theorem PostRun.advance_keys (resource : ResourceType) (path key : String) (r : PostRun) :
    Keeps (·.idempotencyKeys = K) (fun _ => True) (r.advance resource path key) := by
  cases r with
  | received =>
    exact (idempotencyCheck_keys _ key).bind fun o => by
      rcases o with _ | _ <;> exact Keeps.pure_rule _
  | admitted =>
    exact (createImportCheck_keys key).bind fun o => by
      rcases o with _ | _ <;> exact Keeps.pure_rule _
  | checked =>
    exact (createImport_keys resource path key).bind fun o => by
      rcases o with _ | _ <;> exact Keeps.pure_rule _
  | created job => exact (storeIdempotencyKey_keys job key).bind fun _ => Keeps.pure_rule _
  | stored job => exact Keeps.pure_rule _
  | answered a => exact Keeps.pure_rule _

/-- Two requests under any schedule leave `idempotency_keys` as they were. -/
theorem runPosts_keys (a b : ResourceType × String) (key : String) :
    ∀ (ts : List Turn) (st : PostRun × PostRun),
      Keeps (·.idempotencyKeys = K) (fun _ => True) (runPosts a b key ts st)
  | [], _ => Keeps.pure_rule _
  | .first :: ts, (ra, _) =>
    (PostRun.advance_keys a.1 a.2 key ra).bind fun _ => runPosts_keys a b key ts _
  | .second :: ts, (_, rb) =>
    (PostRun.advance_keys b.1 b.2 key rb).bind fun _ => runPosts_keys a b key ts _

end Keys

/-- No run of the import route writes `idempotency_keys`, whatever the key, valid, malformed or
absent, and whatever the schedule of two requests: `GetByKey` only reads, and `Create` always
fails. -/
theorem runPosts_idempotencyKeys (a b : ResourceType × String) (key : String) (ts : List Turn)
    (st : PostRun × PostRun) (w : World) :
    (runPosts a b key ts st w).2.db.idempotencyKeys = w.db.idempotencyKeys :=
  ((runPosts_keys a b key ts st w.log).run_inv ⟨rfl, [], by simp, by simp⟩).1

/-! ## Two requests with one key -/

/-- A request not yet received by the middleware, or refused by it. -/
def PostRun.Refused (r : PostRun) : Prop := r = .received ∨ r = .answered lookupFailed

section Keyed

variable {key : String} (hkey : (Uuid.parse key).isSome)

include hkey

/-- The step of a request with a valid key, from a refused state, is the refusal, without a
write. -/
theorem PostRun.advance_refused (resource : ResourceType) (path : String) {r : PostRun}
    (hr : r.Refused) (w : World) :
    (r.advance resource path key w).1 = .ok (.answered lookupFailed) ∧
      (r.advance resource path key w).2.db = w.db := by
  rcases hr with rfl | rfl
  · obtain ⟨h₁, h₂⟩ := idempotencyCheck_refused hkey w
    simp only [PostRun.advance, Op.bind_apply, h₁, Op.pure_apply, true_and]
    exact h₂
  · exact ⟨rfl, rfl⟩

/-- Under any schedule, each request that takes a step is refused, the other stays where it was,
and the database is unchanged. -/
theorem runPosts_refused (a b : ResourceType × String) :
    ∀ (ts : List Turn) (ra rb : PostRun) (w : World), ra.Refused → rb.Refused →
      (runPosts a b key ts (ra, rb) w).1 =
        .ok (if .first ∈ ts then .answered lookupFailed else ra,
          if .second ∈ ts then .answered lookupFailed else rb) ∧
        (runPosts a b key ts (ra, rb) w).2.db = w.db
  | [], ra, rb, w, _, _ => by simp [runPosts]
  | .first :: ts, ra, rb, w, hra, hrb => by
    obtain ⟨h₁, h₂⟩ := PostRun.advance_refused hkey a.1 a.2 hra w
    obtain ⟨ih₁, ih₂⟩ := runPosts_refused a b ts _ rb (ra.advance a.1 a.2 key w).2 (.inr rfl) hrb
    simp only [runPosts, Op.bind_apply, h₁] at ih₁ ih₂ ⊢
    rw [ih₁, ih₂, h₂]
    simp
  | .second :: ts, ra, rb, w, hra, hrb => by
    obtain ⟨h₁, h₂⟩ := PostRun.advance_refused hkey b.1 b.2 hrb w
    obtain ⟨ih₁, ih₂⟩ := runPosts_refused a b ts ra _ (rb.advance b.1 b.2 key w).2 hra (.inr rfl)
    simp only [runPosts, Op.bind_apply, h₁] at ih₁ ih₂ ⊢
    rw [ih₁, ih₂, h₂]
    simp

end Keyed

/-- Two `POST /v1/imports` with one valid `Idempotency-Key`, under any schedule in which both
take a step: both are answered 500 by the middleware, neither gets a job, and no table changes,
so no row of `jobs` or `idempotency_keys` comes to refer to the key. -/
theorem keyed_imports_refused (a b : ResourceType × String) {key : String}
    (hkey : (Uuid.parse key).isSome) {ts : List Turn} (h₁ : .first ∈ ts) (h₂ : .second ∈ ts)
    (w : World) :
    (runPosts a b key ts (.received, .received) w).1 =
        .ok (.answered lookupFailed, .answered lookupFailed) ∧
      (runPosts a b key ts (.received, .received) w).2.db = w.db := by
  obtain ⟨hr, hdb⟩ := runPosts_refused hkey a b ts .received .received w (.inl rfl) (.inl rfl)
  rw [if_pos h₁, if_pos h₂] at hr
  exact ⟨hr, hdb⟩

/-- The five steps of each of two users uploads, alternating. -/
def alternating : List Turn :=
  [.first, .second, .first, .second, .first, .second, .first, .second, .first, .second]

/-- Two users uploads with one key, their steps alternating, from an empty database: both refused,
nothing written. -/
theorem alternating_keyed_uploads_refused :
    (Uuid.parse (Uuid.ofSeed 7).toText).isSome ∧ Turn.first ∈ alternating ∧
      Turn.second ∈ alternating ∧
      ((runPosts (.users, "uploads/a.csv") (.users, "uploads/b.csv") (Uuid.ofSeed 7).toText
          alternating (.received, .received) (World.start Db.empty fun _ => none)).1 =
          .ok (.answered lookupFailed, .answered lookupFailed) ∧
        (runPosts (.users, "uploads/a.csv") (.users, "uploads/b.csv") (Uuid.ofSeed 7).toText
          alternating (.received, .received) (World.start Db.empty fun _ => none)).2.db =
          (World.start Db.empty fun _ => none).db) :=
  ⟨by rw [Uuid.parse_toText]; rfl, by decide, by decide,
    keyed_imports_refused _ _ (by rw [Uuid.parse_toText]; rfl) (by decide) (by decide) _⟩

end BulkImport
