import BulkImport.Import.Dedup

/-!
# Two users imports side by side

The pool's workers run jobs concurrently, so the statements of two imports interleave. Each
run here has two parts, cut where a second import's statements can fall in between and change
what it reads: after phase 2 (`stageAndMarkUsers`), before the promotion
(`promoteAndFinishUsers`). A schedule says which import runs its next part. Running the
parts of the first import and then those of the second is running the two pipelines one after
the other (`runSchedule_sequential`).

`MarkDuplicateUsersAgainstExisting` reads the users table when it runs, and `CreateBatch` upserts
on the id only, so an email that both jobs staged before either promoted it meets
`users_email_key` in the second promotion (`insertUsers_email_taken`,
`interleaved_users_imports_collide`).
-/

namespace BulkImport

/-- Where a users import stands in a schedule: not started, past phase 2 with its phase-1
result, or ended with its outcome. -/
inductive UsersRun where
  /-- not started -/
  | pending
  /-- past phase 2, with its phase-1 result -/
  | staged (s : Phase1 UserFields)
  /-- ended, with its outcome -/
  | ended (r : Except String Unit)

/-- The outcome of an import that ended. -/
def UsersRun.outcome : UsersRun → Option (Except String Unit)
  | .ended r => some r
  | _ => none

/-- The next part of a users import: phases 1 and 2, then phases 3 and 4; after an error, or at
its end, nothing. -/
def UsersRun.advance (cfg : ImportConfig) (job : Job) (file : ImportFile) : UsersRun → Op UsersRun
  | .pending => do
    match ← Op.attempt (stageAndMarkUsers cfg job file) with
    | .ok s => pure (.staged s)
    | .error e => pure (.ended (.error e))
  | .staged s => do pure (.ended (← Op.attempt (promoteAndFinishUsers cfg job s)))
  | .ended r => pure (.ended r)

/-- Two users imports, of `a` from `fa` and of `b` from `fb`, run by a schedule. -/
def runSchedule (cfg : ImportConfig) (a : Job) (fa : ImportFile) (b : Job) (fb : ImportFile) :
    List Turn → UsersRun × UsersRun → Op (UsersRun × UsersRun)
  | [], st => pure st
  | .first :: ts, (ra, rb) => do runSchedule cfg a fa b fb ts (← ra.advance cfg a fa, rb)
  | .second :: ts, (ra, rb) => do runSchedule cfg a fa b fb ts (ra, ← rb.advance cfg b fb)

/-- `attempt` of a sequence: the first run attempted, and the rest only after a success. -/
theorem Op.attempt_bind {α β : Type} (x : Op α) (f : α → Op β) :
    Op.attempt (x >>= f) = Op.attempt x >>= fun r => match r with
      | .ok a => Op.attempt (f a)
      | .error e => pure (.error e) := by
  funext w
  simp only [Op.attempt_apply, Op.bind_apply]
  rcases x w with ⟨_ | a, w'⟩ <;> rfl

/-- The two parts of an import, run one after the other: the pipeline, its outcome read as the
worker reads it. -/
theorem UsersRun.advance_pending_advance {β : Type} (cfg : ImportConfig) (job : Job)
    (file : ImportFile) (k : UsersRun → Op β) :
    (UsersRun.pending.advance cfg job file >>= fun r => r.advance cfg job file >>= k) =
      Op.attempt (processUsersImport cfg job file) >>= fun r => k (.ended r) := by
  rw [processUsersImport_eq, Op.attempt_bind]
  simp only [UsersRun.advance, Op.bind_assoc]
  congr 1
  funext r
  cases r <;> rfl

/-- The schedule that runs the first import to its end before the second starts is the two
pipelines one after the other. -/
theorem runSchedule_sequential (cfg : ImportConfig) (a : Job) (fa : ImportFile) (b : Job)
    (fb : ImportFile) :
    runSchedule cfg a fa b fb [.first, .first, .second, .second] (.pending, .pending) = (do
      let ra ← Op.attempt (processUsersImport cfg a fa)
      let rb ← Op.attempt (processUsersImport cfg b fb)
      pure (.ended ra, .ended rb)) := by
  simp only [runSchedule, UsersRun.advance_pending_advance]

/-! ## The unique email -/

/-- An upsert keeps every row of another id. -/
theorem mem_upsertRow {E : Type} {id : E → Uuid} {row o : E} {tbl : List E} (ho : o ∈ tbl)
    (hne : id o ≠ id row) : o ∈ upsertRow id row tbl := by
  unfold upsertRow
  split_ifs
  · exact List.mem_map.mpr ⟨o, ho, by simp [hne]⟩
  · exact List.mem_append_left _ ho

/-- A statement fails when one of its rows has the key of a row of the table that no row of the
statement writes: that row stays in the table, and the check against the other rows refuses the
row that meets it, unless an earlier row fails first. -/
theorem upsertAll_key_taken {E K : Type} {id : E → Uuid} {merge : E → E → E}
    {check : List E → E → Option String} (key : E → K)
    (hcheck : ∀ others e o, o ∈ others → key o = key e → check others e ≠ none)
    (hmerge : ∀ old e, id (merge old e) = id old ∧ key (merge old e) = key e) {o : E} :
    ∀ (touched : List Uuid) (es tbl : List E), o ∈ tbl → (∀ e ∈ es, id e ≠ id o) →
      (∃ e ∈ es, key e = key o) → ∃ err, upsertAll id merge check touched es tbl = .error err
  | _, [], _, _, _, ⟨_, he, _⟩ => absurd he (List.not_mem_nil _)
  | touched, e :: es, tbl, ho, hid, ⟨b, hb, hkey⟩ => by
    have step : ∀ row, id row = id e → key row = key e →
        ∃ err, (match check (tbl.filter (id · != id e)) row with
          | some err => .error err
          | none => upsertAll id merge check (id e :: touched) es (upsertRow id row tbl)) =
          Except.error err := by
      intro row hrid hrkey
      have hoe : id o ≠ id e := (hid e (List.mem_cons_self _ _)).symm
      cases hc : check (tbl.filter (id · != id e)) row with
      | some err => exact ⟨err, rfl⟩
      | none =>
        rcases List.mem_cons.mp hb with rfl | hb
        · exact absurd hc (hcheck _ _ o (List.mem_filter.mpr ⟨ho, bne_iff_ne.mpr hoe⟩)
            (hrkey.trans hkey).symm)
        · exact upsertAll_key_taken key hcheck hmerge _ es _ (mem_upsertRow ho (hrid ▸ hoe))
            (fun e he => hid e (List.mem_cons_of_mem _ he)) ⟨b, hb, hkey⟩
    unfold upsertAll
    split_ifs
    · exact ⟨_, rfl⟩
    cases hf : tbl.find? (id · == id e) with
    | none => exact step e rfl rfl
    | some old =>
      have hold := List.find?_some hf
      rw [beq_iff_eq] at hold
      exact step (merge old e) ((hmerge old e).1.trans hold) (hmerge old e).2

/-- A user whose email another row holds breaks `users_email_key`. -/
theorem userRowError_email {others : List User} {o u : User} (ho : o ∈ others)
    (h : o.email = u.email) : userRowError others u ≠ none :=
  firstError_ne_none (x := errUnique "users_email_key") (by simp; exact .inr (.inr ⟨o, ho, h⟩))

/-- A users `CreateBatch` fails when it carries a user whose email a row of the table holds that
the batch does not write. -/
theorem insertUsers_email_taken (now : Time) {users tbl : List User} {u o : User} (hu : u ∈ users)
    (ho : o ∈ tbl) (hemail : u.email = o.email) (hid : ∀ v ∈ users, v.id ≠ o.id) :
    ∃ err, insertUsers now users tbl = .error err := by
  refine upsertAll_key_taken (fun u : User => u.email) ?_ ?_ [] users tbl ho hid ⟨u, hu, hemail⟩
  · exact fun _ _ _ => userRowError_email
  · exact fun _ _ => ⟨rfl, rfl⟩

/-! ## One email, two jobs -/

/-- A users CSV upload of one valid row with the email `dup@x.co` and no id. -/
def sharedEmailUpload (path name : String) : ImportFile :=
  ⟨path, ⟨.ok ["email", "name", "role"], [some ["dup@x.co", name, "reader"]]⟩, ⟨[], none⟩⟩

/-- The two jobs, each of its own upload. -/
def firstEmailJob : Job := importJobOf (Uuid.ofSeed 100) .users "uploads/a.csv" ""

/-- The second job. -/
def secondEmailJob : Job := importJobOf (Uuid.ofSeed 101) .users "uploads/b.csv" ""

/-- Both jobs pending, no user yet, no fault. -/
def sharedEmailWorld : World :=
  World.start { Db.empty with jobs := [firstEmailJob, secondEmailJob] } fun _ => none

/-- The two imports under a schedule, with the default settings. -/
def sharedEmailRun (ts : List Turn) : Op (UsersRun × UsersRun) :=
  runSchedule ImportConfig.default firstEmailJob (sharedEmailUpload "uploads/a.csv" "Ann")
    secondEmailJob (sharedEmailUpload "uploads/b.csv" "Bea") ts (.pending, .pending)

/-- Both jobs stage and mark the email while no user holds it; the first then promotes it, and
the second's `CreateBatch` breaks `users_email_key`, so the second import fails and the email is
held by the first job's row. Run one after the other, both imports succeed: the second job's row
is marked a duplicate against the first's. -/
theorem interleaved_users_imports_collide :
    ((sharedEmailRun [.first, .second, .first, .second] sharedEmailWorld).1.map fun st =>
        (st.1.outcome, st.2.outcome)) =
      .ok (some (.ok ()), some (.error ("failed to insert users batch: " ++
        errUnique "users_email_key"))) ∧
    ((sharedEmailRun [.first, .second, .first, .second] sharedEmailWorld).2.db.users.map fun u =>
        (u.email, u.name)) = [("dup@x.co", "Ann")] ∧
    ((sharedEmailRun [.first, .first, .second, .second] sharedEmailWorld).1.map fun st =>
        (st.1.outcome, st.2.outcome)) = .ok (some (.ok ()), some (.ok ())) :=
  ⟨by decide, by decide, by decide⟩

end BulkImport
