import BulkImport.Control.JobWrites

/-!
# The lifecycle of a job row

What every reachable state of the system says about the job rows: their timestamps match their
status. A job's row is written only by the run that processes it; that run starts it on a row
that has not finished, and after that sends only `SET`s that keep the timestamps in line.
-/

namespace BulkImport

/-- Every row of a jobs table has timestamps that match its status. -/
def AllStamped (js : List Job) : Prop := ∀ j ∈ js, j.Stamped

/-- No row of job `k` has a completion time. -/
def Unfinished (k : Uuid) (js : List Job) : Prop := ∀ j ∈ js, j.id = k → j.completedAt = none

/-- The tables' part of the invariant: the jobs table is stamped. -/
def StampedDb (db : Db) : Prop := AllStamped db.jobs

/-- The log's part of the invariant: the snapshot of an event is stamped. -/
def StampedEvent (ev : Event) : Prop := AllStamped ev.jobs

/-- An update by stamp-safe `SET`s keeps every row of the table stamped. -/
theorem allStamped_rowEdit {k : Uuid} {js js' : List Job} (h : RowEdit k StampSafe js js')
    (hs : AllStamped js) : AllStamped js' :=
  h.forall (fun _ hg j _ _ hj => hg.stamped j hj) hs

/-- `SetStarted` on an unfinished job keeps the table stamped and the job unfinished. -/
theorem start_rowEdit {k : Uuid} {js js' : List Job} (h : RowEdit k StartSet js js')
    (hs : AllStamped js ∧ Unfinished k js) : AllStamped js' ∧ Unfinished k js' := by
  refine ⟨h.forall ?_ hs.1, h.forall ?_ hs.2⟩
  · rintro _ ⟨t, rfl⟩ j hj hk -
    exact setStarted_stamped (hs.2 j hj hk) t
  · rintro _ ⟨t, rfl⟩ j - - hu
    exact hu

/-- A run that starts an unfinished job and then sends only stamp-safe `SET`s to its row keeps
every job row, and every snapshot it logs, stamped. -/
theorem stamped_of_start {α : Type} {x : Op α} {k : Uuid} {msg : String}
    (hx : ∃ rest, x = Op.wrap msg (JobRepository.setStarted k) >>= rest ∧
      ∀ u, JobsBy (RowEdit k StampSafe) (rest u)) (base : List Event) :
    Triple (Holds (fun db => AllStamped db.jobs ∧ Unfinished k db.jobs) StampedEvent base) x
      (fun _ => Holds StampedDb StampedEvent base) (fun _ => Holds StampedDb StampedEvent base) := by
  obtain ⟨rest, rfl, hrest⟩ := hx
  refine Triple.bind ?_ fun u => (hrest u).holds AllStamped AllStamped
    (fun _ _ h e => allStamped_rowEdit e h) (fun _ h => h) base
  exact ((((JobRepository.setStarted_jobsBy k).wrap msg).holds
    (fun js => AllStamped js ∧ Unfinished k js) AllStamped (fun _ _ h e => start_rowEdit e h)
    (fun _ h => h.1) base).conseq (fun _ h => h) (fun _ _ h => ⟨h.1.1, h.2⟩)
    (fun _ _ h => ⟨h.1.1, h.2⟩))

section Worker

variable (base : List Event)

/-- The precondition of a worker's run on job `k`: the table stamped and the job unfinished. -/
def Ready (k : Uuid) : World → Prop :=
  Holds (fun db => AllStamped db.jobs ∧ Unfinished k db.jobs) StampedEvent base

/-- A run that writes no job row keeps a job ready. -/
theorem ready_of_jobsBy {α : Type} {x : Op α} {k : Uuid} (h : JobsBy (fun _ _ => False) x) :
    Triple (Ready base k) x (fun _ => Ready base k) (fun _ => Ready base k) := by
  exact h.holds (fun js => AllStamped js ∧ Unfinished k js) AllStamped (fun _ _ _ h => h.elim)
    (fun _ h => h.1) base

/-- A run that writes its job's row only by stamp-safe `SET`s keeps the table and the log
stamped. -/
theorem stampedDb_of_jobsBy {α : Type} {x : Op α} {k : Uuid} (h : JobsBy (RowEdit k StampSafe) x) :
    Triple (Holds StampedDb StampedEvent base) x (fun _ => Holds StampedDb StampedEvent base)
      (fun _ => Holds StampedDb StampedEvent base) :=
  h.holds AllStamped AllStamped (fun _ _ h e => allStamped_rowEdit e h) (fun _ h => h) base

/-- A ready job's table and log are stamped. -/
theorem ready_stampedDb {k : Uuid} {w : World} (h : Ready base k w) :
    Holds StampedDb StampedEvent base w :=
  ⟨h.1.1, h.2⟩

/-- The worker's import run keeps the job rows stamped, from a state where its job is ready. -/
theorem processImportJob_stamped (ci : ImportConfig) (job : Job) (src : JobSource) :
    Triple (Ready base job.id) (processImportJob ci job src)
      (fun _ => Holds StampedDb StampedEvent base) (fun _ => Holds StampedDb StampedEvent base) := by
  have hfail : ∀ m, Triple (Ready base job.id) (failJob job m)
      (fun _ => Holds StampedDb StampedEvent base) (fun _ => Holds StampedDb StampedEvent base) :=
    fun m => (stampedDb_of_jobsBy base (failJob_jobsBy job m)).conseq
      (fun _ => ready_stampedDb base) (fun _ _ h => h) (fun _ _ h => h)
  have himport : ∀ file, Triple (Ready base job.id) (Op.attempt (processImport ci file job))
      (fun _ => Holds StampedDb StampedEvent base) (fun _ => Holds StampedDb StampedEvent base) :=
    fun file => Triple.attempt_inv (stamped_of_start (processImport_start ci file job) base)
  have htail : ∀ y : PUnit, Triple (Holds StampedDb StampedEvent base)
      (pure y >>= fun y => removeUpload src.filePath)
      (fun _ => Holds StampedDb StampedEvent base) (fun _ => Holds StampedDb StampedEvent base) :=
    fun _ => (Triple.pure_rule _).bind fun _ =>
      stampedDb_of_jobsBy base (k := job.id) (removeUpload_jobsBy _)
  unfold processImportJob
  dsimp only
  refine Triple.ite_rule (fun _ => ?_) fun _ => Triple.ite_rule (fun _ => ?_) fun _ => ?_
  · refine (Triple.attempt_inv (ready_of_jobsBy base (openFile_jobsBy _))).bind fun r => ?_
    rcases r with e | file
    · exact (hfail _).bind fun _ => htail ()
    · exact (himport file).bind fun _ => htail ()
  · exact (hfail _).bind fun _ => htail ()
  · exact (himport _).bind fun _ => htail ()

/-- The worker's export run keeps the job rows stamped, from a state where its job is ready,
when the in-memory job it writes back is stamped. -/
theorem processExportJob_stamped (ce : ExportConfig) (job : Job) (filters : ExportFilters)
    (hj : job.Stamped) :
    Triple (Ready base job.id) (processExportJob ce job filters)
      (fun _ => Holds StampedDb StampedEvent base) (fun _ => Holds StampedDb StampedEvent base) := by
  unfold processExportJob
  exact (Triple.attempt_inv (stamped_of_start (processAsyncExport_start ce job filters hj) base)).bind
    fun _ _ h => h

end Worker

/-- A job with the status and timestamps of a stamped one is stamped. -/
theorem Job.Stamped.of_eq {j j' : Job} (h : j.Stamped) (hs : j'.status = j.status)
    (ha : j'.startedAt = j.startedAt) (hc : j'.completedAt = j.completedAt) : j'.Stamped :=
  ⟨by rw [hs, hc]; exact h.1, by rw [hs, ha]; exact h.2, by rw [hs, ha]; exact h.3⟩

/-- Appending a stamped row to a stamped table. -/
theorem allStamped_append {js : List Job} {j : Job} (hs : AllStamped js) (hj : j.Stamped) :
    AllStamped (js ++ [j]) := by
  intro r hr
  rcases List.mem_append.mp hr with hr | hr
  · exact hs r hr
  · rwa [List.mem_singleton.mp hr]

section Create

variable (base : List Event) (js : List Job)

/-- The table and the log around a handler's `Create`. -/
def Before (w : World) : Prop := w.db.jobs = js ∧ Logged StampedEvent base w.log

/-- `Create` of a stamped job on a stamped table: a success appends the job, under an id no row
had and with its status and timestamps; a failure leaves the table; either way the event it logs
is stamped. -/
theorem create_spec (job : Job) (hjob : job.Stamped) (hjs : AllStamped js) :
    Triple (Before base js) (JobRepository.create job)
      (fun j w => Logged StampedEvent base w.log ∧ w.db.jobs = js ++ [j] ∧
        (∀ r ∈ js, r.id ≠ j.id) ∧ j.status = job.status ∧ j.Stamped)
      (fun _ => Before base js) := by
  have hcall : ∀ j : Job, j.status = job.status → j.startedAt = job.startedAt →
      j.completedAt = job.completedAt →
      Triple (Before base js) (call .createJob [] fun db =>
        (insertJob j db.jobs).map fun jobs => (j, { db with jobs := jobs }))
      (fun j' w => Logged StampedEvent base w.log ∧ w.db.jobs = js ++ [j'] ∧
        (∀ r ∈ js, r.id ≠ j'.id) ∧ j'.status = job.status ∧ j'.Stamped)
      (fun _ => Before base js) := by
    intro j h1 h2 h3
    have hj : j.Stamped := hjob.of_eq h1 h2 h3
    refine Triple.call_rule (fun w a db hw _ h => ?_) fun w _ hw _ =>
      ⟨hw.1, hw.2.snoc (hw.1 ▸ hjs)⟩
    obtain ⟨jobs, hi, he⟩ := except_map_eq_ok.mp h
    cases he
    obtain ⟨rfl, hfresh⟩ := insertJob_ok hi
    rw [hw.1] at hfresh ⊢
    exact ⟨hw.2.snoc (allStamped_append hjs hj), rfl, hfresh, h1, hj⟩
  unfold JobRepository.create
  split
  · intro w hw
    simp only [Op.bind_apply, newUuid, Op.pure_apply]
    exact hcall { job with id := w.fresh w.minted } rfl rfl rfl _ hw
  · exact hcall _ rfl rfl rfl

/-- After a handler's `Create` of a new pending job: the log stamped, and either no job and the
table as it was, or the job the handler answers with appended, pending and stamped, under an id
no row had. -/
def Created (r : Option Job) (w : World) : Prop :=
  Logged StampedEvent base w.log ∧ match r with
    | none => w.db.jobs = js
    | some j => w.db.jobs = js ++ [j] ∧ (∀ r ∈ js, r.id ≠ j.id) ∧ j.status = .pending ∧ j.Stamped

/-- `CreateImport`'s handler, from a stamped table: no job, or a new pending job appended; it never
fails. -/
theorem createImport_spec (res : ResourceType) (path key : String) (hjs : AllStamped js) :
    Triple (Before base js) (createImport res path key) (Created base js) (fun _ _ => False) := by
  intro w hw
  simp only [createImport, Op.bind_apply, newUuid, Op.attempt_apply]
  have h := create_spec base js (importJobOf (w.fresh w.minted) res path key)
    ⟨rfl, nofun, nofun⟩ hjs { w with minted := w.minted + 1 } hw
  generalize JobRepository.create (importJobOf (w.fresh w.minted) res path key)
    { w with minted := w.minted + 1 } = r at h ⊢
  rcases r with ⟨e | j, w'⟩
  · exact ⟨h.2, h.1⟩
  · exact ⟨h.1, h.2.1, h.2.2.1, h.2.2.2.1, h.2.2.2.2⟩

/-- `CreateAsyncExport`'s handler, from a stamped table: no job, or a new pending job appended; it
never fails. -/
theorem createAsyncExport_spec (res : ResourceType) (format : String) (hjs : AllStamped js) :
    Triple (Before base js) (createAsyncExport res format) (Created base js) (fun _ _ => False) := by
  unfold createAsyncExport
  dsimp only
  refine Triple.ite_rule (fun _ w hw => ⟨hw.2, hw.1⟩) fun _ w hw => ?_
  simp only [Op.bind_apply, newUuid, Op.attempt_apply]
  have h := create_spec base js (exportJobOf (w.fresh w.minted) res)
    ⟨rfl, nofun, nofun⟩ hjs { w with minted := w.minted + 1 } hw
  generalize JobRepository.create (exportJobOf (w.fresh w.minted) res)
    { w with minted := w.minted + 1 } = r at h ⊢
  rcases r with ⟨e | j, w'⟩
  · exact ⟨h.2, h.1⟩
  · exact ⟨h.1, h.2.1, h.2.2.1, h.2.2.2.1, h.2.2.2.2⟩

end Create

/-! ## The system -/

/-- A job waiting in a queue: its in-memory copy is pending and stamped, and its row is there,
unfinished. -/
structure Waiting (js : List Job) (j : Job) : Prop where
  /-- The copy is pending. -/
  pending : j.status = .pending
  /-- The copy's timestamps match its status. -/
  stamped : j.Stamped
  /-- The job has a row. -/
  row : ∃ r ∈ js, r.id = j.id
  /-- No row of the job has a completion time. -/
  unfinished : Unfinished j.id js

/-- A run on another job leaves a waiting job waiting. -/
theorem Waiting.rowEdit {k : Uuid} {js js' : List Job} {q : Job} (hk : q.id ≠ k)
    (h : RowEdit k IdSafe js js') (hq : Waiting js q) : Waiting js' q := by
  obtain ⟨g, hg, rfl⟩ := h
  obtain ⟨r, hr, hrq⟩ := hq.row
  refine ⟨hq.pending, hq.stamped, ⟨r, List.mem_map.mpr ⟨r, hr, by simp [hrq, hk]⟩, hrq⟩,
    fun j' hj' he => ?_⟩
  obtain ⟨j, hj, rfl⟩ := List.mem_map.mp hj'
  by_cases hjk : j.id = k
  · simp only [hjk, beq_self_eq_true, if_true, hg j] at he
    exact absurd he.symm hk
  · simp only [hjk, beq_iff_eq, if_false] at he ⊢
    exact hq.unfinished j hj he

/-- An appended row under a new id leaves a waiting job waiting. -/
theorem Waiting.append {js : List Job} {j q : Job} (hnew : ∀ r ∈ js, r.id ≠ j.id)
    (hq : Waiting js q) : Waiting (js ++ [j]) q := by
  obtain ⟨r, hr, hrq⟩ := hq.row
  refine ⟨hq.pending, hq.stamped, ⟨r, List.mem_append_left _ hr, hrq⟩, fun j' hj' he => ?_⟩
  rcases List.mem_append.mp hj' with hj' | hj'
  · exact hq.unfinished j' hj' he
  · rw [List.mem_singleton.mp hj'] at he
    exact absurd (hrq.trans he.symm) (hnew r hr)

/-- A job just created, pending under a new id, is waiting. -/
theorem Waiting.created {js : List Job} {j : Job} (hnew : ∀ r ∈ js, r.id ≠ j.id)
    (hp : j.status = .pending) (hj : j.Stamped) : Waiting (js ++ [j]) j := by
  refine ⟨hp, hj, ⟨j, by simp, rfl⟩, fun j' hj' he => ?_⟩
  rcases List.mem_append.mp hj' with hj' | hj'
  · exact absurd he (hnew j' hj')
  · rw [List.mem_singleton.mp hj']
    simpa [hp, JobStatus.finished] using hj.completed

/-- A run that writes only job `k`'s row leaves another waiting job waiting. -/
theorem Waiting.run {α : Type} {x : Op α} {k : Uuid} (hx : JobsBy (RowEdit k IdSafe) x)
    {q : Job} {w : World} (hq : Waiting w.db.jobs q) (hk : q.id ≠ k) : Waiting (x w).2.db.jobs q :=
  hx.run (fun js => Waiting js q) (fun _ _ hw h => hw.rowEdit hk h) hq

/-- The invariant of the system: every job row and every logged snapshot stamped, and every
queued job waiting, under an id no other queued job has. -/
structure System.Inv (s : System) : Prop where
  /-- Every job row is stamped. -/
  rows : AllStamped s.world.db.jobs
  /-- Every logged snapshot is stamped. -/
  log : ∀ ev ∈ s.world.log, StampedEvent ev
  /-- Every queued import is waiting. -/
  imports : ∀ q ∈ s.imports, Waiting s.world.db.jobs q.1
  /-- Every queued export is waiting. -/
  exports : ∀ q ∈ s.exports, Waiting s.world.db.jobs q.1
  /-- No two queued jobs share an id. -/
  distinct : (s.imports.map (·.1.id) ++ s.exports.map (·.1.id)).Nodup

/-- Every event of a log that extends a sound base by sound events is sound. -/
theorem Logged.all {V : Event → Prop} {base log : List Event} (hb : ∀ ev ∈ base, V ev)
    (h : Logged V base log) : ∀ ev ∈ log, V ev := by
  obtain ⟨evs, rfl, hevs⟩ := h
  intro ev hev
  exact (List.mem_append.mp hev).elim (hb ev) (hevs ev)

/-- What a submission adds to a queue is the item of the created job. -/
theorem mem_submitted {α : Type} {r : Except String (Option Job)} {sent : Bool} {item : Job → α}
    {x : α} (h : x ∈ submitted r sent item) : ∃ j, r = .ok (some j) ∧ x = item j := by
  unfold submitted at h
  split at h
  · split at h
    · exact ⟨_, rfl, List.mem_singleton.mp h⟩
    · cases h
  · cases h

/-- The ids of the queued jobs. -/
def System.queued (s : System) : List Uuid := s.imports.map (·.1.id) ++ s.exports.map (·.1.id)

namespace System.Inv

variable {s : System}

/-- Every queued job has a row in the table. -/
theorem queued_row (hi : s.Inv) {k : Uuid} (hk : k ∈ s.queued) : ∃ r ∈ s.world.db.jobs, r.id = k := by
  rcases List.mem_append.mp hk with hk | hk <;> obtain ⟨q, hq, rfl⟩ := List.mem_map.mp hk
  · exact (hi.imports q hq).row
  · exact (hi.exports q hq).row

/-- What a handler's `Create` leaves of the invariant: the rows and the log stamped, the queued
jobs waiting, and the job it answers with waiting under an id no queued job has. -/
theorem created {o : Option Job} {w' : World} (hi : s.Inv)
    (hc : Created s.world.log s.world.db.jobs o w') :
    AllStamped w'.db.jobs ∧ (∀ ev ∈ w'.log, StampedEvent ev) ∧
      (∀ q, Waiting s.world.db.jobs q → Waiting w'.db.jobs q) ∧
      ∀ j, o = some j → Waiting w'.db.jobs j ∧ j.id ∉ s.queued := by
  refine ⟨?_, hc.1.all hi.log, ?_⟩
  · rcases o with _ | j
    · exact hc.2 ▸ hi.rows
    · exact hc.2.1 ▸ allStamped_append hi.rows hc.2.2.2.2
  · rcases o with _ | j
    · exact ⟨fun q hq => hc.2 ▸ hq, fun _ h => nomatch h⟩
    · obtain ⟨he, hnew, hp, hj⟩ := hc.2
      refine ⟨fun q hq => he ▸ hq.append hnew, fun _ h => ?_⟩
      cases h
      refine ⟨he ▸ Waiting.created hnew hp hj, fun hk => ?_⟩
      obtain ⟨r, hr, hrk⟩ := hi.queued_row hk
      exact hnew r hr hrk

/-- A handler that answers `o` keeps the invariant, the job going to the import queue. -/
theorem handler_import {o : Option Job} {w' : World} (hi : s.Inv)
    (hc : Created s.world.log s.world.db.jobs o w') (sent : Bool) (src : JobSource) :
    System.Inv ⟨w', s.imports ++ submitted (.ok o) sent (fun j => (j, src)), s.exports⟩ := by
  obtain ⟨hrows, hlog, hwait, hnew⟩ := hi.created hc
  refine ⟨hrows, hlog, fun q hq => ?_, fun q hq => hwait _ (hi.exports q hq), ?_⟩
  · rcases List.mem_append.mp hq with hq | hq
    · exact hwait _ (hi.imports q hq)
    · obtain ⟨j, hj, rfl⟩ := mem_submitted hq
      exact (hnew j (by cases hj; rfl)).1
  · have hd := hi.distinct
    unfold submitted
    rcases o with _ | j
    · simpa using hd
    · cases sent
      · simpa using hd
      · have := (hnew j rfl).2
        simp only [System.queued] at this
        simp only [List.map_append, List.map_cons, List.map_nil, List.append_assoc,
          List.singleton_append, if_true, List.nodup_middle, List.nodup_cons]
        exact ⟨this, hd⟩

/-- A handler that answers `o` keeps the invariant, the job going to the export queue. -/
theorem handler_export {o : Option Job} {w' : World} (hi : s.Inv)
    (hc : Created s.world.log s.world.db.jobs o w') (sent : Bool) (f : ExportFilters) :
    System.Inv ⟨w', s.imports, s.exports ++ submitted (.ok o) sent (fun j => (j, f))⟩ := by
  obtain ⟨hrows, hlog, hwait, hnew⟩ := hi.created hc
  refine ⟨hrows, hlog, fun q hq => hwait _ (hi.imports q hq), fun q hq => ?_, ?_⟩
  · rcases List.mem_append.mp hq with hq | hq
    · exact hwait _ (hi.exports q hq)
    · obtain ⟨j, hj, rfl⟩ := mem_submitted hq
      exact (hnew j (by cases hj; rfl)).1
  · have hd := hi.distinct
    unfold submitted
    rcases o with _ | j
    · simpa using hd
    · cases sent
      · simpa using hd
      · have := (hnew j rfl).2
        simp only [System.queued] at this
        simp only [List.map_append, List.map_cons, List.map_nil, if_true]
        rw [← List.append_assoc]
        exact List.Nodup.append hd (List.nodup_singleton _)
          (List.disjoint_singleton.mpr this)

/-- Taking a queued job out: the others' ids are not its own, and stay distinct. -/
theorem distinct_take {α β : Type} {f : α → Uuid} {g : β → Uuid} {pre post : List α} {q : α}
    {E : List β} (h : ((pre ++ q :: post).map f ++ E.map g).Nodup) :
    f q ∉ (pre ++ post).map f ++ E.map g ∧ ((pre ++ post).map f ++ E.map g).Nodup := by
  simp only [List.map_append, List.map_cons, List.append_assoc, List.cons_append] at h ⊢
  exact List.nodup_cons.mp (List.nodup_middle.mp h)

/-- The invariant after a worker's import run. -/
theorem worker_import (ci : ImportConfig) (hi : s.Inv) {pre post : List (Job × JobSource)}
    {q : Job × JobSource} (hq : s.imports = pre ++ q :: post) :
    System.Inv ⟨(processImportJob ci q.1 q.2 s.world).2, pre ++ post, s.exports⟩ := by
  have hwq : Waiting s.world.db.jobs q.1 := hi.imports q (by simp [hq])
  have hrun := (processImportJob_stamped s.world.log ci q.1 q.2).run_inv
    ⟨⟨hi.rows, hwq.unfinished⟩, [], by simp, by simp⟩
  have hd := hi.distinct
  rw [hq] at hd
  obtain ⟨hnot, hd'⟩ := distinct_take hd
  have hne : ∀ k ∈ (pre ++ post).map (·.1.id) ++ s.exports.map (·.1.id), k ≠ q.1.id :=
    fun k hk he => hnot (he ▸ hk)
  refine ⟨hrun.1, hrun.2.all hi.log, fun q' hq' => ?_, fun q' hq' => ?_, hd'⟩
  · exact Waiting.run (processImportJob_jobsBy ci q.1 q.2)
      (hi.imports q' (by rw [hq]; simpa using Or.imp_right Or.inr (List.mem_append.mp hq')))
      (hne _ (List.mem_append_left _ (List.mem_map_of_mem _ hq')))
  · exact Waiting.run (processImportJob_jobsBy ci q.1 q.2) (hi.exports q' hq')
      (hne _ (List.mem_append_right _ (List.mem_map_of_mem _ hq')))

/-- The invariant after a worker's export run. -/
theorem worker_export (ce : ExportConfig) (hi : s.Inv) {pre post : List (Job × ExportFilters)}
    {q : Job × ExportFilters} (hq : s.exports = pre ++ q :: post) :
    System.Inv ⟨(processExportJob ce q.1 q.2 s.world).2, s.imports, pre ++ post⟩ := by
  have hwq : Waiting s.world.db.jobs q.1 := hi.exports q (by simp [hq])
  have hrun := (processExportJob_stamped s.world.log ce q.1 q.2 hwq.stamped).run_inv
    ⟨⟨hi.rows, hwq.unfinished⟩, [], by simp, by simp⟩
  have hd := hi.distinct
  rw [hq, List.nodup_append_comm] at hd
  obtain ⟨hnot, hd'⟩ := distinct_take hd
  have hne : ∀ k ∈ (pre ++ post).map (·.1.id) ++ s.imports.map (·.1.id), k ≠ q.1.id :=
    fun k hk he => hnot (he ▸ hk)
  have hjobs := processExportJob_jobsBy ce q.1 q.2 hwq.stamped
  refine ⟨hrun.1, hrun.2.all hi.log, fun q' hq' => ?_, fun q' hq' => ?_,
    List.nodup_append_comm.mp hd'⟩
  · exact Waiting.run hjobs (hi.imports q' hq')
      (hne _ (List.mem_append_right _ (List.mem_map_of_mem _ hq')))
  · exact Waiting.run hjobs
      (hi.exports q' (by rw [hq]; simpa using Or.imp_right Or.inr (List.mem_append.mp hq')))
      (hne _ (List.mem_append_left _ (List.mem_map_of_mem _ hq')))

/-- Every step of the system keeps the invariant. -/
theorem step {ci : ImportConfig} {ce : ExportConfig} {s' : System} (hi : s.Inv)
    (h : System.Step ci ce s s') : s'.Inv := by
  cases h with
  | createImport res path key sent =>
    obtain ⟨o, ho, hc⟩ := (createImport_spec s.world.log s.world.db.jobs res path key
      hi.rows).run_ok ⟨rfl, [], by simp, by simp⟩
    rw [ho]
    exact hi.handler_import hc sent _
  | createAsyncExport res format filters sent =>
    obtain ⟨o, ho, hc⟩ := (createAsyncExport_spec s.world.log s.world.db.jobs res format
      hi.rows).run_ok ⟨rfl, [], by simp, by simp⟩
    rw [ho]
    exact hi.handler_export hc sent _
  | importWorker pre post q hq => exact hi.worker_import ci hq
  | exportWorker pre post q hq => exact hi.worker_export ce hq

end System.Inv

/-- The upload of a one-row users CSV. -/
def usersUpload : ImportFile :=
  ⟨"uploads/users.csv", ⟨.ok ["email", "name", "role"], [some ["a@b.co", "Alice", "reader"]]⟩,
    ⟨[], none⟩⟩

/-- A fresh system with that upload, under a pattern of failed calls. -/
def startSystem (fault : Nat → Option String) : System :=
  ⟨World.start { Db.empty with uploads := [usersUpload] } fault, [], []⟩

/-- An export of an empty users table: `Update` writes the in-memory job back, `pending`, after
`SetStarted` made the row `processing`, and `SetCompleted` follows. The statuses of the jobs table
along the log. -/
theorem export_update_writes_pending :
    ∃ s, Relation.ReflTransGen (System.Step ImportConfig.default ExportConfig.default) (startSystem fun _ => none) s ∧
      s.world.log.map (fun ev => ev.jobs.map (·.status)) =
        [[.pending], [.processing], [.processing], [.processing], [.processing], [.pending],
          [.completed]] := by
  refine ⟨_, (Relation.ReflTransGen.single
    (.createAsyncExport _ .users "ndjson" ⟨none, none, none, none, none, none, none, none⟩ true)).tail
    (.exportWorker _ [] [] _ rfl), ?_⟩
  decide

/-- An import of the one-row upload whose `GetByID` (the thirteenth call of the run) fails:
`SetCompleted` writes the zero job's counts, and the row keeps one processed record with no
successful and no failed one. -/
theorem failed_read_unbalances_counters :
    ∃ s, Relation.ReflTransGen (System.Step ImportConfig.default ExportConfig.default)
        (startSystem fun n => if n = 12 then some "driver: bad connection" else none) s ∧
      ∃ j ∈ s.world.db.jobs, j.status = .completed ∧ j.processedRecords = 1 ∧
        j.successfulRecords = 0 ∧ j.failedRecords = 0 := by
  refine ⟨_, (Relation.ReflTransGen.single (.createImport _ .users "uploads/users.csv" "" true)).tail
    (.importWorker _ [] [] _ rfl), ?_⟩
  decide

end BulkImport
