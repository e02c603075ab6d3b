import BulkImport.Control.Worker
import Mathlib.Algebra.Order.Field.Rat
import Mathlib.Algebra.Order.Field.Basic
import Mathlib.Data.Rat.Cast.Order
import Mathlib.Tactic.Linarith

/-!
# The counters and the progress a job reports

`Job.CalculateProgress` (`errors.go`) turns a job row into the counters and the percentage the
status endpoint answers with: processed over total records, zero while the total is unknown, and
99 in place of anything from 100 up while the job is neither completed nor failed. In exact
rational arithmetic the value stays below 100 until the job ends, but it does not only grow: the
cap replaces a value just under 100 by 99 when the pipeline writes its last processed count.

The counters need not add up either. Phase 1 writes the processed count at every batch flush,
before `SetTotalRecords`, so a run that fails in phase 1 after a flush leaves a failed job with
more processed records than its total.
-/

namespace BulkImport

/-- `errors.JobProgress`. -/
structure JobProgress where
  /-- `total_records`, copied from the job. -/
  totalRecords : Int
  /-- `processed_records`, copied from the job. -/
  processedRecords : Int
  /-- `successful_records`, copied from the job. -/
  successfulRecords : Int
  /-- `failed_records`, copied from the job. -/
  failedRecords : Int
  /-- `percentage`, the `float64` of `CalculateProgress`, as a rational. -/
  percentage : ℚ
  deriving DecidableEq

/-- `Job.CalculateProgress`, with the percentage in exact rational arithmetic. -/
def Job.calculateProgress (j : Job) : JobProgress :=
  let percentage : ℚ :=
    if 0 < j.totalRecords then (j.processedRecords : ℚ) / j.totalRecords * 100 else 0
  let percentage : ℚ :=
    if 100 ≤ percentage ∧ j.status ≠ .completed ∧ j.status ≠ .failed then 99
    else percentage
  ⟨j.totalRecords, j.processedRecords, j.successfulRecords, j.failedRecords, percentage⟩

/-- A job that is neither completed nor failed reports less than 100 percent. -/
theorem calculateProgress_lt_hundred {j : Job} (hc : j.status ≠ .completed)
    (hf : j.status ≠ .failed) : j.calculateProgress.percentage < 100 := by
  simp only [Job.calculateProgress]
  split_ifs with h₁ h₂ h₂
  · norm_num
  · exact lt_of_not_le fun h' => h₂ ⟨h', hc, hf⟩
  · norm_num
  · norm_num

/-- While the processed count is below a known total, the percentage is their ratio. -/
theorem calculateProgress_below_total {j : Job} (ht : 0 < j.totalRecords)
    (hp : j.processedRecords < j.totalRecords) :
    j.calculateProgress.percentage = (j.processedRecords : ℚ) / j.totalRecords * 100 := by
  have hq : (0 : ℚ) < j.totalRecords := by exact_mod_cast ht
  have hlt : (j.processedRecords : ℚ) / j.totalRecords * 100 < 100 := by
    rw [div_mul_eq_mul_div, div_lt_iff₀ hq]
    have : (j.processedRecords : ℚ) < j.totalRecords := by exact_mod_cast hp
    linarith
  simp only [Job.calculateProgress, if_pos ht]
  rw [if_neg fun h => absurd h.1 (not_le.mpr hlt)]

/-- A job still running whose processed count has reached its total reports 99 percent. -/
theorem calculateProgress_at_total {j : Job} (ht : 0 < j.totalRecords)
    (hp : j.processedRecords = j.totalRecords) (hc : j.status ≠ .completed)
    (hf : j.status ≠ .failed) : j.calculateProgress.percentage = 99 := by
  have hq : (j.totalRecords : ℚ) ≠ 0 := by exact_mod_cast ht.ne'
  simp only [Job.calculateProgress, if_pos ht, hp, div_self hq, one_mul, le_refl, true_and]
  rw [if_pos ⟨hc, hf⟩]

/-- A successful `UPDATE jobs` has rewritten the rows of its id and no other. -/
theorem updateWith_jobs {stmt : Stmt} {id : Uuid} {g : Job → Job} {w : World}
    (h : (JobRepository.updateWith stmt id g w).1 = .ok ()) :
    (JobRepository.updateWith stmt id g w).2.db.jobs =
      w.db.jobs.map fun j => if j.id == id then g j else j := by
  simp only [JobRepository.updateWith, call] at h ⊢
  cases hfault : w.fault w.calls with
  | none =>
    cases hu : updateJobRow id g w.db.jobs with
    | error e => simp [hfault, hu, Except.map] at h
    | ok js => simp [hfault, hu, Except.map, updateJobRow_ok hu]
  | some e => simp [hfault] at h

/-- The last `UpdateProgress` of an import, which sets the processed count to the job's total,
lowers the percentage of a running job that stood strictly between 99 and 100: the job reports 99
after it. -/
theorem final_update_lowers_progress {w : World} {j : Job} {s f : Int} (hj : j ∈ w.db.jobs)
    (hc : j.status ≠ .completed) (hf : j.status ≠ .failed)
    (hlow : 99 * j.totalRecords < 100 * j.processedRecords)
    (hp : j.processedRecords < j.totalRecords)
    (hok : (JobRepository.updateProgress j.id j.totalRecords s f w).1 = .ok ()) :
    ∃ j' ∈ (JobRepository.updateProgress j.id j.totalRecords s f w).2.db.jobs, j'.id = j.id ∧
      j'.calculateProgress.percentage = 99 ∧ 99 < j.calculateProgress.percentage := by
  have ht : 0 < j.totalRecords := by omega
  refine ⟨j.setProgress j.totalRecords s f, ?_, rfl,
    calculateProgress_at_total ht rfl hc hf, ?_⟩
  · rw [JobRepository.updateProgress, updateWith_jobs hok]
    exact List.mem_map.mpr ⟨j, hj, by simp⟩
  · rw [calculateProgress_below_total ht hp]
    have hq : (0 : ℚ) < j.totalRecords := by exact_mod_cast ht
    have : (99 : ℚ) * j.totalRecords < 100 * j.processedRecords := by exact_mod_cast hlow
    rw [div_mul_eq_mul_div, lt_div_iff₀ hq]
    linarith

/-- A running import of 101 records after a flush of 100 of them and `SetTotalRecords(101)`:
batch size 100, a file of 101 valid rows. -/
def nearlyDoneJob : Job :=
  { importJobOf (Uuid.ofSeed 100) .users "uploads/users.csv" "" with
    status := .processing, totalRecords := 101, processedRecords := 100, successfulRecords := 100 }

/-- A world whose only job is that one. -/
def nearlyDoneWorld : World := World.start { Db.empty with jobs := [nearlyDoneJob] } fun _ => none

/-- The 101-record import at 100 of 101: its percentage is above 99, and the final `UpdateProgress`
lowers it to 99. -/
theorem nearly_done_job_drops_to_99 :
    nearlyDoneJob ∈ nearlyDoneWorld.db.jobs ∧ nearlyDoneJob.status ≠ .completed ∧
      nearlyDoneJob.status ≠ .failed ∧
      99 * nearlyDoneJob.totalRecords < 100 * nearlyDoneJob.processedRecords ∧
      nearlyDoneJob.processedRecords < nearlyDoneJob.totalRecords ∧
      (JobRepository.updateProgress nearlyDoneJob.id nearlyDoneJob.totalRecords 101 0
        nearlyDoneWorld).1 = .ok () ∧
      ∃ j' ∈ (JobRepository.updateProgress nearlyDoneJob.id nearlyDoneJob.totalRecords 101 0
          nearlyDoneWorld).2.db.jobs, j'.id = nearlyDoneJob.id ∧
        j'.calculateProgress.percentage = 99 ∧ 99 < nearlyDoneJob.calculateProgress.percentage :=
  have hok : (JobRepository.updateProgress nearlyDoneJob.id nearlyDoneJob.totalRecords 101 0
      nearlyDoneWorld).1 = .ok () := by decide
  ⟨List.mem_singleton.mpr rfl, by decide, by decide, by decide, by decide, hok,
    final_update_lowers_progress (List.mem_singleton.mpr rfl) (by decide) (by decide) (by decide)
      (by decide) hok⟩

/-! ## A phase-1 failure after a flush -/

/-- The import settings with batches of one row. -/
def oneRowConfig : ImportConfig := ⟨⟨1, by decide⟩, "./uploads"⟩

/-- A users NDJSON upload: a valid line of 48 bytes, then a line the scanner's buffer cannot
hold. -/
def longLineUpload : ImportFile :=
  ⟨"uploads/users.ndjson", ⟨.ok [], []⟩,
    ⟨[⟨48, some (.obj [("email", .str "a@b.co"), ("name", .str "Alice"),
        ("role", .str "reader")])⟩,
      ⟨maxBufferSize, none⟩], none⟩⟩

/-- A fresh system with that upload. -/
def longLineSystem : System :=
  ⟨World.start { Db.empty with uploads := [longLineUpload] } fun _ => none, [], []⟩

/-- An import of that upload with batches of one row: the first row is flushed and counted, the
scanner then fails on the long line, and the job ends failed with one processed record and a
total of zero. -/
theorem phase_one_abort_leaves_processed_over_total :
    ∃ s, Relation.ReflTransGen (System.Step oneRowConfig ExportConfig.default)
        longLineSystem s ∧
      ∃ j ∈ s.world.db.jobs,
        j.status = .failed ∧ j.totalRecords = 0 ∧ j.processedRecords = 1 := by
  refine ⟨_, (Relation.ReflTransGen.single
    (.createImport _ .users "uploads/users.ndjson" "" true)).tail
    (.importWorker _ [] [] _ rfl), ?_⟩
  decide

end BulkImport
