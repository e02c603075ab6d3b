import BulkImport.Import.Dedup

/-!
# Phase 1: the staging batches

The phase-1 callback (`processRecord`) holds staging rows back in a batch and hands the batch to
`CreateStaging*` once it has `BatchSize` rows; `stageAll` hands over what is left after the parse.
A line that did not parse joins the batch and returns before the size check, so a run of such
lines carries the batch past the size, and the next record's callback inserts all of it in one
statement (`stageAll_unparsed_slice`, `unparsed_lines_overflow_batch`).

Nothing is lost or repeated on the way: after a phase 1 that returns, the job's rows in the
staging table are the rows it had, followed by the rows the callback built, one per delivery and
in the parser's order, numbered by the table's sequence (`stageAll_stages`).

Those rows carry every record's values as they came, valid or not, and the staging columns are as
narrow as the target's: `CreateStaging*` inserts a batch in one statement, so one value too long
for its `VARCHAR(n)` column fails the whole batch, and the pipeline returns the error.
-/

namespace BulkImport

/-! ## The log of a run -/

section Log

variable {α β : Type} {R : List Job → List Job → Prop}

/-- A run that moves the jobs table by `R` steps keeps every event logged before it. -/
theorem JobsBy.log_mem {x : Op α} (h : JobsBy R x) {w : World} {ev : Event} (hev : ev ∈ w.log) :
    ev ∈ (x w).2.log := by
  have hl : Logged (fun _ => True) w.log (x w).2.log :=
    (((h (fun _ => True) fun _ _ _ _ => trivial) w.log).run_inv
      ⟨trivial, [], (List.append_nil _).symm, List.forall_mem_nil _⟩).2
  obtain ⟨evs, hlog, -⟩ := hl
  rw [hlog]
  exact List.mem_append_left _ hev

/-- An event the first part of a run logs stays in the log of the whole run. -/
theorem bind_log_mem {x : Op α} {f : α → Op β} (hf : ∀ a, JobsBy R (f a)) {w : World}
    {ev : Event} (hev : ev ∈ (x w).2.log) : ev ∈ ((x >>= f) w).2.log := by
  simp only [Op.bind_apply]
  split
  · exact (hf _).log_mem hev
  · exact hev

/-- Wrapping an error message changes only the result, not the world. -/
theorem Op.wrap_snd (msg : String) (x : Op α) (w : World) : (Op.wrap msg x w).2 = (x w).2 := by
  simp only [Op.wrap]
  split <;> rfl

/-- `CreateStaging*` of a non-empty slice logs one event carrying the slice's row numbers. -/
theorem createStaging_log {F : Type} (slot : StagingSlot F) (k : Uuid) {rows : List (StagingRow F)}
    (h : rows ≠ []) (w : World) :
    ∃ ok jobs, (StagingRepository.createStaging slot k rows w).2.log =
      w.log ++ [⟨.createStaging slot.res, rows.map (·.rowNumber), ok, jobs⟩] := by
  simp only [StagingRepository.createStaging, List.isEmpty_iff, h, if_false, call]
  split <;> exact ⟨_, _, rfl⟩

end Log

/-! ## A run of unparsed lines -/

section Unparsed

variable {R F : Type} {validate : Nat → R → List ValidationError} {stage : R → F} {empty : F}
  {insert : List (StagingRow F) → Op Unit} {size : Nat} {k : Uuid}

/-- The parse loop over two lists of deliveries is the loop over the first, then over the second. -/
theorem parseLoop_append (step : Phase1 F → Nat × Option R → Op (Phase1 F)) :
    ∀ (s : Phase1 F) (xs ys : List (Nat × Option R)),
      parseLoop step s (xs ++ ys) = parseLoop step s xs >>= fun s => parseLoop step s ys
  | _, [], _ => rfl
  | s, x :: xs, ys => by
    show (step s x >>= fun s => parseLoop step s (xs ++ ys)) = _
    simp only [parseLoop, Op.bind_assoc, parseLoop_append step _ xs ys]

/-- Lines that did not parse only join the batch and the counts. -/
theorem parseLoop_unparsed (s : Phase1 F) (rows : List Nat) :
    parseLoop (processRecord validate stage empty insert size k) s (rows.map (·, none)) =
      pure { s with batch := s.batch ++ rows.map (parseErrorRow k · empty),
                    totalRows := s.totalRows + rows.length,
                    invalidRows := s.invalidRows + rows.length } := by
  induction rows generalizing s with
  | nil => simp only [List.map_nil, parseLoop, List.append_nil, List.length_nil, Nat.add_zero]
  | cons n rows ih =>
    simp only [List.map_cons, parseLoop, processRecord, Op.pure_bind, ih, List.append_assoc,
      List.singleton_append, List.length_cons, Nat.add_assoc, Nat.add_comm 1]

/-- A run of `bad` lines that did not parse, at the start of a file, then a record that parsed:
when the batch reaches the size with the record, the record's callback hands the insert all of
them in one slice, and that slice's event stays in the log of phase 1. -/
theorem stageAll_unparsed_slice (stmt : Stmt)
    (hlog : ∀ b w, b ≠ [] → ∃ ok jobs,
      (insert b w).2.log = w.log ++ [⟨stmt, b.map (·.rowNumber), ok, jobs⟩])
    (hins : ∀ b, JobsBy (RowEdit k JobRepository.CounterSet) (insert b))
    (bad : List Nat) (n : Nat) (r : R) (rest : List (Nat × Option R)) (err : Option String)
    (hsize : size ≤ bad.length + 1) (w : World) :
    ∃ ev ∈ (stageAll (processRecord validate stage empty insert size k) insert
      ⟨bad.map (·, none) ++ (n, some r) :: rest, err⟩ w).2.log,
      ev.stmt = stmt ∧ ev.rows = bad ++ [n] := by
  have hstep : ∀ s c, JobsBy (RowEdit k JobRepository.CounterSet)
      (processRecord validate stage empty insert size k s c) := processRecord_jobsBy hins
  set b := bad.map (parseErrorRow k · empty) ++ [stagedRow k n (stage r) (validate n r)]
  obtain ⟨ok, jobs, hb⟩ := hlog b w (by simp [b])
  refine ⟨⟨stmt, b.map (·.rowNumber), ok, jobs⟩, ?_, rfl,
    by simp [b, parseErrorRow, stagedRow, Function.comp_def]⟩
  unfold stageAll
  refine bind_log_mem (R := RowEdit k JobRepository.CounterSet) (fun s => ?_) ?_
  · rcases err with _ | e
    · exact JobsBy.ite_rule ((hins _).bind fun _ => JobsBy.pure_rule _)
        ((JobsBy.pure_rule _).bind fun _ => JobsBy.pure_rule _)
    · exact JobsBy.fail_rule e
  rw [parseLoop_append, parseLoop_unparsed, Op.pure_bind, parseLoop]
  refine bind_log_mem (fun s => parseLoop_jobsBy hstep s rest) ?_
  have hlen : size ≤ b.length := by simpa [b] using hsize
  simp only [processRecord, Phase1.init, List.nil_append, if_pos hlen]
  exact bind_log_mem (fun _ => (JobRepository.updateProgress_jobsBy _ _ _ _).attempt.bind
    fun _ => JobsBy.pure_rule _) (hb ▸ List.mem_append_right _ (List.mem_singleton_self _))

end Unparsed

/-- Each of the three phase-1 loops, on a file whose first lines, at least `BatchSize` of them, did
not parse, followed by a record: one `CreateStaging*` carries every one of those rows, more than
`BatchSize`. -/
theorem unparsed_lines_overflow_batch (cfg : ImportConfig) (k : Uuid) (bad : List Nat)
    (hbad : cfg.batchSize.val ≤ bad.length) (n : Nat) (err : Option String) (w : World) :
    (∀ (u : UserImport) rest, ∃ ev ∈ (stageAll (processUser cfg k)
        (fun b => Op.wrap "failed to create staging users: " (StagingRepository.createStagingUsers k b))
        ⟨bad.map (·, none) ++ (n, some u) :: rest, err⟩ w).2.log,
      ev.stmt = .createStaging .users ∧ ev.rows = bad ++ [n] ∧ cfg.batchSize.val < ev.rows.length) ∧
    (∀ (a : ArticleImport) rest, ∃ ev ∈ (stageAll (processArticle cfg k)
        (fun b => Op.wrap "failed to create staging articles: "
          (StagingRepository.createStagingArticles k b))
        ⟨bad.map (·, none) ++ (n, some a) :: rest, err⟩ w).2.log,
      ev.stmt = .createStaging .articles ∧ ev.rows = bad ++ [n] ∧
        cfg.batchSize.val < ev.rows.length) ∧
    (∀ (c : CommentImport) rest, ∃ ev ∈ (stageAll (processComment cfg k)
        (StagingRepository.createStagingComments k)
        ⟨bad.map (·, none) ++ (n, some c) :: rest, err⟩ w).2.log,
      ev.stmt = .createStaging .comments ∧ ev.rows = bad ++ [n] ∧
        cfg.batchSize.val < ev.rows.length) := by
  have long : ∀ {L : List Event} {stmt : Stmt},
      (∃ ev ∈ L, ev.stmt = stmt ∧ ev.rows = bad ++ [n]) →
      ∃ ev ∈ L, ev.stmt = stmt ∧ ev.rows = bad ++ [n] ∧
        cfg.batchSize.val < ev.rows.length :=
    fun ⟨ev, hev, hs, hr⟩ =>
      ⟨ev, hev, hs, hr, by rw [hr, List.length_append, List.length_singleton]; omega⟩
  have hsize : cfg.batchSize.val ≤ bad.length + 1 := by omega
  refine ⟨fun u rest => long ?_, fun a rest => long ?_, fun c rest => long ?_⟩
  · refine stageAll_unparsed_slice _ (fun b w hb => ?_)
      (fun b => (StagingRepository.createStaging_jobsBy _ _ b).wrap _) bad n u rest err hsize w
    rw [Op.wrap_snd]
    exact createStaging_log usersSlot k hb w
  · refine stageAll_unparsed_slice _ (fun b w hb => ?_)
      (fun b => (StagingRepository.createStaging_jobsBy _ _ b).wrap _) bad n a rest err hsize w
    rw [Op.wrap_snd]
    exact createStaging_log articlesSlot k hb w
  · exact stageAll_unparsed_slice _ (fun b w hb => createStaging_log commentsSlot k hb w)
      (StagingRepository.createStaging_jobsBy _ _) bad n c rest err hsize w

/-- A users record with an email and nothing else. -/
def plainUser : UserImport := ⟨"", "a@x.co", "", "", "", "", ""⟩

/-- With the default batch size, a file of a thousand lines that did not parse and then one
record: the record's callback sends a `CreateStagingUsers` of 1001 rows. -/
theorem thousand_unparsed_lines_one_slice :
    ∃ ev ∈ (stageAll (processUser ImportConfig.default (Uuid.ofSeed 100))
        (fun b => Op.wrap "failed to create staging users: "
          (StagingRepository.createStagingUsers (Uuid.ofSeed 100) b))
        ⟨(List.range' 1 1000).map (·, none) ++ [(1001, some plainUser)], none⟩
        (World.start Db.empty fun _ => none)).2.log,
      ev.stmt = .createStaging .users ∧ ImportConfig.default.batchSize.val < ev.rows.length :=
  let ⟨ev, hev, hs, _, hl⟩ := (unparsed_lines_overflow_batch ImportConfig.default (Uuid.ofSeed 100)
    (List.range' 1 1000) (by simp [ImportConfig.default]) 1001 none
    (World.start Db.empty fun _ => none)).1 plainUser []
  ⟨ev, hev, hs, hl⟩

/-! ## What phase 1 stages -/

section Stages

variable {α R F : Type} {k : Uuid}

/-- The staging row the phase-1 callback builds for one delivery: the row of a line that did not
parse, or the record's fields with its validator's findings. -/
def stagingRowOf (validate : Nat → R → List ValidationError) (stage : R → F) (empty : F)
    (k : Uuid) : Nat × Option R → StagingRow F
  | (row, none) => parseErrorRow k row empty
  | (row, some r) => stagedRow k row (stage r) (validate row r)

/-- The staging row of a delivery belongs to the job. -/
@[simp] theorem stagingRowOf_jobId (validate : Nat → R → List ValidationError) (stage : R → F)
    (empty : F) (c : Nat × Option R) : (stagingRowOf validate stage empty k c).jobId = k := by
  rcases c with ⟨_, _ | _⟩ <;> rfl

/-- The staging row of a delivery carries its row number. -/
@[simp] theorem stagingRowOf_rowNumber (validate : Nat → R → List ValidationError)
    (stage : R → F) (empty : F) (c : Nat × Option R) :
    (stagingRowOf validate stage empty k c).rowNumber = c.1 := by
  rcases c with ⟨_, _ | _⟩ <;> rfl

/-- The table `t` holds, after the rows job `k` has in `t₀`, the rows `ins` numbered from `t₀`'s
sequence, and its sequence has moved past them. -/
structure Appended (k : Uuid) (t₀ t : StagingTable F) (ins : List (StagingRow F)) : Prop where
  /-- The job's rows are those of `t₀`, then `ins` numbered from its sequence. -/
  rows : jobRows k t.rows = jobRows k t₀.rows ++ numberFrom (t₀.seq + 1) ins
  /-- The sequence has moved past `ins`. -/
  seq : t.seq = t₀.seq + ins.length

/-- Numbering two lists of rows from `n` numbers the second from where the first ends. -/
theorem numberFrom_append (a b : List (StagingRow F)) :
    ∀ n, numberFrom n (a ++ b) = numberFrom n a ++ numberFrom (n + a.length) b := by
  induction a with
  | nil => intro; rfl
  | cons r rs ih =>
    intro n
    rw [List.cons_append]
    simp only [numberFrom, ih, List.length_cons, Nat.add_assoc, Nat.add_comm 1, List.cons_append]

/-- A table has appended nothing to itself. -/
theorem Appended.refl (t : StagingTable F) : Appended k t t [] :=
  ⟨(List.append_nil _).symm, rfl⟩

/-- Rows of the job appended behind the rows `ins`. -/
theorem Appended.insert {t₀ t : StagingTable F} {ins b : List (StagingRow F)}
    (h : Appended k t₀ t ins) (hk : ∀ r ∈ b, r.jobId = k) :
    Appended k t₀ ⟨t.rows ++ numberFrom (t.seq + 1) b, t.seq + b.length⟩ (ins ++ b) := by
  refine ⟨?_, by simp only [h.seq, List.length_append, Nat.add_assoc]⟩
  rw [jobRows, List.filter_append, ← jobRows, ← jobRows, h.rows, jobRows_numberFrom_of hk,
    numberFrom_append, h.seq, List.append_assoc, Nat.add_right_comm]

/-- Setting the job of rows that already belong to it changes nothing. -/
theorem map_withJob {rows : List (StagingRow F)} (hk : ∀ r ∈ rows, r.jobId = k) :
    rows.map (fun r => { r with jobId := k }) = rows := by
  conv_rhs => rw [← List.map_id rows]
  exact List.map_congr_left fun r hr => by rw [← hk r hr]; rfl

/-- A `CreateStaging*` of rows of the job that returns has appended them. -/
theorem createStaging_appends (slot : StagingSlot F) {t₀ : StagingTable F}
    {ins b : List (StagingRow F)} (hk : ∀ r ∈ b, r.jobId = k) :
    Triple (fun w => Appended k t₀ (slot.get w.db) ins) (StagingRepository.createStaging slot k b)
      (fun _ w => Appended k t₀ (slot.get w.db) (ins ++ b)) (fun _ _ => True) := by
  refine Triple.ite_rule (fun he w hw => ?_)
    fun _ => Triple.call_rule (fun w _ _ hw _ h => ?_) fun _ _ _ _ => trivial
  · rw [List.isEmpty_iff.mp he, List.append_nil]
    exact hw
  · obtain ⟨t, ht, he⟩ := except_map_eq_ok.mp h
    cases he
    show Appended k t₀ (slot.get (slot.set t w.db)) (ins ++ b)
    rw [slot.get_set, insertStaging_eq ht, map_withJob hk]
    exact hw.insert hk

/-- A run whose calls leave the staging table of `slot` alone keeps every property of it. -/
theorem SlotBy.frame {slot : StagingSlot F} {x : Op α} (h : SlotBy slot (fun _ _ => False) x)
    (J : StagingTable F → Prop) :
    Triple (fun w => J (slot.get w.db)) x (fun _ w => J (slot.get w.db))
      (fun _ w => J (slot.get w.db)) :=
  ((h J fun _ _ _ => False.elim) []).conseq (fun w hw => ⟨hw, w.log, rfl, fun _ _ => trivial⟩)
    (fun _ _ h => h.1) (fun _ _ h => h.1)

/-- Phase 1 of job `k` from the table `t₀`, with the rows `built` built so far and the state `s`:
the rows the job has gained in the table, then the batch, are `built`. -/
def Stages (k : Uuid) (t₀ t : StagingTable F) (built : List (StagingRow F)) (s : Phase1 F) : Prop :=
  ∃ ins, Appended k t₀ t ins ∧ ins ++ s.batch = built

/-- What an insert of phase 1 does: a slice of the job's rows, appended when it returns. -/
def Appends (slot : StagingSlot F) (k : Uuid) (insert : List (StagingRow F) → Op Unit) : Prop :=
  ∀ t₀ ins b, (∀ r ∈ b, r.jobId = k) → Triple (fun w => Appended k t₀ (slot.get w.db) ins)
    (insert b) (fun _ w => Appended k t₀ (slot.get w.db) (ins ++ b)) (fun _ _ => True)

variable (slot : StagingSlot F) {t₀ : StagingTable F}

/-- One delivery: its row joins what phase 1 has built, and the count goes up by one. -/
theorem processRecord_stages {validate : Nat → R → List ValidationError} {stage : R → F}
    {empty : F} {insert : List (StagingRow F) → Op Unit} {size : Nat}
    (hins : Appends slot k insert) (s : Phase1 F) {built : List (StagingRow F)} (hk : ∀ r ∈ built, r.jobId = k)
    (c : Nat × Option R) :
    Triple (fun w => Stages k t₀ (slot.get w.db) built s)
      (processRecord validate stage empty insert size k s c)
      (fun s' w =>
        Stages k t₀ (slot.get w.db) (built ++ [stagingRowOf validate stage empty k c]) s' ∧
          s'.totalRows = s.totalRows + 1) (fun _ _ => True) := by
  rintro w ⟨ins, ha, hb⟩
  rcases c with ⟨n, _ | r⟩
  · exact And.intro ⟨ins, ha, by rw [← hb, List.append_assoc]; rfl⟩ rfl
  have hkb : ∀ x ∈ s.batch ++ [stagedRow k n (stage r) (validate n r)], x.jobId = k :=
    fun x hx => (List.mem_append.mp hx).elim (fun hx => hk x (hb ▸ List.mem_append_right _ hx))
      fun hx => by rw [List.mem_singleton.mp hx]; rfl
  refine Triple.ite_rule (fun _ => (hins t₀ ins _ hkb).bind fun _ => ?_) (fun _ => ?_) w ha
  · refine (Triple.attempt_inv (SlotBy.frame (updateWith_slotBy _ _ _)
      fun t => Appended k t₀ t (ins ++ _))).bind fun _ w ha => ?_
    exact And.intro ⟨_, ha, by rw [List.append_nil, ← hb, List.append_assoc]; rfl⟩ rfl
  · exact fun w ha => And.intro ⟨ins, ha, by rw [← hb, List.append_assoc]; rfl⟩ rfl

/-- The loop over the deliveries: each one's row joins what phase 1 has built, in order. -/
theorem parseLoop_stages {step : Phase1 F → Nat × Option R → Op (Phase1 F)}
    {row : Nat × Option R → StagingRow F} (hrow : ∀ c, (row c).jobId = k)
    (hstep : ∀ s {built : List (StagingRow F)}, (∀ r ∈ built, r.jobId = k) → ∀ c, Triple
      (fun w => Stages k t₀ (slot.get w.db) built s) (step s c)
      (fun s' w => Stages k t₀ (slot.get w.db) (built ++ [row c]) s' ∧
        s'.totalRows = s.totalRows + 1) (fun _ _ => True)) :
    ∀ cs s {built : List (StagingRow F)}, (∀ r ∈ built, r.jobId = k) → Triple
      (fun w => Stages k t₀ (slot.get w.db) built s) (parseLoop step s cs)
      (fun s' w => Stages k t₀ (slot.get w.db) (built ++ cs.map row) s' ∧
        s'.totalRows = s.totalRows + cs.length) (fun _ _ => True)
  | [], _, _, _ => fun _ hw => ⟨by rwa [List.map_nil, List.append_nil], rfl⟩
  | c :: cs, s, built, hk => (hstep s hk c).bind fun s' w ⟨hw, ht⟩ => by
    have hk' : ∀ r ∈ built ++ [row c], r.jobId = k := fun r hr =>
      (List.mem_append.mp hr).elim (hk r) fun h => by rw [List.mem_singleton.mp h]; exact hrow c
    refine (parseLoop_stages hrow hstep cs s' hk').conseq (fun _ h => h)
      (fun s'' _ h => ⟨?_, ?_⟩) (fun _ _ _ => trivial) w hw
    · simpa only [List.map_cons, List.append_assoc, List.singleton_append] using h.1
    · rw [h.2, ht, List.length_cons]
      omega

/-- Phase 1 from the table `t₀`, when it returns: the job's rows in the table are those of `t₀`
followed by the row built for each delivery, in the parser's order, and the count is the number
of deliveries. -/
theorem stageAll_stages {step : Phase1 F → Nat × Option R → Op (Phase1 F)}
    {insert : List (StagingRow F) → Op Unit} {row : Nat × Option R → StagingRow F}
    (hrow : ∀ c, (row c).jobId = k)
    (hstep : ∀ s {built : List (StagingRow F)}, (∀ r ∈ built, r.jobId = k) → ∀ c, Triple
      (fun w => Stages k t₀ (slot.get w.db) built s) (step s c)
      (fun s' w => Stages k t₀ (slot.get w.db) (built ++ [row c]) s' ∧
        s'.totalRows = s.totalRows + 1) (fun _ _ => True))
    (hins : Appends slot k insert) (d : Delivery R) :
    Triple (fun w => slot.get w.db = t₀) (stageAll step insert d)
      (fun s w =>
        Appended k t₀ (slot.get w.db) (d.calls.map row) ∧ s.totalRows = d.calls.length)
      (fun _ _ => True) := by
  refine ((parseLoop_stages slot hrow hstep d.calls Phase1.init
    fun _ h => absurd h (List.not_mem_nil _)).conseq
    (fun w (hw : slot.get w.db = t₀) => ⟨[], hw ▸ Appended.refl _, rfl⟩) (fun _ _ h => h)
    (fun _ _ h => h)).bind
    fun s => ?_
  rintro w ⟨⟨ins, ha, hb⟩, ht⟩
  rw [List.nil_append] at hb
  replace ht : s.totalRows = d.calls.length := ht.trans (Nat.zero_add _)
  have hkb : ∀ r ∈ s.batch, r.jobId = k := fun r hr => by
    obtain ⟨c, -, rfl⟩ := List.mem_map.mp (hb ▸ List.mem_append_right ins hr)
    exact hrow c
  rcases d.err with _ | e
  · dsimp only
    split
    · refine (hins t₀ ins s.batch hkb).bind (fun _ => ?_) w ha
      exact fun w ha => And.intro (hb ▸ ha) ht
    · rename_i h
      rw [Bool.not_eq_true', Bool.not_eq_false, List.isEmpty_iff] at h
      rw [h, List.append_nil] at hb
      exact And.intro (hb ▸ ha) ht
  · trivial

end Stages

/-- Phase 1 of each of the three imports, when it returns: the job's rows in its staging table
are the rows it had, followed by the row `processUser`, `processArticle` or `processComment`
builds for each delivery, with the delivery's row number and the job's id, in the parser's
order, numbered by the table's sequence; the count passed to `SetTotalRecords` is the number of
deliveries. -/
theorem phase1_stages_every_delivery (cfg : ImportConfig) (k : Uuid) :
    (∀ (d : Delivery UserImport) t₀, Triple (fun w => w.db.stagingUsers = t₀)
      (stageAll (processUser cfg k)
        (fun b => Op.wrap "failed to create staging users: " (StagingRepository.createStagingUsers k b)) d)
      (fun s w => Appended k t₀ w.db.stagingUsers
          (d.calls.map (stagingRowOf validateUserImport stageUserFields UserFields.empty k)) ∧
        s.totalRows = d.calls.length) (fun _ _ => True)) ∧
    (∀ (d : Delivery ArticleImport) t₀, Triple (fun w => w.db.stagingArticles = t₀)
      (stageAll (processArticle cfg k)
        (fun b => Op.wrap "failed to create staging articles: "
          (StagingRepository.createStagingArticles k b)) d)
      (fun s w => Appended k t₀ w.db.stagingArticles
          (d.calls.map (stagingRowOf validateArticleImport stageArticleFields ArticleFields.empty k)) ∧
        s.totalRows = d.calls.length) (fun _ _ => True)) ∧
    (∀ (d : Delivery CommentImport) t₀, Triple (fun w => w.db.stagingComments = t₀)
      (stageAll (processComment cfg k) (StagingRepository.createStagingComments k) d)
      (fun s w => Appended k t₀ w.db.stagingComments
          (d.calls.map (stagingRowOf validateCommentImport stageCommentFields CommentFields.empty k)) ∧
        s.totalRows = d.calls.length) (fun _ _ => True)) := by
  have wrapped : ∀ {F : Type} (slot : StagingSlot F) (msg : String),
      Appends slot k fun b => Op.wrap msg (StagingRepository.createStaging slot k b) :=
    fun slot _ _ _ _ hk => Triple.wrap _ (createStaging_appends slot hk)
  refine ⟨fun d _ => ?_, fun d _ => ?_, fun d _ => ?_⟩
  · exact stageAll_stages usersSlot (stagingRowOf_jobId _ _ _)
      (fun s _ hk => processRecord_stages usersSlot (wrapped _ _) s hk) (wrapped _ _) d
  · exact stageAll_stages articlesSlot (stagingRowOf_jobId _ _ _)
      (fun s _ hk => processRecord_stages articlesSlot (wrapped _ _) s hk) (wrapped _ _) d
  · have plain : Appends commentsSlot k (StagingRepository.createStagingComments k) :=
      fun _ _ _ hk => createStaging_appends commentsSlot hk
    exact stageAll_stages commentsSlot (stagingRowOf_jobId _ _ _)
      (fun s _ hk => processRecord_stages commentsSlot plain s hk) plain d

/-! ## A value too long for its column -/

/-- A role of 51 characters. -/
def longRole : String := String.mk (List.replicate 51 'x')

/-- A users CSV upload whose one row has that role. -/
def longRoleUpload : ImportFile :=
  ⟨"uploads/users.csv", ⟨.ok ["email", "name", "role"], [some ["a@b.co", "Alice", longRole]]⟩,
    ⟨[], none⟩⟩

/-- The job of that upload. -/
def longRoleJob : Job := importJobOf (Uuid.ofSeed 100) .users "uploads/users.csv" ""

/-- The validator flags the row's role, a per-row finding; staging the row fails the job, with
the database's error for the 50-character `role` column. -/
theorem long_role_fails_job :
    (validateUserImport 2 (parseUserRecord ["email", "name", "role"] ["a@b.co", "Alice", longRole])).map
      (·.code) = [ErrCode.invalidRole] ∧
    (processUsersImport ImportConfig.default longRoleJob longRoleUpload
      (World.start { Db.empty with jobs := [longRoleJob] } fun _ => none)).1 =
      .error "failed to create staging users: pq: value too long for type character varying(50)" := by
  decide

end BulkImport
