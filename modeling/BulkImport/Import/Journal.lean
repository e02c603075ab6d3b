import BulkImport.Control.Worker
import BulkImport.Import.PipelineSpec

/-!
# The error journal

What reaches `job_errors`: `recordValidationErrors` journals the findings of the validators in
phase 1, page by page, and nothing else. A record the parser could not read, a duplicate, a row
with a broken foreign key and a row that fails to convert are marked on their staging row, which
`CleanupStaging*` deletes, and leave no entry.
-/

namespace BulkImport

/-! ## Events -/

/-- An event of a run that journals the row numbers `bad`: an upsert into the resource's table
writes no row number of `bad`, and a page of the journal holds only row numbers of `bad`. -/
def JournalSound (res : ResourceType) (bad : List Nat) (ev : Event) : Prop :=
  (ev.stmt = .createBatch res → ∀ n ∈ ev.rows, n ∉ bad) ∧
    (ev.stmt = .addErrors → ∀ n ∈ ev.rows, n ∈ bad)

/-- An event of a statement that is neither an upsert into the resource's table nor a page of the
journal is sound. -/
theorem journalSound_of_ne {res : ResourceType} {bad : List Nat} (stmt : Stmt)
    (h₁ : stmt ≠ .createBatch res) (h₂ : stmt ≠ .addErrors) (rows : List Nat) (b : Bool)
    (js : List Job) : JournalSound res bad ⟨stmt, rows, b, js⟩ :=
  ⟨fun h => absurd h h₁, fun h => absurd h h₂⟩

/-! ## The statements -/

section Statements

variable {F : Type} (slot : StagingSlot F) {res : ResourceType} {bad : List Nat} {k : Uuid}
  {Φ : List (StagingRow F) → Prop}

/-- A write to the job's row keeps the staging table and logs a sound event. -/
theorem updateWith_journal (stmt : Stmt) (h₁ : stmt ≠ .createBatch res) (h₂ : stmt ≠ .addErrors)
    (id : Uuid) (g : Job → Job) :
    Keeps (fun db => Φ (slot.get db).rows) (JournalSound res bad)
      (JobRepository.updateWith stmt id g) :=
  Keeps.call_rule (fun db _ _ hj h => by
    obtain ⟨js, -, he⟩ := except_map_eq_ok.mp h
    cases he
    rwa [slot.get_jobs]) fun _ _ _ => journalSound_of_ne stmt h₁ h₂ _ _ _

/-- `UpdateProgress` keeps the staging table and logs a sound event. -/
theorem updateProgress_journal (id : Uuid) (p s f : Int) :
    Keeps (fun db => Φ (slot.get db).rows) (JournalSound res bad)
      (JobRepository.updateProgress id p s f) :=
  updateWith_journal slot .updateProgress (by nofun) (by nofun) _ _

/-- `SetTotalRecords` keeps the staging table and logs a sound event. -/
theorem setTotalRecords_journal (id : Uuid) (t : Int) :
    Keeps (fun db => Φ (slot.get db).rows) (JournalSound res bad)
      (JobRepository.setTotalRecords id t) :=
  updateWith_journal slot .setTotalRecords (by nofun) (by nofun) _ _

/-- A page of the journal whose row numbers are all in `bad`. -/
theorem addErrors_journal {page : List JobError} (hp : ∀ e ∈ page, e.rowNumber ∈ bad) :
    Keeps (fun db => Φ (slot.get db).rows) (JournalSound res bad) (JobRepository.addErrors page) :=
  Keeps.ite_rule (Keeps.pure_rule _) (Keeps.call_rule (fun db _ _ hj h => by
    obtain ⟨es, -, he⟩ := except_map_eq_ok.mp h
    cases he
    rwa [slot.get_jobErrors]) fun _ _ _ => ⟨nofun, fun _ n hn => by
      obtain ⟨e, he, rfl⟩ := List.mem_map.mp hn
      exact hp e he⟩)

/-- Pages whose row numbers are all in `bad`, journalled one after the other. -/
theorem addPages_journal : ∀ {ps : List (List JobError)}, (∀ p ∈ ps, ∀ e ∈ p, e.rowNumber ∈ bad) →
    Keeps (fun db => Φ (slot.get db).rows) (JournalSound res bad) (addPages ps)
  | [], _ => Keeps.pure_rule _
  | p :: _, h => (addErrors_journal slot (h p (List.mem_cons_self _ _))).attempt.bind fun _ =>
      addPages_journal fun q hq => h q (List.mem_cons_of_mem _ hq)

/-- Every entry of every page is an entry of the list paged. -/
theorem mem_pages {α : Type} (size : Nat) :
    ∀ {page xs : List α} {p : List α}, p ∈ pages size page xs → ∀ x ∈ p, x ∈ page ++ xs
  | page, [], p, hp, x, hx => by
    simp only [pages] at hp
    split_ifs at hp
    · cases hp
    · rw [List.mem_singleton.mp hp] at hx; exact List.mem_append_left _ hx
  | page, y :: ys, p, hp, x, hx => by
    simp only [pages] at hp
    split_ifs at hp
    · rcases List.mem_cons.mp hp with rfl | hp
      · rcases List.mem_append.mp hx with h | h
        · exact List.mem_append_left _ h
        · exact List.mem_append_right _ (List.mem_cons.mpr (.inl (List.mem_singleton.mp h)))
      · exact List.mem_append_right _ (List.mem_cons_of_mem _ (by simpa using mem_pages size hp x hx))
    · simpa using mem_pages size hp x hx

/-- `recordValidationErrors` of findings whose row numbers are all in `bad` logs only sound
events. -/
theorem recordValidationErrors_journal (size : Nat) {errs : List ValidationError}
    (he : ∀ e ∈ errs, e.rowNumber ∈ bad) :
    Keeps (fun db => Φ (slot.get db).rows) (JournalSound res bad)
      (recordValidationErrors size k errs) :=
  Keeps.ite_rule (Keeps.pure_rule _) (addPages_journal slot fun _ hp e hep => by
    obtain ⟨e₀, he₀, rfl⟩ := List.mem_map.mp (by simpa using mem_pages size hp e hep)
    exact he e₀ he₀)

/-- `CleanupStaging*` leaves the table tidy: the job's rows are gone. -/
theorem cleanupStaging_journal :
    Keeps (fun db => Tidy bad k (slot.get db).rows) (JournalSound res bad)
      (StagingRepository.cleanupStaging slot k) :=
  Keeps.call_rule (fun db _ _ _ h => by cases h; rw [slot.get_set]; exact tidy_cleanup _)
    fun _ _ _ => journalSound_of_ne (.cleanupStaging slot.res) (by nofun) (by nofun) _ _ _

/-! ## Phase 2 and the promote query -/

/-- A marking statement that rewrites rows in place keeps the table tidy and upserts nothing. -/
theorem mark_journal (stmt : Stmt) (h₁ : stmt ≠ .createBatch res) (h₂ : stmt ≠ .addErrors)
    {f : Db → List (StagingRow F) → List (StagingRow F) × Nat} (hf : ∀ db, RewritesInPlace (f db)) :
    Keeps (fun db => Tidy bad k (slot.get db).rows) (JournalSound res bad)
      (StagingRepository.mark slot stmt f) :=
  Keeps.call_rule (fun db _ _ hj h => by
    cases h
    obtain ⟨g, hg, he⟩ := hf db (slot.get db).rows
    rw [slot.get_set]
    dsimp only
    rw [he]
    exact hj.map hg) fun _ _ _ => journalSound_of_ne stmt h₁ h₂ _ _ _

/-- A cursor over rows that all satisfy `p` hands the callback only such rows. -/
theorem cursorLoop_keeps {Rw σ : Type} {J : Db → Prop} {V : Event → Prop} {p : Rw → Prop}
    {fetch : Stmt} {size : Nat} {callback : σ → List Rw → Op σ}
    (hv : ∀ db b, J db → V ⟨fetch, [], b, db.jobs⟩)
    (hcb : ∀ acc b, (∀ r ∈ b, p r) → Keeps J V (callback acc b)) :
    ∀ acc batch rows, (∀ r ∈ batch, p r) → (∀ r ∈ rows, p r) →
      Keeps J V (cursorLoop fetch size callback acc batch rows)
  | acc, batch, [], hb, _ => by
    simp only [cursorLoop]
    exact Keeps.ite_rule (Keeps.pure_rule _) (hcb _ _ hb)
  | acc, batch, r :: rs, hb, hr => by
    simp only [cursorLoop]
    obtain ⟨hr₀, hrs⟩ := List.forall_mem_cons.mp hr
    have hb' : ∀ x ∈ batch ++ [r], p x := fun x hx =>
      (List.mem_append.mp hx).elim (hb x) fun hx => List.mem_singleton.mp hx ▸ hr₀
    refine (Keeps.call_rule (fun _ _ _ hj h => by cases h; exact hj) hv).attempt.bind fun res => ?_
    rcases res with e | ⟨⟩ <;> dsimp only
    · exact Keeps.ite_rule ((Keeps.pure_rule _).bind fun _ => Keeps.fail_rule e)
        ((hcb _ _ hb).bind fun _ => Keeps.fail_rule e)
    · exact Keeps.ite_rule ((hcb _ _ hb').bind fun _ => cursorLoop_keeps hv hcb _ _ rs nofun hrs)
        (cursorLoop_keeps hv hcb _ _ rs hb' hrs)

/-- The query of `GetValidStaging*` over a tidy table returns rows whose valid ones carry no row
number of `bad`. -/
theorem validStaging_journal :
    KeepsWith (fun db => Tidy bad k (slot.get db).rows) (JournalSound res bad)
      (call (.getValidStaging slot.res) [] fun db => .ok (validStaging k (slot.get db).rows, db))
      (RowsSound bad) := fun _ =>
  Triple.call_rule (fun w _ _ hw _ h => by
      cases h
      refine ⟨⟨hw.1, hw.2.snoc (journalSound_of_ne _ (by nofun) (by nofun) _ _ _)⟩, fun r hr => ?_⟩
      obtain ⟨hm, hk, -⟩ := mem_validStaging hr
      exact hw.1.2 r (List.mem_append_left _ (List.mem_filter.mpr ⟨hm, by simpa using hk⟩)))
    fun _ _ hw _ => ⟨hw.1, hw.2.snoc (journalSound_of_ne _ (by nofun) (by nofun) _ _ _)⟩

/-- `GetValidStaging*` over a tidy table, with a callback that keeps the table tidy on batches
whose valid rows carry no row number of `bad`. -/
theorem getValidStaging_journal {σ : Type} (size : Nat) {callback : σ → List (StagingRow F) → Op σ}
    (hcb : ∀ acc b, RowsSound bad b →
      Keeps (fun db => Tidy bad k (slot.get db).rows) (JournalSound res bad) (callback acc b))
    (acc : σ) :
    Keeps (fun db => Tidy bad k (slot.get db).rows) (JournalSound res bad)
      (StagingRepository.getValidStaging slot k size callback acc) :=
  Keeps.bind_with (validStaging_journal slot) fun rows hrows =>
    cursorLoop_keeps (fun _ _ _ => journalSound_of_ne _ (by nofun) (by nofun) _ _ _) hcb _ _ _
      nofun hrows

end Statements

/-! ## The upserts -/

section Upserts

variable {bad : List Nat} {k : Uuid} {rows : List Nat}

/-- The upsert of users built from rows none of whose numbers is in `bad`. -/
theorem UserRepository.createBatch_journal (hrows : ∀ n ∈ rows, n ∉ bad) (users : List User) :
    Keeps (fun db => Tidy bad k (usersSlot.get db).rows) (JournalSound .users bad)
      (UserRepository.createBatch rows users) :=
  Keeps.ite_rule (Keeps.pure_rule _) (Keeps.now_rule.bind fun t =>
    (UserRepository.fill_quiet t users).keeps.bind fun _ => Keeps.call_rule (fun _ _ _ hj h => by
      obtain ⟨_, -, he⟩ := except_map_eq_ok.mp h
      cases he
      exact hj) fun _ _ _ => ⟨fun _ => hrows, by nofun⟩)

/-- The upsert of articles built from rows none of whose numbers is in `bad`. -/
theorem ArticleRepository.createBatch_journal (hrows : ∀ n ∈ rows, n ∉ bad)
    (articles : List Article) :
    Keeps (fun db => Tidy bad k (articlesSlot.get db).rows) (JournalSound .articles bad)
      (ArticleRepository.createBatch rows articles) :=
  Keeps.ite_rule (Keeps.pure_rule _) (Keeps.now_rule.bind fun t =>
    (ArticleRepository.fill_quiet t articles).keeps.bind fun _ => Keeps.call_rule (fun _ _ _ hj h => by
      obtain ⟨_, -, he⟩ := except_map_eq_ok.mp h
      cases he
      exact hj) fun _ _ _ => ⟨fun _ => hrows, by nofun⟩)

/-- The upsert of comments built from rows none of whose numbers is in `bad`. -/
theorem CommentRepository.createBatch_journal (hrows : ∀ n ∈ rows, n ∉ bad)
    (comments : List Comment) :
    Keeps (fun db => Tidy bad k (commentsSlot.get db).rows) (JournalSound .comments bad)
      (CommentRepository.createBatch rows comments) :=
  Keeps.ite_rule (Keeps.pure_rule _) (Keeps.now_rule.bind fun t =>
    (CommentRepository.fill_quiet t comments).keeps.bind fun _ => Keeps.call_rule (fun _ _ _ hj h => by
      obtain ⟨_, -, he⟩ := except_map_eq_ok.mp h
      cases he
      exact hj) fun _ _ _ => ⟨fun _ => hrows, by nofun⟩)

end Upserts

section Promote

variable {F E : Type} {J : Db → Prop} {res : ResourceType} {bad : List Nat}

/-- The promote callback on a batch whose valid rows carry no row number of `bad`: an upsert it
sends names only row numbers of valid rows of the batch. -/
theorem promoteBatch_journal {convert : StagingRow F → Op (Except String E)}
    {createBatch : List Nat → List E → Op Nat} (hc : ∀ r, Quiet (convert r))
    (hb : ∀ rows es, (∀ n ∈ rows, n ∉ bad) → Keeps J (JournalSound res bad) (createBatch rows es))
    (successful : Nat) {batch : List (StagingRow F)} (hbatch : RowsSound bad batch) :
    Keeps J (JournalSound res bad) (promoteBatch convert createBatch successful batch) :=
  Keeps.bind_with (KeepsWith.of_quiet (convertBatch_quiet hc batch) (convertBatch_kept convert batch))
    fun kept hk => Keeps.ite_rule (Keeps.pure_rule _) ((hb _ _ fun n hn => by
      obtain ⟨x, hx, rfl⟩ := List.mem_map.mp hn
      obtain ⟨r, hr, hn, hv, -⟩ := hk x hx
      exact hn ▸ hbatch r hr hv).bind fun _ => Keeps.pure_rule _)

end Promote

section Phase1

variable {F Rec : Type} (slot : StagingSlot F) {res : ResourceType} {bad : List Nat} {k : Uuid}

/-- A delivery as the validator judges it against the row numbers `bad`: the findings of a record
are about rows of `bad`, and a record without findings is on no row of `bad`. -/
def Judged (validate : Nat → Rec → List ValidationError) (bad : List Nat) : Nat × Option Rec → Prop
  | (_, none) => True
  | (n, some r) => (∀ e ∈ validate n r, e.rowNumber ∈ bad) ∧ (validate n r = [] → n ∉ bad)

/-- The insert of a batch of job `k`: a success moves the batch into the table, a failure leaves
the table as it was. -/
theorem createStaging_staged (batch : List (StagingRow F)) (next : List Nat) (base : List Event) :
    Triple (Holds (fun db => Staged bad k batch next (slot.get db).rows) (JournalSound res bad) base)
      (StagingRepository.createStaging slot k batch)
      (fun _ => Holds (fun db => Staged bad k [] next (slot.get db).rows) (JournalSound res bad) base)
      (fun _ => Holds (fun db => Tidy bad k (slot.get db).rows) (JournalSound res bad) base) := by
  refine Triple.ite_rule (fun he w hw => ?_) fun _ => Triple.call_rule (fun w _ _ hw _ h => ?_)
    fun w _ hw _ => ⟨hw.1.tidy, hw.2.snoc (journalSound_of_ne _ (by nofun) (by nofun) _ _ _)⟩
  · rw [List.isEmpty_iff.mp he] at hw
    exact hw
  · obtain ⟨t, ht, he⟩ := except_map_eq_ok.mp h
    cases he
    refine ⟨?_, hw.2.snoc (journalSound_of_ne _ (by nofun) (by nofun) _ _ _)⟩
    show Staged bad k [] next (slot.get (slot.set t w.db)).rows
    rw [slot.get_set]
    exact hw.1.insert (insertStaging_ok ht)

/-- One delivery of phase 1: the record is staged behind the batch, and a full batch moves into the
table. -/
theorem processRecord_staged {validate : Nat → Rec → List ValidationError} {stage : Rec → F}
    {empty : F} {insert : List (StagingRow F) → Op Unit} {size : Nat}
    (hins : ∀ batch next base, Triple
      (Holds (fun db => Staged bad k batch next (slot.get db).rows) (JournalSound res bad) base)
      (insert batch)
      (fun _ => Holds (fun db => Staged bad k [] next (slot.get db).rows) (JournalSound res bad) base)
      (fun _ => Holds (fun db => Tidy bad k (slot.get db).rows) (JournalSound res bad) base))
    (s : Phase1 F) (hs : ∀ e ∈ s.errors, e.rowNumber ∈ bad) (c : Nat × Option Rec)
    (hc : Judged validate bad c) (next : List Nat) (base : List Event) :
    Triple (Holds (fun db => Staged bad k s.batch (c.1 :: next) (slot.get db).rows)
        (JournalSound res bad) base)
      (processRecord validate stage empty insert size k s c)
      (fun s' w => Holds (fun db => Staged bad k s'.batch next (slot.get db).rows)
        (JournalSound res bad) base w ∧ ∀ e ∈ s'.errors, e.rowNumber ∈ bad)
      (fun _ => Holds (fun db => Tidy bad k (slot.get db).rows) (JournalSound res bad) base) := by
  rcases c with ⟨n, _ | r⟩
  · exact fun w hw => ⟨⟨hw.1.snoc fun h => by simp [parseErrorRow] at h, hw.2⟩, hs⟩
  · have hs' : ∀ e ∈ s.errors ++ validate n r, e.rowNumber ∈ bad := fun e he =>
      (List.mem_append.mp he).elim (hs e) (hc.1 e)
    refine Triple.conseq ?_ (fun w hw => (⟨hw.1.snoc fun h => hc.2 (List.isEmpty_iff.mp h), hw.2⟩ :
      Holds (fun db => Staged bad k (s.batch ++ [stagedRow k n (stage r) (validate n r)]) next
        (slot.get db).rows) (JournalSound res bad) base w)) (fun _ _ h => h) (fun _ _ h => h)
    refine Triple.ite_rule (fun _ => (hins _ next base).bind fun _ => ?_) fun _ w hw => ⟨hw, hs'⟩
    refine (Triple.attempt_inv (updateProgress_journal slot _ _ _ _ base)).bind fun _ => ?_
    exact fun w hw => ⟨hw, hs'⟩

/-- The parse loop, from one step that stages each delivery: after the last delivery every row is
staged and every finding collected is in `bad`. -/
theorem parseLoop_staged {ok : Nat × Option Rec → Prop}
    {step : Phase1 F → Nat × Option Rec → Op (Phase1 F)}
    (hstep : ∀ s, (∀ e ∈ s.errors, e.rowNumber ∈ bad) → ∀ c, ok c → ∀ next base, Triple
      (Holds (fun db => Staged bad k s.batch (c.1 :: next) (slot.get db).rows) (JournalSound res bad)
        base)
      (step s c)
      (fun s' w => Holds (fun db => Staged bad k s'.batch next (slot.get db).rows)
        (JournalSound res bad) base w ∧ ∀ e ∈ s'.errors, e.rowNumber ∈ bad)
      (fun _ => Holds (fun db => Tidy bad k (slot.get db).rows) (JournalSound res bad) base))
    (base : List Event) :
    ∀ cs s, (∀ e ∈ s.errors, e.rowNumber ∈ bad) → (∀ c ∈ cs, ok c) → Triple
      (Holds (fun db => Staged bad k s.batch (cs.map (·.1)) (slot.get db).rows)
        (JournalSound res bad) base)
      (parseLoop step s cs)
      (fun s' w => Holds (fun db => Staged bad k s'.batch [] (slot.get db).rows)
        (JournalSound res bad) base w ∧ ∀ e ∈ s'.errors, e.rowNumber ∈ bad)
      (fun _ => Holds (fun db => Tidy bad k (slot.get db).rows) (JournalSound res bad) base)
  | [], _, hs, _ => fun _ hw => ⟨hw, hs⟩
  | c :: cs, s, hs, hc => (hstep s hs c (hc c (List.mem_cons_self _ _)) _ base).bind fun s' w hw =>
      parseLoop_staged hstep base cs s' hw.2 (fun c' h => hc c' (List.mem_cons_of_mem _ h)) w hw.1

/-- A table with no row of the job, with no batch pending, is staged for all the rows of a delivery
whose row numbers strictly increase. -/
theorem staged_of_fresh {rows : List (StagingRow F)} (h : jobRows k rows = []) {d : Delivery Rec}
    (hd : d.Ordered) : Staged bad k [] (d.calls.map (·.1)) rows :=
  ⟨by simpa [h] using hd, by simp [h, RowsSound]⟩

/-- Phase 1 over a delivery whose row numbers strictly increase, from a table with no row of the
job: the table it leaves is tidy, and every finding it collects is about a row of `bad`. -/
theorem stageAll_staged {ok : Nat × Option Rec → Prop}
    {step : Phase1 F → Nat × Option Rec → Op (Phase1 F)} {insert : List (StagingRow F) → Op Unit}
    (hstep : ∀ s, (∀ e ∈ s.errors, e.rowNumber ∈ bad) → ∀ c, ok c → ∀ next base, Triple
      (Holds (fun db => Staged bad k s.batch (c.1 :: next) (slot.get db).rows) (JournalSound res bad)
        base)
      (step s c)
      (fun s' w => Holds (fun db => Staged bad k s'.batch next (slot.get db).rows)
        (JournalSound res bad) base w ∧ ∀ e ∈ s'.errors, e.rowNumber ∈ bad)
      (fun _ => Holds (fun db => Tidy bad k (slot.get db).rows) (JournalSound res bad) base))
    (hins : ∀ batch next base, Triple
      (Holds (fun db => Staged bad k batch next (slot.get db).rows) (JournalSound res bad) base)
      (insert batch)
      (fun _ => Holds (fun db => Staged bad k [] next (slot.get db).rows) (JournalSound res bad) base)
      (fun _ => Holds (fun db => Tidy bad k (slot.get db).rows) (JournalSound res bad) base))
    {d : Delivery Rec} (hord : d.Ordered) (hd : ∀ c ∈ d.calls, ok c) (base : List Event) :
    Triple (Holds (fun db => jobRows k (slot.get db).rows = []) (JournalSound res bad) base)
      (stageAll step insert d)
      (fun s w => Holds (fun db => Tidy bad k (slot.get db).rows) (JournalSound res bad) base w ∧
        ∀ e ∈ s.errors, e.rowNumber ∈ bad)
      (fun _ => Holds (fun db => Tidy bad k (slot.get db).rows) (JournalSound res bad) base) := by
  refine ((parseLoop_staged slot hstep base d.calls Phase1.init nofun hd).conseq
    (fun w hw => ⟨staged_of_fresh hw.1 hord, hw.2⟩) (fun _ _ h => h) (fun _ _ h => h)).bind fun s =>
    Triple.of_hyp fun hs => ?_
  rcases d.err with _ | e <;> dsimp only
  · refine Triple.ite_rule (fun _ => (hins _ [] base).bind fun _ w hw => ⟨hw, hs⟩) fun h w hw => ?_
    rw [Bool.not_eq_true', Bool.not_eq_false, List.isEmpty_iff] at h
    rw [h] at hw
    exact ⟨hw, hs⟩
  · exact fun _ hw => ⟨hw.1.tidy, hw.2⟩

end Phase1

/-! ## The findings of a file -/

section Findings

variable {Rec : Type} (validate : Nat → Rec → List ValidationError)

/-- The validator's findings over a delivery, in order: what phase 1 collects. -/
def findings : List (Nat × Option Rec) → List ValidationError
  | [] => []
  | (_, none) :: cs => findings cs
  | (n, some r) :: cs => validate n r ++ findings cs

/-- A finding of a delivery is a finding of one of its records. -/
theorem mem_findings {e : ValidationError} :
    ∀ {cs : List (Nat × Option Rec)}, e ∈ findings validate cs ↔ ∃ n r, (n, some r) ∈ cs ∧ e ∈ validate n r
  | [] => by simp [findings]
  | (_, none) :: cs => by simp [findings, mem_findings]
  | (n, some r) :: cs => by simp [findings, mem_findings, or_and_right, exists_or, and_assoc]

/-- Against the row numbers of its own findings, each delivery of a parse whose row numbers are
distinct is judged: a finding carries its record's row, and no other record is on that row. -/
theorem judged_findings (hrow : ∀ n r, ∀ e ∈ validate n r, e.rowNumber = n)
    {cs : List (Nat × Option Rec)} (hd : (cs.map (·.1)).Nodup) :
    ∀ c ∈ cs, Judged validate ((findings validate cs).map (·.rowNumber)) c
  | (_, none), _ => trivial
  | (n, some r), hc => by
    refine ⟨fun e he => List.mem_map_of_mem _ ((mem_findings validate).mpr ⟨n, r, hc, he⟩),
      fun hnil hn => ?_⟩
    obtain ⟨e, he, hen⟩ := List.mem_map.mp hn
    obtain ⟨m, r', hm, he'⟩ := (mem_findings validate).mp he
    have hmn : m = n := (hrow m r' e he').symm.trans hen
    cases List.inj_on_of_nodup_map hd hm hc hmn
    simp [hnil] at he'

end Findings

/-! ## The pipelines -/

section Pipelines

variable {F Rec : Type} (slot : StagingSlot F) {res : ResourceType} {bad : List Nat} {k : Uuid}

/-- A table with no row of the job is tidy. -/
theorem tidy_of_fresh {rows : List (StagingRow F)} (h : jobRows k rows = []) : Tidy bad k rows :=
  ⟨by simp [h], by simp [h, RowsSound]⟩

/-- Opening a delivery: a parse that fails ends the run with a tidy table, one that succeeds goes
on with the table as it was. -/
theorem openDelivery_fresh (dd : Except String (Delivery Rec)) (csv : Bool) (base : List Event) :
    Triple (Holds (fun db => jobRows k (slot.get db).rows = []) (JournalSound res bad) base)
      (openDelivery dd csv)
      (fun d w => Holds (fun db => jobRows k (slot.get db).rows = []) (JournalSound res bad) base w ∧
        dd = .ok d)
      (fun _ => Holds (fun db => Tidy bad k (slot.get db).rows) (JournalSound res bad) base) := by
  rcases dd with e | d
  · exact fun _ hw => ⟨tidy_of_fresh hw.1, hw.2⟩
  · exact fun _ hw => ⟨hw, rfl⟩

/-- The end of phase 2: the journal of the findings, the cleanup and the last progress write. -/
theorem finish_journal (cfg : ImportConfig) (s : Phase1 F) (hs : ∀ e ∈ s.errors, e.rowNumber ∈ bad)
    (successful : Nat) :
    Keeps (fun db => Tidy bad k (slot.get db).rows) (JournalSound res bad)
      (finish cfg slot k s successful) :=
  (recordValidationErrors_journal slot _ hs).bind fun _ =>
    (cleanupStaging_journal slot).attempt.bind fun _ => (updateProgress_journal slot _ _ _ _).attempt

/-- The inserts of phase 1, as the pipelines wrap them. -/
theorem createStaging_wrap_staged (msg : String) (batch : List (StagingRow F)) (next : List Nat)
    (base : List Event) :
    Triple (Holds (fun db => Staged bad k batch next (slot.get db).rows) (JournalSound res bad) base)
      (Op.wrap msg (StagingRepository.createStaging slot k batch))
      (fun _ => Holds (fun db => Staged bad k [] next (slot.get db).rows) (JournalSound res bad) base)
      (fun _ => Holds (fun db => Tidy bad k (slot.get db).rows) (JournalSound res bad) base) :=
  Triple.wrap msg (createStaging_staged slot batch next base)

/-- `processUsersImport` from a table with no row of the job, against row numbers that judge each
delivery. -/
theorem processUsersImport_journal (cfg : ImportConfig) (job : Job) (file : ImportFile)
    (hbad : ∀ d, deliverUsers (job.filePath.getD "") file = .ok d →
      ∀ c ∈ d.calls, Judged validateUserImport bad c) (base : List Event) :
    Triple (Holds (fun db => jobRows job.id (usersSlot.get db).rows = []) (JournalSound .users bad) base)
      (processUsersImport cfg job file)
      (fun _ => Holds (fun db => Tidy bad job.id (usersSlot.get db).rows) (JournalSound .users bad) base)
      (fun _ => Holds (fun db => Tidy bad job.id (usersSlot.get db).rows) (JournalSound .users bad)
        base) := by
  refine (openDelivery_fresh usersSlot _ _ base).bind fun d => Triple.of_hyp fun hd => ?_
  refine (stageAll_staged usersSlot (fun s hs c hc next base => processRecord_staged usersSlot
    (createStaging_wrap_staged usersSlot _) s hs c hc next base)
    (createStaging_wrap_staged usersSlot _) (deliverUsers_ordered hd) (hbad d hd) base).bind fun s =>
    Triple.of_hyp fun hs => ?_
  exact ((setTotalRecords_journal usersSlot _ _).attempt.bind fun _ =>
    ((mark_journal usersSlot _ (by nofun) (by nofun) fun _ =>
      (marks_rewriteInPlace job.id [] []).1).wrap _).bind fun _ =>
    ((mark_journal usersSlot _ (by nofun) (by nofun) fun db =>
      (marks_rewriteInPlace job.id db.users []).2.1).wrap _).bind fun _ =>
    (getValidStaging_journal usersSlot _ (fun _ _ hb => promoteBatch_journal
      convertStagingToUser_quiet (fun _ _ hrows => (UserRepository.createBatch_journal hrows _).wrap _)
      _ hb) 0).bind fun _ =>
    finish_journal usersSlot cfg s hs _) base

/-- `processArticlesImport` from a table with no row of the job, against row numbers that judge
each delivery. -/
theorem processArticlesImport_journal (cfg : ImportConfig) (job : Job) (file : ImportFile)
    (hbad : ∀ d, deliverArticles (job.filePath.getD "") file = .ok d →
      ∀ c ∈ d.calls, Judged validateArticleImport bad c) (base : List Event) :
    Triple (Holds (fun db => jobRows job.id (articlesSlot.get db).rows = []) (JournalSound .articles bad)
        base)
      (processArticlesImport cfg job file)
      (fun _ => Holds (fun db => Tidy bad job.id (articlesSlot.get db).rows)
        (JournalSound .articles bad) base)
      (fun _ => Holds (fun db => Tidy bad job.id (articlesSlot.get db).rows)
        (JournalSound .articles bad) base) := by
  refine (openDelivery_fresh articlesSlot _ _ base).bind fun d => Triple.of_hyp fun hd => ?_
  refine (stageAll_staged articlesSlot (fun s hs c hc next base => processRecord_staged articlesSlot
    (createStaging_wrap_staged articlesSlot _) s hs c hc next base)
    (createStaging_wrap_staged articlesSlot _) (deliverArticles_ordered hd) (hbad d hd) base).bind
    fun s => Triple.of_hyp fun hs => ?_
  exact ((setTotalRecords_journal articlesSlot _ _).attempt.bind fun _ =>
    (mark_journal articlesSlot _ (by nofun) (by nofun) fun _ =>
      (marks_rewriteInPlace job.id [] []).2.2.1).attempt.bind fun _ =>
    (mark_journal articlesSlot _ (by nofun) (by nofun) fun db =>
      (marks_rewriteInPlace job.id [] db.articles).2.2.2.1).attempt.bind fun _ =>
    (mark_journal articlesSlot _ (by nofun) (by nofun) fun db =>
      (marks_rewriteInPlace job.id db.users []).2.2.2.2.1).attempt.bind fun _ =>
    (getValidStaging_journal articlesSlot _ (fun _ _ hb => promoteBatch_journal
      convertStagingToArticle_quiet (fun _ _ hrows => ArticleRepository.createBatch_journal hrows _)
      _ hb) 0).bind fun _ =>
    finish_journal articlesSlot cfg s hs _) base

/-- `processCommentsImport` from a table with no row of the job, against row numbers that judge
each delivery. -/
theorem processCommentsImport_journal (cfg : ImportConfig) (job : Job) (file : ImportFile)
    (hbad : ∀ d, deliverComments (job.filePath.getD "") file = .ok d →
      ∀ c ∈ d.calls, Judged validateCommentImport bad c) (base : List Event) :
    Triple (Holds (fun db => jobRows job.id (commentsSlot.get db).rows = []) (JournalSound .comments bad)
        base)
      (processCommentsImport cfg job file)
      (fun _ => Holds (fun db => Tidy bad job.id (commentsSlot.get db).rows)
        (JournalSound .comments bad) base)
      (fun _ => Holds (fun db => Tidy bad job.id (commentsSlot.get db).rows)
        (JournalSound .comments bad) base) := by
  refine (openDelivery_fresh commentsSlot _ _ base).bind fun d => Triple.of_hyp fun hd => ?_
  refine (stageAll_staged commentsSlot (fun s hs c hc next base => processRecord_staged commentsSlot
    (createStaging_staged commentsSlot) s hs c hc next base)
    (createStaging_staged commentsSlot) (deliverComments_ordered hd) (hbad d hd) base).bind
    fun s => Triple.of_hyp fun hs => ?_
  exact ((setTotalRecords_journal commentsSlot _ _).attempt.bind fun _ =>
    (mark_journal commentsSlot _ (by nofun) (by nofun) fun _ =>
      (marks_rewriteInPlace job.id [] []).2.2.2.2.2.1).attempt.bind fun _ =>
    (mark_journal commentsSlot _ (by nofun) (by nofun) fun db =>
      (marks_rewriteInPlace job.id db.users db.articles).2.2.2.2.2.2).attempt.bind fun _ =>
    (getValidStaging_journal commentsSlot _ (fun _ _ hb => promoteBatch_journal
      convertStagingToComment_quiet (fun _ _ hrows => CommentRepository.createBatch_journal hrows _)
      _ hb) 0).bind fun _ =>
    finish_journal commentsSlot cfg s hs _) base

end Pipelines

/-! ## Soundness of the journal -/

/-- The row numbers of the rows of job `k` in the staging table of `res`, in the table's order. -/
def Db.stagingRows (db : Db) (res : ResourceType) (k : Uuid) : List Nat :=
  match res with
  | .users => (jobRows k db.stagingUsers.rows).map (·.rowNumber)
  | .articles => (jobRows k db.stagingArticles.rows).map (·.rowNumber)
  | .comments => (jobRows k db.stagingComments.rows).map (·.rowNumber)

section Sound

variable {F Rec : Type}

/-- The row numbers of the findings of a parse, none when the parse fails. -/
def badRows (validate : Nat → Rec → List ValidationError) : Except String (Delivery Rec) → List Nat
  | .ok d => (findings validate d.calls).map (·.rowNumber)
  | .error _ => []

/-- Every delivery of a parse whose row numbers increase is judged against the row numbers of its
findings, when each finding names its own row. -/
theorem judged_badRows {validate : Nat → Rec → List ValidationError}
    (hrow : ∀ n r, ∀ e ∈ validate n r, e.rowNumber = n) {dd : Except String (Delivery Rec)}
    (hord : ∀ d, dd = .ok d → d.Ordered) :
    ∀ d, dd = .ok d → ∀ c ∈ d.calls, Judged validate (badRows validate dd) c := by
  rintro d rfl
  exact judged_findings validate hrow ((hord d rfl).imp Nat.ne_of_lt)

/-- A pipeline run from a table with no row of the job, as a statement about the run. -/
theorem journal_of_triple {α : Type} (slot : StagingSlot F) {res : ResourceType} {bad : List Nat}
    {k : Uuid} {x : Op α} (h : ∀ base, Triple
      (Holds (fun db => jobRows k (slot.get db).rows = []) (JournalSound res bad) base) x
      (fun _ => Holds (fun db => Tidy bad k (slot.get db).rows) (JournalSound res bad) base)
      (fun _ => Holds (fun db => Tidy bad k (slot.get db).rows) (JournalSound res bad) base))
    {w : World} (hw : jobRows k (slot.get w.db).rows = []) :
    Logged (JournalSound res bad) w.log (x w).2.log ∧
      ((jobRows k (slot.get (x w).2.db).rows).map (·.rowNumber)).Nodup :=
  let h' := (h w.log).run_inv ⟨hw, [], by simp, by simp⟩
  ⟨h'.2, h'.1.nodup⟩

/-- An import run from a staging table with no row of its job: every event it logs is sound
against the findings of its file, and the job's staging rows keep distinct row numbers. -/
theorem processResource_journal (cfg : ImportConfig) (job : Job) (file : ImportFile) {w : World}
    (hfresh : w.db.stagingRows job.resource job.id = []) :
    ∃ bad, Logged (JournalSound job.resource bad) w.log (processResource cfg job file w).2.log ∧
      ((processResource cfg job file w).2.db.stagingRows job.resource job.id).Nodup := by
  unfold processResource
  rcases hres : job.resource <;> rw [hres] at hfresh <;> dsimp only
  · exact ⟨_, journal_of_triple usersSlot (processUsersImport_journal cfg job file
      (judged_badRows (fun _ _ _ => validateUserImport_row) fun _ => deliverUsers_ordered))
      (List.map_eq_nil_iff.mp hfresh)⟩
  · exact ⟨_, journal_of_triple articlesSlot (processArticlesImport_journal cfg job file
      (judged_badRows (fun _ _ _ => validateArticleImport_row) fun _ => deliverArticles_ordered))
      (List.map_eq_nil_iff.mp hfresh)⟩
  · exact ⟨_, journal_of_triple commentsSlot (processCommentsImport_journal cfg job file
      (judged_badRows (fun _ _ _ => validateCommentImport_row) fun _ => deliverComments_ordered))
      (List.map_eq_nil_iff.mp hfresh)⟩

end Sound

/-! ## A run, and the theorem -/

/-- A users NDJSON upload of one line that is not JSON. -/
def unparsedLineUpload : ImportFile :=
  ⟨"uploads/users.ndjson", ⟨.ok [], []⟩, ⟨[⟨8, none⟩], none⟩⟩

/-- The job of that upload. -/
def unparsedLineJob : Job := importJobOf (Uuid.ofSeed 100) .users "uploads/users.ndjson" ""

/-- `processUsersImport` of that job, from tables holding only its row, with no call failing. -/
def unparsedLineRun : Except String Unit × World :=
  processUsersImport ImportConfig.default unparsedLineJob unparsedLineUpload
    (World.start { Db.empty with jobs := [unparsedLineJob] } fun _ => none)

/-- The parser hands the line to the pipeline as row 1 without a record; the pipeline returns
`nil`, writes no user and journals nothing. -/
theorem unparsed_line_unjournaled :
    (deliverUsers "uploads/users.ndjson" unparsedLineUpload).map (·.calls.map (·.1)) = .ok [1] ∧
    unparsedLineRun.1 = .ok () ∧ unparsedLineRun.2.db.users = [] ∧
    unparsedLineRun.2.db.jobErrors = [] := by
  decide

/-- The journal is sound: in an import run of a job with no staging rows yet, no upsert names a
row number that a journal page names, and the job's staging rows keep distinct row numbers. Every
phase-2 statement rewrites the staging rows in place and never makes a row valid; the promote
query reads only the job's valid, non-duplicate rows, and the promote callback keeps only valid,
non-duplicate rows of its batch. -/
theorem journal_sound (cfg : ImportConfig) (job : Job) (file : ImportFile) (w : World)
    (hfresh : w.db.stagingRows job.resource job.id = []) :
    (∃ evs, (processResource cfg job file w).2.log = w.log ++ evs ∧
      (∀ ev ∈ evs, ∀ ev' ∈ evs, ev.stmt = .createBatch job.resource → ev'.stmt = .addErrors →
        ∀ n ∈ ev.rows, n ∉ ev'.rows) ∧
      ((processResource cfg job file w).2.db.stagingRows job.resource job.id).Nodup) ∧
    (∀ (k : Uuid) (users : List User) (articles : List Article),
      RewritesInPlace (markDuplicateUsersInBatch k) ∧
      RewritesInPlace (markDuplicateUsersAgainstExisting users k) ∧
      RewritesInPlace (markDuplicateArticlesInBatch k) ∧
      RewritesInPlace (markDuplicateArticlesAgainstExisting articles k) ∧
      RewritesInPlace (markInvalidAuthorFKArticles users k) ∧
      RewritesInPlace (markDuplicateCommentsInBatch k) ∧
      RewritesInPlace (markInvalidFKComments articles users k)) ∧
    (∀ {F : Type} (k : Uuid) (rows : List (StagingRow F)), ∀ r ∈ validStaging k rows,
      r.jobId = k ∧ r.isValid = true ∧ r.isDuplicate = false ∧ r.processed = false) ∧
    (∀ {F E : Type} (convert : StagingRow F → Op (Except String E)) (rows : List (StagingRow F))
      (w : World) (kept : List (Nat × E)), (convertBatch convert rows w).1 = .ok kept →
        KeptFrom rows kept) := by
  obtain ⟨bad, ⟨evs, hlog, hevs⟩, hnd⟩ := processResource_journal cfg job file hfresh
  refine ⟨⟨evs, hlog, fun ev hev ev' hev' hb ha n hn hn' =>
    (hevs ev hev).1 hb n hn ((hevs ev' hev').2 ha n hn'), hnd⟩, marks_rewriteInPlace,
    fun _ _ _ hr => (mem_validStaging hr).2, fun convert rows w kept h => ?_⟩
  have hk := convertBatch_kept convert rows w trivial
  generalize convertBatch convert rows w = r at hk h
  rcases r with ⟨_ | _, _⟩
  · cases h
  · cases h
    exact hk

/-- A users CSV upload of one accepted row and one row whose email is malformed. -/
def mixedUpload : ImportFile :=
  ⟨"uploads/users.csv", ⟨.ok ["email", "name", "role"],
    [some ["a@b.co", "Alice", "reader"], some ["alice", "Bob", "reader"]]⟩, ⟨[], none⟩⟩

/-- The job of that upload. -/
def mixedJob : Job := importJobOf (Uuid.ofSeed 100) .users "uploads/users.csv" ""

/-- Tables holding only the job's row, with no call failing. -/
def mixedWorld : World := World.start { Db.empty with jobs := [mixedJob] } fun _ => none

/-- The journal theorem on the run of that upload, which upserts row 2 and journals row 3. -/
theorem mixed_upload_journal_sound :
    mixedWorld.db.stagingRows mixedJob.resource mixedJob.id = [] ∧
    (∃ evs, (processResource ImportConfig.default mixedJob mixedUpload mixedWorld).2.log =
        mixedWorld.log ++ evs ∧
      (∀ ev ∈ evs, ∀ ev' ∈ evs, ev.stmt = .createBatch mixedJob.resource →
        ev'.stmt = .addErrors → ∀ n ∈ ev.rows, n ∉ ev'.rows) ∧
      ((processResource ImportConfig.default mixedJob mixedUpload mixedWorld).2.db.stagingRows
          mixedJob.resource mixedJob.id).Nodup) ∧
    ((processResource ImportConfig.default mixedJob mixedUpload mixedWorld).2.log.filter
        fun ev => ev.stmt = .createBatch .users ∨ ev.stmt = .addErrors).map (·.rows) = [[2], [3]] :=
  ⟨rfl, (journal_sound ImportConfig.default mixedJob mixedUpload mixedWorld rfl).1,
    by decide⟩

end BulkImport
