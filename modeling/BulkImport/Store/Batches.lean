import BulkImport.Export.Stream

/-!
# The batching loops

The cursors of `GetValidStagingUsers` (and its two siblings) and of `GetAllWithCursor` hand their
callback the rows in batches of the configured size, and `recordValidationErrors` hands
`AddErrors` its journal entries in slices of that size. Both cut a list as `pages` does: into
consecutive non-empty batches that concatenate to the list, all of the batch size but the last
(`pages_chunked`). The cursor loop hands its callback exactly those batches, in order: a callback
that records its batches runs as the plain one does and records `pages` (`cursorLoop_tagged`).
The paging loop of `recordValidationErrors`, written over its index as the source writes it
(`errorSlices`, which terminates since the batch size is positive), cuts the same slices
(`errorSlices_eq_pages`).
-/

namespace BulkImport

section Chunks

variable {α : Type}

/-- A cut of `rows` into batches of `size`: the batches concatenate to the rows, none is empty,
none is longer than `size`, and all but the last have exactly `size` rows. -/
structure Chunked (size : Nat) (rows : List α) (cs : List (List α)) : Prop where
  /-- The batches concatenate to the rows. -/
  flatten_eq : cs.flatten = rows
  /-- No batch is empty. -/
  ne_nil : ∀ c ∈ cs, c ≠ []
  /-- No batch is longer than `size`. -/
  length_le : ∀ c ∈ cs, c.length ≤ size
  /-- Every batch but the last has exactly `size` rows. -/
  length_eq : ∀ c ∈ cs.dropLast, c.length = size

/-- A partial page that the rows cannot fill is handed on whole, unless it is empty. -/
theorem pages_of_lt {size : Nat} : ∀ {page xs : List α}, page.length + xs.length < size →
    pages size page xs = if (page ++ xs).isEmpty then [] else [page ++ xs]
  | page, [], _ => by rw [pages, List.append_nil]
  | page, x :: xs, h => by
    have hlen : (page ++ [x]).length = page.length + 1 := by simp
    rw [List.length_cons] at h
    rw [pages, hlen, if_neg (by omega), pages_of_lt (by omega), List.append_assoc,
      List.singleton_append]

/-- A partial page that the rows can fill is handed on once it is full. -/
theorem pages_full {size : Nat} : ∀ {page xs : List α}, page.length < size →
    size ≤ page.length + xs.length →
    pages size page xs =
      (page ++ xs.take (size - page.length)) :: pages size [] (xs.drop (size - page.length))
  | page, [], h₁, h₂ => absurd h₂ (by simp; omega)
  | page, x :: xs, h₁, h₂ => by
    have hlen : (page ++ [x]).length = page.length + 1 := by simp
    rw [List.length_cons] at h₂
    rw [pages, hlen]
    by_cases hx : size ≤ page.length + 1
    · rw [if_pos hx, show size - page.length = 1 by omega]
      rfl
    · rw [if_neg hx, pages_full (by omega) (by omega), hlen,
        show size - page.length = size - (page.length + 1) + 1 by omega, List.take_succ_cons,
        List.drop_succ_cons, List.append_assoc, List.singleton_append]

/-- From an empty page, `pages` cuts a batch of `size` rows off the front. -/
theorem pages_nil_eq {size : Nat} (hsize : 0 < size) (xs : List α) :
    pages size [] xs = if xs.isEmpty then [] else xs.take size :: pages size [] (xs.drop size) := by
  by_cases hx : xs = []
  · subst hx; rfl
  rw [if_neg (by simpa using hx)]
  by_cases hlt : xs.length < size
  · rw [pages_of_lt (by simpa using hlt), List.take_of_length_le hlt.le,
      List.drop_of_length_le hlt.le]
    simp [hx, pages]
  · simpa using pages_full hsize (by simpa using not_lt.mp hlt)

/-- No rows are cut into no batches. -/
theorem Chunked.nil (size : Nat) : Chunked size ([] : List α) [] :=
  ⟨rfl, List.forall_mem_nil _, List.forall_mem_nil _, List.forall_mem_nil _⟩

/-- A batch in front of a cut: it must be non-empty, fit the size, and be full unless it is the
last. -/
theorem Chunked.cons {size : Nat} {c rows : List α} {cs : List (List α)}
    (h : Chunked size rows cs) (hc : c ≠ []) (hle : c.length ≤ size)
    (hfull : cs ≠ [] → c.length = size) : Chunked size (c ++ rows) (c :: cs) where
  flatten_eq := by rw [List.flatten_cons, h.flatten_eq]
  ne_nil := List.forall_mem_cons.mpr ⟨hc, h.ne_nil⟩
  length_le := List.forall_mem_cons.mpr ⟨hle, h.length_le⟩
  length_eq := by
    by_cases hcs : cs = []
    · subst hcs
      exact List.forall_mem_nil _
    · rw [List.dropLast_cons_of_ne_nil hcs]
      exact List.forall_mem_cons.mpr ⟨hfull hcs, h.length_eq⟩

/-- `pages` cuts the rows into batches of `size`. -/
theorem pages_chunked {size : Nat} (hsize : 0 < size) (xs : List α) :
    Chunked size xs (pages size [] xs) := by
  rw [pages_nil_eq hsize]
  split_ifs with hx
  · rw [List.isEmpty_iff.mp hx]
    exact .nil size
  replace hx : xs ≠ [] := by simpa using hx
  have hfull : pages size [] (xs.drop size) ≠ [] → (xs.take size).length = size := fun hp =>
    List.length_take_of_le (not_lt.mp fun hlt => hp (by rw [List.drop_of_length_le hlt.le]; rfl))
  have h := (pages_chunked hsize (xs.drop size)).cons (by simp [List.take_eq_nil_iff, hx]; omega)
    (List.length_take_le _ _) hfull
  rwa [List.take_append_drop] at h
termination_by xs.length
decreasing_by
  simp_wf
  have : xs.length ≠ 0 := fun h => hx (List.eq_nil_of_length_eq_zero h)
  omega

end Chunks

/-! ## The paging loop of the journal -/

/-- The paging loop of `recordValidationErrors` as the source writes it: for
`i = 0, B, 2B, …` below the length, the slice `jobErrors[i : min(i + B, n)]`. -/
def errorSlices {α : Type} (size : BatchSize) (l : List α) (i : Nat) : List (List α) :=
  if i < l.length then (l.drop i).take size.val :: errorSlices size l (i + size.val) else []
termination_by l.length - i
decreasing_by have := size.pos; omega

/-- The index loop cuts the same slices as `pages`. -/
theorem errorSlices_eq_pages {α : Type} (size : BatchSize) (l : List α) (i : Nat) :
    errorSlices size l i = pages size.val [] (l.drop i) := by
  rw [errorSlices, pages_nil_eq size.pos]
  by_cases hi : i < l.length
  · have hne : (l.drop i).isEmpty = false := by simp; omega
    rw [if_pos hi, if_neg (by simp [hne]), errorSlices_eq_pages size l (i + size.val),
      List.drop_drop]
  · rw [if_neg hi, List.drop_of_length_le (by omega)]
    rfl
termination_by l.length - i
decreasing_by have := size.pos; omega

/-- `recordValidationErrors` hands `AddErrors` the slices of the source's paging loop. -/
theorem recordValidationErrors_slices (size : BatchSize) (jobId : Uuid)
    (errs : List ValidationError) :
    recordValidationErrors size.val jobId errs =
      if errs.isEmpty then pure ()
      else addPages (errorSlices size (errs.map (ValidationError.toJobError jobId)) 0) := by
  rw [errorSlices_eq_pages, List.drop_zero]
  rfl

/-! ## The cursors -/

section Cursor

variable {R σ : Type}

/-- The callback, with a record of the batches it was handed. -/
def tagged (callback : σ → List R → Op σ) (sb : σ × List (List R)) (b : List R) :
    Op (σ × List (List R)) := do
  let s ← callback sb.1 b
  pure (s, sb.2 ++ [b])

/-- The recording callback followed by a failure is the callback followed by the failure. -/
theorem tagged_bind_fail {α : Type} (callback : σ → List R → Op σ) (sb : σ × List (List R))
    (b : List R) (e : String) :
    (tagged callback sb b >>= fun _ => (Op.fail e : Op α)) =
      callback sb.1 b >>= fun _ => Op.fail e := by
  rw [tagged, Op.bind_assoc]
  rfl

/-- The cursor loop hands its callback the batches of `pages`, in order: recording them changes
neither the run nor its world. -/
theorem cursorLoop_tagged (fetch : Stmt) (size : Nat) (callback : σ → List R → Op σ) :
    ∀ (acc : σ) (bs : List (List R)) (batch rows : List R),
      cursorLoop fetch size (tagged callback) (acc, bs) batch rows =
        (cursorLoop fetch size callback acc batch rows >>= fun s =>
          pure (s, bs ++ pages size batch rows))
  | acc, bs, batch, [] => by
    simp only [cursorLoop, pages]
    split_ifs
    · rw [Op.pure_bind, List.append_nil]
    · rw [tagged]
  | acc, bs, batch, r :: rs => by
    rw [cursorLoop, cursorLoop, Op.bind_assoc]
    congr 1
    funext res
    rcases res with e | ⟨⟩
    · dsimp only
      split_ifs
      · rfl
      · rw [tagged_bind_fail, Op.bind_assoc]
        rfl
    · dsimp only
      rw [pages]
      split_ifs
      · rw [tagged, Op.bind_assoc, Op.bind_assoc]
        congr 1
        funext s
        rw [Op.pure_bind, cursorLoop_tagged fetch size callback s _ [] rs]
        simp only [List.append_assoc, List.singleton_append]
      · exact cursorLoop_tagged fetch size callback acc bs _ rs

/-- A query, then its cursor: the batches handed to the callback are the pages of the rows the
query read. -/
theorem select_cursor_tagged (stmt fetch : Stmt) (rows : Db → List R) (size : Nat)
    (callback : σ → List R → Op σ) (acc : σ) (w : World) :
    (call stmt [] (fun db => .ok (rows db, db)) >>= fun rs =>
        cursorLoop fetch size (tagged callback) (acc, []) [] rs) w =
      ((call stmt [] (fun db => .ok (rows db, db)) >>= fun rs =>
        cursorLoop fetch size callback acc [] rs) >>= fun s =>
          pure (s, pages size [] (rows w.db))) w := by
  simp only [cursorLoop_tagged, List.nil_append, Op.bind_assoc, Op.bind_apply, call]
  cases w.fault w.calls <;> rfl

end Cursor

/-- The cursors of the staging tables and of the target tables hand their callback the rows they
read in consecutive batches of the batch size, and `recordValidationErrors` hands `AddErrors` the
slices of its index loop, which cover the journal entries once each. -/
theorem batching_loops_chunk_without_loss :
    (∀ {α : Type} (size : BatchSize) (rows : List α), Chunked size.val rows (pages size.val [] rows)) ∧
      (∀ {F σ : Type} (slot : StagingSlot F) (jobId : Uuid) (size : Nat)
          (callback : σ → List (StagingRow F) → Op σ) (acc : σ) (w : World),
          StagingRepository.getValidStaging slot jobId size (tagged callback) (acc, []) w =
            (StagingRepository.getValidStaging slot jobId size callback acc >>= fun s =>
              pure (s, pages size [] (validStaging jobId (slot.get w.db).rows))) w) ∧
      (∀ {E σ : Type} (res : ResourceType) (rows : Db → List E) (size : Nat)
          (callback : σ → List E → Op σ) (acc : σ) (w : World),
          getAllWithCursor res rows size (tagged callback) (acc, []) w =
            (getAllWithCursor res rows size callback acc >>= fun s =>
              pure (s, pages size [] (rows w.db))) w) ∧
      ∀ (size : BatchSize) (jobId : Uuid) (errs : List ValidationError),
        recordValidationErrors size.val jobId errs =
            (if errs.isEmpty then pure ()
            else addPages (errorSlices size (errs.map (ValidationError.toJobError jobId)) 0)) ∧
          Chunked size.val (errs.map (ValidationError.toJobError jobId))
            (errorSlices size (errs.map (ValidationError.toJobError jobId)) 0) :=
  ⟨fun size rows => pages_chunked size.pos rows,
    fun slot jobId size callback acc w => select_cursor_tagged _ _ _ size callback acc w,
    fun res rows size callback acc w => select_cursor_tagged _ _ rows size callback acc w,
    fun size jobId errs => ⟨recordValidationErrors_slices size jobId errs, by
      rw [errorSlices_eq_pages, List.drop_zero]; exact pages_chunked size.pos _⟩⟩

end BulkImport
