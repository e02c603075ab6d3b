import BulkImport.Control.Worker
import BulkImport.Store.Triple

/-!
# What the two export paths write

GET /v1/exports (`ExportHandler.StreamExport`, `part_004`) streams into the response the bytes of
`StreamJSON` for the format `json` and of `StreamUsers`, `StreamArticles` or `StreamComments`
for `ndjson`. POST /v1/exports (`CreateAsyncExport`) accepts the same two formats but does not
carry the format to the job: `ProcessAsyncExport` always writes NDJSON. Its filters come from
`parseFiltersFromMap`, which reads no `author_id`, `article_id` or `user_id`.

The bytes of each path are given by a pure fold over the rows the query selects, `emitAll` of
the stream's per-record writer, and each stream's run lemma says that in a world where no call
fails it appends exactly those bytes to its file: `cursorLoop_writing` covers the batches of
`GetAllWithCursor` once, for every writer. From them, the file of `ProcessAsyncExport` is
`ndjsonExport` of the job's resource (`processAsyncExport_writes`), the response of the GET is
`jsonExport` or `ndjsonExport` by its format (`streamExport_writes`), and the two NDJSON bodies
agree while a JSON body never equals an NDJSON one (`async_json_export_is_ndjson`).

`jsonExport` is the opening bracket, the records that marshal separated by a comma and a newline,
and the closing bracket (`jsonExport_eq`); `ndjsonExport` is one line per such record
(`ndjsonExport_eq`). The counts `ProcessAsyncExport` records on the job are its file's size over
200 (`async_export_counts_bytes`), not the number of those lines.
-/

namespace BulkImport

/-! ## The handlers' filters and the GET handler -/

/-- `ExportHandler.parseFilters`: the filters of GET /v1/exports from its query, `query k` being
`c.Query(k)`, empty for an absent key. A time or an id that does not parse sets no filter. -/
def parseFilters (query : String → String) : ExportFilters :=
  let opt (k : String) : Option String := if query k = "" then none else some (query k)
  { status := opt "status", role := opt "role",
    active := (opt "active").map fun a => toLower a == "true",
    createdAfter := (opt "created_after").bind parseRFC3339,
    createdBefore := (opt "created_before").bind parseRFC3339,
    authorId := (opt "author_id").bind Uuid.parse,
    articleId := (opt "article_id").bind Uuid.parse,
    userId := (opt "user_id").bind Uuid.parse }

/-- `ExportHandler.parseFiltersFromMap`: the filters of POST /v1/exports from the request's
`filters` object, `m k` being `m[k]`. A `nil` map gives `nil` filters, which the repositories
read as no filter at all. -/
def parseFiltersFromMap : Option (String → Option JVal) → ExportFilters
  | none => {}
  | some m =>
    let str (k : String) : Option String := match m k with
      | some (.str s) => some s
      | _ => none
    { status := str "status", role := str "role",
      active := match m "active" with
        | some (.bool b) => some b
        | _ => none,
      createdAfter := (str "created_after").bind parseRFC3339,
      createdBefore := (str "created_before").bind parseRFC3339 }

/-- The filters of POST /v1/exports never restrict the author, the article or the user. -/
theorem parseFiltersFromMap_no_ids (m : Option (String → Option JVal)) :
    (parseFiltersFromMap m).authorId = none ∧ (parseFiltersFromMap m).articleId = none ∧
      (parseFiltersFromMap m).userId = none := by
  cases m <;> exact ⟨rfl, rfl, rfl⟩

/-- `ExportHandler.StreamExport` from the parsed query on, into the response writer `w`, with
`format` as `c.DefaultQuery("format", "ndjson")` gives it: a format other than `ndjson` and
`json` is refused before anything is written, `json` is written by `StreamJSON`, `ndjson` by the
resource's stream, and a failed stream is only logged. -/
def streamExport (cfg : ExportConfig) (w : String) (resource : ResourceType) (format : String)
    (filters : ExportFilters) : Op Unit := do
  if format ≠ "ndjson" ∧ format ≠ "json" then pure ()
  else if format = "json" then
    let _ ← Op.attempt (streamJSON cfg w resource filters)
  else
    let _ ← Op.attempt <| match resource with
      | .users => streamUsers cfg w filters
      | .articles => streamArticles cfg w filters
      | .comments => streamComments cfg w filters

/-! ## The bytes of an export -/

section Bytes

variable {R σ : Type}

/-- The run of a writer that handles one record at a time: its state after the records, and the
bytes it wrote. -/
def emitAll (emit : σ → R → σ × List Char) : σ → List R → σ × List Char
  | s, [] => (s, [])
  | s, r :: rs => ((emitAll emit (emit s r).1 rs).1, (emit s r).2 ++ (emitAll emit (emit s r).1 rs).2)

/-- A writer's run over two lists of records is its run over the first, then over the second from
the state it ends in. -/
theorem emitAll_append (emit : σ → R → σ × List Char) : ∀ (s : σ) (a b : List R),
    emitAll emit s (a ++ b) =
      ((emitAll emit (emitAll emit s a).1 b).1,
        (emitAll emit s a).2 ++ (emitAll emit (emitAll emit s a).1 b).2)
  | s, [], b => by simp [emitAll]
  | s, r :: a, b => by simp [emitAll, emitAll_append emit _ a b]

end Bytes

/-- What `writeLines` does with one record: the record's line, when it marshals, and the count of
lines. -/
def lineEmit {E : Type} (marshal : E → Option JVal) (count : Nat) (e : E) : Nat × List Char :=
  match marshal e with
  | none => (count, [])
  | some v => (count + 1, render v ++ ['\n'])

/-- What `writeElements` does with one record: the separator unless it is the first, and the
record, when it marshals; and whether none was written yet. -/
def elementEmit {E : Type} (marshal : E → Option JVal) (first : Bool) (e : E) : Bool × List Char :=
  match marshal e with
  | none => (first, [])
  | some v => (false, (if first then [] else [',', '\n']) ++ render v)

/-- The bytes of the NDJSON export of a resource under the filters, over the tables of `db`. -/
def ndjsonExport (resource : ResourceType) (filters : ExportFilters) (db : Db) : List Char :=
  match resource with
  | .users => (emitAll (lineEmit userJson) 0 (selectUsers filters db)).2
  | .articles => (emitAll (lineEmit articleJson) 0 (selectArticles filters db)).2
  | .comments => (emitAll (lineEmit commentJson) 0 (selectComments filters db)).2

/-- The bytes of the JSON export of a resource under the filters, over the tables of `db`. -/
def jsonExport (resource : ResourceType) (filters : ExportFilters) (db : Db) : List Char :=
  ['[', '\n'] ++
    (match resource with
      | .users => (emitAll (elementEmit userJson) true (selectUsers filters db)).2
      | .articles => (emitAll (elementEmit articleJson) true (selectArticles filters db)).2
      | .comments => (emitAll (elementEmit commentJson) true (selectComments filters db)).2) ++
    ['\n', ']']

/-- The records of a JSON export as the spec lists them: the cursor's rows, in order, whose
marshalling succeeds. -/
def marshalledRows (resource : ResourceType) (filters : ExportFilters) (db : Db) : List JVal :=
  match resource with
  | .users => (selectUsers filters db).filterMap userJson
  | .articles => (selectArticles filters db).filterMap articleJson
  | .comments => (selectComments filters db).filterMap commentJson

/-- Once a record was written, `writeElements` puts the separator before each record. -/
theorem emitAll_elementEmit_false {E : Type} (marshal : E → Option JVal) : ∀ es : List E,
    (emitAll (elementEmit marshal) false es).2 =
      ((es.filterMap marshal).map fun v => [',', '\n'] ++ render v).flatten
  | [] => rfl
  | e :: es => by
    cases hm : marshal e <;>
      simp [emitAll, elementEmit, hm, List.filterMap_cons, emitAll_elementEmit_false marshal es]

/-- From the start, `writeElements` writes the records that marshal with a separator between
consecutive ones only. -/
theorem emitAll_elementEmit_true {E : Type} (marshal : E → Option JVal) : ∀ es : List E,
    (emitAll (elementEmit marshal) true es).2 =
      [',', '\n'].intercalate ((es.filterMap marshal).map render)
  | [] => rfl
  | e :: es => by
    cases hm : marshal e <;>
      simp [emitAll, elementEmit, hm, List.filterMap_cons, emitAll_elementEmit_true marshal es,
        emitAll_elementEmit_false, intercalate_cons_flatten, Function.comp_def]

/-- `writeLines` writes each record that marshals on a line of its own. -/
theorem emitAll_lineEmit {E : Type} (marshal : E → Option JVal) : ∀ (count : Nat) (es : List E),
    emitAll (lineEmit marshal) count es =
      (count + (es.filterMap marshal).length,
        ((es.filterMap marshal).map fun v => render v ++ ['\n']).flatten)
  | count, [] => rfl
  | count, e :: es => by
    cases hm : marshal e <;>
      simp [emitAll, lineEmit, hm, List.filterMap_cons, emitAll_lineEmit marshal _ es]
    omega

/-- The NDJSON export: each record that marshals, rendered on a line of its own. -/
theorem ndjsonExport_eq (resource : ResourceType) (filters : ExportFilters) (db : Db) :
    ndjsonExport resource filters db =
      ((marshalledRows resource filters db).map fun v => render v ++ ['\n']).flatten := by
  cases resource <;> simp only [ndjsonExport, marshalledRows, emitAll_lineEmit]

/-- The JSON export: the records that marshal, rendered and separated by commas, between
brackets. -/
theorem jsonExport_eq (resource : ResourceType) (filters : ExportFilters) (db : Db) :
    jsonExport resource filters db =
      ['[', '\n'] ++ [',', '\n'].intercalate ((marshalledRows resource filters db).map render) ++
        ['\n', ']'] := by
  cases resource <;> simp only [jsonExport, marshalledRows, emitAll_elementEmit_true]

/-! ## Runs of an export -/

/-- A world an export reads from: no call fails, and the target tables are those of `db₀`. -/
structure Reading (db₀ : Db) (w : World) : Prop where
  /-- No call fails. -/
  faultless : ∀ n, w.fault n = none
  /-- The `users` table of `db₀`. -/
  users : w.db.users = db₀.users
  /-- The `articles` table of `db₀`. -/
  articles : w.db.articles = db₀.articles
  /-- The `comments` table of `db₀`. -/
  comments : w.db.comments = db₀.comments

/-- A world an export writes in: it reads from `db₀`, and the file at `path` is the only one
there and holds `bytes`. -/
structure Writing (db₀ : Db) (path : String) (bytes : List Char) (w : World) extends
    Reading db₀ w : Prop where
  /-- The file at `path` is the only one there, and holds `bytes`. -/
  file : w.db.exports.filter (·.1 == path) = [(path, bytes)]

variable {db₀ : Db} {p : String} {B : List Char}

/-- A world with the same tables and faults reads from the same tables. -/
theorem Reading.of_db {w w' : World} (hw : Reading db₀ w) (hdb : w'.db = w.db)
    (hf : w'.fault = w.fault) : Reading db₀ w' :=
  ⟨hf ▸ hw.faultless, hdb ▸ hw.users, hdb ▸ hw.articles, hdb ▸ hw.comments⟩

/-- A world with the same tables and faults writes the same file. -/
theorem Writing.of_db {w w' : World} (hw : Writing db₀ p B w) (hdb : w'.db = w.db)
    (hf : w'.fault = w.fault) : Writing db₀ p B w' :=
  ⟨hw.toReading.of_db hdb hf, hdb ▸ hw.file⟩

/-- The file being written is among the export files. -/
theorem Writing.mem {w : World} (hw : Writing db₀ p B w) : (p, B) ∈ w.db.exports :=
  List.mem_of_mem_filter (hw.file ▸ List.mem_singleton_self _)

/-- Appending bytes to the files at path `p`, as seen at `p`. -/
theorem filter_append_at (bytes : List Char) (fs : List (String × List Char)) :
    (fs.map fun f => if f.1 == p then (f.1, f.2 ++ bytes) else f).filter (·.1 == p) =
      (fs.filter (·.1 == p)).map fun f => (f.1, f.2 ++ bytes) := by
  have hkey : ((·.1 == p) ∘ fun f : String × List Char =>
      if f.1 == p then (f.1, f.2 ++ bytes) else f) = (·.1 == p) := by
    funext f
    by_cases h : f.1 = p <;> simp [h]
  rw [List.filter_map, hkey]
  exact List.map_congr_left fun f hf => if_pos (List.of_mem_filter hf)

/-- A write to the file appends the bytes. -/
theorem writeFile_writing (bytes : List Char) :
    Triple (Writing db₀ p B) (writeFile p bytes) (fun _ => Writing db₀ p (B ++ bytes))
      (fun _ _ => False) := by
  have hany : ∀ {w : World}, Writing db₀ p B w → w.db.exports.any (·.1 == p) = true :=
    fun hw => List.any_eq_true.mpr ⟨_, hw.mem, by simp⟩
  refine Triple.call_rule (fun w a db hw _ h => ?_) fun w e hw h => ?_
  · rw [if_pos (hany hw)] at h
    cases h
    exact ⟨⟨hw.faultless, hw.users, hw.articles, hw.comments⟩,
      by rw [filter_append_at, hw.file]; rfl⟩
  · rcases h with h | ⟨-, h⟩
    · rw [hw.faultless] at h
      cases h
    · rw [if_pos (hany hw)] at h
      cases h

/-- A call whose statement leaves the target tables and the files alone keeps the state of an
export, whether it returns or fails. -/
theorem call_writing {α : Type} {stmt : Stmt} {rows : List Nat} {f : Db → Except String (α × Db)}
    (hf : ∀ db a db', f db = .ok (a, db') → db'.users = db.users ∧ db'.articles = db.articles ∧
      db'.comments = db.comments ∧ db'.exports = db.exports) :
    Triple (Writing db₀ p B) (call stmt rows f) (fun _ => Writing db₀ p B)
      (fun _ => Writing db₀ p B) :=
  Triple.call_rule (fun _ _ _ hw _ h =>
      let ⟨h₁, h₂, h₃, h₄⟩ := hf _ _ _ h
      ⟨⟨hw.faultless, h₁.trans hw.users, h₂.trans hw.articles, h₃.trans hw.comments⟩,
        h₄ ▸ hw.file⟩)
    fun _ _ hw _ => hw.of_db rfl rfl

/-- A call that cannot fail on its own returns in a world where no call fails. -/
theorem call_writing_ok {α : Type} {stmt : Stmt} {rows : List Nat} {f : Db → Except String (α × Db)}
    (hf : ∀ db, ∃ a, f db = .ok (a, db)) :
    Triple (Writing db₀ p B) (call stmt rows f) (fun _ => Writing db₀ p B) (fun _ _ => False) :=
  Triple.call_rule (fun _ _ _ hw _ h => by
      obtain ⟨a, ha⟩ := hf _
      rw [ha] at h
      cases h
      exact hw.of_db rfl rfl)
    fun w e hw h => by
      obtain ⟨a, ha⟩ := hf w.db
      rcases h with h | ⟨-, h⟩
      · rw [hw.faultless] at h
        cases h
      · rw [ha] at h
        cases h

section Loops

variable {R σ : Type} {emit : σ → R → σ × List Char}

/-- What a writer of records into the file at `p` does, from the state `s` over the records `b`:
it returns the state `emitAll` gives and appends its bytes. -/
def Emits (db₀ : Db) (p : String) (emit : σ → R → σ × List Char) (x : Op σ) (s : σ)
    (b : List R) : Prop :=
  ∀ B, Triple (Writing db₀ p B) x
    (fun s' w => s' = (emitAll emit s b).1 ∧ Writing db₀ p (B ++ (emitAll emit s b).2) w)
    (fun _ _ => False)

/-- The cursor of `GetAllWithCursor` hands its callback the rows in batches; a callback that
writes each batch as `emitAll` does writes all the rows as `emitAll` does, whatever the batch
size. -/
theorem cursorLoop_writing {fetch : Stmt} {size : Nat} {callback : σ → List R → Op σ}
    (hcb : ∀ s b, Emits db₀ p emit (callback s b) s b) :
    ∀ s batch rows, Emits db₀ p emit (cursorLoop fetch size callback s batch rows) s (batch ++ rows)
  | s, batch, [], B => by
    rw [List.append_nil, cursorLoop]
    refine Triple.ite_rule (fun h => ?_) fun _ => hcb s batch B
    rw [List.isEmpty_iff.mp h]
    exact fun w hw => ⟨rfl, by simpa [emitAll] using hw⟩
  | s, batch, r :: rs, B => by
    rw [cursorLoop]
    refine (Triple.attempt (Q := fun res w => res = .ok () ∧ Writing db₀ p B w)
      ((call_writing_ok fun db => ⟨(), rfl⟩).conseq (fun _ h => h) (fun _ _ h => ⟨rfl, h⟩)
        fun _ _ h => h.elim)).bind fun res => ?_
    rcases res with e | ⟨⟩
    · exact fun _ h => nomatch h.1
    refine Triple.conseq ?_ (fun _ h => h.2) (fun _ _ h => h) fun _ _ h => h
    rw [show batch ++ r :: rs = batch ++ [r] ++ rs by simp]
    refine Triple.ite_rule (fun _ => ?_) fun _ => cursorLoop_writing hcb s (batch ++ [r]) rs B
    refine (hcb s (batch ++ [r]) B).bind fun s' => ?_
    rintro w ⟨rfl, hw⟩
    refine (cursorLoop_writing hcb _ [] rs _).conseq (fun _ h => h) (fun s'' w' h => ?_)
      (fun _ _ h => h) w hw
    rw [List.nil_append, List.append_assoc] at h
    rw [emitAll_append]
    exact h

/-- `GetAllWithCursor` over rows that are those of `db₀` in every world it reads from. -/
theorem getAllWithCursor_writing {res : ResourceType} {rows : Db → List R} {size : Nat}
    {callback : σ → List R → Op σ} (hrows : ∀ w, Reading db₀ w → rows w.db = rows db₀)
    (hcb : ∀ s b, Emits db₀ p emit (callback s b) s b) (s : σ) :
    Emits db₀ p emit (getAllWithCursor res rows size callback s) s (rows db₀) := fun B =>
  (Triple.call_rule (Q := fun rs w => rs = rows db₀ ∧ Writing db₀ p B w)
      (fun w _ _ hw _ h => by
        cases h
        exact ⟨hrows w hw.toReading, hw.of_db rfl rfl⟩)
      fun w e hw h => by
        rcases h with h | ⟨-, h⟩
        · rw [hw.faultless] at h
          cases h
        · cases h).bind
    fun rs w ⟨hrs, hw⟩ => hrs ▸ cursorLoop_writing hcb s [] rs B w hw

end Loops

/-- `writeLines` writes the records' lines. -/
theorem writeLines_writing {E : Type} (marshal : E → Option JVal) (err : String) :
    ∀ (count : Nat) (es : List E),
      Emits db₀ p (lineEmit marshal) (writeLines marshal err p count es) count es
  | count, [], B => fun w hw => ⟨rfl, by simpa [emitAll] using hw⟩
  | count, e :: es, B => by
    unfold writeLines
    cases hm : marshal e with
    | none =>
      have := writeLines_writing marshal err count es B
      simpa only [emitAll, lineEmit, hm, List.nil_append] using this
    | some v =>
      refine (Triple.wrap err (writeFile_writing _)).bind fun _ w hw => ?_
      have := writeLines_writing marshal err (count + 1) es _ w hw
      simpa only [emitAll, lineEmit, hm, List.append_assoc] using this

/-- `writeElements` writes the records, separated. -/
theorem writeElements_writing {E : Type} (marshal : E → Option JVal) :
    ∀ (first : Bool) (es : List E),
      Emits db₀ p (elementEmit marshal) (writeElements marshal p first es) first es
  | first, [], B => fun w hw => ⟨rfl, by simpa [emitAll] using hw⟩
  | first, e :: es, B => by
    unfold writeElements
    cases hm : marshal e with
    | none =>
      have := writeElements_writing marshal first es B
      simpa only [emitAll, elementEmit, hm, List.nil_append] using this
    | some v =>
      cases first
      · dsimp only
        refine (writeFile_writing _).bind fun _ => (writeFile_writing _).bind fun _ w hw => ?_
        have := writeElements_writing marshal false es _ w hw
        simpa only [emitAll, elementEmit, hm, List.append_assoc] using this
      · dsimp only
        rw [if_neg (by decide), Op.pure_bind]
        refine (writeFile_writing _).bind fun _ w hw => ?_
        have := writeElements_writing marshal false es _ w hw
        simpa only [emitAll, elementEmit, hm, if_true, List.nil_append, List.append_assoc] using this

/-! ## The streams -/

/-- A world that reads from `db₀` selects the users of `db₀`. -/
theorem Reading.selectUsers {w : World} (hw : Reading db₀ w) (f : ExportFilters) :
    selectUsers f w.db = selectUsers f db₀ := by
  rw [BulkImport.selectUsers, BulkImport.selectUsers, hw.users]

/-- A world that reads from `db₀` selects the articles of `db₀`. -/
theorem Reading.selectArticles {w : World} (hw : Reading db₀ w) (f : ExportFilters) :
    selectArticles f w.db = selectArticles f db₀ := by
  rw [BulkImport.selectArticles, BulkImport.selectArticles, hw.articles]

/-- A world that reads from `db₀` selects the comments of `db₀`. -/
theorem Reading.selectComments {w : World} (hw : Reading db₀ w) (f : ExportFilters) :
    selectComments f w.db = selectComments f db₀ := by
  rw [BulkImport.selectComments, BulkImport.selectComments, hw.comments]

section Streams

variable {E : Type} {res : ResourceType} {rows : Db → List E} {marshal : E → Option JVal}
  (hrows : ∀ w, Reading db₀ w → rows w.db = rows db₀) (size : Nat)

include hrows

/-- A cursor whose callback is `writeLines` appends the lines of the rows it reads. -/
theorem getAllWithCursor_lines (err : String) :
    Triple (Writing db₀ p B) (getAllWithCursor res rows size (writeLines marshal err p) 0)
      (fun _ => Writing db₀ p (B ++ (emitAll (lineEmit marshal) 0 (rows db₀)).2))
      (fun _ _ => False) :=
  (getAllWithCursor_writing hrows (writeLines_writing marshal err) 0 B).conseq (fun _ h => h)
    (fun _ _ h => h.2) fun _ _ h => h

/-- A cursor whose callback is `writeElements` appends the separated records it reads. -/
theorem getAllWithCursor_elements :
    Triple (Writing db₀ p B) (getAllWithCursor res rows size (writeElements marshal p) true)
      (fun _ => Writing db₀ p (B ++ (emitAll (elementEmit marshal) true (rows db₀)).2))
      (fun _ _ => False) :=
  (getAllWithCursor_writing hrows (writeElements_writing marshal) true B).conseq (fun _ h => h)
    (fun _ _ h => h.2) fun _ _ h => h

/-- After its opening bracket, `StreamJSON` appends the separated records and the closing
bracket. -/
theorem getAllWithCursor_json :
    Triple (Writing db₀ p (B ++ ['[', '\n']))
      (do
        let _ ← getAllWithCursor res rows size (writeElements marshal p) true
        writeFile p ['\n', ']'])
      (fun _ => Writing db₀ p
        (B ++ (['[', '\n'] ++ (emitAll (elementEmit marshal) true (rows db₀)).2 ++ ['\n', ']'])))
      (fun _ _ => False) :=
  ((getAllWithCursor_elements hrows size).bind fun _ => writeFile_writing _).conseq (fun _ h => h)
    (fun _ _ h => by simpa only [List.append_assoc] using h) fun _ _ h => h

end Streams

/-- `StreamUsers` appends the NDJSON export of the users table to the file; it never fails. -/
theorem streamUsers_writing (cfg : ExportConfig) (filters : ExportFilters) :
    Triple (Writing db₀ p B) (streamUsers cfg p filters)
      (fun _ => Writing db₀ p (B ++ ndjsonExport .users filters db₀)) (fun _ _ => False) :=
  getAllWithCursor_lines (fun _ hw => hw.selectUsers filters) _ _

/-- `StreamArticles` appends the NDJSON export of the articles table to the file; it never fails. -/
theorem streamArticles_writing (cfg : ExportConfig) (filters : ExportFilters) :
    Triple (Writing db₀ p B) (streamArticles cfg p filters)
      (fun _ => Writing db₀ p (B ++ ndjsonExport .articles filters db₀)) (fun _ _ => False) :=
  getAllWithCursor_lines (fun _ hw => hw.selectArticles filters) _ _

/-- `StreamComments` appends the NDJSON export of the comments table to the file; it never fails. -/
theorem streamComments_writing (cfg : ExportConfig) (filters : ExportFilters) :
    Triple (Writing db₀ p B) (streamComments cfg p filters)
      (fun _ => Writing db₀ p (B ++ ndjsonExport .comments filters db₀)) (fun _ _ => False) :=
  getAllWithCursor_lines (fun _ hw => hw.selectComments filters) _ _

/-- `StreamJSON` appends the JSON export of the tables it reads. -/
theorem streamJSON_writing (cfg : ExportConfig) (res : ResourceType) (filters : ExportFilters) :
    Triple (Writing db₀ p B) (streamJSON cfg p res filters)
      (fun _ => Writing db₀ p (B ++ jsonExport res filters db₀)) (fun _ _ => False) := by
  unfold streamJSON
  cases res
  · exact (writeFile_writing _).bind fun _ =>
      getAllWithCursor_json (fun _ hw => hw.selectUsers filters) _
  · exact (writeFile_writing _).bind fun _ =>
      getAllWithCursor_json (fun _ hw => hw.selectArticles filters) _
  · exact (writeFile_writing _).bind fun _ =>
      getAllWithCursor_json (fun _ hw => hw.selectComments filters) _

/-- From a world where no call fails and the file holds `B`, `StreamJSON` returns and appends
`"[\n"`, the records that marshal separated by `",\n"`, and `"\n]"`, whatever the batch size of
the cursor. -/
theorem streamJSON_frames_records (cfg : ExportConfig) (res : ResourceType)
    (filters : ExportFilters) :
    Triple (Writing db₀ p B) (streamJSON cfg p res filters)
      (fun _ => Writing db₀ p (B ++ (['[', '\n'] ++
        [',', '\n'].intercalate ((marshalledRows res filters db₀).map render) ++ ['\n', ']'])))
      (fun _ _ => False) :=
  jsonExport_eq res filters db₀ ▸ streamJSON_writing cfg res filters

/-! ## The two handlers -/

/-- An attempted run that cannot fail returns. -/
theorem Triple.attempt_ok {α : Type} {P : World → Prop} {x : Op α} {Q : α → World → Prop}
    {E : String → World → Prop} (h : Triple P x Q (fun _ _ => False)) :
    Triple P (Op.attempt x) (fun r w => ∃ a, r = .ok a ∧ Q a w) E :=
  Triple.attempt (h.conseq (fun _ h => h) (fun a _ h => ⟨a, rfl, h⟩) fun _ _ h => h.elim)

/-- After an attempt that cannot fail, only the success branch of the match on its outcome runs. -/
theorem Triple.of_ok {α β : Type} {R : α → World → Prop} {f : Except String α → Op β}
    {Q : β → World → Prop} {E : String → World → Prop} (h : ∀ a, Triple (R a) (f (.ok a)) Q E)
    (r : Except String α) : Triple (fun w => ∃ a, r = .ok a ∧ R a w) (f r) Q E := by
  rintro w ⟨a, rfl, hw⟩
  exact h a w hw

/-- The body GET /v1/exports streams for an accepted format. -/
def exportBody (format : String) (res : ResourceType) (filters : ExportFilters) (db : Db) :
    List Char :=
  if format = "json" then jsonExport res filters db else ndjsonExport res filters db

/-- GET /v1/exports with an accepted format appends to the response the body of its format, over
the tables it reads. -/
theorem streamExport_writes (cfg : ExportConfig) (res : ResourceType) {format : String}
    (hformat : format = "ndjson" ∨ format = "json") (filters : ExportFilters) :
    Triple (Writing db₀ p B) (streamExport cfg p res format filters)
      (fun _ => Writing db₀ p (B ++ exportBody format res filters db₀)) (fun _ _ => False) := by
  unfold streamExport exportBody
  rw [if_neg (by tauto)]
  by_cases hj : format = "json"
  · rw [if_pos hj, if_pos hj]
    exact (Triple.attempt_ok (streamJSON_writing cfg res filters)).bind fun _ _ ⟨_, _, hw⟩ => hw
  · rw [if_neg hj, if_neg hj]
    cases res
    · exact (Triple.attempt_ok (streamUsers_writing cfg filters)).bind fun _ _ ⟨_, _, hw⟩ => hw
    · exact (Triple.attempt_ok (streamArticles_writing cfg filters)).bind fun _ _ ⟨_, _, hw⟩ => hw
    · exact (Triple.attempt_ok (streamComments_writing cfg filters)).bind fun _ _ ⟨_, _, hw⟩ => hw

/-- `os.Create` of the export file leaves it the only file at its path, empty. -/
theorem createFile_writing (path : String) :
    Triple (Reading db₀) (createFile path) (fun _ => Writing db₀ path []) (fun _ _ => False) :=
  Triple.call_rule (fun _ _ _ hw _ h => by
      cases h
      exact ⟨⟨hw.faultless, hw.users, hw.articles, hw.comments⟩, by simp [List.filter_append]⟩)
    fun _ _ hw h => by
      rcases h with h | ⟨-, h⟩
      · rw [hw.faultless] at h
        cases h
      · cases h

/-- A write to a job's row leaves the target tables and the faults alone. -/
theorem updateWith_reading (stmt : Stmt) (id : Uuid) (g : Job → Job) :
    Triple (Reading db₀) (JobRepository.updateWith stmt id g) (fun _ => Reading db₀)
      (fun _ => Reading db₀) :=
  Triple.call_rule (fun _ _ _ hw _ h => by
      obtain ⟨_, -, he⟩ := except_map_eq_ok.mp h
      cases he
      exact ⟨hw.faultless, hw.users, hw.articles, hw.comments⟩)
    fun _ _ hw _ => ⟨hw.faultless, hw.users, hw.articles, hw.comments⟩

/-- A write to a job's row leaves the export file alone. -/
theorem updateWith_writing (stmt : Stmt) (id : Uuid) (g : Job → Job) :
    Triple (Writing db₀ p B) (JobRepository.updateWith stmt id g) (fun _ => Writing db₀ p B)
      (fun _ => Writing db₀ p B) :=
  call_writing fun _ _ _ h => by
    obtain ⟨_, -, he⟩ := except_map_eq_ok.mp h
    cases he
    exact ⟨rfl, rfl, rfl, rfl⟩

/-- `file.Stat` of the export file reads its length in bytes. -/
theorem statFile_writing :
    Triple (Writing db₀ p B) (statFile p)
      (fun n w => n = (String.mk B).utf8ByteSize ∧ Writing db₀ p B w) (fun _ _ => False) := by
  have hfind : ∀ {w : World}, Writing db₀ p B w →
      w.db.exports.find? (·.1 == p) = some (p, B) :=
    fun hw => by rw [← List.filter_head?, hw.file]; rfl
  refine Triple.call_rule (fun w a db hw _ h => ?_) fun w e hw h => ?_
  · rw [hfind hw] at h
    cases h
    exact ⟨rfl, hw.of_db rfl rfl⟩
  · rcases h with h | ⟨-, h⟩
    · rw [hw.faultless] at h
      cases h
    · rw [hfind hw] at h
      cases h

/-- `ProcessAsyncExport`, when it returns, has written the NDJSON export of the job's resource
over the tables it read into the file it records on the job, and records as each of the job's
three counts the file's size in bytes over 200. -/
theorem processAsyncExport_spec (cfg : ExportConfig) (job : Job) (filters : ExportFilters) :
    Triple (Reading db₀) (processAsyncExport cfg job filters)
      (fun j w => ∃ path, j.filePath = some path ∧
        Writing db₀ path (ndjsonExport job.resource filters db₀) w ∧
        j.totalRecords =
          ((String.mk (ndjsonExport job.resource filters db₀)).utf8ByteSize : Int) / 200 ∧
        j.processedRecords = j.totalRecords ∧ j.successfulRecords = j.totalRecords)
      (fun _ _ => True) := by
  unfold processAsyncExport
  refine (Triple.wrap _ ((Triple.now_rule (Q := fun _ => Reading db₀)).bind
    fun _ => (updateWith_reading _ _ _).conseq (fun _ h => h) (fun _ _ h => h)
      fun _ _ _ => trivial)).bind fun _ => ?_
  refine (Triple.now_rule (Q := fun _ => Reading db₀)).bind fun t => ?_
  refine (Triple.attempt_ok (createFile_writing _)).bind (Triple.of_ok fun _ => ?_)
  refine Triple.bind (R := fun r w => ∃ n, r = .ok n ∧
    Writing db₀ (exportPath cfg job t) (ndjsonExport job.resource filters db₀) w)
    (Triple.attempt_ok ?_) (Triple.of_ok fun _ => ?_)
  · split <;> rename_i hres <;> rw [hres]
    · exact streamUsers_writing (B := []) cfg filters
    · exact streamArticles_writing (B := []) cfg filters
    · exact streamComments_writing (B := []) cfg filters
  set W := Writing db₀ (exportPath cfg job t) (ndjsonExport job.resource filters db₀)
  refine (Triple.attempt_ok statFile_writing).bind (Triple.of_ok fun size => ?_)
  refine Triple.conseq (Triple.of_hyp fun hsize => ?_) (fun w ⟨hsize, hw⟩ => ⟨hw, hsize⟩)
    (fun _ _ h => h) fun _ _ h => h
  subst hsize
  refine (Triple.attempt (Q := fun _ => W) (updateWith_writing _ _ _)).bind fun _ => ?_
  refine (Triple.attempt (Q := fun _ => W) ((Triple.now_rule (Q := fun _ => W)).bind
    fun _ => updateWith_writing _ _ _)).bind fun _ => ?_
  exact fun _ hw => ⟨_, rfl, hw, rfl, rfl, rfl⟩

/-- `ProcessAsyncExport`, when it returns, has written the NDJSON export of the job's
resource over the tables it read into the file it records on the job, whatever the format the
request asked for. -/
theorem processAsyncExport_writes (cfg : ExportConfig) (job : Job) (filters : ExportFilters) :
    Triple (Reading db₀) (processAsyncExport cfg job filters)
      (fun j w => ∃ path, j.filePath = some path ∧
        Writing db₀ path (ndjsonExport job.resource filters db₀) w)
      (fun _ _ => True) :=
  (processAsyncExport_spec cfg job filters).conseq (fun _ h => h)
    (fun _ _ ⟨path, hp, hw, _⟩ => ⟨path, hp, hw⟩) fun _ _ h => h

/-! ## The two paths compared -/

/-- A marshaller whose values are all objects. -/
def WritesObjects {E : Type} (marshal : E → Option JVal) : Prop :=
  ∀ e v, marshal e = some v → (render v).head? = some '\x7b'

/-- `json.Marshal` of a user writes an object. -/
theorem userJson_objects : WritesObjects userJson := by
  intro u v h
  simp only [userJson, Option.bind_eq_bind, Option.bind_eq_some, Option.pure_def,
    Option.some.injEq] at h
  obtain ⟨_, -, _, -, rfl⟩ := h
  rfl

/-- `json.Marshal` of an article writes an object, with or without a publication time. -/
theorem articleJson_objects : WritesObjects articleJson := by
  intro a v h
  unfold articleJson at h
  cases hp : a.publishedAt <;> simp only [hp, Option.bind_eq_bind, Option.bind_eq_some,
    Option.pure_def, Option.some.injEq, Option.some_bind] at h
  · obtain ⟨_, -, _, -, rfl⟩ := h
    rfl
  · obtain ⟨_, -, _, -, _, -, rfl⟩ := h
    rfl

/-- `json.Marshal` of a comment writes an object. -/
theorem commentJson_objects : WritesObjects commentJson := by
  intro c v h
  simp only [commentJson, Option.bind_eq_bind, Option.bind_eq_some, Option.pure_def,
    Option.some.injEq] at h
  obtain ⟨_, -, _, -, rfl⟩ := h
  rfl

/-- NDJSON of objects is empty or starts with a brace. -/
theorem lines_head {E : Type} {marshal : E → Option JVal} (h : WritesObjects marshal) :
    ∀ (count : Nat) (es : List E), (emitAll (lineEmit marshal) count es).2.head? = none ∨
      (emitAll (lineEmit marshal) count es).2.head? = some '\x7b'
  | _, [] => .inl rfl
  | count, e :: es => by
    cases hm : marshal e with
    | none =>
      simp only [emitAll, lineEmit, hm, List.nil_append]
      exact lines_head h count es
    | some v =>
      have hv := h e v hm
      obtain ⟨c, cs, hr⟩ := List.exists_cons_of_ne_nil
        (show render v ≠ [] from fun h' => by simp [h'] at hv)
      simp only [emitAll, lineEmit, hm, hr, List.cons_append, List.head?_cons] at hv ⊢
      exact .inr hv

/-- An NDJSON export never starts with the bracket every JSON export starts with. -/
theorem ndjsonExport_ne_jsonExport (res : ResourceType) (filters : ExportFilters) (db : Db) :
    ndjsonExport res filters db ≠ jsonExport res filters db := by
  intro h
  have hj : (jsonExport res filters db).head? = some '[' := rfl
  rw [← h] at hj
  have hn : (ndjsonExport res filters db).head? = none ∨
      (ndjsonExport res filters db).head? = some '\x7b' := by
    cases res
    · exact lines_head userJson_objects _ _
    · exact lines_head articleJson_objects _ _
    · exact lines_head commentJson_objects _ _
  rcases hn with hn | hn <;> rw [hn] at hj <;> cases hj

/-- With the same filters, the file of POST /v1/exports and the body of GET /v1/exports in the
format `ndjson` are the same bytes. -/
theorem async_ndjson_export_agrees (cfg : ExportConfig) (job : Job) (filters : ExportFilters)
    {w : World} (hw : ∀ n, w.fault n = none) {resp : String}
    (hresp : w.db.exports.filter (·.1 == resp) = [(resp, [])]) {j : Job}
    (hok : (processAsyncExport cfg job filters w).1 = .ok j) :
    ∃ path, j.filePath = some path ∧
      (processAsyncExport cfg job filters w).2.db.exports.filter (·.1 == path) =
        [(path, ndjsonExport job.resource filters w.db)] ∧
      (streamExport cfg resp job.resource "ndjson" filters w).2.db.exports.filter (·.1 == resp) =
        [(resp, ndjsonExport job.resource filters w.db)] := by
  have hr : Reading w.db w := ⟨hw, rfl, rfl, rfl⟩
  obtain ⟨path, hp, hw₁⟩ := (processAsyncExport_writes cfg job filters).post_of_ok hr hok
  obtain ⟨_, -, hw₂⟩ := (streamExport_writes (p := resp) (B := []) cfg job.resource (.inl rfl)
    filters).run_ok ⟨hr, hresp⟩
  exact ⟨path, hp, hw₁.file, by simpa [exportBody] using hw₂.file⟩

/-- The format of POST /v1/exports is not carried to the job: for every resource, filters and
tables, in a world where no call fails, when `ProcessAsyncExport` returns, its file holds the
NDJSON export of the tables, while GET /v1/exports in the format `json` with the same filters
streams the JSON export into its response, and the two differ. -/
theorem async_json_export_is_ndjson (cfg : ExportConfig) (job : Job) (filters : ExportFilters)
    {w : World} (hw : ∀ n, w.fault n = none) {resp : String}
    (hresp : w.db.exports.filter (·.1 == resp) = [(resp, [])]) {j : Job}
    (hok : (processAsyncExport cfg job filters w).1 = .ok j) :
    (∃ path, j.filePath = some path ∧
      (processAsyncExport cfg job filters w).2.db.exports.filter (·.1 == path) =
        [(path, ndjsonExport job.resource filters w.db)]) ∧
      (streamExport cfg resp job.resource "json" filters w).2.db.exports.filter (·.1 == resp) =
        [(resp, jsonExport job.resource filters w.db)] ∧
      ndjsonExport job.resource filters w.db ≠ jsonExport job.resource filters w.db := by
  have hr : Reading w.db w := ⟨hw, rfl, rfl, rfl⟩
  obtain ⟨path, hp, hw₁⟩ := (processAsyncExport_writes cfg job filters).post_of_ok hr hok
  obtain ⟨_, -, hw₂⟩ := (streamExport_writes (p := resp) (B := []) cfg job.resource (.inr rfl)
    filters).run_ok ⟨hr, hresp⟩
  exact ⟨⟨path, hp, hw₁.file⟩, by simpa [exportBody] using hw₂.file,
    ndjsonExport_ne_jsonExport _ _ _⟩

/-- An export job of the users table, as `CreateAsyncExport` creates it. -/
def usersExportJob : Job := exportJobOf (Uuid.ofSeed 7) .users

/-- A world with that job, no user, an open response writer, and no failing call. -/
def usersExportWorld : World :=
  World.start { Db.empty with jobs := [usersExportJob], exports := [("response", [])] }
    fun _ => none

/-- The job `ProcessAsyncExport` hands back: the file recorded, and no record counted. -/
def usersExportedJob : Job :=
  { usersExportJob with
    filePath := some (exportPath ExportConfig.default usersExportJob ⟨0⟩), totalRecords := 0,
    processedRecords := 0, successfulRecords := 0 }

/-- An export of the empty users table in the format `json`: the async file is empty, while the
response of the GET handler is a bracket pair. -/
theorem empty_users_json_export_differs :
    (∀ n, usersExportWorld.fault n = none) ∧
      usersExportWorld.db.exports.filter (·.1 == "response") = [("response", [])] ∧
      (processAsyncExport ExportConfig.default usersExportJob {} usersExportWorld).1 =
        .ok usersExportedJob ∧
      ((∃ path, usersExportedJob.filePath = some path ∧
        (processAsyncExport ExportConfig.default usersExportJob {} usersExportWorld).2.db.exports.filter
          (·.1 == path) = [(path, ndjsonExport usersExportJob.resource {} usersExportWorld.db)]) ∧
        (streamExport ExportConfig.default "response" usersExportJob.resource "json" {}
          usersExportWorld).2.db.exports.filter (·.1 == "response") =
            [("response", jsonExport usersExportJob.resource {} usersExportWorld.db)] ∧
        ndjsonExport usersExportJob.resource {} usersExportWorld.db ≠
          jsonExport usersExportJob.resource {} usersExportWorld.db) :=
  ⟨fun _ => rfl, by decide, by decide,
    async_json_export_is_ndjson ExportConfig.default usersExportJob {} (fun _ => rfl) (by decide)
      (by decide)⟩

/-- Over the empty table the file is empty and the response is a bracket pair. -/
example : ndjsonExport .users {} usersExportWorld.db = [] ∧
    jsonExport .users {} usersExportWorld.db = ['[', '\n', '\n', ']'] := by
  decide

/-! ## The counts of an async export -/

/-- The counts `ProcessAsyncExport` records on the job are the size of its file in bytes over
200, however many records the file holds. -/
theorem async_export_counts_bytes (cfg : ExportConfig) (job : Job) (filters : ExportFilters)
    {w : World} (hw : ∀ n, w.fault n = none) {j : Job}
    (hok : (processAsyncExport cfg job filters w).1 = .ok j) :
    j.totalRecords = ((String.mk (ndjsonExport job.resource filters w.db)).utf8ByteSize : Int) / 200 ∧
      j.processedRecords = j.totalRecords ∧ j.successfulRecords = j.totalRecords :=
  let ⟨_, _, _, h⟩ :=
    (processAsyncExport_spec cfg job filters).post_of_ok ⟨hw, rfl, rfl, rfl⟩ hok
  h

/-- A user as the table holds it. -/
def exportedUser : User := ⟨Uuid.ofSeed 1, "a@b.co", "Alice", "reader", true, ⟨0⟩, ⟨0⟩⟩

/-- A world with the users export job and one user. -/
def oneUserExportWorld : World :=
  World.start { Db.empty with users := [exportedUser], jobs := [usersExportJob] } fun _ => none

set_option maxRecDepth 8000 in
/-- The async export of the one-user table returns the job with no record counted. -/
theorem oneUserExport_ok :
    (processAsyncExport ExportConfig.default usersExportJob {} oneUserExportWorld).1 =
      .ok usersExportedJob := by
  decide

/-- The counts of the one-user export are its file's size over 200, all three of them. -/
theorem one_user_export_counted_by_size :
    (∀ n, oneUserExportWorld.fault n = none) ∧
      (processAsyncExport ExportConfig.default usersExportJob {} oneUserExportWorld).1 =
        .ok usersExportedJob ∧
      usersExportedJob.totalRecords =
        ((String.mk (ndjsonExport .users {} oneUserExportWorld.db)).utf8ByteSize : Int) / 200 ∧
      usersExportedJob.processedRecords = usersExportedJob.totalRecords ∧
      usersExportedJob.successfulRecords = usersExportedJob.totalRecords :=
  ⟨fun _ => rfl, oneUserExport_ok,
    async_export_counts_bytes ExportConfig.default usersExportJob {} (fun _ => rfl) oneUserExport_ok⟩

set_option maxRecDepth 8000 in
/-- The export of one user writes a file of one line, and records no record on the job. -/
theorem one_user_export_counts_none :
    (processAsyncExport ExportConfig.default usersExportJob {} oneUserExportWorld).1 =
        .ok usersExportedJob ∧
      ((processAsyncExport ExportConfig.default usersExportJob {} oneUserExportWorld).2.db.exports.filter
          (·.1 == exportPath ExportConfig.default usersExportJob ⟨0⟩)).map (·.2.count '\n') = [1] ∧
      usersExportedJob.totalRecords = 0 ∧ usersExportedJob.processedRecords = 0 ∧
      usersExportedJob.successfulRecords = 0 :=
  ⟨oneUserExport_ok, by decide, rfl, rfl, rfl⟩

end BulkImport
