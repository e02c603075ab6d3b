import BulkImport.Domain.Models

/-!
# The parsers

`internal/service/import/parsers`: `DetectFormat` picks the parser by the file's extension,
`CSVParser` maps each record to an import record through the header row, and `NDJSONParser`
decodes each non-empty line with `json.Unmarshal`. A parser calls the pipeline's callback once per
row it delivers, with the row number it counts; a parse error of a line is delivered as a `nil`
record. The model's parsers return those deliveries as a `Delivery`: the callbacks' arguments in
order, and the error the parse returns after them, if any.

The byte-level readers are the standard library's and are taken as given: a CSV file is what
`csv.Reader` yields (the header, then each record or the error in its place), and an NDJSON file
is its lines as `bufio.Scanner` cuts them, each with its length and the JSON value its text
denotes. The scanner refuses a line that does not fit its 10 MiB buffer.

Decoding follows `encoding/json` into the import structs: an object's members are matched to the
fields by name, case-insensitively (on ASCII); a string sets a string field, `null` leaves it,
and any other value is a type error, which makes the whole decode fail. A top-level `null` leaves
the struct empty.

A CSV field comes from the last column of its name, whether or not the record reaches that column
(`csvField_of_last`); with distinct column names, reordering the columns of the header and of a
record together leaves the parsed record alone (`parseRecords_perm`).
-/

namespace BulkImport

/-! ## Formats -/

/-- `parsers.FileFormat`. -/
inductive FileFormat where
  /-- `FormatCSV`, a `.csv` file, and the default -/
  | csv
  /-- `FormatNDJSON`, a `.ndjson` or `.jsonl` file -/
  | ndjson
  /-- `FormatJSON`, a `.json` file -/
  | json
  deriving DecidableEq, Repr

/-- `filepath.Ext`: the suffix from the last dot of the last path element, or nothing. -/
def fileExt (path : String) : String :=
  let rev := path.data.reverse
  let stem := rev.takeWhile (· ≠ '/')
  if '.' ∈ stem then ⟨'.' :: (stem.takeWhile (· ≠ '.')).reverse⟩ else ""

/-- `DetectFormat`: the format of a file name's extension, CSV by default. -/
def detectFormat (filename : String) : FileFormat :=
  let ext := toLower (fileExt filename)
  if ext = ".csv" then .csv
  else if ext = ".ndjson" ∨ ext = ".jsonl" then .ndjson
  else if ext = ".json" then .json
  else .csv

/-- `FileFormat.IsCSV`. -/
def FileFormat.isCSV (f : FileFormat) : Bool := f == .csv

/-- `FileFormat.IsNDJSON`. -/
def FileFormat.isNDJSON (f : FileFormat) : Bool := f == .ndjson || f == .json

/-- A detected format is CSV exactly when it is not line-JSON, so the users pipeline's test
(`IsNDJSON`) and the other two pipelines' test (`IsCSV`) pick the same parser. -/
theorem isNDJSON_eq_not_isCSV (f : FileFormat) : f.isNDJSON = !f.isCSV := by
  cases f <;> rfl

/-! ## Deliveries -/

/-- What a parser hands the pipeline: the `(row, record)` arguments of its callbacks in order, a
`none` record for a line it could not decode, and the error it returns after the last callback. -/
structure Delivery (R : Type) where
  /-- The arguments of the callbacks, in order. -/
  calls : List (Nat × Option R)
  /-- The error the parser returns after them, if any. -/
  err : Option String

/-! ## CSV -/

/-- What `csv.Reader` yields on a file: the header record, or the error of reading it, and then
each record or the error of the record in its place. -/
structure CsvFile where
  /-- The header record, or the error of reading it. -/
  header : Except String (List String)
  /-- Each record after the header, or `none` for the error of a record. -/
  records : List (Option (List String))

/-- The header map of `NewCSVParser`: the last column whose trimmed, lower-cased name is `name`. -/
def headerIndex (headers : List String) (name : String) : Option Nat :=
  (headers.enum.filter fun p => toLower (trimSpace p.2) = name).getLast?.map (·.1)

/-- One field of a record, as `parseUserRecord` reads it: the trimmed cell of the header's column,
or the empty string when the header lacks the column or the record is too short. -/
def csvField (headers : List String) (record : List String) (name : String) : String :=
  match headerIndex headers name with
  | some i => match record.get? i with
    | some cell => trimSpace cell
    | none => ""
  | none => ""

/-- `parseUserRecord`. -/
def parseUserRecord (headers record : List String) : UserImport :=
  let f := csvField headers record
  ⟨f "id", f "email", f "name", f "role", f "active", f "created_at", f "updated_at"⟩

/-- The tags cell of `parseArticleRecord`: when present and non-empty after trimming, its
comma-separated parts, each trimmed. -/
def csvTags (headers record : List String) : Option (List String) :=
  let cell := csvField headers record "tags"
  if cell = "" then none else some ((splitComma cell).map trimSpace)

/-- `parseArticleRecord`. -/
def parseArticleRecord (headers record : List String) : ArticleImport :=
  let f := csvField headers record
  ⟨f "id", f "slug", f "title", f "body", f "author_id", csvTags headers record,
    f "published_at", f "status"⟩

/-- `parseCommentRecord`. -/
def parseCommentRecord (headers record : List String) : CommentImport :=
  let f := csvField headers record
  ⟨f "id", f "article_id", f "user_id", f "body", f "created_at"⟩

/-- The loop of `ParseUsers` (and its two siblings) from line number `line`: every record read
advances the count, and a record that parsed is delivered under the new count. -/
def csvCalls {R : Type} (parse : List String → R) :
    Nat → List (Option (List String)) → List (Nat × Option R)
  | _, [] => []
  | line, none :: rs => csvCalls parse (line + 1) rs
  | line, some r :: rs => (line + 1, some (parse r)) :: csvCalls parse (line + 1) rs

/-- `NewCSVParser` followed by a `Parse*` loop: the header error, or the deliveries from line 2 on
(the header is line 1). -/
def parseCsv {R : Type} (parse : List String → List String → R) (file : CsvFile) :
    Except String (Delivery R) :=
  match file.header with
  | .error e => .error ("failed to read CSV headers: " ++ e)
  | .ok headers => .ok ⟨csvCalls (parse headers) 1 file.records, none⟩

/-! ## NDJSON -/

/-- A line of an NDJSON file as `bufio.Scanner` returns it: its length in bytes, and the value its
text denotes, or `none` when `json.Unmarshal` finds a syntax error. -/
structure NdjsonLine where
  /-- The line's length in bytes. -/
  len : Nat
  /-- The value the line denotes, or `none` for a syntax error. -/
  json : Option JVal

/-- The scanner's buffer, `maxBufferSize` of `NewNDJSONParser`: 10 MiB. -/
def maxBufferSize : Nat := 10 * 1024 * 1024

/-- A field name matches an object key as `encoding/json` matches them, ignoring case: the case of
the ASCII letters, which `toLower` folds; the folding of other letters is left out. -/
def keyMatches (field key : String) : Bool := toLower key == field

/-- The decoding of a string field: the last string member of that name; `null` members leave it;
any other member is a type error. -/
def stringMember (field : String) (ms : List (String × JVal)) : Option String :=
  ms.foldl (fun acc m =>
    match acc with
    | none => none
    | some cur =>
      if keyMatches field m.1 then
        match m.2 with
        | .str s => some s
        | .null => some cur
        | _ => none
      else some cur) (some "")

/-- The strings of a JSON array, if they are all strings. -/
def allStrings : List JVal → Option (List String)
  | [] => some []
  | .str s :: vs => (allStrings vs).map (s :: ·)
  | _ => none

/-- The decoding of the `[]string` field `tags`: the last member of that name; `null` makes the
slice `nil`, an array of strings sets it, anything else is a type error. -/
def tagsMember (ms : List (String × JVal)) : Option (Option (List String)) :=
  ms.foldl (fun acc m =>
    match acc with
    | none => none
    | some cur =>
      if keyMatches "tags" m.1 then
        match m.2 with
        | .null => some none
        | .arr vs => (allStrings vs).map some
        | _ => none
      else some cur) (some none)

/-- `json.Unmarshal` into a `UserImport`. -/
def decodeUserImport : JVal → Option UserImport
  | .null => some ⟨"", "", "", "", "", "", ""⟩
  | .obj ms => do
    let f := fun name => stringMember name ms
    pure ⟨← f "id", ← f "email", ← f "name", ← f "role", ← f "active", ← f "created_at",
      ← f "updated_at"⟩
  | _ => none

/-- `json.Unmarshal` into an `ArticleImport`. -/
def decodeArticleImport : JVal → Option ArticleImport
  | .null => some ⟨"", "", "", "", "", none, "", ""⟩
  | .obj ms => do
    let f := fun name => stringMember name ms
    pure ⟨← f "id", ← f "slug", ← f "title", ← f "body", ← f "author_id", ← tagsMember ms,
      ← f "published_at", ← f "status"⟩
  | _ => none

/-- `json.Unmarshal` into a `CommentImport`. -/
def decodeCommentImport : JVal → Option CommentImport
  | .null => some ⟨"", "", "", "", ""⟩
  | .obj ms => do
    let f := fun name => stringMember name ms
    pure ⟨← f "id", ← f "article_id", ← f "user_id", ← f "body", ← f "created_at"⟩
  | _ => none

/-- The loop of `NDJSONParser.ParseUsers` (and siblings) from line number `line`: every scanned
line advances the count, empty lines are skipped, and a line that does not decode is delivered
as a `nil` record. A line too long for the buffer stops the scan with the scanner's error. -/
def ndjsonCalls {R : Type} (decode : JVal → Option R) :
    Nat → List NdjsonLine → List (Nat × Option R) × Option String
  | _, [] => ([], none)
  | line, l :: ls =>
    if maxBufferSize ≤ l.len then ([], some "bufio.Scanner: token too long")
    else if l.len = 0 then ndjsonCalls decode (line + 1) ls
    else
      let rest := ndjsonCalls decode (line + 1) ls
      ((line + 1, l.json.bind decode) :: rest.1, rest.2)

/-- What `bufio.Scanner` reads from a file: its lines, and the read error it meets after them, if
any. -/
structure NdjsonFile where
  /-- The lines the scanner returns. -/
  lines : List NdjsonLine
  /-- The read error after the last line, if any. -/
  readErr : Option String

/-- `NewNDJSONParser` followed by a `Parse*` loop: line numbers start at 1, and `scanner.Err()`
is the scanner's own error or else the read error. -/
def parseNdjson {R : Type} (decode : JVal → Option R) (file : NdjsonFile) : Delivery R :=
  let r := ndjsonCalls decode 0 file.lines
  ⟨r.1, r.2.orElse fun _ => file.readErr⟩

/-! ## Files -/

/-- A file of the upload directory, as the two parsers would read it. -/
structure ImportFile where
  /-- The file's path. -/
  path : String
  /-- What `csv.Reader` yields on the file. -/
  csv : CsvFile
  /-- What `bufio.Scanner` yields on the file. -/
  ndjson : NdjsonFile

/-- The parser `processUsersImport` runs on a file, chosen by `DetectFormat` of the job's path:
line-JSON when `IsNDJSON`, and otherwise CSV, whose header error comes first. -/
def deliverUsers (path : String) (file : ImportFile) : Except String (Delivery UserImport) :=
  if (detectFormat path).isNDJSON then .ok (parseNdjson decodeUserImport file.ndjson)
  else parseCsv parseUserRecord file.csv

/-- The parser `processArticlesImport` runs on a file: CSV when `IsCSV`, and otherwise line-JSON. -/
def deliverArticles (path : String) (file : ImportFile) : Except String (Delivery ArticleImport) :=
  if (detectFormat path).isCSV then parseCsv parseArticleRecord file.csv
  else .ok (parseNdjson decodeArticleImport file.ndjson)

/-- The parser `processCommentsImport` runs on a file: CSV when `IsCSV`, and otherwise line-JSON. -/
def deliverComments (path : String) (file : ImportFile) : Except String (Delivery CommentImport) :=
  if (detectFormat path).isCSV then parseCsv parseCommentRecord file.csv
  else .ok (parseNdjson decodeCommentImport file.ndjson)

example : detectFormat "uploads/users_17.NDJSON" = .ndjson := by decide

example : detectFormat "uploads/users_17" = .csv := by decide

/-! ## Row numbers -/

/-- The row numbers a parser hands the pipeline strictly increase. -/
def Delivery.Ordered {R : Type} (d : Delivery R) : Prop :=
  (d.calls.map (·.1)).Pairwise (· < ·)

/-- A strictly increasing list stays so with its head lowered by one. -/
theorem pairwise_lt_of_succ {n : Nat} {l : List Nat} (h : ((n + 1) :: l).Pairwise (· < ·)) :
    (n :: l).Pairwise (· < ·) :=
  List.pairwise_cons.mpr
    ⟨fun _ hm => Nat.lt_trans (Nat.lt_succ_self n) (List.rel_of_pairwise_cons h hm), h.of_cons⟩

/-- A strictly increasing list from `n + 1` stays so with `n` put before it. -/
theorem pairwise_lt_cons_succ {n : Nat} {l : List Nat} (h : ((n + 1) :: l).Pairwise (· < ·)) :
    (n :: (n + 1) :: l).Pairwise (· < ·) :=
  List.Pairwise.cons (List.forall_mem_cons.mpr
    ⟨Nat.lt_succ_self n, fun _ hm => List.rel_of_pairwise_cons (pairwise_lt_of_succ h) hm⟩) h

/-- The CSV parser's row numbers strictly increase, all above the line it counts from. -/
theorem csvCalls_ordered {R : Type} (parse : List String → R) :
    ∀ line rs, (line :: (csvCalls parse line rs).map (·.1)).Pairwise (· < ·)
  | _, [] => List.pairwise_singleton _ _
  | line, none :: rs => pairwise_lt_of_succ (csvCalls_ordered parse (line + 1) rs)
  | line, some _ :: rs => pairwise_lt_cons_succ (csvCalls_ordered parse (line + 1) rs)

/-- The NDJSON parser's row numbers strictly increase, all above the line it counts from. -/
theorem ndjsonCalls_ordered {R : Type} (decode : JVal → Option R) :
    ∀ line ls, (line :: (ndjsonCalls decode line ls).1.map (·.1)).Pairwise (· < ·)
  | _, [] => List.pairwise_singleton _ _
  | line, l :: ls => by
    have ih := ndjsonCalls_ordered decode (line + 1) ls
    simp only [ndjsonCalls]
    split_ifs
    · exact List.pairwise_singleton _ _
    · exact pairwise_lt_of_succ ih
    · exact pairwise_lt_cons_succ ih

/-- The row numbers of a CSV delivery strictly increase. -/
theorem parseCsv_ordered {R : Type} {parse : List String → List String → R} {file : CsvFile}
    {d : Delivery R} (h : parseCsv parse file = .ok d) : d.Ordered := by
  unfold parseCsv at h
  split at h
  · cases h
  · cases h
    exact (csvCalls_ordered _ 1 _).of_cons

/-- The row numbers of an NDJSON delivery strictly increase. -/
theorem parseNdjson_ordered {R : Type} (decode : JVal → Option R) (file : NdjsonFile) :
    (parseNdjson decode file).Ordered :=
  (ndjsonCalls_ordered decode 0 file.lines).of_cons

/-- The row numbers of a users delivery strictly increase, CSV or NDJSON. -/
theorem deliverUsers_ordered {path : String} {file : ImportFile} {d : Delivery UserImport}
    (h : deliverUsers path file = .ok d) : d.Ordered := by
  unfold deliverUsers at h
  split at h
  · cases h
    exact parseNdjson_ordered _ _
  · exact parseCsv_ordered h

/-- The row numbers of an articles delivery strictly increase, CSV or NDJSON. -/
theorem deliverArticles_ordered {path : String} {file : ImportFile} {d : Delivery ArticleImport}
    (h : deliverArticles path file = .ok d) : d.Ordered := by
  unfold deliverArticles at h
  split at h
  · exact parseCsv_ordered h
  · cases h
    exact parseNdjson_ordered _ _

/-- The row numbers of a comments delivery strictly increase, CSV or NDJSON. -/
theorem deliverComments_ordered {path : String} {file : ImportFile} {d : Delivery CommentImport}
    (h : deliverComments path file = .ok d) : d.Ordered := by
  unfold deliverComments at h
  split at h
  · exact parseCsv_ordered h
  · cases h
    exact parseNdjson_ordered _ _

/-! ## Columns by name -/

/-- The column of a name in a header with one more column in front: the last match behind it, or
else the front column if it matches. -/
theorem headerIndex_cons (h : String) (H : List String) (f : String) :
    headerIndex (h :: H) f =
      ((headerIndex H f).map (· + 1)).or (if toLower (trimSpace h) = f then some 0 else none) := by
  have hP : ((fun p : Nat × String => decide (toLower (trimSpace p.2) = f)) ∘
      Prod.map (· + 1) id) = fun p => decide (toLower (trimSpace p.2) = f) := rfl
  unfold headerIndex
  rw [List.enum_cons', List.filter_cons, List.filter_map, hP]
  generalize H.enum.filter (fun p => decide (toLower (trimSpace p.2) = f)) = L
  by_cases hh : toLower (trimSpace h) = f
  · simp only [hh, decide_True, if_true, List.getLast?_cons, List.getLast?_map]
    cases L.getLast? <;> rfl
  · simp only [hh, decide_False, Bool.false_eq_true, if_false, List.getLast?_map, Option.map_map]
    cases L.getLast? <;> rfl

/-- A name no header matches has no column. -/
theorem headerIndex_eq_none {f : String} :
    ∀ {H : List String}, (∀ h ∈ H, toLower (trimSpace h) ≠ f) → headerIndex H f = none
  | [], _ => rfl
  | h :: H, hH => by
    rw [headerIndex_cons, headerIndex_eq_none fun b hb => hH b (List.mem_cons_of_mem h hb),
      if_neg (hH h (List.mem_cons_self h H))]
    rfl

/-- The header map keeps the last column of a name. -/
theorem headerIndex_last {f h : String} (hh : toLower (trimSpace h) = f) {B : List String}
    (hB : ∀ b ∈ B, toLower (trimSpace b) ≠ f) : ∀ A : List String,
      headerIndex (A ++ h :: B) f = some A.length
  | [] => by rw [List.nil_append, headerIndex_cons, headerIndex_eq_none hB, if_pos hh]; rfl
  | a :: A => by rw [List.cons_append, headerIndex_cons, headerIndex_last hh hB A]; rfl

/-- A field is the trimmed cell of the last column of its name, or empty when the record does not
reach that column, whatever an earlier column of the same name holds. -/
theorem csvField_of_last {f h : String} (hh : toLower (trimSpace h) = f) {B : List String}
    (hB : ∀ b ∈ B, toLower (trimSpace b) ≠ f) (A R : List String) :
    csvField (A ++ h :: B) R f = ((R.get? A.length).map trimSpace).getD "" := by
  unfold csvField
  rw [headerIndex_last hh hB A]
  dsimp only
  cases R.get? A.length <;> rfl

/-- Every field the CSV parser reads is trimmed. -/
theorem trimSpace_csvField (H R : List String) (f : String) :
    trimSpace (csvField H R f) = csvField H R f := by
  unfold csvField
  split
  · split
    · exact trimSpace_trimSpace _
    · rfl
  · rfl

/-- A field read through a header with one more column in front: the front cell when only the front
column matches, the field of the rest otherwise. -/
theorem csvField_cons (h : String) (H : List String) (r : String) (R : List String) (f : String) :
    csvField (h :: H) (r :: R) f =
      if headerIndex H f = none ∧ toLower (trimSpace h) = f then trimSpace r
      else csvField H R f := by
  unfold csvField
  rw [headerIndex_cons]
  cases headerIndex H f <;> by_cases hh : toLower (trimSpace h) = f <;> simp [hh]

/-- With distinct column names, a field is the lookup of its name among the header's columns
paired with the record's cells. -/
theorem csvField_eq_find {f : String} : ∀ {H R : List String}, H.length ≤ R.length →
    (H.map fun h => toLower (trimSpace h)).Nodup →
    csvField H R f =
      (((H.zip R).find? fun p => toLower (trimSpace p.1) = f).map (trimSpace ·.2)).getD ""
  | [], R, _, _ => rfl
  | _ :: _, [], hlen, _ => absurd hlen (by simp)
  | h :: H, r :: R, hlen, hn => by
    rw [List.map_cons, List.nodup_cons] at hn
    rw [csvField_cons, List.zip_cons_cons, List.find?_cons]
    by_cases hh : toLower (trimSpace h) = f
    · have hnone := headerIndex_eq_none (H := H) fun b hb hbf =>
        hn.1 (List.mem_map.mpr ⟨b, hb, hbf.trans hh.symm⟩)
      simp [hh, hnone]
    · simp only [hh, and_false, if_false, decide_False]
      exact csvField_eq_find (Nat.le_of_succ_le_succ hlen) hn.2

/-- A lookup by a key that at most one element satisfies does not see the order of the list. -/
theorem find?_perm {α : Type} {p : α → Bool} {l l' : List α} (hp : l.Perm l')
    (hu : l.Pairwise fun x y => ¬(p x ∧ p y)) : l.find? p = l'.find? p := by
  induction hp with
  | nil => rfl
  | cons x _ ih => simp only [List.find?_cons, ih (List.pairwise_cons.mp hu).2]
  | swap x y l =>
    have hxy := (List.pairwise_cons.mp hu).1 x (List.mem_cons_self x l)
    cases hx : p x <;> cases hy : p y <;> simp_all [List.find?_cons]
  | trans h₁ _ ih₁ ih₂ =>
    exact (ih₁ hu).trans (ih₂ ((h₁.pairwise_iff fun h ⟨a, b⟩ => h ⟨b, a⟩).mp hu))

/-- Pairing a header with a record at least as long keeps the header's keys. -/
theorem zip_keys {H R : List String} (hlen : H.length ≤ R.length) :
    (H.zip R).map (fun p => toLower (trimSpace p.1)) = H.map fun h => toLower (trimSpace h) := by
  have := congrArg (List.map fun h => toLower (trimSpace h)) (List.map_fst_zip H R hlen)
  rwa [List.map_map] at this

/-- With distinct column names, reordering the header's columns and the record's cells together
leaves every field alone; cells past the header are never read. -/
theorem csvField_perm {H R H' R' : List String} (hlen : H.length ≤ R.length)
    (hlen' : H'.length ≤ R'.length) (hn : (H.map fun h => toLower (trimSpace h)).Nodup)
    (hperm : (H'.zip R').Perm (H.zip R)) (f : String) : csvField H' R' f = csvField H R f := by
  have hn' : (H'.map fun h => toLower (trimSpace h)).Nodup := by
    rw [← zip_keys hlen']
    rw [← zip_keys hlen] at hn
    exact (hperm.map _).nodup_iff.mpr hn
  have hu : (H'.zip R').Pairwise fun x y =>
      ¬(decide (toLower (trimSpace x.1) = f) ∧ decide (toLower (trimSpace y.1) = f)) := by
    rw [← zip_keys hlen'] at hn'
    exact (List.pairwise_map.mp hn').imp fun hne ⟨hx, hy⟩ =>
      hne ((of_decide_eq_true hx).trans (of_decide_eq_true hy).symm)
  rw [csvField_eq_find hlen' hn', csvField_eq_find hlen hn, find?_perm hperm hu]

/-- Two records whose columns are the same (header, cell) pairs in another order, under a header
with no repeated key, give the same users, articles and comments. -/
theorem parseRecords_perm {H R H' R' : List String} (hlen : H.length ≤ R.length)
    (hlen' : H'.length ≤ R'.length) (hn : (H.map fun h => toLower (trimSpace h)).Nodup)
    (hperm : (H'.zip R').Perm (H.zip R)) :
    parseUserRecord H' R' = parseUserRecord H R ∧
      parseArticleRecord H' R' = parseArticleRecord H R ∧
      parseCommentRecord H' R' = parseCommentRecord H R := by
  simp only [parseUserRecord, parseArticleRecord, parseCommentRecord, csvTags,
    csvField_perm hlen hlen' hn hperm, and_self]

/-- Each field of `parseUserRecord`, `parseArticleRecord` and `parseCommentRecord` is the trimmed
cell of the last column of its name when the record reaches that column, and empty otherwise; with
distinct column names, one reordering of the header's columns and of a record's cells leaves the
parsed record unchanged. -/
theorem csv_fields_by_last_header :
    (∀ (A B R : List String) (h f : String), toLower (trimSpace h) = f →
        (∀ b ∈ B, toLower (trimSpace b) ≠ f) →
        csvField (A ++ h :: B) R f = ((R.get? A.length).map trimSpace).getD "") ∧
      (∀ (H R : List String) (f : String), (∀ h ∈ H, toLower (trimSpace h) ≠ f) →
        csvField H R f = "") ∧
      ∀ H R H' R' : List String, H.length ≤ R.length → H'.length ≤ R'.length →
        (H.map fun h => toLower (trimSpace h)).Nodup → (H'.zip R').Perm (H.zip R) →
        parseUserRecord H' R' = parseUserRecord H R ∧
          parseArticleRecord H' R' = parseArticleRecord H R ∧
          parseCommentRecord H' R' = parseCommentRecord H R :=
  ⟨fun A _ R _ _ hh hB => csvField_of_last hh hB A R,
    fun H R f hH => by unfold csvField; rw [headerIndex_eq_none hH],
    fun _ _ _ _ => parseRecords_perm⟩

/-- A record shorter than the last column of a name gets an empty field, though an earlier column
of that name holds a cell. -/
theorem duplicate_email_short_record :
    (parseUserRecord ["email", "email"] ["x@y.co"]).email ≠ trimSpace "x@y.co" := by decide

end BulkImport
