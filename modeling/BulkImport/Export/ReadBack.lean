import BulkImport.Basic.JsonRead
import BulkImport.Basic.TimeRoundTrip
import BulkImport.Export.Formats
import BulkImport.Import.Conversion

/-!
# Export files read back by the import parser

An upload is read line by line: `bufio.Scanner` with its default split, `ScanLines`, cuts the
file after each newline, drops a carriage return before it, and returns the rest after the last
newline as a last line when it is not empty; `NDJSONParser` hands each line to `json.Unmarshal`
(`scanFile`). `DetectFormat` sends both `.ndjson` and `.json` uploads to that parser.

An NDJSON export is one rendered record per line, and a rendered value has no line break
(`render_no_break`), so the scanner gives back the records' texts and `json.Unmarshal` their
values (`scanFile_ndjsonExport`): the parser delivers the records, numbered from 1, as the import
structs decode them (`parseNdjson_ndjsonExport`). Every user line then fails to decode, since
`active` is written as a Boolean and read into a string; each comment comes back as the import
record of its fields, and that record converts to the comment with its body trimmed and
`updated_at` reset. A JSON export read the same way is cut at its separators, and only its last
record reaches the pipeline.
-/

namespace BulkImport

/-! ## The scanner -/

/-- `dropCR`: a trailing carriage return removed. -/
def dropCR (l : List Char) : List Char :=
  if l.getLast? = some '\r' then l.dropLast else l

/-- `bufio.ScanLines` over a whole input, the current line held reversed in `cur`: a newline ends
the line, and at the end of the input what is left is a last line if it is not empty. -/
def scanLinesFrom (cur : List Char) : List Char → List (List Char)
  | [] => if cur.isEmpty then [] else [dropCR cur.reverse]
  | c :: cs => if c = '\n' then dropCR cur.reverse :: scanLinesFrom [] cs else scanLinesFrom (c :: cur) cs

/-- The lines `scanner.Scan` returns on a file. -/
def scanLines (cs : List Char) : List (List Char) := scanLinesFrom [] cs

/-- A file as `NDJSONParser` reads it when nothing fails to read: each line the scanner returns,
with its length in bytes and what `json.Unmarshal` decodes its text to. -/
def scanFile (cs : List Char) : NdjsonFile :=
  ⟨(scanLines cs).map fun l => ⟨(String.mk l).utf8ByteSize, decodeJson l⟩, none⟩

/-- A text without a line break. -/
def NoBreak (l : List Char) : Prop := ∀ c ∈ l, c ≠ '\n' ∧ c ≠ '\r'

/-- A line without a break has no carriage return for the scanner to drop. -/
theorem dropCR_of_noBreak {l : List Char} (h : NoBreak l) : dropCR l = l :=
  if_neg fun hl => (h _ (List.mem_of_getLast?_eq_some hl)).2 rfl

/-- A line up to its newline is scanned as one line, and the scan goes on after it. -/
theorem scanLinesFrom_line : ∀ (l cur rest : List Char), '\n' ∉ l →
    scanLinesFrom cur (l ++ '\n' :: rest) = dropCR (cur.reverse ++ l) :: scanLinesFrom [] rest
  | [], cur, rest, _ => by simp [scanLinesFrom]
  | c :: l, cur, rest, h => by
    have hc : c ≠ '\n' := fun e => h (e ▸ List.mem_cons_self _ _)
    rw [List.cons_append, scanLinesFrom, if_neg hc,
      scanLinesFrom_line l (c :: cur) rest fun e => h (List.mem_cons_of_mem _ e)]
    simp

/-- The last line of an input, with no newline after it, is scanned as one line. -/
theorem scanLinesFrom_last : ∀ (l cur : List Char), '\n' ∉ l → cur.reverse ++ l ≠ [] →
    scanLinesFrom cur l = [dropCR (cur.reverse ++ l)]
  | [], cur, _, hne => by
    rw [List.append_nil] at hne
    simp [scanLinesFrom, List.reverse_eq_nil_iff.not.mp hne]
  | c :: l, cur, h, _ => by
    have hc : c ≠ '\n' := fun e => h (e ▸ List.mem_cons_self _ _)
    rw [scanLinesFrom, if_neg hc,
      scanLinesFrom_last l (c :: cur) (fun e => h (List.mem_cons_of_mem _ e)) (by simp)]
    simp

/-- Lines without a line break, each ended by a newline, are scanned back as themselves, and the
scan goes on after them. -/
theorem scanLinesFrom_lines : ∀ (ls : List (List Char)) (rest : List Char), (∀ l ∈ ls, NoBreak l) →
    scanLinesFrom [] ((ls.map (· ++ ['\n'])).flatten ++ rest) = ls ++ scanLinesFrom [] rest
  | [], _, _ => rfl
  | l :: ls, rest, h => by
    have hl := h l (List.mem_cons_self _ _)
    rw [List.map_cons, List.flatten_cons, List.append_assoc, List.append_assoc, List.singleton_append,
      scanLinesFrom_line l [] _ fun e => (hl _ e).1 rfl, List.reverse_nil, List.nil_append,
      dropCR_of_noBreak hl, List.cons_append]
    exact congrArg _ (scanLinesFrom_lines ls rest fun l' h' => h l' (List.mem_cons_of_mem _ h'))

/-! ## The parser's loop on lines that fit -/

/-- On lines that are neither empty nor too long for the buffer, the loop of `ParseUsers` and its
siblings makes one call per line, numbered on from `line`, with what the line decodes to, and
returns no error. -/
theorem ndjsonCalls_fitting {R : Type} (decode : JVal → Option R) : ∀ (line : Nat) (ls : List NdjsonLine),
    (∀ l ∈ ls, 0 < l.len ∧ l.len < maxBufferSize) →
    ndjsonCalls decode line ls = ((ls.enumFrom (line + 1)).map fun p => (p.1, p.2.json.bind decode), none)
  | _, [], _ => rfl
  | line, l :: ls, h => by
    obtain ⟨hpos, hlen⟩ := h l (List.mem_cons_self _ _)
    rw [ndjsonCalls, if_neg (by omega), if_neg (by omega),
      ndjsonCalls_fitting decode (line + 1) ls fun l' h' => h l' (List.mem_cons_of_mem _ h')]
    rfl

/-- The text of a value with only JSON number literals is never empty. -/
theorem render_utf8ByteSize_pos {v : JVal} (h : v.numbersOk = true) :
    0 < (String.mk (render v)).utf8ByteSize := by
  obtain ⟨c, cs, hr, -⟩ := render_head h
  rw [hr, String.utf8ByteSize_mk, String.utf8Len_cons]
  exact Nat.lt_add_left _ c.utf8Size_pos

/-! ## The rows an export writes -/

/-- The instants `Time.MarshalJSON` writes: from the year 0 up to the end of the year 9999. -/
def Time.writable (t : Time) : Bool :=
  decide (-62167219200000000000 ≤ t.unixNanos ∧ t.unixNanos < 253402300800000000000)

/-- The rows a stream writes: those of its cursor that `json.Marshal` encodes; the others it skips
without an error. -/
def written {E : Type} (marshal : E → Option JVal) (rows : List E) : List E :=
  rows.filter fun e => (marshal e).isSome

/-- `Time.MarshalJSON` writes exactly the instants from the year 0 through the year 9999. -/
theorem timeJson_isSome (t : Time) : (timeJson t).isSome = t.writable := by
  rw [timeJson, Option.isSome_map', Time.writable, Bool.eq_iff_iff, decide_eq_true_iff]
  exact formatRFC3339Nano_isSome t

/-- A user marshals exactly when both its timestamps can be written. -/
theorem userJson_isSome (u : User) : (userJson u).isSome = (u.createdAt.writable && u.updatedAt.writable) := by
  rw [← timeJson_isSome, ← timeJson_isSome, userJson]
  cases timeJson u.createdAt <;> cases timeJson u.updatedAt <;> rfl

/-- An article marshals exactly when its timestamps, `published_at` included when set, can be
written. -/
theorem articleJson_isSome (a : Article) :
    (articleJson a).isSome =
      (a.publishedAt.all Time.writable && a.createdAt.writable && a.updatedAt.writable) := by
  rw [articleJson]
  cases a.publishedAt with
  | none =>
    simp only [Option.all_none, ← timeJson_isSome]
    cases timeJson a.createdAt <;> cases timeJson a.updatedAt <;> rfl
  | some t =>
    simp only [Option.all_some, ← timeJson_isSome]
    cases timeJson t <;> cases timeJson a.createdAt <;> cases timeJson a.updatedAt <;> rfl

/-- A comment marshals exactly when both its timestamps can be written. -/
theorem commentJson_isSome (c : Comment) :
    (commentJson c).isSome = (c.createdAt.writable && c.updatedAt.writable) := by
  rw [← timeJson_isSome, ← timeJson_isSome, commentJson]
  cases timeJson c.createdAt <;> cases timeJson c.updatedAt <;> rfl

/-- The values a marshaller gives the rows it encodes, paired with those rows in order. -/
theorem written_filterMap {E : Type} (marshal : E → Option JVal) :
    ∀ rows : List E, List.Forall₂ (fun e v => marshal e = some v) (written marshal rows)
      (rows.filterMap marshal)
  | [] => .nil
  | e :: rows => by
    cases h : marshal e with
    | none => simpa [written, h] using written_filterMap marshal rows
    | some v =>
      simp only [written, List.filter_cons, h, Option.isSome_some, if_true, List.filterMap_cons]
      exact .cons h (written_filterMap marshal rows)

/-- A file holding the lines of the rows that marshal holds one line per row that `q` selects,
when `q` tells which rows marshal. -/
theorem Writing.written {E : Type} {marshal : E → Option JVal} {q : E → Bool}
    (hq : ∀ e, (marshal e).isSome = q e) {db₀ : Db} {p : String} {B : List Char} {rows : List E}
    {w : World} (hw : Writing db₀ p (B ++ ((rows.filterMap marshal).map fun v => render v ++ ['\n']).flatten) w) :
    ∃ vs, List.Forall₂ (fun e v => marshal e = some v) (rows.filter q) vs ∧
      Writing db₀ p (B ++ (vs.map fun v => render v ++ ['\n']).flatten) w :=
  ⟨_, List.filter_congr (fun e _ => hq e) ▸ written_filterMap marshal rows, hw⟩

/-- The NDJSON streams write one line for every row their filters select whose timestamps
`Time.MarshalJSON` can write, in the cursor's order, and skip the others without an error: a
user, article or comment with a timestamp before the year 0 or after the year 9999 is left out of
the file. -/
theorem written_selected (cfg : ExportConfig) (filters : ExportFilters) {db₀ : Db} {p : String}
    {B : List Char} :
    Triple (Writing db₀ p B) (streamUsers cfg p filters)
        (fun _ w => ∃ vs, List.Forall₂ (fun u v => userJson u = some v)
            ((selectUsers filters db₀).filter fun u => u.createdAt.writable && u.updatedAt.writable)
            vs ∧ Writing db₀ p (B ++ (vs.map fun v => render v ++ ['\n']).flatten) w)
        (fun _ _ => False) ∧
      Triple (Writing db₀ p B) (streamArticles cfg p filters)
        (fun _ w => ∃ vs, List.Forall₂ (fun a v => articleJson a = some v)
            ((selectArticles filters db₀).filter fun a =>
              a.publishedAt.all Time.writable && a.createdAt.writable && a.updatedAt.writable)
            vs ∧ Writing db₀ p (B ++ (vs.map fun v => render v ++ ['\n']).flatten) w)
        (fun _ _ => False) ∧
      Triple (Writing db₀ p B) (streamComments cfg p filters)
        (fun _ w => ∃ vs, List.Forall₂ (fun c v => commentJson c = some v)
            ((selectComments filters db₀).filter fun c => c.createdAt.writable && c.updatedAt.writable)
            vs ∧ Writing db₀ p (B ++ (vs.map fun v => render v ++ ['\n']).flatten) w)
        (fun _ _ => False) :=
  ⟨(streamUsers_writing cfg filters).conseq (fun _ h => h)
      (fun _ _ hw => Writing.written userJson_isSome (ndjsonExport_eq .users filters db₀ ▸ hw))
      fun _ _ h => h,
    (streamArticles_writing cfg filters).conseq (fun _ h => h)
      (fun _ _ hw => Writing.written articleJson_isSome (ndjsonExport_eq .articles filters db₀ ▸ hw))
      fun _ _ h => h,
    (streamComments_writing cfg filters).conseq (fun _ h => h)
      (fun _ _ hw => Writing.written commentJson_isSome (ndjsonExport_eq .comments filters db₀ ▸ hw))
      fun _ _ h => h⟩

/-! ## Number literals -/

/-- A marshaller whose values on the rows have only JSON number literals, so that `json.Unmarshal`
reads their text back. -/
def WritesNumbers {E : Type} (marshal : E → Option JVal) (rows : List E) : Prop :=
  ∀ v ∈ rows.filterMap marshal, v.numbersOk = true

/-- A written timestamp is a JSON string, with no number literal in it. -/
theorem timeJson_numbersOk {t : Time} {v : JVal} (h : timeJson t = some v) : v.numbersOk = true := by
  obtain ⟨s, -, rfl⟩ := Option.map_eq_some'.mp h
  rfl

/-- The values of marshalled users hold only number literals that read back. -/
theorem userJson_numbers (us : List User) : WritesNumbers userJson us := by
  intro v hv
  obtain ⟨u, -, h⟩ := List.mem_filterMap.mp hv
  simp only [userJson, Option.bind_eq_bind, Option.bind_eq_some, Option.pure_def,
    Option.some.injEq] at h
  obtain ⟨c, hc, up, hup, rfl⟩ := h
  simp [JVal.numbersOk, membersNumbersOk, timeJson_numbersOk hc, timeJson_numbersOk hup]

/-- The values of marshalled comments hold only number literals that read back. -/
theorem commentJson_numbers (cs : List Comment) : WritesNumbers commentJson cs := by
  intro v hv
  obtain ⟨c, -, h⟩ := List.mem_filterMap.mp hv
  simp only [commentJson, Option.bind_eq_bind, Option.bind_eq_some, Option.pure_def,
    Option.some.injEq] at h
  obtain ⟨cr, hcr, up, hup, rfl⟩ := h
  simp [JVal.numbersOk, membersNumbersOk, timeJson_numbersOk hcr, timeJson_numbersOk hup]

/-- An article's line reads back when the number literals of its tags are JSON numbers, as those
of a `jsonb` column are. -/
theorem articleJson_numbers {as : List Article} (h : ∀ a ∈ as, a.tags.numbersOk = true) :
    WritesNumbers articleJson as := by
  intro v hv
  obtain ⟨a, ha, hv⟩ := List.mem_filterMap.mp hv
  cases hpub : a.publishedAt <;>
    simp only [articleJson, hpub, Option.bind_eq_bind, Option.bind_eq_some, Option.pure_def,
      Option.some.injEq, Option.map_eq_some', exists_exists_and_eq_and, Option.some_bind] at hv
  · obtain ⟨c, hc, up, hup, rfl⟩ := hv
    simp [JVal.numbersOk, membersNumbersOk, membersNumbersOk_append, h a ha,
      timeJson_numbersOk hc, timeJson_numbersOk hup]
  · obtain ⟨p, hp, c, hc, up, hup, rfl⟩ := hv
    simp [JVal.numbersOk, membersNumbersOk, membersNumbersOk_append, h a ha,
      timeJson_numbersOk hp, timeJson_numbersOk hc, timeJson_numbersOk hup]

/-! ## The NDJSON export read back -/

/-- The lines of an NDJSON export, as the scanner cuts them and `json.Unmarshal` decodes them,
are the exported records' texts and values. -/
theorem scanFile_ndjsonExport {res : ResourceType} {filters : ExportFilters} {db : Db}
    (hok : ∀ v ∈ marshalledRows res filters db, v.numbersOk = true) :
    scanFile (ndjsonExport res filters db) =
      ⟨(marshalledRows res filters db).map fun v => ⟨(String.mk (render v)).utf8ByteSize, some v⟩,
        none⟩ := by
  have hlines : ((marshalledRows res filters db).map fun v => render v ++ ['\n']) =
      ((marshalledRows res filters db).map render).map (· ++ ['\n']) := by
    rw [List.map_map]
    rfl
  rw [scanFile, ndjsonExport_eq, hlines, scanLines, ← List.append_nil (List.flatten _),
    scanLinesFrom_lines _ [] fun l hl => ?_, show scanLinesFrom [] [] = [] from rfl, List.append_nil,
    List.map_map]
  · congr 1
    exact List.map_congr_left fun v hv => by
      simp only [Function.comp_apply, decodeJson_render (hok v hv)]
  · obtain ⟨v, hv, rfl⟩ := List.mem_map.mp hl
    exact render_no_break v (hok v hv)

/-- `NDJSONParser` on an NDJSON export whose lines fit its buffer delivers the exported records
in order, numbered from 1, each as the import struct decodes it, and no error. -/
theorem parseNdjson_ndjsonExport {R : Type} (decode : JVal → Option R) {res : ResourceType}
    {filters : ExportFilters} {db : Db}
    (h : ∀ v ∈ marshalledRows res filters db,
      v.numbersOk = true ∧ (String.mk (render v)).utf8ByteSize < maxBufferSize) :
    parseNdjson decode (scanFile (ndjsonExport res filters db)) =
      ⟨((marshalledRows res filters db).enumFrom 1).map fun p => (p.1, decode p.2), none⟩ := by
  rw [scanFile_ndjsonExport fun v hv => (h v hv).1, parseNdjson]
  rw [ndjsonCalls_fitting decode 0 _ fun l hl => ?_]
  · simp only [List.enumFrom_map, List.map_map]
    rfl
  · obtain ⟨v, hv, rfl⟩ := List.mem_map.mp hl
    exact ⟨render_utf8ByteSize_pos (h v hv).1, (h v hv).2⟩

/-- Numbering the values of the written rows and decoding them is numbering the written rows,
when decoding a row's value is a function of the row. -/
theorem enumFrom_filterMap_decode {E R : Type} {marshal : E → Option JVal} {decode : JVal → Option R}
    {f : E → Option R} (hf : ∀ e v, marshal e = some v → decode v = f e) :
    ∀ (n : Nat) (rows : List E),
      ((rows.filterMap marshal).enumFrom n).map (fun p => (p.1, decode p.2)) =
        ((written marshal rows).enumFrom n).map fun p => (p.1, f p.2)
  | _, [] => rfl
  | n, e :: rows => by
    cases hm : marshal e with
    | none =>
      simp only [written, List.filterMap_cons, hm, List.filter_cons, Option.isSome_none,
        Bool.false_eq_true, if_false]
      exact enumFrom_filterMap_decode hf n rows
    | some v =>
      simp only [written, List.filterMap_cons, hm, List.filter_cons, Option.isSome_some, if_true,
        List.enumFrom_cons, List.map_cons, hf e v hm]
      exact congrArg _ (enumFrom_filterMap_decode hf (n + 1) rows)

/-- An exported user's line does not decode into a `UserImport`: `active` is a Boolean there and
a string here. -/
theorem decodeUserImport_userJson {u : User} {v : JVal} (h : userJson u = some v) :
    decodeUserImport v = none := by
  simp only [userJson, Option.bind_eq_bind, Option.bind_eq_some, Option.pure_def,
    Option.some.injEq] at h
  obtain ⟨c, -, up, -, rfl⟩ := h
  rfl

/-- The import record of a comment's fields, as its exported line carries them. -/
def commentImportOf (c : Comment) (createdAt : String) : CommentImport :=
  ⟨c.id.toText, c.articleId.toText, c.userId.toText, c.body, createdAt⟩

/-- The line of a comment decodes to the import record of its fields, with `created_at` as
written. -/
theorem decodeCommentImport_commentJson {c : Comment} {v : JVal} (h : commentJson c = some v) :
    decodeCommentImport v = some (commentImportOf c ((formatRFC3339Nano c.createdAt).getD "")) := by
  simp only [commentJson, Option.bind_eq_bind, Option.bind_eq_some, Option.pure_def,
    Option.some.injEq, timeJson, Option.map_eq_some'] at h
  obtain ⟨_, ⟨s, hs, rfl⟩, _, ⟨u, -, rfl⟩, rfl⟩ := h
  rw [hs]
  rfl

/-- Members of other names after the `tags` member leave its decoding alone. -/
theorem tagsMember_append_others (ms : List (String × JVal)) : ∀ ns : List (String × JVal),
    (∀ m ∈ ns, keyMatches "tags" m.1 = false) → tagsMember (ms ++ ns) = tagsMember ms := by
  intro ns h
  unfold tagsMember
  rw [List.foldl_append]
  generalize List.foldl _ (some none) ms = acc
  induction ns generalizing acc with
  | nil => rfl
  | cons m ns ih =>
    rw [List.foldl_cons, ih (fun m' h' => h m' (List.mem_cons_of_mem _ h'))]
    cases acc <;> simp [h m (List.mem_cons_self _ _)]

/-- The import record of an article's fields, as its exported line carries them. -/
def articleImportOf (a : Article) (tags : Option (List String)) (publishedAt : String) : ArticleImport :=
  ⟨a.id.toText, a.slug, a.title, a.body, a.authorId.toText, tags, publishedAt, a.status⟩

/-- `json.Unmarshal` of an article's exported object: every string field by its name, `tags` as
its member decodes, and `published_at` when the object has it. -/
theorem decodeArticleImport_obj (a : Article) (s c u : String) {p : List (String × JVal)}
    (hp : p = [] ∧ s = "" ∨ p = [("published_at", .str s)]) :
    decodeArticleImport (.obj ([("id", .str a.id.toText), ("slug", .str a.slug),
      ("title", .str a.title), ("body", .str a.body), ("author_id", .str a.authorId.toText),
      ("tags", a.tags)] ++ p ++ [("status", .str a.status), ("created_at", .str c),
      ("updated_at", .str u)])) =
      (tagsMember [("tags", a.tags)]).map fun tags => articleImportOf a tags s := by
  have hrest : ∀ m ∈ p ++ [("status", .str a.status), ("created_at", .str c), ("updated_at", .str u)],
      keyMatches "tags" m.1 = false := by
    intro m hm
    rcases hp with ⟨rfl, -⟩ | rfl <;>
      simp only [List.nil_append, List.singleton_append, List.mem_cons, List.not_mem_nil,
        or_false] at hm <;>
      rcases hm with rfl | rfl | rfl | rfl <;> rfl
  -- The members before `tags` have other names too, so only the `tags` member counts.
  have ht : tagsMember ([("id", .str a.id.toText), ("slug", .str a.slug), ("title", .str a.title),
      ("body", .str a.body), ("author_id", .str a.authorId.toText), ("tags", a.tags)] ++
      (p ++ [("status", .str a.status), ("created_at", .str c), ("updated_at", .str u)])) =
      tagsMember [("tags", a.tags)] :=
    (tagsMember_append_others _ _ hrest).trans rfl
  rw [List.append_assoc, decodeArticleImport]
  simp only [ht]
  rcases hp with ⟨rfl, rfl⟩ | rfl <;> cases tagsMember [("tags", a.tags)] <;> rfl

/-- An exported article's line decodes as its member `tags` does: into the import record of the
article's fields, or, when `tags` is neither `null` nor an array of strings, not at all. -/
theorem decodeArticleImport_articleJson {a : Article} {v : JVal} (h : articleJson a = some v) :
    decodeArticleImport v = (tagsMember [("tags", a.tags)]).map fun tags =>
      articleImportOf a tags ((a.publishedAt.bind formatRFC3339Nano).getD "") := by
  cases hpub : a.publishedAt <;>
    simp only [articleJson, hpub, Option.bind_eq_bind, Option.bind_eq_some, Option.pure_def,
      Option.some.injEq, timeJson, Option.map_eq_some', exists_exists_and_eq_and,
      Option.some_bind] at h
  · obtain ⟨c, -, u, -, rfl⟩ := h
    exact decodeArticleImport_obj a "" c u (.inl ⟨rfl, rfl⟩)
  · obtain ⟨s, hs, c, -, u, -, rfl⟩ := h
    rw [Option.some_bind, hs, Option.getD_some]
    exact decodeArticleImport_obj a s c u (.inr rfl)

/-- An NDJSON users export whose lines fit the buffer is read back as one row per exported user,
each without a record. -/
theorem users_read_back {filters : ExportFilters} {db : Db}
    (hlen : ∀ v ∈ marshalledRows .users filters db, (String.mk (render v)).utf8ByteSize < maxBufferSize) :
    parseNdjson decodeUserImport (scanFile (ndjsonExport .users filters db)) =
      ⟨(List.range' 1 (written userJson (selectUsers filters db)).length).map fun i => (i, none), none⟩ := by
  rw [@parseNdjson_ndjsonExport _ decodeUserImport .users filters db fun v hv =>
      ⟨userJson_numbers (selectUsers filters db) v hv, hlen v hv⟩,
    marshalledRows, @enumFrom_filterMap_decode _ _ _ _ (fun _ => none)
      (fun _ _ h => decodeUserImport_userJson h),
    ← List.enumFrom_map_fst 1, List.map_map]
  rfl

set_option maxRecDepth 4000 in
/-- The file the export of one user writes is read back as one row without a record: the user's
`active` is a JSON Boolean, which `json.Unmarshal` does not read into the string of
`UserImport.Active`. -/
theorem exported_user_unread :
    parseNdjson decodeUserImport (scanFile (ndjsonExport .users {} oneUserExportWorld.db)) =
      ⟨[(1, none)], none⟩ :=
  users_read_back (by decide)

/-- An NDJSON articles export whose lines fit the buffer is read back as one row per exported
article, with the import record of its fields when its tags are strings. -/
theorem articles_read_back {filters : ExportFilters} {db : Db}
    (htags : ∀ a ∈ selectArticles filters db, a.tags.numbersOk = true)
    (hlen : ∀ v ∈ marshalledRows .articles filters db,
      (String.mk (render v)).utf8ByteSize < maxBufferSize) :
    parseNdjson decodeArticleImport (scanFile (ndjsonExport .articles filters db)) =
      ⟨((written articleJson (selectArticles filters db)).enumFrom 1).map fun p =>
        (p.1, (tagsMember [("tags", p.2.tags)]).map fun tags =>
          articleImportOf p.2 tags ((p.2.publishedAt.bind formatRFC3339Nano).getD "")), none⟩ := by
  rw [@parseNdjson_ndjsonExport _ decodeArticleImport .articles filters db fun v hv =>
      ⟨articleJson_numbers htags v hv, hlen v hv⟩,
    marshalledRows, enumFrom_filterMap_decode fun _ _ h => decodeArticleImport_articleJson h]

/-- An NDJSON comments export whose lines fit the buffer is read back as one row per exported
comment, with the import record of its fields. -/
theorem comments_read_back {filters : ExportFilters} {db : Db}
    (hlen : ∀ v ∈ marshalledRows .comments filters db,
      (String.mk (render v)).utf8ByteSize < maxBufferSize) :
    parseNdjson decodeCommentImport (scanFile (ndjsonExport .comments filters db)) =
      ⟨((written commentJson (selectComments filters db)).enumFrom 1).map fun p =>
        (p.1, some (commentImportOf p.2 ((formatRFC3339Nano p.2.createdAt).getD ""))), none⟩ := by
  rw [@parseNdjson_ndjsonExport _ decodeCommentImport .comments filters db fun v hv =>
      ⟨commentJson_numbers (selectComments filters db) v hv, hlen v hv⟩,
    marshalledRows, enumFrom_filterMap_decode fun _ _ h => decodeCommentImport_commentJson h]

/-- Reading an NDJSON export back through `NDJSONParser`, when its lines fit the scanner's buffer
(and the articles' tags are JSON, as a `jsonb` column holds it), delivers one row per exported
record, numbered from 1, and no error: for users every row is without a record, since `active` is
written as a Boolean and read into a string; for articles each row has the import record of the
article's fields, or none when its `tags` is not an array of strings; for comments each row has
the import record of the comment's fields. -/
theorem ndjsonExport_read_back {filters : ExportFilters} {db : Db}
    (htags : ∀ a ∈ selectArticles filters db, a.tags.numbersOk = true)
    (hlen : ∀ res, ∀ v ∈ marshalledRows res filters db,
      (String.mk (render v)).utf8ByteSize < maxBufferSize) :
    parseNdjson decodeUserImport (scanFile (ndjsonExport .users filters db)) =
        ⟨(List.range' 1 (written userJson (selectUsers filters db)).length).map fun i => (i, none),
          none⟩ ∧
      parseNdjson decodeArticleImport (scanFile (ndjsonExport .articles filters db)) =
        ⟨((written articleJson (selectArticles filters db)).enumFrom 1).map fun p =>
          (p.1, (tagsMember [("tags", p.2.tags)]).map fun tags =>
            articleImportOf p.2 tags ((p.2.publishedAt.bind formatRFC3339Nano).getD "")), none⟩ ∧
      parseNdjson decodeCommentImport (scanFile (ndjsonExport .comments filters db)) =
        ⟨((written commentJson (selectComments filters db)).enumFrom 1).map fun p =>
          (p.1, some (commentImportOf p.2 ((formatRFC3339Nano p.2.createdAt).getD ""))), none⟩ :=
  ⟨users_read_back (hlen .users), articles_read_back htags (hlen .articles),
    comments_read_back (hlen .comments)⟩

/-- A comment as the table holds it, its body padded with spaces. -/
def exportedComment : Comment :=
  ⟨Uuid.ofSeed 3, Uuid.ofSeed 2, Uuid.ofSeed 1, " Nice ", ⟨1705314600500000000⟩, ⟨0⟩⟩

/-- An article as the table holds it, published, with two tags, a slug that is not kebab-case and
a padded title and status. -/
def exportedArticle : Article :=
  ⟨Uuid.ofSeed 2, "Hello  World", " Hello ", "Text", Uuid.ofSeed 1, strArray ["go", "sql"],
    some ⟨1705314600000000000⟩, " Published", ⟨1705314600000000000⟩, ⟨1705314600000000000⟩⟩

/-- The tables with a user, the article and the comment. -/
def exportedDb : Db :=
  { Db.empty with users := [exportedUser], articles := [exportedArticle], comments := [exportedComment] }

set_option maxRecDepth 8000 in
/-- The lines of the three exports, with a comma after each, fit the scanner's buffer. -/
theorem exportedDb_lines_fit (res : ResourceType) : ∀ v ∈ marshalledRows res {} exportedDb,
    v.numbersOk = true ∧ (String.mk (render v)).utf8ByteSize + 1 < maxBufferSize := by
  cases res <;> decide

/-- The NDJSON exports of the user, the article and the comment read back. -/
theorem exported_tables_read_back :
    (∀ a ∈ selectArticles {} exportedDb, a.tags.numbersOk = true) ∧
      (∀ res, ∀ v ∈ marshalledRows res {} exportedDb,
        (String.mk (render v)).utf8ByteSize < maxBufferSize) ∧
      parseNdjson decodeUserImport (scanFile (ndjsonExport .users {} exportedDb)) =
        ⟨(List.range' 1 (written userJson (selectUsers {} exportedDb)).length).map fun i => (i, none),
          none⟩ ∧
      parseNdjson decodeArticleImport (scanFile (ndjsonExport .articles {} exportedDb)) =
        ⟨((written articleJson (selectArticles {} exportedDb)).enumFrom 1).map fun p =>
          (p.1, (tagsMember [("tags", p.2.tags)]).map fun tags =>
            articleImportOf p.2 tags ((p.2.publishedAt.bind formatRFC3339Nano).getD "")), none⟩ ∧
      parseNdjson decodeCommentImport (scanFile (ndjsonExport .comments {} exportedDb)) =
        ⟨((written commentJson (selectComments {} exportedDb)).enumFrom 1).map fun p =>
          (p.1, some (commentImportOf p.2 ((formatRFC3339Nano p.2.createdAt).getD ""))), none⟩ :=
  have htags : ∀ a ∈ selectArticles {} exportedDb, a.tags.numbersOk = true := by decide
  have hlen : ∀ res, ∀ v ∈ marshalledRows res {} exportedDb,
      (String.mk (render v)).utf8ByteSize < maxBufferSize :=
    fun res v hv => Nat.lt_of_succ_lt (exportedDb_lines_fit res v hv).2
  ⟨htags, hlen, ndjsonExport_read_back htags hlen⟩

/-- The canonical text of a UUID is not empty. -/
theorem Uuid.toText_ne_empty (u : Uuid) : u.toText ≠ "" := fun h => by
  have hp := Uuid.parse_toText u
  rw [h, show Uuid.parse "" = none by decide] at hp
  cases hp

/-- `uuid.Parse` reads the canonical text of a UUID back. -/
theorem parseUuid_toText (u : Uuid) : parseUuid u.toText = .ok u := by
  rw [parseUuid, Uuid.parse_toText]
  rfl

/-- The converters' id of a canonical text is that UUID, taken without a call. -/
theorem importId_toText (u : Uuid) (w : World) : importId u.toText w = (.ok (.ok u), w) := by
  rw [importId, if_pos (Uuid.toText_ne_empty u), parseUuid_toText]
  rfl

/-- A written timestamp is not empty. -/
theorem formatRFC3339Nano_ne_empty {t : Time} {s : String} (hs : formatRFC3339Nano t = some s) :
    s ≠ "" := by
  rintro rfl
  have hp := parse_formatRFC3339Nano hs
  rw [show parseRFC3339 "" = none by decide] at hp
  cases hp

/-- The record read back from a comment's line converts to the comment, with its body trimmed
and `updated_at` Go's zero time, and leaves the world alone; it passes validation exactly when
the comment's body is not empty and has at most 500 words. -/
theorem commentImportOf_reimports {c : Comment} {s : String}
    (hs : formatRFC3339Nano c.createdAt = some s) :
    (∀ w, convertToComment (commentImportOf c s) w =
      (.ok (.ok { c with body := trimSpace c.body, updatedAt := Time.zero }), w)) ∧
    ∀ row, validateCommentImport row (commentImportOf c s) = [] ↔
      c.body ≠ "" ∧ countWords c.body ≤ maxCommentWords := by
  have hp := parse_formatRFC3339Nano hs
  have huuid : ∀ u : Uuid, isUuid u.toText = true := fun u => by
    rw [isUuid, Uuid.parse_toText]
    rfl
  refine ⟨fun w => ?_, fun row => ?_⟩
  · simp only [convertToComment, commentImportOf, Op.bind_apply, importId_toText, Op.pure_apply, now,
      parseUuid_toText, timeOrNow, if_pos (formatRFC3339Nano_ne_empty hs), parseTime, hp]
    rfl
  · simp only [validateCommentImport, commentImportOf, huuid, Uuid.toText_ne_empty, isRFC3339, hp,
      Option.isSome_some, Bool.not_true, Bool.false_eq_true, and_false, if_false, ne_eq,
      not_false_eq_true, List.nil_append, List.append_nil]
    by_cases hb : c.body = "" <;> simp [hb]

/-- The comment with a padded body reimports, its body trimmed. -/
theorem padded_comment_reimports :
    formatRFC3339Nano exportedComment.createdAt = some "2024-01-15T10:30:00.5Z" ∧
      ((∀ w, convertToComment (commentImportOf exportedComment "2024-01-15T10:30:00.5Z") w =
        (.ok (.ok { exportedComment with
          body := trimSpace exportedComment.body, updatedAt := Time.zero }), w)) ∧
      ∀ row, validateCommentImport row (commentImportOf exportedComment "2024-01-15T10:30:00.5Z") = [] ↔
        exportedComment.body ≠ "" ∧ countWords exportedComment.body ≤ maxCommentWords) :=
  have hs : formatRFC3339Nano exportedComment.createdAt = some "2024-01-15T10:30:00.5Z" := by
    decide
  ⟨hs, commentImportOf_reimports hs⟩

/-- An array of strings reads back as its strings. -/
theorem allStrings_map_str : ∀ ts : List String, allStrings (ts.map .str) = some ts
  | [] => rfl
  | t :: ts => by rw [List.map_cons, allStrings, allStrings_map_str ts]; rfl

/-- An exported article whose tags are an array of strings, as `ConvertToArticle` writes them, is
read back from its line as the import record of its fields, which converts to the article with its
slug put in kebab-case, its title trimmed, its status trimmed and lower-cased and both timestamps
from the clock: its id, author, body, tags and `published_at` come back unchanged. -/
theorem articleImportOf_reimports {a : Article} {v : JVal} (h : articleJson a = some v)
    {ts : List String} (htags : a.tags = strArray ts) :
    decodeArticleImport v =
        some (articleImportOf a (some ts) ((a.publishedAt.bind formatRFC3339Nano).getD "")) ∧
      ∀ w, convertToArticle (articleImportOf a (some ts) ((a.publishedAt.bind formatRFC3339Nano).getD "")) w =
        (.ok (.ok { a with
          slug := ⟨collapseHyphens (spacesToHyphens (toLower (trimSpace a.slug))).data⟩,
          title := trimSpace a.title, status := toLower (trimSpace a.status),
          createdAt := w.clock, updatedAt := w.clock }), w) := by
  have hT : tagsMember [("tags", a.tags)] = some (some ts) := by
    rw [htags]
    show (allStrings (ts.map JVal.str)).map some = _
    rw [allStrings_map_str]
    rfl
  refine ⟨by rw [decodeArticleImport_articleJson h, hT]; rfl, fun w => ?_⟩
  have hpub : (if (a.publishedAt.bind formatRFC3339Nano).getD "" ≠ "" then
      (parseTime ((a.publishedAt.bind formatRFC3339Nano).getD "")).map some else .ok none) =
      .ok a.publishedAt := by
    cases hp : a.publishedAt with
    | none => rfl
    | some t =>
      obtain ⟨s, hs⟩ : ∃ s, formatRFC3339Nano t = some s := by
        cases hs : formatRFC3339Nano t with
        | none => simp [articleJson, hp, timeJson, hs] at h
        | some s => exact ⟨s, rfl⟩
      rw [Option.some_bind, hs, Option.getD_some, if_pos (formatRFC3339Nano_ne_empty hs), parseTime,
        parse_formatRFC3339Nano hs]
      rfl
  simp only [convertToArticle, articleImportOf, Op.bind_apply, importId_toText, Op.pure_apply, now,
    parseUuid_toText, hpub, tagsJson_eq, Option.map_some', Option.getD_some, ← htags]
  rfl

/-- The published article with two tags is read back from its line and converts to itself, up to
its normalised texts and its timestamps. -/
theorem published_article_reimports :
    articleJson exportedArticle = some ((articleJson exportedArticle).getD .null) ∧
      exportedArticle.tags = strArray ["go", "sql"] ∧
      (decodeArticleImport ((articleJson exportedArticle).getD .null) =
          some (articleImportOf exportedArticle (some ["go", "sql"])
            ((exportedArticle.publishedAt.bind formatRFC3339Nano).getD "")) ∧
        ∀ w, convertToArticle (articleImportOf exportedArticle (some ["go", "sql"])
            ((exportedArticle.publishedAt.bind formatRFC3339Nano).getD "")) w =
          (.ok (.ok { exportedArticle with
            slug := ⟨collapseHyphens (spacesToHyphens (toLower (trimSpace exportedArticle.slug))).data⟩,
            title := trimSpace exportedArticle.title,
            status := toLower (trimSpace exportedArticle.status),
            createdAt := w.clock, updatedAt := w.clock }), w)) :=
  have h : articleJson exportedArticle = some ((articleJson exportedArticle).getD .null) := rfl
  ⟨h, rfl, articleImportOf_reimports h rfl⟩

/-! ## The JSON export read as lines -/

/-- The separators of a list ending in `last`: each element before it followed by the separator. -/
theorem intercalate_append_last {α : Type} (sep last : List α) : ∀ init : List (List α),
    sep.intercalate (init ++ [last]) = (init.map (· ++ sep)).flatten ++ last
  | [] => by simp [List.intercalate]
  | [x] => by simp [List.intercalate]
  | x :: y :: init => by
    have ih := intercalate_append_last sep last (y :: init)
    simp only [List.cons_append, List.intercalate, List.intersperse_cons₂, List.flatten_cons,
      List.map_cons] at ih ⊢
    rw [ih]
    simp only [List.append_assoc]

/-- A record's text with the comma after it is not a JSON text. -/
theorem decodeJson_render_comma {v : JVal} (h : v.numbersOk = true) :
    decodeJson (render v ++ [',']) = none := by
  have hlen : (render v).length < (render v ++ [',']).length + 1 := by
    rw [List.length_append]
    omega
  rw [decodeJson, readValue_render v h _ [','] hlen (delim_head (by decide) [])]
  rfl

/-- The scanner cuts a JSON export into the opening bracket, each record but the last with its
comma, the last record, and the closing bracket. -/
theorem scanLines_jsonExport {res : ResourceType} {filters : ExportFilters} {db : Db}
    {init : List JVal} {last : JVal} (hrows : marshalledRows res filters db = init ++ [last])
    (hok : ∀ v ∈ marshalledRows res filters db, v.numbersOk = true) :
    scanLines (jsonExport res filters db) =
      ['['] :: init.map (fun v => render v ++ [',']) ++ [render last, [']']] := by
  have hinit : ∀ l ∈ init.map (fun v => render v ++ [',']), NoBreak l := by
    intro l hl
    obtain ⟨v, hv, rfl⟩ := List.mem_map.mp hl
    intro c hc
    rcases List.mem_append.mp hc with hc | hc
    · exact render_no_break v (hok v (hrows ▸ List.mem_append_left _ hv)) c hc
    · rw [List.mem_singleton.mp hc]
      decide
  have hlast : NoBreak (render last) :=
    render_no_break last (hok last (hrows ▸ List.mem_append_right _ (List.mem_singleton_self _)))
  have hsep : ((init.map render).map (· ++ [',', '\n'])).flatten =
      ((init.map fun v => render v ++ [',']).map (· ++ ['\n'])).flatten := by
    simp only [List.map_map, Function.comp_def, List.append_assoc, List.singleton_append]
  rw [jsonExport_eq, hrows, List.map_append, List.map_singleton, intercalate_append_last, hsep,
    scanLines, List.append_assoc, List.append_assoc]
  rw [show ∀ r, scanLinesFrom [] (['[', '\n'] ++ r) = ['['] :: scanLinesFrom [] r from fun _ => rfl,
    scanLinesFrom_lines _ _ hinit,
    scanLinesFrom_line _ [] _ fun e => (hlast _ e).1 rfl,
    scanLinesFrom_last [']'] [] (by decide) (by decide)]
  simp only [List.reverse_nil, List.nil_append, dropCR_of_noBreak hlast]
  rfl

/-- The loop of `ParseUsers` and its siblings over lines that fit the buffer and do not decode:
one call without a record per line, and then the rest of the file. -/
theorem ndjsonCalls_unread {R : Type} (decode : JVal → Option R) :
    ∀ (line : Nat) (ls rest : List NdjsonLine),
      (∀ l ∈ ls, l.json = none ∧ 0 < l.len ∧ l.len < maxBufferSize) →
      ndjsonCalls decode line (ls ++ rest) =
        ((List.range' (line + 1) ls.length).map (fun i => (i, none)) ++
          (ndjsonCalls decode (line + ls.length) rest).1, (ndjsonCalls decode (line + ls.length) rest).2)
  | _, [], _, _ => rfl
  | line, l :: ls, rest, h => by
    obtain ⟨hj, hpos, hlen⟩ := h l (List.mem_cons_self _ _)
    rw [List.cons_append, ndjsonCalls, if_neg (by omega), if_neg (by omega),
      ndjsonCalls_unread decode (line + 1) ls rest fun l' h' => h l' (List.mem_cons_of_mem _ h'), hj]
    simp only [Option.none_bind, List.length_cons, List.range'_succ, List.map_cons, List.cons_append,
      Nat.add_assoc, Nat.add_comm 1]

/-- A JSON export uploaded as a `.json` file, which `DetectFormat` sends to `NDJSONParser`, is
read line by line: the opening bracket, every record but the last (the comma after it makes the
line no JSON text) and the closing bracket are delivered without a record, and only the last
record reaches the pipeline. -/
theorem jsonExport_read_back {R : Type} (decode : JVal → Option R) {res : ResourceType}
    {filters : ExportFilters} {db : Db} {init : List JVal} {last : JVal}
    (hrows : marshalledRows res filters db = init ++ [last])
    (h : ∀ v ∈ marshalledRows res filters db,
      v.numbersOk = true ∧ (String.mk (render v)).utf8ByteSize + 1 < maxBufferSize) :
    parseNdjson decode (scanFile (jsonExport res filters db)) =
      ⟨(List.range' 1 (init.length + 1)).map (fun i => (i, none)) ++
        [(init.length + 2, decode last), (init.length + 3, none)], none⟩ := by
  have hinit : ∀ v ∈ init, v.numbersOk = true ∧ (String.mk (render v)).utf8ByteSize + 1 < maxBufferSize :=
    fun v hv => h v (hrows ▸ List.mem_append_left _ hv)
  have hl := h last (hrows ▸ List.mem_append_right _ (List.mem_singleton_self _))
  have hcomma : ∀ v, (String.mk (render v ++ [','])).utf8ByteSize = (String.mk (render v)).utf8ByteSize + 1 :=
    fun v => by simp only [String.utf8ByteSize_mk, String.utf8Len_append]; rfl
  have hfile : (scanFile (jsonExport res filters db)).lines =
      (⟨1, none⟩ :: init.map fun v => ⟨(String.mk (render v)).utf8ByteSize + 1, none⟩) ++
        [⟨(String.mk (render last)).utf8ByteSize, some last⟩, ⟨1, none⟩] := by
    rw [scanFile, scanLines_jsonExport hrows fun v hv => (h v hv).1]
    simp only [List.map_cons, List.map_append, List.map_map, List.cons_append, Function.comp_def,
      hcomma, decodeJson_render hl.1]
    exact congrArg₂ _ rfl (congrArg₂ _ (List.map_congr_left fun v hv => by
      rw [decodeJson_render_comma (hinit v hv).1]) rfl)
  have hunread : ∀ l ∈ (⟨1, none⟩ :: init.map fun v => ⟨(String.mk (render v)).utf8ByteSize + 1, none⟩ :
      List NdjsonLine), l.json = none ∧ 0 < l.len ∧ l.len < maxBufferSize := by
    intro l hl'
    rcases List.mem_cons.mp hl' with rfl | hl'
    · exact ⟨rfl, by decide, by decide⟩
    · obtain ⟨v, hv, rfl⟩ := List.mem_map.mp hl'
      exact ⟨rfl, Nat.succ_pos _, (hinit v hv).2⟩
  have hpos := render_utf8ByteSize_pos hl.1
  have hfits : ¬maxBufferSize ≤ (String.mk (render last)).utf8ByteSize := by
    have := hl.2
    omega
  rw [parseNdjson, hfile, ndjsonCalls_unread decode 0 _ _ hunread]
  simp only [ndjsonCalls, if_neg hfits, if_neg (Nat.pos_iff_ne_zero.mp hpos),
    if_neg (show ¬maxBufferSize ≤ 1 by decide), if_neg Nat.one_ne_zero, List.length_cons,
    List.length_map, Option.some_bind, Option.none_bind, Nat.zero_add]
  rfl

/-- A second comment on the article, posted a minute after the first. -/
def laterComment : Comment :=
  ⟨Uuid.ofSeed 4, Uuid.ofSeed 2, Uuid.ofSeed 1, "Thanks", ⟨1705314660000000000⟩, ⟨0⟩⟩

/-- The comments table with the two comments. -/
def twoCommentsDb : Db := { Db.empty with comments := [exportedComment, laterComment] }

set_option maxRecDepth 8000 in
/-- Two comments exported as JSON and read back: the line of the first, with its comma, reaches
the pipeline without a record, though the first comment's record alone decodes. -/
theorem two_comments_json_read_back :
    marshalledRows .comments {} twoCommentsDb =
        [(commentJson exportedComment).getD .null] ++ [(commentJson laterComment).getD .null] ∧
      (∀ v ∈ marshalledRows .comments {} twoCommentsDb,
        v.numbersOk = true ∧ (String.mk (render v)).utf8ByteSize + 1 < maxBufferSize) ∧
      parseNdjson decodeCommentImport (scanFile (jsonExport .comments {} twoCommentsDb)) =
        ⟨(List.range' 1 2).map (fun i => (i, none)) ++
          [(3, decodeCommentImport ((commentJson laterComment).getD .null)), (4, none)], none⟩ ∧
      (decodeCommentImport ((commentJson exportedComment).getD .null)).isSome :=
  have hrows : marshalledRows .comments {} twoCommentsDb =
      [(commentJson exportedComment).getD .null] ++ [(commentJson laterComment).getD .null] := rfl
  have hfit : ∀ v ∈ marshalledRows .comments {} twoCommentsDb,
      v.numbersOk = true ∧ (String.mk (render v)).utf8ByteSize + 1 < maxBufferSize := by decide
  ⟨hrows, hfit, jsonExport_read_back decodeCommentImport hrows hfit, by decide⟩

end BulkImport
