import BulkImport.Import.PhaseOne

/-!
# Phase 3's conversions, and the validators' converters

`convertStagingToUser`, `convertStagingToArticle` and `convertStagingToComment` (`format.go`) turn
the staging rows that reach phase 3 into entities. Each fails only on an id that `uuid.Parse`
refuses, and every id of a record its validator accepted parses: a row staged from an accepted
record always converts, and `convertBatch` keeps every valid, non-duplicate row of a batch of
such rows (`validated_records_convert`).

The validators have converters of their own, `ConvertToUser`, `ConvertToArticle` and
`ConvertToComment`, which the tests call and the pipeline never does. On an accepted record they
agree with the pipeline's path through staging in every column but one: they trim the user's
name, the article's title and the comment's body, which the pipeline stores as delivered
(`staged_conversion_matches`).
-/

namespace BulkImport

/-! ## The validators' converters -/

/-- `uuid.Parse(s)`, its error returned. -/
def parseUuid (s : String) : Except String Uuid :=
  (Uuid.parse s).elim (.error "invalid UUID format") .ok

/-- The error of `time.Parse(time.RFC3339, s)`, up to the detail after the layout. -/
def timeParseError (s : String) : String :=
  "parsing time \"" ++ s ++ "\" as \"2006-01-02T15:04:05Z07:00\""

/-- `time.Parse(time.RFC3339, s)`, its error returned. -/
def parseTime (s : String) : Except String Time :=
  (parseRFC3339 s).elim (.error (timeParseError s)) .ok

/-- An optional timestamp of the converters: parsed when given, its error returned, and else
`time.Now().UTC()`. -/
def timeOrNow (now : Time) (s : String) : Except String Time :=
  if s ≠ "" then parseTime s else .ok now

/-- The id of the converters: parsed when given, its error returned, and else `uuid.New()`. -/
def importId (s : String) : Op (Except String Uuid) :=
  if s ≠ "" then pure (parseUuid s) else do pure (.ok (← newUuid))

/-- `UserValidator.ConvertToUser`: the email trimmed and lower-cased, the name trimmed, the role
trimmed and lower-cased, `active` from its text and `true` when empty. -/
def convertToUser (ui : UserImport) : Op (Except String User) := do
  let id ← importId ui.id
  let t ← now
  pure <| id.bind fun id => (timeOrNow t ui.createdAt).bind fun createdAt =>
    (timeOrNow t ui.updatedAt).map fun updatedAt =>
      { id := id, email := toLower (trimSpace ui.email), name := trimSpace ui.name,
        role := toLower (trimSpace ui.role),
        active := if ui.active ≠ "" then toLower ui.active == "true" else true,
        createdAt := createdAt, updatedAt := updatedAt }

/-- `strings.Contains(s, "--")`. -/
def hasDoubleHyphen : List Char → Bool
  | c :: d :: cs => c == '-' && d == '-' || hasDoubleHyphen (d :: cs)
  | _ => false

/-- `strings.ReplaceAll(s, "--", "-")`: each pair, from the left, becomes one hyphen. -/
def replaceDoubleHyphen : List Char → List Char
  | '-' :: '-' :: cs => '-' :: replaceDoubleHyphen cs
  | c :: cs => c :: replaceDoubleHyphen cs
  | [] => []

/-- One pass of the double-hyphen replace never lengthens the slug. -/
theorem replaceDoubleHyphen_length_le (cs : List Char) :
    (replaceDoubleHyphen cs).length ≤ cs.length := by
  induction cs using replaceDoubleHyphen.induct with
  | case1 cs ih => simp only [replaceDoubleHyphen, List.length_cons]; omega
  | case2 c cs hne ih =>
    rw [replaceDoubleHyphen.eq_2 c cs hne, List.length_cons, List.length_cons]
    omega
  | case3 => exact le_rfl

/-- A pass of the loop of `ConvertToArticle` shortens a slug that still has a double hyphen. -/
theorem replaceDoubleHyphen_length_lt {cs : List Char} (h : hasDoubleHyphen cs = true) :
    (replaceDoubleHyphen cs).length < cs.length := by
  induction cs using replaceDoubleHyphen.induct with
  | case1 cs _ =>
    have := replaceDoubleHyphen_length_le cs
    simp only [replaceDoubleHyphen, List.length_cons]
    omega
  | case2 c cs hne ih =>
    rw [replaceDoubleHyphen.eq_2 c cs hne, List.length_cons, List.length_cons]
    rcases cs with _ | ⟨d, cs⟩
    · simp [hasDoubleHyphen] at h
    · simp only [hasDoubleHyphen, Bool.or_eq_true, Bool.and_eq_true, beq_iff_eq] at h
      exact Nat.succ_lt_succ (ih (h.resolve_left fun ⟨h₁, h₂⟩ => hne cs h₁ (h₂ ▸ rfl)))
  | case3 => simp [hasDoubleHyphen] at h

/-- The loop of `ConvertToArticle` over its slug: `ReplaceAll(slug, "--", "-")` while
`strings.Contains(slug, "--")`; each pass shortens the slug, which bounds the loop. -/
def collapseHyphens (cs : List Char) : List Char :=
  if hasDoubleHyphen cs then collapseHyphens (replaceDoubleHyphen cs) else cs
termination_by cs.length
decreasing_by exact replaceDoubleHyphen_length_lt ‹_›

/-- The loop ends with no double hyphen left. -/
theorem collapseHyphens_done (cs : List Char) : hasDoubleHyphen (collapseHyphens cs) = false := by
  induction cs using collapseHyphens.induct with
  | case1 cs h ih => rwa [collapseHyphens, if_pos h]
  | case2 cs h => rw [collapseHyphens, if_neg h]; simpa using h

/-- A slug without a double hyphen never enters the loop. -/
theorem collapseHyphens_of_none {cs : List Char} (h : hasDoubleHyphen cs = false) :
    collapseHyphens cs = cs := by
  rw [collapseHyphens, if_neg (by simp [h])]

/-- The tags of `ConvertToArticle`: their JSON, and `[]` when there are none. -/
def tagsJson : Option (List String) → JVal
  | some ts => if ts.isEmpty then .arr [] else strArray ts
  | none => .arr []

/-- `ArticleValidator.ConvertToArticle`: the title trimmed, the body as given, the status trimmed
and lower-cased, the slug trimmed, lower-cased, its spaces made hyphens and its runs of hyphens
collapsed; the tags as JSON and `[]` when there are none; both timestamps from the clock. -/
def convertToArticle (ai : ArticleImport) : Op (Except String Article) := do
  let id ← importId ai.id
  let t ← now
  pure <| id.bind fun id => (parseUuid ai.authorId).bind fun authorId =>
    (if ai.publishedAt ≠ "" then (parseTime ai.publishedAt).map some else .ok none).map
      fun publishedAt =>
        { id := id, slug := ⟨collapseHyphens (spacesToHyphens (toLower (trimSpace ai.slug))).data⟩,
          title := trimSpace ai.title, body := ai.body, authorId := authorId,
          tags := tagsJson ai.tags,
          publishedAt := publishedAt, status := toLower (trimSpace ai.status),
          createdAt := t, updatedAt := t }

/-- `CommentValidator.ConvertToComment`: the body trimmed, both references parsed, `created_at`
parsed or from the clock; `updated_at` keeps Go's zero time. -/
def convertToComment (ci : CommentImport) : Op (Except String Comment) := do
  let id ← importId ci.id
  let t ← now
  pure <| id.bind fun id => (parseUuid ci.articleId).bind fun articleId =>
    (parseUuid ci.userId).bind fun userId => (timeOrNow t ci.createdAt).map fun createdAt =>
      { id := id, articleId := articleId, userId := userId, body := trimSpace ci.body,
        createdAt := createdAt, updatedAt := Time.zero }

/-! ## What an accepted record's texts look like -/

/-- A text that lowers to one of `ws`, none of whose characters is a space, has no space. -/
theorem noSpace_of_toLower_mem {s : String} {ws : List String}
    (hws : ∀ w ∈ ws, ∀ c ∈ w.data, isSpace c = false) (h : toLower s ∈ ws) :
    ∀ c ∈ s.data, isSpace c = false := fun c hc => by
  rw [← isSpace_toLower]
  exact hws _ h _ (List.mem_map_of_mem Char.toLower hc)

/-- Two hyphens in a row leave an empty piece after the first one of `strings.Split`. -/
theorem nil_mem_tail_splitOnChar {cs : List Char} (h : hasDoubleHyphen cs = true) :
    [] ∈ (splitOnChar '-' cs).tail := by
  induction cs using hasDoubleHyphen.induct with
  | case1 c d cs ih =>
    simp only [hasDoubleHyphen, Bool.or_eq_true, Bool.and_eq_true, beq_iff_eq] at h
    by_cases hc : c = '-'
    · subst hc
      rcases h with ⟨-, rfl⟩ | h
      · simp [splitOnChar]
      · simpa [splitOnChar] using List.mem_of_mem_tail (ih h)
    · have := ih (h.resolve_left fun h => hc h.1)
      rw [splitOnChar, if_neg hc]
      revert this
      cases splitOnChar '-' (d :: cs) <;> simp
  | case2 t ht => simp [hasDoubleHyphen.eq_2 t ht] at h

/-- The characters of a slug `IsValidSlug` accepts: lower-case letters, digits and hyphens, with
no two hyphens in a row. -/
theorem isValidSlug_chars {s : String} (h : isValidSlug s = true) :
    (∀ c ∈ s.data, isSlugChar c = true ∨ c = '-') ∧ hasDoubleHyphen s.data = false := by
  simp only [isValidSlug, Bool.and_eq_true, List.all_eq_true, Bool.not_eq_true',
    List.isEmpty_eq_false] at h
  refine ⟨fun c hc =>
    (mem_splitOnChar hc).symm.imp_left fun ⟨p, hp, hcp⟩ => (h.2 p hp).2 c hcp, ?_⟩
  by_contra hd
  exact (h.2 [] (List.mem_of_mem_tail (nil_mem_tail_splitOnChar (by simpa using hd)))).1 rfl

/-- A slug character or a hyphen is its own lower case, and is neither a space nor a blank. -/
theorem slugChar_normal {c : Char} (h : isSlugChar c = true ∨ c = '-') :
    c.toLower = c ∧ isSpace c = false ∧ c ≠ ' ' := by
  have digit : ∀ n < 10, (Char.ofNat (48 + n)).toLower = Char.ofNat (48 + n) ∧
      isSpace (Char.ofNat (48 + n)) = false ∧ Char.ofNat (48 + n) ≠ ' ' := by decide
  have lower : ∀ n < 26, (Char.ofNat (97 + n)).toLower = Char.ofNat (97 + n) ∧
      isSpace (Char.ofNat (97 + n)) = false ∧ Char.ofNat (97 + n) ≠ ' ' := by decide
  rcases h with h | rfl
  · simp only [isSlugChar, isDigit, Bool.or_eq_true, Bool.and_eq_true, decide_eq_true_eq,
      Char.le_def, UInt32.le_def, BitVec.le_def] at h
    have hval : c.toNat = c.val.toBitVec.toNat := rfl
    rcases h with ⟨h₁, h₂⟩ | ⟨h₁, h₂⟩ <;> simp at h₁ h₂
    · have := lower (c.toNat - 97) (by omega)
      rwa [show 97 + (c.toNat - 97) = c.toNat by omega, Char.ofNat_toNat] at this
    · have := digit (c.toNat - 48) (by omega)
      rwa [show 48 + (c.toNat - 48) = c.toNat by omega, Char.ofNat_toNat] at this
  · decide

/-- A slug `IsValidSlug` accepts comes through the normalisations of `processArticle` and of
`ConvertToArticle` unchanged. -/
theorem validSlug_normal {s : String} (h : isValidSlug s = true) :
    spacesToHyphens (toLower (trimSpace s)) = s ∧ hasDoubleHyphen s.data = false := by
  obtain ⟨hc, hd⟩ := isValidSlug_chars h
  rw [trimSpace_of_noSpace fun c h => (slugChar_normal (hc c h)).2.1,
    toLower_of_forall fun c h => (slugChar_normal (hc c h)).1,
    spacesToHyphens_of_forall fun c h => (slugChar_normal (hc c h)).2.2]
  exact ⟨rfl, hd⟩

/-! ## Accepted records through staging -/

/-- A staged optional text read back with a default: the default for the empty text, the mapped
text otherwise. -/
theorem optText_map_getD {β : Type} (f : String → β) (d : β) (s : String) :
    ((optText s).map f).getD d = if s = "" then d else f s := by
  unfold optText
  split <;> rfl

/-- A map that sends the empty text to itself reads an optional text back as the map of the text. -/
theorem optText_map_getD_empty {f : String → String} (hf : f "" = "") (s : String) :
    ((optText s).map f).getD "" = f s := by
  rw [optText_map_getD]
  split <;> simp_all

/-- An optional text read back with the empty default is the text. -/
theorem optText_getD (s : String) : (optText s).getD "" = s := by
  unfold optText
  split <;> simp_all

/-- The pipeline reads a staged id as the converters read the record's. -/
theorem convertId_optText (s : String) : convertId (optText s) = importId s := by
  by_cases h : s = "" <;> simp [convertId, optText, importId, parseUuid, h]

/-- Taking an id does not move the clock. -/
theorem importId_clock (s : String) (w : World) : (importId s w).2.clock = w.clock := by
  unfold importId
  split <;> rfl

/-- A text the validator accepts as a UUID parses. -/
theorem parseUuid_ok {s : String} (h : isUuid s = true) : ∃ v, parseUuid s = .ok v := by
  obtain ⟨v, hv⟩ := Option.isSome_iff_exists.mp h
  exact ⟨v, by simp [parseUuid, hv]⟩

/-- The converters' id succeeds on an empty text and on a text the validator accepts as a UUID. -/
theorem importId_ok {s : String} (h : s ≠ "" → isUuid s = true) (w : World) :
    ∃ id, (importId s w).1 = .ok (.ok id) := by
  by_cases hs : s = ""
  · exact ⟨_, by simp [importId, hs]; rfl⟩
  · obtain ⟨v, hv⟩ := parseUuid_ok (h hs)
    exact ⟨v, by simp [importId, hs, hv]⟩

/-- An accepted timestamp reads the same in both paths. -/
theorem timeOrNow_of_accepted {s : String} (h : s ≠ "" → isRFC3339 s = true) (t : Time) :
    timeOrNow t s = .ok (timeOr t (optText s)) := by
  by_cases hs : s = ""
  · simp [timeOrNow, timeOr, optText, hs]
  · obtain ⟨v, hv⟩ := Option.isSome_iff_exists.mp (h hs)
    simp [timeOrNow, timeOr, optText, hs, parseTime, hv]

/-- A staged user of an accepted record converts to a user that keeps the delivered name, and
`ConvertToUser` gives that user with the name trimmed. -/
theorem convertStagingToUser_matches {row : Nat} {u : UserImport}
    (h : validateUserImport row u = []) {r : StagingRow UserFields}
    (hr : r.fields = stageUserFields u) (w : World) :
    ∃ user, (convertStagingToUser r w).1 = .ok (.ok user) ∧
      (convertToUser u w).1 = .ok (.ok { user with name := trimSpace u.name }) ∧
      user.name = u.name := by
  obtain ⟨hid, hrole, hc, hu⟩ := validateUserImport_accepts h
  obtain ⟨id, hid'⟩ := importId_ok hid w
  have hrole' : trimSpace u.role = u.role :=
    trimSpace_of_noSpace (noSpace_of_toLower_mem (by decide) hrole)
  refine ⟨
    { id := id, email := toLower (trimSpace u.email), name := u.name, role := toLower u.role,
      active := if u.active = "" then true else toLower u.active == "true",
      createdAt := timeOr w.clock (optText u.createdAt),
      updatedAt := timeOr w.clock (optText u.updatedAt) }, ?_, ?_, rfl⟩
  · simp only [convertStagingToUser, Op.bind_apply, Op.pure_apply, now, hr, stageUserFields,
      convertId_optText, hid', optText_getD, optText_map_getD,
      optText_map_getD_empty (f := fun e => toLower (trimSpace e)) rfl,
      optText_map_getD_empty (f := toLower) rfl]
    rfl
  · simp only [convertToUser, Op.bind_apply, Op.pure_apply, now, hid', importId_clock,
      timeOrNow_of_accepted hc, timeOrNow_of_accepted hu, hrole', ite_not]
    rfl

/-- A non-empty text is staged as itself. -/
theorem optText_of_ne {s : String} (h : s ≠ "") : optText s = some s := if_neg h

/-- A present reference converts as `uuid.Parse` does. -/
theorem convertRef_some (s : String) : convertRef (some s) = parseUuid s := rfl

/-- Both paths write the same tags. -/
theorem tagsJson_eq (tags : Option (List String)) :
    tagsJson tags = (tags.map strArray).getD (.arr []) := by
  rcases tags with _ | ts
  · rfl
  · by_cases h : ts.isEmpty
    · rw [List.isEmpty_iff.mp h]
      rfl
    · simp [tagsJson, h]

/-- An accepted `published_at` reads the same in both paths. -/
theorem publishedAt_of_accepted {s : String} (h : s ≠ "" → isRFC3339 s = true) :
    (if s ≠ "" then (parseTime s).map some else .ok none) =
      .ok ((optText s).bind parseRFC3339) := by
  by_cases hs : s = ""
  · simp [optText, hs]
  · obtain ⟨v, hv⟩ := Option.isSome_iff_exists.mp (h hs)
    simp [optText, hs, parseTime, hv, Except.map]

/-- A staged article of an accepted record converts to an article that keeps the delivered
title, and `ConvertToArticle` gives that article with the title trimmed. -/
theorem convertStagingToArticle_matches {row : Nat} {a : ArticleImport}
    (h : validateArticleImport row a = []) {r : StagingRow ArticleFields}
    (hr : r.fields = stageArticleFields a) (w : World) :
    ∃ article, (convertStagingToArticle r w).1 = .ok (.ok article) ∧
      (convertToArticle a w).1 = .ok (.ok { article with title := trimSpace a.title }) ∧
      article.title = a.title := by
  obtain ⟨hid, hslug, hane, hauthor, hstatus, hpub⟩ := validateArticleImport_accepts h
  obtain ⟨id, hid'⟩ := importId_ok hid w
  obtain ⟨authorId, hauthor'⟩ := parseUuid_ok hauthor
  obtain ⟨hslug', hdouble⟩ := validSlug_normal hslug
  have hstatus' : trimSpace a.status = a.status :=
    trimSpace_of_noSpace (noSpace_of_toLower_mem (by decide) hstatus)
  refine ⟨
    { id := id, slug := a.slug, title := a.title, body := a.body, authorId := authorId,
      tags := (a.tags.map strArray).getD (.arr []),
      publishedAt := (optText a.publishedAt).bind parseRFC3339, status := toLower a.status,
      createdAt := w.clock, updatedAt := w.clock }, ?_, ?_, rfl⟩
  · simp only [convertStagingToArticle, Op.bind_apply, Op.pure_apply, now, hr, stageArticleFields,
      convertId_optText, hid', optText_getD, optText_of_ne hane, convertRef_some, hauthor',
      optText_map_getD_empty (f := fun s => spacesToHyphens (toLower (trimSpace s))) rfl, hslug',
      optText_map_getD_empty (f := toLower) rfl]
    rfl
  · simp only [convertToArticle, Op.bind_apply, Op.pure_apply, now, hid', importId_clock, hauthor',
      publishedAt_of_accepted hpub, hslug', collapseHyphens_of_none hdouble, hstatus', tagsJson_eq]
    rfl

/-- A staged comment of an accepted record converts to a comment that keeps the delivered body, and
`ConvertToComment` gives that comment with the body trimmed. -/
theorem convertStagingToComment_matches {row : Nat} {c : CommentImport}
    (h : validateCommentImport row c = []) {r : StagingRow CommentFields}
    (hr : r.fields = stageCommentFields c) (w : World) :
    ∃ comment, (convertStagingToComment r w).1 = .ok (.ok comment) ∧
      (convertToComment c w).1 = .ok (.ok { comment with body := trimSpace c.body }) ∧
      comment.body = c.body := by
  obtain ⟨hid, hane, harticle, hune, huser, hc⟩ := validateCommentImport_accepts h
  obtain ⟨id, hid'⟩ := importId_ok hid w
  obtain ⟨articleId, harticle'⟩ := parseUuid_ok harticle
  obtain ⟨userId, huser'⟩ := parseUuid_ok huser
  refine ⟨
    { id := id, articleId := articleId, userId := userId, body := c.body,
      createdAt := timeOr w.clock (optText c.createdAt), updatedAt := Time.zero }, ?_, ?_, rfl⟩
  · simp only [convertStagingToComment, Op.bind_apply, Op.pure_apply, now, hr, stageCommentFields,
      convertId_optText, hid', optText_getD, optText_of_ne hane, optText_of_ne hune,
      convertRef_some, harticle', huser']
    rfl
  · simp only [convertToComment, Op.bind_apply, Op.pure_apply, now, hid', importId_clock,
      harticle', huser', timeOrNow_of_accepted hc]
    rfl

/-! ## Rows without an id

A staged comment without an id converts under `uuid.New()`, a new id in every run, and comments
are matched by no natural key: a second import of the same file adds each such row anew. -/

/-- A user, and an article of theirs, for the comments to point at. -/
def commentAuthor : User := ⟨Uuid.ofSeed 1, "a@b.co", "Alice", "reader", true, ⟨0⟩, ⟨0⟩⟩

/-- The article the comments point at. -/
def commentedArticle : Article :=
  ⟨Uuid.ofSeed 2, "hello", "Hello", "Text", Uuid.ofSeed 1, .arr [], none, "draft", ⟨0⟩, ⟨0⟩⟩

/-- A comments CSV upload of one valid comment without an id. -/
def idlessCommentUpload : ImportFile :=
  ⟨"uploads/comments.csv", ⟨.ok ["article_id", "user_id", "body"],
    [some [(Uuid.ofSeed 2).toText, (Uuid.ofSeed 1).toText, "Nice"]]⟩, ⟨[], none⟩⟩

/-- The two import jobs of the upload. -/
def commentJob (n : Nat) : Job := importJobOf (Uuid.ofSeed n) .comments "uploads/comments.csv" ""

/-- The tables before the imports: the user, the article, and the two jobs. -/
def commentsBefore : Db :=
  { Db.empty with users := [commentAuthor], articles := [commentedArticle],
                  jobs := [commentJob 101, commentJob 102] }

/-- The world after the first import of the upload, with no call failing. -/
def afterFirstImport : World :=
  (processImport ImportConfig.default idlessCommentUpload (commentJob 101)
    (World.start commentsBefore fun _ => none)).2

/-- Two imports of the upload, one job each, leave two comments where one import leaves one. -/
theorem idless_comment_imported_twice :
    afterFirstImport.db.comments.length = 1 ∧
      (processImport ImportConfig.default idlessCommentUpload (commentJob 102)
        afterFirstImport).2.db.comments.length = 2 := by
  decide

/-! ## Phase 3 drops no accepted row -/

section Promote

variable {R F E : Type}

/-- A staging row whose columns were staged from a record its validator accepted. -/
def FromAccepted (validate : Nat → R → List ValidationError) (stage : R → F) (r : StagingRow F) :
    Prop :=
  ∃ n x, validate n x = [] ∧ r.fields = stage x

/-- When every valid, non-duplicate row of a batch converts, the promote callback keeps each of
them, in the batch's order: its skip branch is never taken. -/
theorem convertBatch_keeps {convert : StagingRow F → Op (Except String E)}
    {P : StagingRow F → Prop} (hc : ∀ r, P r → ∀ w, ∃ e, (convert r w).1 = .ok (.ok e)) :
    ∀ rows : List (StagingRow F),
      (∀ r ∈ rows, (r.isValid && !r.isDuplicate) = true → P r) →
      ∀ w, ∃ kept, (convertBatch convert rows w).1 = .ok kept ∧
        kept.map (·.1) = (rows.filter fun r => r.isValid && !r.isDuplicate).map (·.rowNumber)
  | [], _, _ => ⟨[], rfl, rfl⟩
  | r :: rs, hrows, w => by
    have tail := convertBatch_keeps hc rs fun r' h => hrows r' (List.mem_cons_of_mem _ h)
    by_cases hv : (r.isValid && !r.isDuplicate) = true
    · obtain ⟨e, he⟩ := hc r (hrows r (List.mem_cons_self _ _) hv) w
      obtain ⟨kept, hk, hkm⟩ := tail (convert r w).2
      refine ⟨(r.rowNumber, e) :: kept, ?_, by simp [List.filter_cons, hv, hkm]⟩
      simp only [convertBatch, if_pos hv, Op.bind_apply, he, Op.pure_apply, hk]
      rfl
    · obtain ⟨kept, hk, hkm⟩ := tail w
      refine ⟨kept, ?_, by simp [List.filter_cons, hv, hkm]⟩
      simp only [convertBatch, if_neg hv, Op.bind_apply, Op.pure_apply, hk]
      rfl

/-- Phase 3 of a resource drops no accepted row: a row staged from an accepted record converts,
and the promote callback keeps every valid, non-duplicate row of a batch of such rows. -/
def DropsNoAccepted (validate : Nat → R → List ValidationError) (stage : R → F)
    (convert : StagingRow F → Op (Except String E)) : Prop :=
  (∀ r, FromAccepted validate stage r → ∀ w, ∃ e, (convert r w).1 = .ok (.ok e)) ∧
  ∀ rows : List (StagingRow F), (∀ r ∈ rows, (r.isValid && !r.isDuplicate) = true →
      FromAccepted validate stage r) →
    ∀ w, ∃ kept, (convertBatch convert rows w).1 = .ok kept ∧
      kept.map (·.1) = (rows.filter fun r => r.isValid && !r.isDuplicate).map (·.rowNumber)

/-- A conversion that succeeds on every row staged from an accepted record drops no accepted row. -/
theorem dropsNoAccepted_of {validate : Nat → R → List ValidationError} {stage : R → F}
    {convert : StagingRow F → Op (Except String E)}
    (hc : ∀ r, FromAccepted validate stage r → ∀ w, ∃ e, (convert r w).1 = .ok (.ok e)) :
    DropsNoAccepted validate stage convert :=
  ⟨hc, convertBatch_keeps hc⟩

end Promote

/-- Each of the three conversions of phase 3 succeeds on a row staged from an accepted record,
so no promote callback skips a valid, non-duplicate row of such rows. -/
theorem validated_records_convert :
    DropsNoAccepted validateUserImport stageUserFields convertStagingToUser ∧
    DropsNoAccepted validateArticleImport stageArticleFields convertStagingToArticle ∧
    DropsNoAccepted validateCommentImport stageCommentFields convertStagingToComment :=
  ⟨dropsNoAccepted_of fun _ ⟨_, _, h, hr⟩ w =>
      (convertStagingToUser_matches h hr w).imp fun _ h => h.1,
    dropsNoAccepted_of fun _ ⟨_, _, h, hr⟩ w =>
      (convertStagingToArticle_matches h hr w).imp fun _ h => h.1,
    dropsNoAccepted_of fun _ ⟨_, _, h, hr⟩ w =>
      (convertStagingToComment_matches h hr w).imp fun _ h => h.1⟩

/-- On an accepted record, from the same world, the validators' converters give what the
pipeline's path through staging gives, except that they trim the user's name, the article's
title and the comment's body. A record of the CSV parser, which trims every cell, comes out of
both paths the same. -/
theorem staged_conversion_matches (w : World) :
    (∀ row (u : UserImport) (r : StagingRow UserFields), validateUserImport row u = [] →
      r.fields = stageUserFields u → ∃ user, (convertStagingToUser r w).1 = .ok (.ok user) ∧
        (convertToUser u w).1 = .ok (.ok { user with name := trimSpace u.name })) ∧
    (∀ row (a : ArticleImport) (r : StagingRow ArticleFields), validateArticleImport row a = [] →
      r.fields = stageArticleFields a → ∃ article, (convertStagingToArticle r w).1 = .ok (.ok article) ∧
        (convertToArticle a w).1 = .ok (.ok { article with title := trimSpace a.title })) ∧
    (∀ row (c : CommentImport) (r : StagingRow CommentFields), validateCommentImport row c = [] →
      r.fields = stageCommentFields c → ∃ comment, (convertStagingToComment r w).1 = .ok (.ok comment) ∧
        (convertToComment c w).1 = .ok (.ok { comment with body := trimSpace c.body })) ∧
    (∀ row (H R : List String) (r : StagingRow UserFields),
      validateUserImport row (parseUserRecord H R) = [] →
      r.fields = stageUserFields (parseUserRecord H R) → ∃ user,
        (convertStagingToUser r w).1 = .ok (.ok user) ∧
        (convertToUser (parseUserRecord H R) w).1 = .ok (.ok user)) ∧
    (∀ row (H R : List String) (r : StagingRow ArticleFields),
      validateArticleImport row (parseArticleRecord H R) = [] →
      r.fields = stageArticleFields (parseArticleRecord H R) → ∃ article,
        (convertStagingToArticle r w).1 = .ok (.ok article) ∧
        (convertToArticle (parseArticleRecord H R) w).1 = .ok (.ok article)) ∧
    (∀ row (H R : List String) (r : StagingRow CommentFields),
      validateCommentImport row (parseCommentRecord H R) = [] →
      r.fields = stageCommentFields (parseCommentRecord H R) → ∃ comment,
        (convertStagingToComment r w).1 = .ok (.ok comment) ∧
        (convertToComment (parseCommentRecord H R) w).1 = .ok (.ok comment)) :=
  ⟨fun _ _ _ h hr => (convertStagingToUser_matches h hr w).imp fun _ h => ⟨h.1, h.2.1⟩,
    fun _ _ _ h hr => (convertStagingToArticle_matches h hr w).imp fun _ h => ⟨h.1, h.2.1⟩,
    fun _ _ _ h hr => (convertStagingToComment_matches h hr w).imp fun _ h => ⟨h.1, h.2.1⟩,
    fun _ H R _ h hr => (convertStagingToUser_matches h hr w).imp fun _ ⟨h₁, h₂, hn⟩ =>
      ⟨h₁, by rw [h₂, show trimSpace (parseUserRecord H R).name = _ from
        (trimSpace_csvField H R "name").trans hn.symm]⟩,
    fun _ H R _ h hr => (convertStagingToArticle_matches h hr w).imp fun _ ⟨h₁, h₂, hn⟩ =>
      ⟨h₁, by rw [h₂, show trimSpace (parseArticleRecord H R).title = _ from
        (trimSpace_csvField H R "title").trans hn.symm]⟩,
    fun _ H R _ h hr => (convertStagingToComment_matches h hr w).imp fun _ ⟨h₁, h₂, hn⟩ =>
      ⟨h₁, by rw [h₂, show trimSpace (parseCommentRecord H R).body = _ from
        (trimSpace_csvField H R "body").trans hn.symm]⟩⟩

/-- An NDJSON user whose name has surrounding spaces. -/
def paddedNameUser : UserImport := ⟨"", "ann@x.co", " Ann ", "reader", "", "", ""⟩

/-- The user is accepted; the pipeline stores its name as delivered, `ConvertToUser` trims it. -/
theorem padded_name_kept :
    validateUserImport 2 paddedNameUser = [] ∧
    ((convertStagingToUser (stagedRow (Uuid.ofSeed 100) 2 (stageUserFields paddedNameUser) [])
        (World.start Db.empty fun _ => none)).1.map (·.map (·.name))) = .ok (.ok " Ann ") ∧
    ((convertToUser paddedNameUser (World.start Db.empty fun _ => none)).1.map
        (·.map (·.name))) = .ok (.ok "Ann") := by
  decide

end BulkImport
