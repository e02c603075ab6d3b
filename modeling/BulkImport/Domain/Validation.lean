import BulkImport.Domain.Models

/-!
# The validators

`ValidateUserImport` (`internal/service/validation/user_validator.go`), `ValidateArticleImport`
(`article_validator.go`) and `ValidateCommentImport` (`comment_validator.go`) check one record
and return its findings in the order the Go code appends them, each with the row number, the
record identifier, the field, the code and the message of the source.

The two regular expressions are decided directly: `emailRegex` is
`^[a-zA-Z0-9._%+-]+@[a-zA-Z0-9.-]+\.[a-zA-Z]{2,}$` and `slugRegex` is `^[a-z0-9]+(-[a-z0-9]+)*$`.
The email's domain can only end after its last dot, since the final run admits letters only.
`countWords` is the loop of the source over a separator test, `isPunct` being membership in the
ranges of Unicode's punctuation category. The loop counts the maximal runs of characters
that are not separators (`countWords_eq_runs`), and `BODY_TOO_LONG` is reported exactly when there
are more than `MaxCommentWords` of them (`bodyTooLong_iff`).
-/

namespace BulkImport

/-- A character of the local part of `emailRegex`: `[a-zA-Z0-9._%+-]`. -/
def isEmailLocalChar (c : Char) : Bool :=
  isAsciiLetter c || isDigit c || c = '.' || c = '_' || c = '%' || c = '+' || c = '-'

/-- A character of the domain of `emailRegex`: `[a-zA-Z0-9.-]`. -/
def isEmailDomainChar (c : Char) : Bool := isAsciiLetter c || isDigit c || c = '.' || c = '-'

/-- The domain part of `emailRegex`, `[a-zA-Z0-9.-]+\.[a-zA-Z]{2,}`: domain characters, and after
the last dot, preceded by at least one character, two letters or more. -/
def matchesEmailDomain (ds : List Char) : Bool :=
  let tld := (ds.reverse.takeWhile (· ≠ '.')).reverse
  ds.all isEmailDomainChar && tld.length + 2 ≤ ds.length && 2 ≤ tld.length &&
    tld.all isAsciiLetter

/-- `emailRegex.MatchString`: one `@` between a non-empty local part and a domain. -/
def matchesEmail (s : String) : Bool :=
  match splitOnChar '@' s.data with
  | [l, d] => !l.isEmpty && l.all isEmailLocalChar && matchesEmailDomain d
  | _ => false

/-- A character of a slug segment: `[a-z0-9]`. -/
def isSlugChar (c : Char) : Bool := ('a' ≤ c && c ≤ 'z') || isDigit c

/-- `IsValidSlug`: non-empty hyphen-separated segments of `[a-z0-9]`. -/
def isValidSlug (slug : String) : Bool :=
  slug != "" && (splitOnChar '-' slug.data).all fun seg => !seg.isEmpty && seg.all isSlugChar

/-- The code points of Unicode's general category P (`Pc`, `Pd`, `Ps`, `Pe`, `Pi`, `Pf`, `Po`) in
Unicode 15.0.0, the version of the tables of Go 1.21, as closed ranges in increasing order. -/
def punctRanges : List (Nat × Nat) :=
  [(0x21, 0x23), (0x25, 0x2A), (0x2C, 0x2F), (0x3A, 0x3B), (0x3F, 0x40), (0x5B, 0x5D),
    (0x5F, 0x5F), (0x7B, 0x7B), (0x7D, 0x7D), (0xA1, 0xA1), (0xA7, 0xA7), (0xAB, 0xAB),
    (0xB6, 0xB7), (0xBB, 0xBB), (0xBF, 0xBF), (0x37E, 0x37E), (0x387, 0x387), (0x55A, 0x55F),
    (0x589, 0x58A), (0x5BE, 0x5BE), (0x5C0, 0x5C0), (0x5C3, 0x5C3), (0x5C6, 0x5C6), (0x5F3, 0x5F4),
    (0x609, 0x60A), (0x60C, 0x60D), (0x61B, 0x61B), (0x61D, 0x61F), (0x66A, 0x66D), (0x6D4, 0x6D4),
    (0x700, 0x70D), (0x7F7, 0x7F9), (0x830, 0x83E), (0x85E, 0x85E), (0x964, 0x965), (0x970, 0x970),
    (0x9FD, 0x9FD), (0xA76, 0xA76), (0xAF0, 0xAF0), (0xC77, 0xC77), (0xC84, 0xC84), (0xDF4, 0xDF4),
    (0xE4F, 0xE4F), (0xE5A, 0xE5B), (0xF04, 0xF12), (0xF14, 0xF14), (0xF3A, 0xF3D), (0xF85, 0xF85),
    (0xFD0, 0xFD4), (0xFD9, 0xFDA), (0x104A, 0x104F), (0x10FB, 0x10FB), (0x1360, 0x1368),
    (0x1400, 0x1400), (0x166E, 0x166E), (0x169B, 0x169C), (0x16EB, 0x16ED), (0x1735, 0x1736),
    (0x17D4, 0x17D6), (0x17D8, 0x17DA), (0x1800, 0x180A), (0x1944, 0x1945), (0x1A1E, 0x1A1F),
    (0x1AA0, 0x1AA6), (0x1AA8, 0x1AAD), (0x1B5A, 0x1B60), (0x1B7D, 0x1B7E), (0x1BFC, 0x1BFF),
    (0x1C3B, 0x1C3F), (0x1C7E, 0x1C7F), (0x1CC0, 0x1CC7), (0x1CD3, 0x1CD3), (0x2010, 0x2027),
    (0x2030, 0x2043), (0x2045, 0x2051), (0x2053, 0x205E), (0x207D, 0x207E), (0x208D, 0x208E),
    (0x2308, 0x230B), (0x2329, 0x232A), (0x2768, 0x2775), (0x27C5, 0x27C6), (0x27E6, 0x27EF),
    (0x2983, 0x2998), (0x29D8, 0x29DB), (0x29FC, 0x29FD), (0x2CF9, 0x2CFC), (0x2CFE, 0x2CFF),
    (0x2D70, 0x2D70), (0x2E00, 0x2E2E), (0x2E30, 0x2E4F), (0x2E52, 0x2E5D), (0x3001, 0x3003),
    (0x3008, 0x3011), (0x3014, 0x301F), (0x3030, 0x3030), (0x303D, 0x303D), (0x30A0, 0x30A0),
    (0x30FB, 0x30FB), (0xA4FE, 0xA4FF), (0xA60D, 0xA60F), (0xA673, 0xA673), (0xA67E, 0xA67E),
    (0xA6F2, 0xA6F7), (0xA874, 0xA877), (0xA8CE, 0xA8CF), (0xA8F8, 0xA8FA), (0xA8FC, 0xA8FC),
    (0xA92E, 0xA92F), (0xA95F, 0xA95F), (0xA9C1, 0xA9CD), (0xA9DE, 0xA9DF), (0xAA5C, 0xAA5F),
    (0xAADE, 0xAADF), (0xAAF0, 0xAAF1), (0xABEB, 0xABEB), (0xFD3E, 0xFD3F), (0xFE10, 0xFE19),
    (0xFE30, 0xFE52), (0xFE54, 0xFE61), (0xFE63, 0xFE63), (0xFE68, 0xFE68), (0xFE6A, 0xFE6B),
    (0xFF01, 0xFF03), (0xFF05, 0xFF0A), (0xFF0C, 0xFF0F), (0xFF1A, 0xFF1B), (0xFF1F, 0xFF20),
    (0xFF3B, 0xFF3D), (0xFF3F, 0xFF3F), (0xFF5B, 0xFF5B), (0xFF5D, 0xFF5D), (0xFF5F, 0xFF65),
    (0x10100, 0x10102), (0x1039F, 0x1039F), (0x103D0, 0x103D0), (0x1056F, 0x1056F),
    (0x10857, 0x10857), (0x1091F, 0x1091F), (0x1093F, 0x1093F), (0x10A50, 0x10A58),
    (0x10A7F, 0x10A7F), (0x10AF0, 0x10AF6), (0x10B39, 0x10B3F), (0x10B99, 0x10B9C),
    (0x10EAD, 0x10EAD), (0x10F55, 0x10F59), (0x10F86, 0x10F89), (0x11047, 0x1104D),
    (0x110BB, 0x110BC), (0x110BE, 0x110C1), (0x11140, 0x11143), (0x11174, 0x11175),
    (0x111C5, 0x111C8), (0x111CD, 0x111CD), (0x111DB, 0x111DB), (0x111DD, 0x111DF),
    (0x11238, 0x1123D), (0x112A9, 0x112A9), (0x1144B, 0x1144F), (0x1145A, 0x1145B),
    (0x1145D, 0x1145D), (0x114C6, 0x114C6), (0x115C1, 0x115D7), (0x11641, 0x11643),
    (0x11660, 0x1166C), (0x116B9, 0x116B9), (0x1173C, 0x1173E), (0x1183B, 0x1183B),
    (0x11944, 0x11946), (0x119E2, 0x119E2), (0x11A3F, 0x11A46), (0x11A9A, 0x11A9C),
    (0x11A9E, 0x11AA2), (0x11B00, 0x11B09), (0x11C41, 0x11C45), (0x11C70, 0x11C71),
    (0x11EF7, 0x11EF8), (0x11F43, 0x11F4F), (0x11FFF, 0x11FFF), (0x12470, 0x12474),
    (0x12FF1, 0x12FF2), (0x16A6E, 0x16A6F), (0x16AF5, 0x16AF5), (0x16B37, 0x16B3B),
    (0x16B44, 0x16B44), (0x16E97, 0x16E9A), (0x16FE2, 0x16FE2), (0x1BC9F, 0x1BC9F),
    (0x1DA87, 0x1DA8B), (0x1E95E, 0x1E95F)]

/-- Membership in closed ranges listed in increasing order: the search stops at the first range
that starts above the code point. -/
def inRanges (n : Nat) : List (Nat × Nat) → Bool
  | [] => false
  | r :: rs => if n < r.1 then false else n ≤ r.2 || inRanges n rs

/-- `unicode.IsPunct`: the character is in a range of `punctRanges`. -/
def isPunct (c : Char) : Bool := inRanges c.toNat punctRanges

/-- The loop of `countWords` from its `inWord` flag: a word starts at each non-separator that
follows a separator or the start. -/
def countWordsFrom (sep : Char → Bool) : Bool → List Char → Nat
  | _, [] => 0
  | inWord, c :: cs =>
    if sep c then countWordsFrom sep false cs
    else (if inWord then 0 else 1) + countWordsFrom sep true cs

/-- `countWords`: the runs of characters that are neither spaces nor punctuation. -/
def countWords (s : String) : Nat :=
  if s = "" then 0 else countWordsFrom (fun r => isSpace r || isPunct r) false s.data

/-- The text of `string(rune(row))`: the character of that code point (the row taken as a 32-bit
`rune`), or U+FFFD where it is not a Unicode scalar value. -/
def runeText (row : Nat) : String :=
  let r := row % 4294967296
  if r.isValidChar then ⟨[Char.ofNat r]⟩ else "\uFFFD"

/-- `ValidateUserImport`: the findings about one user record, in the source's order. -/
def validateUserImport (row : Nat) (user : UserImport) : List ValidationError :=
  let identifier := if user.email = "" ∧ user.id ≠ "" then user.id else user.email
  let err := ValidationError.mk row identifier
  (if user.id ≠ "" ∧ !isUuid user.id then [err "id" ErrCode.invalidUuid "Invalid UUID format"]
    else []) ++
  (if user.email = "" then [err "email" ErrCode.missingField "Email is required"]
    else if !matchesEmail user.email then
      [err "email" ErrCode.invalidEmail "Invalid email format"]
    else []) ++
  (if user.name = "" then [err "name" ErrCode.missingField "Name is required"]
    else if user.name.utf8ByteSize > 255 then
      [err "name" ErrCode.invalidName "Name must be at most 255 characters"]
    else []) ++
  (if user.role = "" then [err "role" ErrCode.missingField "Role is required"]
    else if toLower user.role ∉ allowedUserRoles then
      [err "role" ErrCode.invalidRole "Role must be one of: admin, reader, author"]
    else []) ++
  (if user.active ≠ "" ∧ toLower user.active ≠ "true" ∧ toLower user.active ≠ "false" then
      [err "active" ErrCode.invalidBoolean "Active must be 'true' or 'false'"]
    else []) ++
  (if user.createdAt ≠ "" ∧ !isRFC3339 user.createdAt then
      [err "created_at" ErrCode.invalidTimestamp
        "Invalid timestamp format (expected ISO8601/RFC3339)"]
    else []) ++
  (if user.updatedAt ≠ "" ∧ !isRFC3339 user.updatedAt then
      [err "updated_at" ErrCode.invalidTimestamp
        "Invalid timestamp format (expected ISO8601/RFC3339)"]
    else [])

/-- The tag findings of `ValidateArticleImport`: more than 100 tags, and the first tag longer
than 50 bytes. -/
def tagFindings (err : String → String → String → ValidationError) :
    Option (List String) → List ValidationError
  | none => []
  | some tags =>
    if tags.isEmpty then []
    else
      (if tags.length > 100 then [err "tags" ErrCode.invalidTags "Maximum 100 tags allowed"]
        else []) ++
      (if tags.any (·.utf8ByteSize > 50) then
          [err "tags" ErrCode.invalidTags "Each tag must be at most 50 characters"]
        else [])

/-- `ValidateArticleImport`: the findings about one article record, in the source's order. -/
def validateArticleImport (row : Nat) (article : ArticleImport) : List ValidationError :=
  let identifier := if article.slug = "" ∧ article.id ≠ "" then article.id else article.slug
  let err := ValidationError.mk row identifier
  let status := toLower article.status
  (if article.id ≠ "" ∧ !isUuid article.id then
      [err "id" ErrCode.invalidUuid "Invalid UUID format"]
    else []) ++
  (if article.slug = "" then [err "slug" ErrCode.missingField "Slug is required"]
    else if !isValidSlug article.slug then
      [err "slug" ErrCode.invalidSlug
        "Slug must be in kebab-case format (lowercase letters, numbers, and hyphens only)"]
    else if article.slug.utf8ByteSize > 255 then
      [err "slug" ErrCode.invalidSlug "Slug must be at most 255 characters"]
    else []) ++
  (if article.title = "" then [err "title" ErrCode.missingField "Title is required"]
    else if article.title.utf8ByteSize > 500 then
      [err "title" ErrCode.invalidTitle "Title must be at most 500 characters"]
    else []) ++
  (if article.body = "" then [err "body" ErrCode.missingField "Body is required"] else []) ++
  (if article.authorId = "" then [err "author_id" ErrCode.missingField "Author ID is required"]
    else if !isUuid article.authorId then
      [err "author_id" ErrCode.invalidAuthor "Invalid author UUID format"]
    else []) ++
  (if article.status = "" then [err "status" ErrCode.missingField "Status is required"]
    else if status ∉ allowedArticleStatuses then
      [err "status" ErrCode.invalidStatus "Status must be one of: draft, published, archived"]
    else []) ++
  (if status = "draft" ∧ article.publishedAt ≠ "" then
      [err "published_at" ErrCode.draftWithPublished
        "Draft articles must not have a published_at date"]
    else []) ++
  (if status = "published" ∧ article.publishedAt = "" then
      [err "published_at" ErrCode.missingPublishedAt
        "Published articles must have a published_at date"]
    else []) ++
  (if article.publishedAt ≠ "" ∧ !isRFC3339 article.publishedAt then
      [err "published_at" ErrCode.invalidTimestamp
        "Invalid timestamp format (expected ISO8601/RFC3339)"]
    else []) ++
  tagFindings err article.tags

/-- `ValidateCommentImport`: the findings about one comment record, in the source's order. -/
def validateCommentImport (row : Nat) (comment : CommentImport) : List ValidationError :=
  let identifier := if comment.id = "" then "row-" ++ runeText row else comment.id
  let err := ValidationError.mk row identifier
  (if comment.id ≠ "" ∧ !isUuid comment.id then
      [err "id" ErrCode.invalidUuid "Invalid UUID format"]
    else []) ++
  (if comment.articleId = "" then
      [err "article_id" ErrCode.missingField "Article ID is required"]
    else if !isUuid comment.articleId then
      [err "article_id" ErrCode.invalidArticle "Invalid article UUID format"]
    else []) ++
  (if comment.userId = "" then [err "user_id" ErrCode.missingField "User ID is required"]
    else if !isUuid comment.userId then
      [err "user_id" ErrCode.invalidUser "Invalid user UUID format"]
    else []) ++
  (if comment.body = "" then [err "body" ErrCode.bodyEmpty "Comment body is required"]
    else if countWords comment.body > maxCommentWords then
      [err "body" ErrCode.bodyTooLong "Comment body exceeds maximum of 500 words"]
    else []) ++
  (if comment.createdAt ≠ "" ∧ !isRFC3339 comment.createdAt then
      [err "created_at" ErrCode.invalidTimestamp
        "Invalid timestamp format (expected ISO8601/RFC3339)"]
    else [])

/-- Every finding of the user validator is about the row it was given. -/
theorem validateUserImport_row {row : Nat} {user : UserImport} {e : ValidationError}
    (h : e ∈ validateUserImport row user) : e.rowNumber = row := by
  simp only [validateUserImport, List.mem_append] at h
  rcases h with ((((((h | h) | h) | h) | h) | h) | h) <;> split_ifs at h <;>
    first | exact absurd h (List.not_mem_nil _) | rw [List.mem_singleton.mp h]

/-- Every tag finding is about the row it was given. -/
theorem tagFindings_row {row : Nat} {identifier : String} {tags : Option (List String)}
    {e : ValidationError} (h : e ∈ tagFindings (ValidationError.mk row identifier) tags) :
    e.rowNumber = row := by
  rcases tags with _ | tags
  · cases h
  · simp only [tagFindings] at h
    split_ifs at h
    · cases h
    all_goals rcases List.mem_append.mp h with h | h <;>
      first | exact absurd h (List.not_mem_nil _) | rw [List.mem_singleton.mp h]

/-- Every finding of the article validator is about the row it was given. -/
theorem validateArticleImport_row {row : Nat} {article : ArticleImport} {e : ValidationError}
    (h : e ∈ validateArticleImport row article) : e.rowNumber = row := by
  simp only [validateArticleImport, List.mem_append] at h
  rcases h with (((((((((h | h) | h) | h) | h) | h) | h) | h) | h) | h)
  all_goals first | exact tagFindings_row h | (split_ifs at h <;>
    first | exact absurd h (List.not_mem_nil _) | rw [List.mem_singleton.mp h])

/-- Every finding of the comment validator is about the row it was given. -/
theorem validateCommentImport_row {row : Nat} {comment : CommentImport} {e : ValidationError}
    (h : e ∈ validateCommentImport row comment) : e.rowNumber = row := by
  simp only [validateCommentImport, List.mem_append] at h
  rcases h with ((((h | h) | h) | h) | h) <;> split_ifs at h <;>
    first | exact absurd h (List.not_mem_nil _) | rw [List.mem_singleton.mp h]

example : (validateUserImport 2
    ⟨"", "foo@bar", "Test", "manager", "true", "", ""⟩).map (·.code) =
    ["INVALID_EMAIL", "INVALID_ROLE"] := by decide

/-! ## What an accepted record satisfies -/

/-- A list that is a cons when `c` holds is empty only when `c` fails and the other branch is
empty. -/
theorem ite_cons_eq_nil {α : Type} {c : Prop} [Decidable c] {a : α} {as l : List α} :
    (if c then a :: as else l) = [] ↔ ¬c ∧ l = [] := by
  split_ifs with h <;> simp [h]

/-- An accepted user record: its id, when given, parses; its role lowers to an allowed one; its
timestamps, when given, parse. -/
theorem validateUserImport_accepts {row : Nat} {u : UserImport}
    (h : validateUserImport row u = []) :
    (u.id ≠ "" → isUuid u.id = true) ∧ toLower u.role ∈ allowedUserRoles ∧
      (u.createdAt ≠ "" → isRFC3339 u.createdAt = true) ∧
      (u.updatedAt ≠ "" → isRFC3339 u.updatedAt = true) := by
  simp only [validateUserImport, List.append_eq_nil, ite_cons_eq_nil, not_and, Bool.not_eq_true',
    Bool.not_eq_false, and_true, Decidable.not_not] at h
  obtain ⟨⟨⟨⟨⟨⟨hid, -⟩, -⟩, -, hrole⟩, -⟩, hc⟩, hu⟩ := h
  exact ⟨hid, hrole, hc, hu⟩

/-- An accepted article record: its id, when given, and its author's id parse; its slug is a
slug; its status lowers to an allowed one; its `published_at`, when given, parses. -/
theorem validateArticleImport_accepts {row : Nat} {a : ArticleImport}
    (h : validateArticleImport row a = []) :
    (a.id ≠ "" → isUuid a.id = true) ∧ isValidSlug a.slug = true ∧ a.authorId ≠ "" ∧
      isUuid a.authorId = true ∧ toLower a.status ∈ allowedArticleStatuses ∧
      (a.publishedAt ≠ "" → isRFC3339 a.publishedAt = true) := by
  simp only [validateArticleImport, List.append_eq_nil, ite_cons_eq_nil, not_and,
    Bool.not_eq_true', Bool.not_eq_false, and_true, Decidable.not_not] at h
  obtain ⟨⟨⟨⟨⟨⟨⟨⟨⟨hid, -, hslug, -⟩, -⟩, -⟩, hne, hauthor⟩, -, hstatus⟩, -⟩, -⟩, hpub⟩, -⟩ := h
  exact ⟨hid, hslug, hne, hauthor, hstatus, hpub⟩

/-- An accepted comment record: its id, when given, and both its references parse; its
`created_at`, when given, parses. -/
theorem validateCommentImport_accepts {row : Nat} {c : CommentImport}
    (h : validateCommentImport row c = []) :
    (c.id ≠ "" → isUuid c.id = true) ∧ c.articleId ≠ "" ∧ isUuid c.articleId = true ∧
      c.userId ≠ "" ∧ isUuid c.userId = true ∧
      (c.createdAt ≠ "" → isRFC3339 c.createdAt = true) := by
  simp only [validateCommentImport, List.append_eq_nil, ite_cons_eq_nil, not_and,
    Bool.not_eq_true', Bool.not_eq_false, and_true, Decidable.not_not] at h
  obtain ⟨⟨⟨⟨hid, hane, harticle⟩, hune, huser⟩, -⟩, hc⟩ := h
  exact ⟨hid, hane, harticle, hune, huser, hc⟩

/-! ## Words -/

/-- The words of a text as the spec defines them: its maximal non-empty runs of characters that
are not separators, the non-empty pieces between separators. -/
def maximalRuns (sep : Char → Bool) (cs : List Char) : List (List Char) :=
  (cs.splitOnP sep).filter (· ≠ [])

/-- No piece of a text split at its separators holds a separator. -/
theorem sep_false_of_mem_splitOnP {sep : Char → Bool} {c : Char} :
    ∀ {cs : List Char} {w : List Char}, w ∈ cs.splitOnP sep → c ∈ w → sep c = false
  | [], w, hw, hc => by simp_all
  | d :: cs, w, hw, hc => by
    have ih : ∀ {w}, w ∈ cs.splitOnP sep → c ∈ w → sep c = false :=
      sep_false_of_mem_splitOnP
    rw [List.splitOnP_cons] at hw
    split_ifs at hw with hd
    · rcases List.mem_cons.mp hw with rfl | hw
      · exact absurd hc (List.not_mem_nil _)
      · exact ih hw hc
    · obtain ⟨p, ps, hps⟩ := List.exists_cons_of_ne_nil (List.splitOnP_ne_nil sep cs)
      rw [hps, List.modifyHead_cons] at hw
      rcases List.mem_cons.mp hw with rfl | hw
      · rcases List.mem_cons.mp hc with rfl | hc
        · simpa using hd
        · exact ih (hps ▸ List.mem_cons_self p ps) hc
      · exact ih (hps ▸ List.mem_cons_of_mem p hw) hc

/-- Every word is a non-empty run of characters that are not separators; by
`List.splitOnP_spec` the words and the separators rebuild the text. -/
theorem mem_maximalRuns {sep : Char → Bool} {cs w : List Char} (h : w ∈ maximalRuns sep cs) :
    w ≠ [] ∧ ∀ c ∈ w, sep c = false := by
  obtain ⟨hw, hne⟩ := List.mem_filter.mp h
  exact ⟨by simpa using hne, fun _ hc => sep_false_of_mem_splitOnP hw hc⟩

/-- The loop of `countWords` counts the words after its first piece when it starts inside a
word, and all of them otherwise. -/
theorem countWordsFrom_eq (sep : Char → Bool) :
    ∀ (cs : List Char) (inWord : Bool),
      countWordsFrom sep inWord cs =
        (((cs.splitOnP sep).drop inWord.toNat).filter (· ≠ [])).length
  | [], inWord => by cases inWord <;> rfl
  | c :: cs, inWord => by
    rw [List.splitOnP_cons, countWordsFrom]
    by_cases hc : sep c
    · cases inWord <;> simp [hc, countWordsFrom_eq sep cs false]
    · obtain ⟨p, ps, hps⟩ := List.exists_cons_of_ne_nil (List.splitOnP_ne_nil sep cs)
      cases inWord <;> simp [hc, countWordsFrom_eq sep cs true, hps, List.filter_cons, Nat.add_comm]

/-- `countWords` counts the maximal runs of characters that are neither spaces nor punctuation. -/
theorem countWords_eq_runs (s : String) :
    countWords s = (maximalRuns (fun r => isSpace r || isPunct r) s.data).length := by
  unfold countWords
  split_ifs with h
  · subst h; rfl
  · exact countWordsFrom_eq _ _ false

example : countWords "one,two; three-four" = 4 := by decide

/-- `ValidateCommentImport` reports `BODY_TOO_LONG` exactly for a non-empty body of more than
`MaxCommentWords` words. -/
theorem bodyTooLong_iff (row : Nat) (comment : CommentImport) :
    (∃ e ∈ validateCommentImport row comment, e.code = ErrCode.bodyTooLong) ↔
      comment.body ≠ "" ∧ maxCommentWords < countWords comment.body := by
  constructor
  · rintro ⟨e, he, hcode⟩
    simp only [validateCommentImport, List.mem_append] at he
    rcases he with ((((h | h) | h) | h) | h) <;> split_ifs at h <;>
      simp only [List.mem_singleton, List.not_mem_nil] at h <;> subst h <;> simp only at hcode <;>
      first | exact ⟨‹_›, ‹_›⟩ | exact absurd hcode (by decide)
  · rintro ⟨hb, hw⟩
    simp only [validateCommentImport, if_neg hb, if_pos hw, List.mem_append, List.mem_singleton]
    exact ⟨_, .inl (.inr rfl), rfl⟩

/-- `countWords` counts the maximal runs of characters that are neither spaces nor punctuation,
and the body rule of `ValidateCommentImport` compares that count with `MaxCommentWords`. -/
theorem countWords_counts_maximal_runs :
    (∀ s, countWords s = (maximalRuns (fun r => isSpace r || isPunct r) s.data).length) ∧
      ∀ row comment,
        (∃ e ∈ validateCommentImport row comment, e.code = ErrCode.bodyTooLong) ↔
          comment.body ≠ "" ∧
            maxCommentWords < (maximalRuns (fun r => isSpace r || isPunct r) comment.body.data).length :=
  ⟨countWords_eq_runs, fun row comment =>
    countWords_eq_runs comment.body ▸ bodyTooLong_iff row comment⟩

end BulkImport
