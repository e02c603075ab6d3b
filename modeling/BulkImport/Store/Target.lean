import BulkImport.Store.Staging

/-!
# The target tables

`users`, `articles` and `comments` (the migration in `part_005`), and the statement every
`CreateBatch` of `part_000` sends: one multi-row `INSERT ... ON CONFLICT (id) DO UPDATE`. The
statement is all or nothing; its rows are applied in order, each one either inserted or, when its
id is already held, merged into the row holding it. A row fails the whole statement when

* the statement already wrote its id ("cannot affect row a second time"),
* a value does not fit its column (`VARCHAR(n)`, a NUL character, a NUL in a `JSONB` string),
* it breaks a `CHECK` constraint, a `UNIQUE` key other than the id, or a foreign key.

The `BEFORE UPDATE` triggers set `updated_at` to `NOW()` on every merge; `comments.updated_at`
takes its default `NOW()` on insert, since `CreateBatch` does not write it.
-/

namespace BulkImport

/-- PostgreSQL's error for a second write of one row in one `ON CONFLICT DO UPDATE`. -/
def errAffectTwice : String := "pq: ON CONFLICT DO UPDATE command cannot affect row a second time"

/-- PostgreSQL's error for a duplicate value of a unique index. -/
def errUnique (index : String) : String :=
  "pq: duplicate key value violates unique constraint \"" ++ index ++ "\""

/-- PostgreSQL's error for a row that breaks a `CHECK` constraint. -/
def errCheck (table constraint : String) : String :=
  "pq: new row for relation \"" ++ table ++ "\" violates check constraint \"" ++ constraint ++ "\""

/-- PostgreSQL's error for a reference to a missing row. -/
def errForeignKey (table constraint : String) : String :=
  "pq: insert or update on table \"" ++ table ++ "\" violates foreign key constraint \"" ++
    constraint ++ "\""

/-- The first of a list of possible refusals. -/
def firstError : List (Option String) → Option String
  | [] => none
  | some e :: _ => some e
  | none :: es => firstError es

/-- A list of possible refusals that holds one refuses. -/
theorem firstError_ne_none {es : List (Option String)} {x : String} (h : some x ∈ es) :
    firstError es ≠ none := by
  induction es with
  | nil => cases h
  | cons e es ih =>
    rcases e with _ | e
    · exact ih ((List.mem_cons.mp h).resolve_left nofun)
    · nofun

/-- The table after writing `row`: the row holding its id replaced, or the row appended. -/
def upsertRow {E : Type} (id : E → Uuid) (row : E) (tbl : List E) : List E :=
  if tbl.any (id · == id row) then tbl.map fun o => if id o == id row then row else o
  else tbl ++ [row]

/-- The rows of one `INSERT ... ON CONFLICT (id) DO UPDATE`, applied in order: `merge old new` is
the `DO UPDATE SET`, `check others row` the constraints a written row must meet against the
table's other rows, and `touched` the ids the statement already wrote. -/
def upsertAll {E : Type} (id : E → Uuid) (merge : E → E → E) (check : List E → E → Option String) :
    List Uuid → List E → List E → Except String (List E)
  | _, [], tbl => .ok tbl
  | touched, e :: es, tbl =>
    if id e ∈ touched then .error errAffectTwice
    else
      let row := match tbl.find? (id · == id e) with
        | some old => merge old e
        | none => e
      match check (tbl.filter (id · != id e)) row with
      | some err => .error err
      | none => upsertAll id merge check (id e :: touched) es (upsertRow id row tbl)

/-! ## The three tables -/

/-- `users`: the `DO UPDATE SET` of `UserRepository.CreateBatch`, with the trigger's `NOW()`. -/
def User.merge (now : Time) (old new : User) : User :=
  { old with email := new.email, name := new.name, role := new.role, active := new.active,
             updatedAt := now }

/-- The constraints of a `users` row: the widths of `email`, `name` and `role`, the role `CHECK`,
and the `UNIQUE` email. -/
def userRowError (others : List User) (u : User) : Option String :=
  firstError
    [columnError [(255, some u.email), (255, some u.name), (50, some u.role)],
     if u.role ∈ ["admin", "author", "reader"] then none else some (errCheck "users" "users_role_check"),
     if others.any (·.email == u.email) then some (errUnique "users_email_key") else none]

mutual
/-- A `JSONB` value holds no NUL character in a string or a key. -/
def JVal.nulFree : JVal → Bool
  | .str s => fitsText s
  | .arr xs => nulFreeElems xs
  | .obj fs => nulFreeMembers fs
  | _ => true

/-- The elements of an array hold no NUL. -/
def nulFreeElems : List JVal → Bool
  | [] => true
  | x :: xs => x.nulFree && nulFreeElems xs

/-- The members of an object hold no NUL. -/
def nulFreeMembers : List (String × JVal) → Bool
  | [] => true
  | (k, v) :: fs => fitsText k && v.nulFree && nulFreeMembers fs
end

/-- `articles`: the `DO UPDATE SET` of `ArticleRepository.CreateBatch`, with the trigger's `NOW()`. -/
def Article.merge (now : Time) (old new : Article) : Article :=
  { old with slug := new.slug, title := new.title, body := new.body, authorId := new.authorId,
             tags := new.tags, publishedAt := new.publishedAt, status := new.status,
             updatedAt := now }

/-- The constraints of an `articles` row: the widths, the `JSONB` tags, the status `CHECK`,
`chk_published_at`, the `UNIQUE` slug and the author's foreign key. -/
def articleRowError (users : List User) (others : List Article) (a : Article) : Option String :=
  firstError
    [columnError [(500, some a.slug), (500, some a.title), (0, some a.body), (50, some a.status)],
     if a.tags.nulFree then none else some "pq: unsupported Unicode escape sequence",
     if a.status ∈ ["draft", "published"] then none
     else some (errCheck "articles" "articles_status_check"),
     if (a.status == "draft" && a.publishedAt.isNone) ||
        (a.status == "published" && a.publishedAt.isSome) then none
     else some (errCheck "articles" "chk_published_at"),
     if others.any (·.slug == a.slug) then some (errUnique "articles_slug_key") else none,
     if users.any (·.id == a.authorId) then none
     else some (errForeignKey "articles" "articles_author_id_fkey")]

/-- `comments`: the `DO UPDATE SET` of `CommentRepository.CreateBatch`, with the trigger's
`NOW()`. -/
def Comment.merge (now : Time) (old new : Comment) : Comment :=
  { old with articleId := new.articleId, userId := new.userId, body := new.body, updatedAt := now }

/-- The constraints of a `comments` row: its body, and the two foreign keys. -/
def commentRowError (articles : List Article) (users : List User) (c : Comment) : Option String :=
  firstError
    [columnError [(0, some c.body)],
     if articles.any (·.id == c.articleId) then none
     else some (errForeignKey "comments" "comments_article_id_fkey"),
     if users.any (·.id == c.userId) then none
     else some (errForeignKey "comments" "comments_user_id_fkey")]

/-- The statement of `UserRepository.CreateBatch` at time `now`. -/
def insertUsers (now : Time) (users : List User) (tbl : List User) : Except String (List User) :=
  upsertAll (·.id) (User.merge now) userRowError [] users tbl

/-- The statement of `ArticleRepository.CreateBatch` at time `now`, over the `users` table. -/
def insertArticles (now : Time) (users : List User) (articles : List Article)
    (tbl : List Article) : Except String (List Article) :=
  upsertAll (·.id) (Article.merge now) (articleRowError users) [] articles tbl

/-- The statement of `CommentRepository.CreateBatch` at time `now`: an inserted comment takes
`NOW()` as its `updated_at`. -/
def insertComments (now : Time) (articles : List Article) (users : List User)
    (comments : List Comment) (tbl : List Comment) : Except String (List Comment) :=
  upsertAll (·.id) (Comment.merge now) (fun _ c => commentRowError articles users c) []
    (comments.map fun c => { c with updatedAt := now }) tbl

end BulkImport
