import BulkImport.Store.Statements
import BulkImport.Export.Stream

/-!
# The `SELECT` statements of the export cursors

`GetAllWithCursor` of `UserRepository`, `ArticleRepository` and `CommentRepository` (`part_000`)
runs the statement of its `buildSelectQuery`: `SELECT * FROM <table>`, a `WHERE` clause with one
condition for each filter that is set, and `ORDER BY created_at ASC`. A condition is
`fmt.Sprintf` of its format with `len(args)+1`, the number of the argument appended with it. The
three builders are one loop, `selectQuery`, applied to each table's text and filters as the
source writes them.

What a statement selects is read back from its text. `readSelect` splits it into words, as
PostgreSQL's lexer separates the words these builders write, and reads the table, the conditions
(each a column, a comparison and a placeholder `$n`) and the column it orders by; `runSelect`
keeps the rows on which every condition holds, `$n` standing for the `n`-th argument, and sorts
them by that column. For every set of filters and every table, the statement of each builder
selects the rows that the export model reads (`selectQueries_run`): each placeholder stands for
its filter's value, and each filter compares the column it names in the direction it names.
-/

namespace BulkImport

/-! ## The builders -/

/-- One `if filters.X != nil` block of `buildSelectQuery`: the format of its condition and the
field's value, when it is set. -/
structure Filter where
  /-- The condition's format, with one `%d` for its placeholder. -/
  format : String
  /-- The field's value, or `none` when the field is not set. -/
  value : Option SqlArg

/-- The block of one filter: when its field is set, the condition `fmt.Sprintf(format,
len(args)+1)` and the field's value as the next argument. -/
def addCondition (acc : List String × List SqlArg) (f : Filter) : List String × List SqlArg :=
  match f.value with
  | some v => (acc.1 ++ [⟨sprintfD f.format.data [acc.2.length + 1]⟩], acc.2 ++ [v])
  | none => acc

/-- `buildSelectQuery` of a table: its `SELECT * FROM` text, the blocks of its filters in order,
the `WHERE` clause when a condition was added, and the order. -/
def selectQuery (base : String) (filters : List Filter) : Statement :=
  let acc := filters.foldl addCondition ([], [])
  let query := if acc.1.length > 0 then base ++ " WHERE " ++ " AND ".intercalate acc.1 else base
  ⟨query ++ " ORDER BY created_at ASC", acc.2⟩

/-- `UserRepository.buildSelectQuery`. -/
def UserRepository.buildSelectQuery (filters : ExportFilters) : Statement :=
  selectQuery "SELECT * FROM users"
    [⟨"role = $%d", filters.role.map .text⟩, ⟨"active = $%d", filters.active.map .bool⟩,
      ⟨"created_at >= $%d", filters.createdAfter.map .time⟩,
      ⟨"created_at <= $%d", filters.createdBefore.map .time⟩]

/-- `ArticleRepository.buildSelectQuery`. -/
def ArticleRepository.buildSelectQuery (filters : ExportFilters) : Statement :=
  selectQuery "SELECT * FROM articles"
    [⟨"status = $%d", filters.status.map .text⟩, ⟨"author_id = $%d", filters.authorId.map .uuid⟩,
      ⟨"created_at >= $%d", filters.createdAfter.map .time⟩,
      ⟨"created_at <= $%d", filters.createdBefore.map .time⟩]

/-- `CommentRepository.buildSelectQuery`. -/
def CommentRepository.buildSelectQuery (filters : ExportFilters) : Statement :=
  selectQuery "SELECT * FROM comments"
    [⟨"article_id = $%d", filters.articleId.map .uuid⟩, ⟨"user_id = $%d", filters.userId.map .uuid⟩,
      ⟨"created_at >= $%d", filters.createdAfter.map .time⟩,
      ⟨"created_at <= $%d", filters.createdBefore.map .time⟩]

/-! ## Reading a `SELECT` -/

/-- The comparisons of the conditions. -/
inductive Cmp where
  /-- `=` -/
  | eq
  /-- `>=` -/
  | ge
  /-- `<=` -/
  | le
  deriving DecidableEq

/-- A condition of a `WHERE` clause: `column cmp $placeholder`. -/
structure Cond where
  /-- The column compared. -/
  column : String
  /-- The comparison. -/
  cmp : Cmp
  /-- The number of the argument compared with. -/
  placeholder : Nat
  deriving DecidableEq

/-- `SELECT * FROM table WHERE conds ORDER BY orderBy ASC`, the conditions joined by `AND`. -/
structure SelectStmt where
  /-- The table read. -/
  table : String
  /-- The conditions, none when there is no `WHERE`. -/
  conds : List Cond
  /-- The column the rows are sorted by. -/
  orderBy : String
  deriving DecidableEq

/-- The operator of a comparison. -/
def Cmp.text : Cmp → String
  | .eq => "="
  | .ge => ">="
  | .le => "<="

/-- The comparison an operator names. -/
def readCmp : String → Option Cmp
  | "=" => some .eq
  | ">=" => some .ge
  | "<=" => some .le
  | _ => none

/-- A placeholder `$n`: a dollar sign and at least one decimal digit. -/
def readPlaceholder (w : String) : Option Nat :=
  match w.data with
  | '$' :: d :: ds => if (d :: ds).all isDigit then some ((d :: ds).foldl digitStep 0) else none
  | _ => none

/-- A condition from its three words: a column, an operator and a placeholder. -/
def readCond (col op ph : String) : Option Cond :=
  (readCmp op).bind fun cmp => (readPlaceholder ph).map fun n => ⟨col, cmp, n⟩

/-- The conditions of a `WHERE` clause, each three words, joined by `AND` and followed by
`ORDER BY o ASC`. -/
def readWhere : List String → Option (List Cond × String)
  | col :: op :: ph :: rest =>
    (readCond col op ph).bind fun c =>
      match rest with
      | "AND" :: rest' => (readWhere rest').map fun r => (c :: r.1, r.2)
      | ["ORDER", "BY", o, "ASC"] => some ([c], o)
      | _ => none
  | _ => none

/-- The words of a statement, as PostgreSQL's lexer separates those these builders write: at
single spaces. -/
def sqlWords (q : String) : List String := (q.data.splitOn ' ').map String.mk

/-- The statement a query text denotes, when it has the shape the builders write. -/
def readSelect (q : String) : Option SelectStmt :=
  match sqlWords q with
  | "SELECT" :: "*" :: "FROM" :: t :: rest =>
    match rest with
    | ["ORDER", "BY", o, "ASC"] => some ⟨t, [], o⟩
    | "WHERE" :: rest' => (readWhere rest').map fun r => ⟨t, r.1, r.2⟩
    | _ => none
  | _ => none

/-! ## What a `SELECT` returns -/

/-- The argument `$n` stands for. -/
def argument (args : List SqlArg) : Nat → Option SqlArg
  | 0 => none
  | n + 1 => args[n]?

/-- A comparison of a column's value with an argument of its type; PostgreSQL refuses the other
pairs. -/
def Cmp.eval : Cmp → SqlArg → SqlArg → Option Bool
  | .eq, .text a, .text b => some (a == b)
  | .eq, .bool a, .bool b => some (a == b)
  | .eq, .uuid a, .uuid b => some (a == b)
  | .ge, .time a, .time b => some (b.le a)
  | .le, .time a, .time b => some (a.le b)
  | _, _, _ => none

/-- Whether every one of a list of tests holds, or nothing if one fails. -/
def andAll : List (Option Bool) → Option Bool
  | [] => some true
  | o :: os => o.bind fun b => (andAll os).map (b && ·)

/-- Whether a condition holds of a row, or nothing when the column or the argument is missing or of
another type. -/
def Cond.holds {E : Type} (column : E → String → Option SqlArg) (args : List SqlArg) (row : E)
    (c : Cond) : Option Bool :=
  (column row c.column).bind fun v => (argument args c.placeholder).bind (c.cmp.eval v)

/-- The rows a test keeps, or nothing if it fails on one. -/
def keepRows {E : Type} (keep : E → Option Bool) : List E → Option (List E)
  | [] => some []
  | r :: rs => (keep r).bind fun b => (keepRows keep rs).map fun rest => if b then r :: rest else rest

/-- `ORDER BY o ASC` on a timestamp column. -/
def orderedBefore {E : Type} (column : E → String → Option SqlArg) (o : String) (a b : E) : Bool :=
  match column a o, column b o with
  | some (.time s), some (.time t) => s.le t
  | _, _ => true

/-- The rows of `table` that a statement returns with its arguments: those on which all its
conditions hold, sorted by its order column. -/
def runSelect {E : Type} (column : E → String → Option SqlArg) (table : String) (st : Statement)
    (rows : List E) : Option (List E) :=
  (readSelect st.query).bind fun s =>
    if s.table = table then
      (keepRows (fun r => andAll (s.conds.map (Cond.holds column st.args r))) rows).map
        fun rs => rs.insertionSort fun a b => orderedBefore column s.orderBy a b
    else none

/-! ## The printed statement read back -/

/-- The words of a condition. -/
def Cond.words (c : Cond) : List String := [c.column, c.cmp.text, "$" ++ toString c.placeholder]

/-- The words of a `WHERE` clause. -/
def whereWords : List Cond → List String
  | [] => []
  | c :: cs => "WHERE" :: c.words ++ (cs.map fun c => "AND" :: c.words).flatten

/-- The words of a statement. -/
def SelectStmt.words (s : SelectStmt) : List String :=
  ["SELECT", "*", "FROM", s.table] ++ whereWords s.conds ++ ["ORDER", "BY", s.orderBy, "ASC"]

/-- Joining two non-empty lists with a separator puts one separator between them. -/
theorem intercalate_append_of_ne_nil {α : Type} (sep : List α) {xs ys : List (List α)} (hx : xs ≠ [])
    (hy : ys ≠ []) : sep.intercalate (xs ++ ys) = sep.intercalate xs ++ sep ++ sep.intercalate ys := by
  obtain ⟨x, xs, rfl⟩ := List.exists_cons_of_ne_nil hx
  obtain ⟨y, ys, rfl⟩ := List.exists_cons_of_ne_nil hy
  simp [intercalate_cons_flatten]

/-- `strings.Join` on the characters of its strings. -/
theorem String.intercalate_data (s : String) :
    ∀ ws : List String, (s.intercalate ws).data = s.data.intercalate (ws.map String.data)
  | [] => rfl
  | w :: ws => by
    rw [intercalate_cons_data, List.map_cons, intercalate_cons_flatten, List.map_map]
    rfl

/-- At least one word, none with a space, joined by single spaces, are read back as they were. -/
theorem sqlWords_intercalate {ws : List String} (hws : ∀ w ∈ ws, ' ' ∉ w.data) (hne : ws ≠ []) :
    sqlWords (" ".intercalate ws) = ws := by
  rw [sqlWords, String.intercalate_data, show " ".data = [' '] from rfl,
    List.splitOn_intercalate _ ' ' (by simpa using hws) (by simpa using hne), List.map_map]
  exact List.map_id'' (fun _ => rfl) ws

/-- The operator of a comparison is read back as that comparison. -/
theorem readCmp_text (c : Cmp) : readCmp c.text = some c := by
  cases c <;> rfl

/-- The placeholder `$n` is read back as `n`. -/
theorem readPlaceholder_toString (n : Nat) : readPlaceholder ("$" ++ toString n) = some n := by
  have hd := toDigitsCore_isDigit (n + 1) n
  have hv := toDigitsCore_value (n + 1) n (Nat.lt_succ_self n)
  obtain ⟨d, ds, h⟩ := List.exists_cons_of_ne_nil (toDigits_ne_nil n)
  rw [Nat.toDigits] at h
  rw [readPlaceholder, show ("$" ++ toString n).data = '$' :: Nat.toDigitsCore 10 (n + 1) n [] from rfl]
  rw [h] at hd hv ⊢
  simp only [List.all_eq_true.2 hd, if_true, hv]

/-- The words of a condition are read back as that condition. -/
theorem readCond_words (c : Cond) : readCond c.column c.cmp.text ("$" ++ toString c.placeholder) = some c := by
  simp only [readCond, readCmp_text, readPlaceholder_toString, Option.some_bind, Option.map_some']

/-- The words of a `WHERE` clause are read back as its conditions and its order column. -/
theorem readWhere_words (o : String) :
    ∀ (c : Cond) (cs : List Cond),
      readWhere (c.words ++ (cs.map fun c => "AND" :: c.words).flatten ++ ["ORDER", "BY", o, "ASC"]) =
        some (c :: cs, o)
  | c, [] => by
    simp only [Cond.words, List.map_nil, List.flatten_nil, List.append_nil, List.cons_append,
      List.nil_append, readWhere, readCond_words, Option.some_bind]
  | c, c' :: cs => by
    have ih := readWhere_words o c' cs
    simp only [Cond.words, List.map_cons, List.flatten_cons, List.cons_append, List.nil_append,
      List.append_assoc] at ih ⊢
    rw [readWhere, readCond_words, Option.some_bind]
    exact congrArg (Option.map fun r => (c :: r.1, r.2)) ih

/-- A statement whose table, columns and order column are words reads back from its text. -/
theorem readSelect_words (s : SelectStmt) (hws : ∀ w ∈ s.words, ' ' ∉ w.data) :
    readSelect (" ".intercalate s.words) = some s := by
  rw [readSelect, sqlWords_intercalate hws (by simp [SelectStmt.words])]
  obtain ⟨t, cs, o⟩ := s
  cases cs with
  | nil => rfl
  | cons c cs =>
    simp only [SelectStmt.words, whereWords, List.cons_append, List.nil_append, List.append_assoc]
    rw [← List.append_assoc, readWhere_words]
    rfl

/-! ## The builders' statements -/

/-- A filter whose format is `column cmp $%d`. -/
structure FilterShape where
  /-- The column compared. -/
  column : String
  /-- The comparison. -/
  cmp : Cmp
  /-- The field's value, or `none` when the field is not set. -/
  value : Option SqlArg

/-- The block of a filter of that shape. -/
def FilterShape.filter (s : FilterShape) : Filter := ⟨s.column ++ " " ++ s.cmp.text ++ " $%d", s.value⟩

/-- The conditions of the filters that are set, their placeholders numbered from `n`. -/
def setConds : List FilterShape → Nat → List Cond
  | [], _ => []
  | s :: ss, n =>
    match s.value with
    | some _ => ⟨s.column, s.cmp, n⟩ :: setConds ss (n + 1)
    | none => setConds ss n

/-- The text of a condition. -/
def Cond.text (c : Cond) : String := " ".intercalate c.words

/-- `fmt.Sprintf` copies a prefix with no `%`. -/
theorem sprintfD_plain (rest : List Char) (ns : List Nat) :
    ∀ pre : List Char, '%' ∉ pre → sprintfD (pre ++ rest) ns = pre ++ sprintfD rest ns
  | [], _ => rfl
  | c :: cs, h => by
    rw [List.cons_append, sprintfD_cons fun hc => h (hc ▸ List.mem_cons_self _ _),
      sprintfD_plain rest ns cs fun hc => h (List.mem_cons_of_mem _ hc)]
    rfl

/-- No operator holds a `%`. -/
theorem Cmp.percent_not_mem_text (c : Cmp) : '%' ∉ c.text.data := by
  cases c <;> decide

/-- The block of a filter prints the text of its condition. -/
theorem FilterShape.sprintfD_format (s : FilterShape) (h : '%' ∉ s.column.data) (n : Nat) :
    (⟨sprintfD s.filter.format.data [n]⟩ : String) = (⟨s.column, s.cmp, n⟩ : Cond).text := by
  have hpre : '%' ∉ s.column.data ++ ' ' :: (s.cmp.text.data ++ [' ', '$']) := by
    simp only [List.mem_append, List.mem_cons, List.mem_singleton, List.not_mem_nil, or_false]
    rintro (h' | h' | h' | h' | h')
    · exact h h'
    · cases h'
    · exact s.cmp.percent_not_mem_text h'
    all_goals cases h'
  have hf : s.filter.format.data = (s.column.data ++ ' ' :: (s.cmp.text.data ++ [' ', '$'])) ++
      ['%', 'd'] := by
    simp only [FilterShape.filter, String.data_append, List.append_assoc, List.cons_append]
    rfl
  apply String.ext
  rw [hf, sprintfD_plain _ _ _ hpre, Cond.text, String.intercalate_data]
  simp only [Cond.words, sprintfD, List.append_nil, List.map_cons, List.map_nil, intercalate_cons_flatten,
    List.flatten_cons, List.flatten_nil, String.data_append, List.append_assoc, List.cons_append,
    List.singleton_append]
  rfl

/-- The `if filters.X != nil` blocks over the filters of these shapes add the text of the
conditions of the filters that are set, their placeholders numbered after the arguments already
there, and their values as the arguments. -/
theorem foldl_addCondition :
    ∀ (ss : List FilterShape), (∀ s ∈ ss, '%' ∉ s.column.data) → ∀ (cs : List String) (as : List SqlArg),
      (ss.map FilterShape.filter).foldl addCondition (cs, as) =
        (cs ++ (setConds ss (as.length + 1)).map Cond.text, as ++ ss.filterMap FilterShape.value)
  | [], _, cs, as => by simp [setConds]
  | s :: ss, h, cs, as => by
    have ih := foldl_addCondition ss fun s' hs' => h s' (List.mem_cons_of_mem _ hs')
    rw [List.map_cons, List.foldl_cons]
    cases hv : s.value with
    | none =>
      have hv' : s.filter.value = none := hv
      simp only [addCondition, hv', ih, setConds, hv, List.filterMap_cons]
    | some v =>
      have hv' : s.filter.value = some v := hv
      simp only [addCondition, hv', s.sprintfD_format (h s (List.mem_cons_self _ _)), ih, setConds,
        hv, List.filterMap_cons, List.length_append, List.length_singleton, List.map_cons,
        List.append_assoc, List.singleton_append]

/-- `strings.Join` of two non-empty lists puts one separator between them. -/
theorem String.intercalate_append (s : String) {xs ys : List String} (hx : xs ≠ []) (hy : ys ≠ []) :
    s.intercalate (xs ++ ys) = s.intercalate xs ++ s ++ s.intercalate ys :=
  String.ext (by
    simp only [String.intercalate_data, List.map_append, String.data_append,
      @intercalate_append_of_ne_nil _ s.data (xs.map String.data) (ys.map String.data)
        (by simpa using hx) (by simpa using hy)])

/-- `strings.Join` of a string before a non-empty list puts the separator after it. -/
theorem String.intercalate_cons (s a : String) {l : List String} (hl : l ≠ []) :
    s.intercalate (a :: l) = a ++ s ++ s.intercalate l :=
  String.intercalate_append s (List.cons_ne_nil a []) hl

/-- The words of a condition, followed by more, are not empty. -/
theorem Cond.words_ne_nil (c : Cond) (cs : List String) : c.words ++ cs ≠ [] := by
  simp [Cond.words]

/-- The conditions joined by `strings.Join(conditions, " AND ")` are their words joined by
`AND`. -/
theorem andJoin_words : ∀ (c : Cond) (cs : List Cond),
    " AND ".intercalate ((c :: cs).map Cond.text) =
      " ".intercalate (c.words ++ (cs.map fun c => "AND" :: c.words).flatten)
  | c, [] => by
    rw [List.map_singleton, List.map_nil, List.flatten_nil, List.append_nil]
    rfl
  | c, c' :: cs => by
    have ih := andJoin_words c' cs
    rw [List.map_cons] at ih
    rw [List.map_cons, List.map_cons, String.intercalate_cons _ _ (List.cons_ne_nil _ _), ih,
      List.map_cons, List.flatten_cons, List.cons_append,
      String.intercalate_append _ (by simp [Cond.words]) (List.cons_ne_nil _ _),
      String.intercalate_cons _ _ (c'.words_ne_nil _), show " AND " = " " ++ "AND" ++ " " by decide]
    simp only [Cond.text, String.append_assoc]

/-- The text of `buildSelectQuery` is the printed statement of its table, the conditions of the
filters that are set, numbered from one, and the order by `created_at`. -/
theorem selectQuery_query {base table : String}
    (hbase : base = " ".intercalate ["SELECT", "*", "FROM", table]) {ss : List FilterShape}
    (h : ∀ s ∈ ss, '%' ∉ s.column.data) :
    (selectQuery base (ss.map FilterShape.filter)).query =
      " ".intercalate (SelectStmt.words ⟨table, setConds ss 1, "created_at"⟩) := by
  have horder : " ORDER BY created_at ASC" =
      " " ++ " ".intercalate ["ORDER", "BY", "created_at", "ASC"] := by decide
  simp only [selectQuery, foldl_addCondition ss h [] [], List.nil_append, List.length_nil,
    SelectStmt.words]
  rw [horder]
  cases setConds ss 1 with
  | nil =>
    rw [List.map_nil, List.length_nil, if_neg (Nat.lt_irrefl 0), whereWords, List.append_nil,
      String.intercalate_append _ (List.cons_ne_nil _ _) (List.cons_ne_nil _ _), hbase,
      String.append_assoc]
  | cons c cs =>
    rw [if_pos (by simp), andJoin_words, whereWords]
    generalize (cs.map fun c => "AND" :: c.words).flatten = F
    have hC := c.words_ne_nil F
    generalize c.words = C at hC ⊢
    rw [@String.intercalate_append " " (["SELECT", "*", "FROM", table] ++ ("WHERE" :: C ++ F))
        ["ORDER", "BY", "created_at", "ASC"] (by simp) (by simp),
      @String.intercalate_append " " ["SELECT", "*", "FROM", table] ("WHERE" :: C ++ F) (by simp)
        (by simp), List.cons_append, String.intercalate_cons _ _ hC, hbase,
      show " WHERE " = " " ++ "WHERE" ++ " " by decide]
    simp only [String.append_assoc]

example : (UserRepository.buildSelectQuery { role := some "admin", createdBefore := some ⟨0⟩ }).query =
    "SELECT * FROM users WHERE role = $1 AND created_at <= $2 ORDER BY created_at ASC" := by
  decide

/-- The arguments of `buildSelectQuery` are the values of the filters that are set, in order. -/
theorem selectQuery_args (base : String) {ss : List FilterShape} (h : ∀ s ∈ ss, '%' ∉ s.column.data) :
    (selectQuery base (ss.map FilterShape.filter)).args = ss.filterMap FilterShape.value := by
  simp only [selectQuery, foldl_addCondition ss h [] [], List.nil_append]

/-! ## What the builders' statements return -/

/-- What a filter of that shape keeps of a row: every row when it is not set. -/
def FilterShape.holds {E : Type} (column : E → String → Option SqlArg) (row : E) (s : FilterShape) :
    Option Bool :=
  match s.value with
  | some v => (column row s.column).bind fun x => s.cmp.eval x v
  | none => some true

/-- Each placeholder of the conditions stands for the value of its filter. -/
theorem andAll_setConds {E : Type} (column : E → String → Option SqlArg) (row : E) :
    ∀ (ss : List FilterShape) (pre : List SqlArg),
      andAll ((setConds ss (pre.length + 1)).map
          (Cond.holds column (pre ++ ss.filterMap FilterShape.value) row)) =
        andAll (ss.map (FilterShape.holds column row))
  | [], _ => rfl
  | s :: ss, pre => by
    have ih := andAll_setConds column row ss
    cases hv : s.value with
    | none =>
      simp only [setConds, hv, List.filterMap_cons, ih, List.map_cons, andAll, FilterShape.holds,
        Option.some_bind, Bool.true_and, Option.map_id']
    | some v =>
      have harg : argument (pre ++ v :: ss.filterMap FilterShape.value) (pre.length + 1) = some v := by
        rw [argument, List.getElem?_append_right (Nat.le_refl _), Nat.sub_self,
          List.getElem?_cons_zero]
      have ih' := ih (pre ++ [v])
      simp only [List.length_append, List.length_singleton, List.append_assoc,
        List.singleton_append] at ih'
      simp only [setConds, hv, List.filterMap_cons, List.map_cons, andAll, Cond.holds, harg,
        Option.some_bind, ih', FilterShape.holds]

/-- A test that never fails keeps the rows a filter keeps. -/
theorem keepRows_some {E : Type} (p : E → Bool) :
    ∀ rows : List E, keepRows (fun r => some (p r)) rows = some (rows.filter p)
  | [] => rfl
  | r :: rs => by
    rw [keepRows, Option.some_bind, keepRows_some p rs, Option.map_some', List.filter_cons]

/-- A condition whose column has no space has words with no space. -/
theorem Cond.words_plain (c : Cond) (h : ' ' ∉ c.column.data) : ∀ w ∈ c.words, ' ' ∉ w.data := by
  have hd : ' ' ∉ Nat.toDigits 10 c.placeholder := fun hs => by
    have := toDigitsCore_isDigit _ _ _ hs
    simp [isDigit] at this
  simp only [Cond.words, List.mem_cons, List.mem_singleton, List.not_mem_nil, or_false]
  rintro w (rfl | rfl | rfl)
  · exact h
  · cases c.cmp <;> decide
  · exact fun hs => (List.mem_cons.1 hs).elim (fun h' => by cases h') hd

/-- A statement whose table, order column and condition columns have no space has words with no
space. -/
theorem SelectStmt.words_plain (s : SelectStmt) (ht : ' ' ∉ s.table.data) (ho : ' ' ∉ s.orderBy.data)
    (hc : ∀ c ∈ s.conds, ' ' ∉ c.column.data) : ∀ w ∈ s.words, ' ' ∉ w.data := by
  obtain ⟨t, cs, o⟩ := s
  intro w hw
  simp only [SelectStmt.words, List.mem_append, List.mem_cons, List.mem_singleton,
    List.not_mem_nil, or_false] at hw
  rcases hw with ((rfl | rfl | rfl | rfl) | hw) | rfl | rfl | rfl | rfl
  all_goals first | decide | assumption | skip
  cases cs with
  | nil => cases hw
  | cons c cs =>
    simp only [whereWords, List.cons_append, List.mem_cons, List.mem_append, List.mem_flatten,
      List.mem_map] at hw
    rcases hw with rfl | hw | ⟨l, ⟨c', hc', rfl⟩, hw⟩
    · decide
    · exact c.words_plain (hc c (List.mem_cons_self _ _)) w hw
    · rcases List.mem_cons.1 hw with rfl | hw
      · decide
      · exact c'.words_plain (hc c' (List.mem_cons_of_mem _ hc')) w hw

/-- Every condition of the set filters is on the column of one of the filters. -/
theorem mem_setConds {c : Cond} : ∀ {ss : List FilterShape} {n : Nat}, c ∈ setConds ss n →
    ∃ s ∈ ss, c.column = s.column
  | s :: ss, n, h => by
    rw [setConds] at h
    split at h
    · rcases List.mem_cons.1 h with rfl | h
      · exact ⟨s, List.mem_cons_self _ _, rfl⟩
      · obtain ⟨s', hs', he⟩ := mem_setConds h
        exact ⟨s', List.mem_cons_of_mem _ hs', he⟩
    · obtain ⟨s', hs', he⟩ := mem_setConds h
      exact ⟨s', List.mem_cons_of_mem _ hs', he⟩

section Builders

variable {E : Type} (column : E → String → Option SqlArg) {base table : String} {ss : List FilterShape}

/-- A builder's statement returns the rows of its table on which all its filters hold, sorted by
`created_at`. -/
theorem selectQuery_runs (hbase : base = " ".intercalate ["SELECT", "*", "FROM", table])
    (ht : ' ' ∉ table.data) (hss : ∀ c ∈ ss.map FilterShape.column, ' ' ∉ c.data ∧ '%' ∉ c.data)
    (p : E → Bool) (hp : ∀ r, andAll (ss.map (FilterShape.holds column r)) = some (p r))
    (rows : List E) :
    runSelect column table (selectQuery base (ss.map FilterShape.filter)) rows =
      some ((rows.filter p).insertionSort fun a b => orderedBefore column "created_at" a b) := by
  have hpct : ∀ s ∈ ss, '%' ∉ s.column.data := fun s hs => (hss _ (List.mem_map_of_mem _ hs)).2
  have hkeep : (fun r => andAll ((setConds ss 1).map
      (Cond.holds column (ss.filterMap FilterShape.value) r))) = fun r => some (p r) :=
    funext fun r => (andAll_setConds column r ss []).trans (hp r)
  rw [runSelect, selectQuery_query hbase hpct, readSelect_words _ (SelectStmt.words_plain _ ht
      (show ' ' ∉ "created_at".data by decide) fun c hc => by
        obtain ⟨s, hs, he⟩ := mem_setConds hc
        exact he ▸ (hss _ (List.mem_map_of_mem _ hs)).1),
    Option.some_bind, if_pos rfl, selectQuery_args _ hpct]
  dsimp only
  rw [hkeep, keepRows_some, Option.map_some']

end Builders

/-! ## The three repositories -/

/-- A filter of a comparison that holds as `p` keeps the rows on which its value, if set, satisfies
`p`. -/
theorem FilterShape.holds_map {E α : Type} {column : E → String → Option SqlArg} {row : E}
    {col : String} {x : SqlArg} (hx : column row col = some x) (cmp : Cmp) (mk : α → SqlArg)
    (p : α → Bool) (hp : ∀ a, cmp.eval x (mk a) = some (p a)) (o : Option α) :
    FilterShape.holds column row ⟨col, cmp, o.map mk⟩ = some (o.all p) := by
  cases o <;> simp [FilterShape.holds, hx, hp]

section Shapes

variable {E : Type} {column : E → String → Option SqlArg} {row : E}

/-- An equality filter keeps the rows whose column holds its value. -/
theorem FilterShape.holds_eq {β : Type} [BEq β] [LawfulBEq β] {col : String} {x : β}
    (mk : β → SqlArg) (hmk : ∀ a b, Cmp.eq.eval (mk a) (mk b) = some (a == b))
    (hx : column row col = some (mk x)) (o : Option β) :
    FilterShape.holds column row ⟨col, .eq, o.map mk⟩ = some (o.all (· == x)) :=
  FilterShape.holds_map hx .eq mk _ (fun a => (hmk x a).trans (congrArg some Bool.beq_comm)) o

/-- `created_at >= $n` keeps the rows created at or after the start of the window, if set. -/
theorem FilterShape.holds_after {t : Time} (ht : column row "created_at" = some (.time t))
    (o : Option Time) :
    FilterShape.holds column row ⟨"created_at", .ge, o.map .time⟩ = some (o.all fun a => a.le t) :=
  FilterShape.holds_map ht .ge .time _ (fun _ => rfl) o

/-- `created_at <= $n` keeps the rows created at or before the end of the window, if set. -/
theorem FilterShape.holds_before {t : Time} (ht : column row "created_at" = some (.time t))
    (o : Option Time) :
    FilterShape.holds column row ⟨"created_at", .le, o.map .time⟩ = some (o.all fun b => t.le b) :=
  FilterShape.holds_map ht .le .time _ (fun _ => rfl) o

end Shapes

/-- The filters of `UserRepository.buildSelectQuery`. -/
def UserRepository.filterShapes (filters : ExportFilters) : List FilterShape :=
  [⟨"role", .eq, filters.role.map .text⟩, ⟨"active", .eq, filters.active.map .bool⟩,
    ⟨"created_at", .ge, filters.createdAfter.map .time⟩,
    ⟨"created_at", .le, filters.createdBefore.map .time⟩]

/-- The filters of `ArticleRepository.buildSelectQuery`. -/
def ArticleRepository.filterShapes (filters : ExportFilters) : List FilterShape :=
  [⟨"status", .eq, filters.status.map .text⟩, ⟨"author_id", .eq, filters.authorId.map .uuid⟩,
    ⟨"created_at", .ge, filters.createdAfter.map .time⟩,
    ⟨"created_at", .le, filters.createdBefore.map .time⟩]

/-- The filters of `CommentRepository.buildSelectQuery`. -/
def CommentRepository.filterShapes (filters : ExportFilters) : List FilterShape :=
  [⟨"article_id", .eq, filters.articleId.map .uuid⟩, ⟨"user_id", .eq, filters.userId.map .uuid⟩,
    ⟨"created_at", .ge, filters.createdAfter.map .time⟩,
    ⟨"created_at", .le, filters.createdBefore.map .time⟩]

/-- The filters of the users query keep the users the export selects. -/
theorem UserRepository.filterShapes_hold (filters : ExportFilters) (u : User) :
    andAll ((filterShapes filters).map (FilterShape.holds User.column u)) =
      some (userSelected filters u) := by
  have ht : User.column u "created_at" = some (.time u.createdAt) := rfl
  simp only [filterShapes, List.map_cons, List.map_nil, andAll,
    FilterShape.holds_eq .text (fun _ _ => rfl) (show User.column u "role" = _ from rfl),
    FilterShape.holds_eq .bool (fun _ _ => rfl) (show User.column u "active" = _ from rfl),
    FilterShape.holds_after ht, FilterShape.holds_before ht, Option.some_bind, Option.map_some',
    Bool.and_true, userSelected, inWindow, Bool.and_assoc]

/-- The filters of the articles query keep the articles the export selects. -/
theorem ArticleRepository.filterShapes_hold (filters : ExportFilters) (a : Article) :
    andAll ((filterShapes filters).map (FilterShape.holds Article.column a)) =
      some (articleSelected filters a) := by
  have ht : Article.column a "created_at" = some (.time a.createdAt) := rfl
  simp only [filterShapes, List.map_cons, List.map_nil, andAll,
    FilterShape.holds_eq .text (fun _ _ => rfl) (show Article.column a "status" = _ from rfl),
    FilterShape.holds_eq .uuid (fun _ _ => rfl) (show Article.column a "author_id" = _ from rfl),
    FilterShape.holds_after ht, FilterShape.holds_before ht, Option.some_bind, Option.map_some',
    Bool.and_true, articleSelected, inWindow, Bool.and_assoc]

/-- The filters of the comments query keep the comments the export selects. -/
theorem CommentRepository.filterShapes_hold (filters : ExportFilters) (c : Comment) :
    andAll ((filterShapes filters).map (FilterShape.holds Comment.column c)) =
      some (commentSelected filters c) := by
  have ht : Comment.column c "created_at" = some (.time c.createdAt) := rfl
  simp only [filterShapes, List.map_cons, List.map_nil, andAll,
    FilterShape.holds_eq .uuid (fun _ _ => rfl) (show Comment.column c "article_id" = _ from rfl),
    FilterShape.holds_eq .uuid (fun _ _ => rfl) (show Comment.column c "user_id" = _ from rfl),
    FilterShape.holds_after ht, FilterShape.holds_before ht, Option.some_bind, Option.map_some',
    Bool.and_true, commentSelected, inWindow, Bool.and_assoc]

/-- For every set of filters and every table, the statement each `buildSelectQuery` builds, run
with its arguments, returns the rows the export streams read: those its filters select, in the
order of `created_at`. -/
theorem selectQueries_run (filters : ExportFilters) (db : Db) :
    runSelect User.column "users" (UserRepository.buildSelectQuery filters) db.users =
        some (selectUsers filters db) ∧
      runSelect Article.column "articles" (ArticleRepository.buildSelectQuery filters) db.articles =
        some (selectArticles filters db) ∧
      runSelect Comment.column "comments" (CommentRepository.buildSelectQuery filters) db.comments =
        some (selectComments filters db) :=
  ⟨selectQuery_runs User.column (by decide) (by decide)
      (by simp only [UserRepository.filterShapes, List.map_cons, List.map_nil]; decide) _
      (UserRepository.filterShapes_hold filters) db.users,
    selectQuery_runs Article.column (by decide) (by decide)
      (by simp only [ArticleRepository.filterShapes, List.map_cons, List.map_nil]; decide) _
      (ArticleRepository.filterShapes_hold filters) db.articles,
    selectQuery_runs Comment.column (by decide) (by decide)
      (by simp only [CommentRepository.filterShapes, List.map_cons, List.map_nil]; decide) _
      (CommentRepository.filterShapes_hold filters) db.comments⟩

end BulkImport
