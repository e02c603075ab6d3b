import BulkImport.Store.Repo
import Mathlib.Data.Nat.Digits

/-!
# The multi-row `INSERT` statements

`CreateStagingUsers`, `CreateStagingArticles` and `CreateStagingComments` (`staging_repo.go`) and
the `CreateBatch` of the three entity repositories (`part_000`) send one `INSERT` for a whole
batch. Their loops are one loop, `BatchInsert.loop`: for row `i` it appends to `valueStrings` the
tuple `fmt.Sprintf("($%d, …, $%d)", base+1, …, base+k)` with `base := i * k`, and to `valueArgs`
the row's `k` values; the statement is the template with `strings.Join(valueStrings, ",")` in
place of its `%s`. Each method is that loop applied to its own template, format, placeholder
numbers and value list, written as the source writes them.

What a statement binds is read back from its text: `declaredColumns` reads the column list of the
`INSERT`, `readTuples` the placeholder tuples of its `VALUES` list as PostgreSQL reads `$n`, and
`bindTuples` puts the `n`-th argument for `$n`. `Statement.Binds` is what a statement of `k`
columns should do for its rows: one tuple a row, tuple `i` numbering its placeholders from
`k * i + 1`, and the argument of its `j`-th placeholder row `i`'s value of the `j`-th declared
column, the column as the row's `db` struct tags name it. `BatchInsert.Shaped.binds` proves it for
every loop whose format, numbers, template and values fit together, and each of the six methods
fits (`insert_placeholders_match_args`). The rows are those `CreateStaging*` inserts, each with the
job's id, and those `CreateBatch` inserts, as `fill` leaves them.
-/

namespace BulkImport

/-- `fmt.Sprintf` of a format whose verbs are all `%d`, with non-negative integer arguments: each
verb is replaced by the decimal text of the next argument. -/
def sprintfD : List Char → List Nat → List Char
  | '%' :: 'd' :: cs, n :: ns => Nat.toDigits 10 n ++ sprintfD cs ns
  | '%' :: 'd' :: cs, [] => "%!d(MISSING)".data ++ sprintfD cs []
  | c :: cs, ns => c :: sprintfD cs ns
  | [], _ => []

/-- `fmt.Sprintf` copies a character other than `%`. -/
theorem sprintfD_cons {c : Char} (hc : c ≠ '%') (cs : List Char) (ns : List Nat) :
    sprintfD (c :: cs) ns = c :: sprintfD cs ns :=
  sprintfD.eq_3 ns c cs (fun _ _ _ h => absurd h hc) fun _ h => absurd h hc

/-- The format of `k` placeholders, `$%d, $%d, …`. -/
def placeholdersFormat : Nat → List Char
  | 0 => []
  | 1 => "$%d".data
  | k + 2 => "$%d, ".data ++ placeholdersFormat (k + 1)

/-- The placeholders `$m, $m, …` as `%d` prints them. -/
def placeholdersText : List Nat → List Char
  | [] => []
  | [m] => '$' :: Nat.toDigits 10 m
  | m :: m' :: ms => '$' :: Nat.toDigits 10 m ++ ',' :: ' ' :: placeholdersText (m' :: ms)

/-- `fmt.Sprintf` of `k` placeholders consumes `k` arguments and prints them as `$m, $m, …`. -/
theorem sprintfD_placeholders (rest : List Char) (ns : List Nat) :
    ∀ ms : List Nat, sprintfD (placeholdersFormat ms.length ++ rest) (ms ++ ns) =
      placeholdersText ms ++ sprintfD rest ns
  | [] => rfl
  | [m] => by simp [placeholdersFormat, placeholdersText, sprintfD]
  | m :: m' :: ms => by
    have ih := sprintfD_placeholders rest ns (m' :: ms)
    simp only [List.length_cons, List.cons_append] at ih ⊢
    simp [placeholdersFormat, placeholdersText, sprintfD, ih]

/-! ## Reading a `VALUES` list -/

/-- Where `readTuples` stands in a list of placeholder tuples. -/
inductive Lex where
  /-- before the `(` of a tuple -/
  | opening
  /-- before the `$` of a placeholder -/
  | dollar
  /-- in the number of a placeholder: its value so far, and whether it has a digit -/
  | number (m : Nat) (started : Bool)
  /-- after the `,` between two placeholders of a tuple -/
  | blank
  /-- after the `)` of a tuple -/
  | close

/-- How PostgreSQL reads a `VALUES` list whose entries are all placeholders, as the statements
write it: tuples `($m, $m, …)` separated by `,`, ending at the first character after a `)` that
is not a comma. The result is the placeholder numbers of each tuple, in order. -/
def readTuples : Lex → List Nat → List (List Nat) → List Char → Option (List (List Nat))
  | .opening, _, ts, c :: cs => if c = '(' then readTuples .dollar [] ts cs else none
  | .dollar, t, ts, c :: cs => if c = '$' then readTuples (.number 0 false) t ts cs else none
  | .number m s, t, ts, c :: cs =>
    if isDigit c then readTuples (.number (digitStep m c) true) t ts cs
    else if s ∧ c = ',' then readTuples .blank (t ++ [m]) ts cs
    else if s ∧ c = ')' then readTuples .close [] (ts ++ [t ++ [m]]) cs
    else none
  | .blank, t, ts, c :: cs => if c = ' ' then readTuples .dollar t ts cs else none
  | .close, _, ts, c :: cs => if c = ',' then readTuples .opening [] ts cs else some ts
  | .close, _, ts, [] => some ts
  | _, _, _, [] => none

/-- Reading the digits of a placeholder accumulates its number. -/
theorem readTuples_digits (t : List Nat) (ts : List (List Nat)) (rest : List Char) :
    ∀ (ds : List Char) (m : Nat) (s : Bool), (∀ d ∈ ds, isDigit d = true) →
      readTuples (.number m s) t ts (ds ++ rest) =
        readTuples (.number (ds.foldl digitStep m) (s || !ds.isEmpty)) t ts rest
  | [], m, s, _ => by simp
  | d :: ds, m, s, h => by
    rw [List.cons_append, readTuples, if_pos (h d (List.mem_cons_self _ _)),
      readTuples_digits t ts rest ds _ _ fun d hd => h d (List.mem_cons_of_mem _ hd)]
    simp

/-! ## The printed tuples read back -/

/-- The text of a tuple of placeholders, `($m, $m, …)`. -/
def tupleText (ms : List Nat) : List Char := '(' :: placeholdersText ms ++ [')']

/-- A placeholder reads as its number, up to the character after its digits. -/
theorem readTuples_placeholder (t : List Nat) (ts : List (List Nat)) (m : Nat) {c : Char}
    (rest : List Char) :
    readTuples .dollar t ts ('$' :: (Nat.toDigits 10 m ++ c :: rest)) =
      readTuples (.number m true) t ts (c :: rest) := by
  have hne := toDigits_ne_nil m
  rw [Nat.toDigits] at hne ⊢
  rw [readTuples, if_pos rfl, readTuples_digits t ts _ _ _ _ (toDigitsCore_isDigit _ _),
    toDigitsCore_value _ _ (Nat.lt_succ_self m)]
  cases hl : Nat.toDigitsCore 10 (m + 1) m [] with
  | nil => exact absurd hl hne
  | cons => rfl

/-- Reading the placeholders of a tuple and its `)` adds the tuple. -/
theorem readTuples_placeholders (ts : List (List Nat)) (rest : List Char) :
    ∀ (t : List Nat) (m : Nat) (ms : List Nat),
      readTuples .dollar t ts (placeholdersText (m :: ms) ++ ')' :: rest) =
        readTuples .close [] (ts ++ [t ++ m :: ms]) rest
  | t, m, [] => by
    rw [placeholdersText, List.cons_append, readTuples_placeholder (c := ')')]
    simp [readTuples, isDigit]
  | t, m, m' :: ms => by
    simp only [placeholdersText, List.cons_append, List.append_assoc]
    rw [readTuples_placeholder (c := ',')]
    simp only [readTuples, isDigit, readTuples_placeholders ts rest (t ++ [m]) m' ms]
    simp

/-- After a `)` that no comma follows, the list ends. -/
theorem readTuples_close (ts : List (List Nat)) :
    ∀ rest : List Char, rest.head? ≠ some ',' → readTuples .close [] ts rest = some ts
  | [], _ => rfl
  | c :: _, h => by
    simp only [readTuples]
    rw [if_neg fun hc => h (by rw [hc]; rfl)]

/-- The tuples `t :: T`, joined by commas and followed by a text that does not go on with a
comma, read back as themselves. -/
theorem readTuples_tuples {rest : List Char} (hrest : rest.head? ≠ some ',') :
    ∀ (ts : List (List Nat)) (t : List Nat) (T : List (List Nat)), t ≠ [] →
      (∀ u ∈ T, u ≠ []) →
      readTuples .opening [] ts
          (tupleText t ++ (T.map fun u => ',' :: tupleText u).flatten ++ rest) =
        some (ts ++ t :: T)
  | _, [], _, h, _ => absurd rfl h
  | ts, m :: ms, T, _, hT => by
    rw [tupleText]
    simp only [List.cons_append, List.append_assoc, List.singleton_append]
    rw [readTuples.eq_1, if_pos rfl, readTuples_placeholders, List.nil_append]
    cases T with
    | nil => exact readTuples_close _ _ hrest
    | cons u T =>
      simp only [List.nil_append, List.map_cons, List.flatten_cons, List.cons_append,
        List.append_assoc]
      rw [readTuples.eq_5, if_pos rfl, ← List.append_assoc,
        readTuples_tuples hrest _ u T (hT u (List.mem_cons_self _ _))
          fun v hv => hT v (List.mem_cons_of_mem _ hv)]
      simp

/-! ## The text of a statement -/

/-- The loop of `strings.Join` on characters: each string after the first behind the separator. -/
theorem intercalate_go_data (s : String) : ∀ (acc : String) (l : List String),
    (String.intercalate.go acc s l).data = acc.data ++ (l.map fun x => s.data ++ x.data).flatten
  | acc, [] => by simp [String.intercalate.go]
  | acc, x :: l => by simp [String.intercalate.go, intercalate_go_data s _ l]

/-- `strings.Join` of at least one string. -/
theorem intercalate_cons_data (s x : String) (l : List String) :
    (String.intercalate s (x :: l)).data = x.data ++ (l.map fun y => s.data ++ y.data).flatten :=
  intercalate_go_data s x l

/-- The text after the first occurrence of `pat`. -/
def afterFirst (pat : List Char) : List Char → Option (List Char)
  | [] => none
  | c :: cs =>
    if pat.isPrefixOf (c :: cs) then some ((c :: cs).drop pat.length) else afterFirst pat cs

/-- An occurrence of `pat` needs a text at least as long as `pat`. -/
theorem afterFirst_length {pat : List Char} :
    ∀ {xs rest : List Char}, afterFirst pat xs = some rest → pat.length ≤ xs.length
  | [], _, h => nomatch h
  | c :: cs, rest, h => by
    unfold afterFirst at h
    split_ifs at h with hp
    · exact (List.isPrefixOf_iff_prefix.1 hp).length_le
    · exact (afterFirst_length h).trans (Nat.le_succ _)

/-- An occurrence found in a text is the first one of the text with more after it. -/
theorem afterFirst_append {pat : List Char} (ys : List Char) :
    ∀ {xs rest : List Char}, afterFirst pat xs = some rest →
      afterFirst pat (xs ++ ys) = some (rest ++ ys)
  | [], _, h => nomatch h
  | c :: cs, rest, h => by
    unfold afterFirst at h
    rw [List.cons_append, afterFirst, ← List.cons_append]
    have hcc : c :: cs <+: c :: cs ++ ys := List.prefix_append _ _
    split_ifs at h with hp
    · cases h
      have hpre := List.isPrefixOf_iff_prefix.1 hp
      rw [if_pos (List.isPrefixOf_iff_prefix.2 (hpre.trans hcc)),
        List.drop_append_of_le_length hpre.length_le]
    · rw [if_neg fun hp' => hp (List.isPrefixOf_iff_prefix.2 (List.prefix_of_prefix_length_le
        (List.isPrefixOf_iff_prefix.1 hp') hcc ((afterFirst_length h).trans (Nat.le_succ _)))),
        afterFirst_append ys h]

/-- A prefix of characters satisfying `p` stops inside a text that holds a character failing `p`. -/
theorem takeWhile_append_of_mem {p : Char → Bool} {a : Char} (hpa : p a = false)
    {ys : List Char} :
    ∀ {xs : List Char}, a ∈ xs → (xs ++ ys).takeWhile p = xs.takeWhile p
  | x :: xs, ha => by
    rw [List.cons_append, List.takeWhile_cons, List.takeWhile_cons]
    rcases List.mem_cons.1 ha with rfl | ha
    · simp [hpa]
    · rw [takeWhile_append_of_mem hpa ha]

/-- The column list of an `INSERT`: the names between its first `(` and the `)` after it,
separated by commas and the spaces after them. -/
def declaredColumns (q : String) : List String :=
  match afterFirst ['('] q.data with
  | some rest =>
    (splitOnChar ',' (rest.takeWhile (· ≠ ')'))).map fun w => ⟨w.dropWhile (· = ' ')⟩
  | none => []

/-- A header that closes its column list declares the columns of every text it starts. -/
theorem declaredColumns_append {header : String}
    (h : (afterFirst ['('] header.data).map (·.contains ')') = some true) (ys : String) :
    declaredColumns (header ++ ys) = declaredColumns header := by
  obtain ⟨rest, hrest, hc⟩ := Option.map_eq_some'.1 h
  unfold declaredColumns
  rw [String.data_append, afterFirst_append _ hrest, hrest]
  dsimp only
  rw [takeWhile_append_of_mem (by simp) (List.elem_iff.1 hc)]

/-! ## Statements and their arguments -/

/-- A value of `valueArgs`, by the Go type the driver encodes. -/
inductive SqlArg where
  /-- a `uuid.UUID` -/
  | uuid (u : Uuid)
  /-- an `int` -/
  | int (n : Int)
  /-- a `bool` -/
  | bool (b : Bool)
  /-- a `string` -/
  | text (s : String)
  /-- a `time.Time` -/
  | time (t : Time)
  /-- a `json.RawMessage` -/
  | json (j : JVal)
  /-- a `*string` -/
  | optText (s : Option String)
  /-- a `*bool` -/
  | optBool (b : Option Bool)
  /-- a `*time.Time` -/
  | optTime (t : Option Time)

/-- A statement and the arguments `ExecContext` sends with it. -/
structure Statement where
  /-- The text of the statement. -/
  query : String
  /-- The arguments of its placeholders, in order. -/
  args : List SqlArg

/-- The placeholder tuples of the `VALUES` list of a statement. -/
def tuplesOf (q : String) : Option (List (List Nat)) :=
  (afterFirst "VALUES ".data q.data).bind (readTuples .opening [] [])

/-- What the tuples bind: `$m` stands for the `m`-th argument. -/
def bindTuples (args : List SqlArg) (tuples : List (List Nat)) : List (List (Option SqlArg)) :=
  tuples.map (·.map fun m => args[m - 1]?)

/-- A statement binds rows of `k` columns whose values `column` reads by name: its `VALUES` list
has one tuple per row, tuple `i` holding the placeholders `k * i + 1` to `k * i + k` in order; it
declares `k` columns and sends `k` arguments a row; and the argument of the `j`-th placeholder of
tuple `i` is row `i`'s value of the `j`-th declared column. -/
structure Statement.Binds {R : Type} (st : Statement) (k : Nat)
    (column : R → String → Option SqlArg) (rows : List R) : Prop where
  /-- One tuple per row, of the placeholders of its place. -/
  tuples : tuplesOf st.query =
    some ((List.range rows.length).map fun i => (List.range k).map (k * i + · + 1))
  /-- `k` columns are declared. -/
  length_columns : (declaredColumns st.query).length = k
  /-- `k` arguments a row are sent. -/
  length_args : st.args.length = k * rows.length
  /-- Each placeholder stands for its row's value of its column. -/
  arg_eq : ∀ i j, i < rows.length → j < k →
    st.args[k * i + j]? = rows[i]?.bind fun r => (declaredColumns st.query)[j]?.bind (column r)

/-- Every row's values bind to its own tuple, in the declared column order. -/
theorem Statement.Binds.bound {R : Type} {st : Statement} {k : Nat}
    {column : R → String → Option SqlArg} {rows : List R} (h : st.Binds k column rows) :
    (tuplesOf st.query).map (bindTuples st.args) =
      some (rows.map fun r => (declaredColumns st.query).map (column r)) := by
  rw [h.tuples, Option.map_some', Option.some.injEq, bindTuples]
  refine List.ext_getElem (by simp) fun i hi hi' => List.ext_getElem (by simp [h.length_columns])
    fun j hj hj' => ?_
  simp only [List.length_map, List.length_range] at hi hj
  simp only [List.length_map, List.length_range, List.getElem_map, List.getElem_range] at hj ⊢
  rw [Nat.add_sub_cancel, h.arg_eq i j hi hj, List.getElem?_eq_getElem hi, Option.some_bind,
    List.getElem?_eq_getElem (h.length_columns ▸ hj), Option.some_bind]

/-! ## The batch loop -/

/-- A multi-row `INSERT` of rows `R`, as `CreateStaging*` and `CreateBatch` build it: the text of
the statement template before and after its `%s`, and the loop's tuple format, its placeholder
numbers from `base`, and the values it appends for a row. -/
structure BatchInsert (R : Type) where
  /-- The template before its `%s`. -/
  header : String
  /-- The template after its `%s`. -/
  trailer : String
  /-- The tuple format of the loop. -/
  format : String
  /-- The placeholders of a tuple. -/
  width : Nat
  /-- The placeholder numbers of a tuple, from its `base`. -/
  placeholders : Nat → List Nat
  /-- The values appended for a row. -/
  values : R → List SqlArg

namespace BatchInsert

variable {R : Type} (b : BatchInsert R)

/-- The loop over the rows: row `i` appends the tuple `format` prints for `base = i * width`,
and its values. -/
def loop : Nat → List R → List String × List SqlArg → List String × List SqlArg
  | _, [], acc => acc
  | i, r :: rs, (valueStrings, valueArgs) =>
    let base := i * b.width
    loop (i + 1) rs
      (valueStrings ++ [⟨sprintfD b.format.data (b.placeholders base)⟩],
        valueArgs ++ b.values r)

/-- The statement: the template with the tuples joined by `,` in place of its `%s`, and the
values. -/
def statement (rows : List R) : Statement :=
  let (valueStrings, valueArgs) := b.loop 0 rows ([], [])
  ⟨b.header ++ String.intercalate "," valueStrings ++ b.trailer, valueArgs⟩

/-- The batch loop from row `i`: the tuple of each row, numbered from its place, and the values of
the rows in order. -/
theorem loop_eq :
    ∀ (i : Nat) (rows : List R) (valueStrings : List String) (valueArgs : List SqlArg),
    b.loop i rows (valueStrings, valueArgs) =
      (valueStrings ++ (List.range rows.length).map fun j =>
          ⟨sprintfD b.format.data (b.placeholders ((i + j) * b.width))⟩,
        valueArgs ++ (rows.map b.values).flatten)
  | _, [], _, _ => by simp [loop]
  | i, r :: rs, vs, as => by
    rw [loop, loop_eq, List.length_cons, List.range_succ_eq_map]
    simp [Nat.add_assoc, Nat.add_comm 1]

/-- What makes a batch insert bind its rows: the format prints `width` placeholders and the loop
numbers them from `base + 1`; the template declares the columns `cols` and puts the tuples right
after its `VALUES `, with nothing after them that goes on with a comma; and a row's values are its
values of the declared columns, in order. -/
structure Shaped (cols : List String) (column : R → String → Option SqlArg) : Prop where
  /-- A tuple has a placeholder. -/
  width_pos : 0 < b.width
  /-- The format prints a tuple of `width` placeholders. -/
  format_eq : b.format.data = '(' :: placeholdersFormat b.width ++ [')']
  /-- The loop numbers them from `base + 1`. -/
  placeholders_eq : ∀ base, b.placeholders base = (List.range b.width).map (base + · + 1)
  /-- The header ends at its first `VALUES `. -/
  header_values : afterFirst "VALUES ".data b.header.data = some []
  /-- The template closes its column list. -/
  header_closed : (afterFirst ['('] b.header.data).map (·.contains ')') = some true
  /-- The template declares the columns `cols`. -/
  header_columns : declaredColumns b.header = cols
  /-- Nothing after the tuples goes on with a comma. -/
  trailer_head : b.trailer.data.head?.any (· == ',') = false
  /-- A column per placeholder. -/
  length_cols : cols.length = b.width
  /-- A row's values are its values of the declared columns. -/
  values_eq : ∀ r, cols.map (column r) = (b.values r).map some

end BatchInsert

/-! ## A batch insert binds its rows -/

/-- The tuple format prints the text of the tuple. -/
theorem sprintfD_tuple (ms : List Nat) :
    sprintfD ('(' :: placeholdersFormat ms.length ++ [')']) ms = tupleText ms := by
  have h := sprintfD_placeholders [')'] [] ms
  rw [List.append_nil] at h
  rw [List.cons_append, sprintfD_cons (by decide), h]
  rfl

/-- Rows of `k` entries each, flattened, make `k` entries a row. -/
theorem length_flatten_map {α β : Type} (f : α → List β) {k : Nat}
    (hf : ∀ a, (f a).length = k) :
    ∀ xs : List α, ((xs.map f).flatten).length = k * xs.length
  | [] => rfl
  | x :: xs => by
    rw [List.map_cons, List.flatten_cons, List.length_append, hf, length_flatten_map f hf xs,
      List.length_cons, Nat.mul_succ, Nat.add_comm]

/-- In a flattened list of rows of `k` entries, entry `j` of row `i` sits at `k * i + j`. -/
theorem getElem?_flatten_map {α β : Type} (f : α → List β) {k : Nat}
    (hf : ∀ a, (f a).length = k) : ∀ (xs : List α) (i j : Nat), j < k →
      ((xs.map f).flatten)[k * i + j]? = xs[i]?.bind fun a => (f a)[j]?
  | [], _, _, _ => rfl
  | x :: xs, 0, j, hj => by
    rw [List.map_cons, List.flatten_cons, Nat.mul_zero, Nat.zero_add,
      List.getElem?_append_left (by rw [hf]; exact hj), List.getElem?_cons_zero, Option.some_bind]
  | x :: xs, i + 1, j, hj => by
    rw [List.map_cons, List.flatten_cons,
      List.getElem?_append_right (by rw [hf, Nat.mul_succ]; omega),
      hf, show k * (i + 1) + j - k = k * i + j by rw [Nat.mul_succ]; omega,
      getElem?_flatten_map f hf xs i j hj, List.getElem?_cons_succ]

/-- When `p.map f` is `o` with each value wrapped, `o` is `p.bind f`. -/
theorem eq_bind_of_map_eq {α β : Type} {f : α → Option β} :
    ∀ {p : Option α} {o : Option β}, p.map f = o.map some → o = p.bind f
  | none, none, _ => rfl
  | some _, some _, h => by
    simp only [Option.map_some', Option.some.injEq] at h
    rw [Option.some_bind, h]
  | some _, none, h => nomatch h
  | none, some _, h => nomatch h

namespace BatchInsert

variable {R : Type} {b : BatchInsert R} {cols : List String}
  {column : R → String → Option SqlArg}

/-- A shaped batch insert declares its columns, whatever its rows. -/
theorem Shaped.columns (h : b.Shaped cols column) (rows : List R) :
    declaredColumns (b.statement rows).query = cols := by
  rw [statement, loop_eq]
  dsimp only
  rw [String.append_assoc, declaredColumns_append h.header_closed, h.header_columns]

/-- A shaped batch insert of at least one row binds every row's values to its own tuple, in the
declared column order. -/
theorem Shaped.binds (h : b.Shaped cols column) {rows : List R} (hrows : rows ≠ []) :
    (b.statement rows).Binds b.width column rows := by
  have hvals : ∀ r, (b.values r).length = b.width := fun r => by
    simpa [h.length_cols] using (congrArg List.length (h.values_eq r)).symm
  set T := (List.range rows.length).map fun i => (List.range b.width).map (b.width * i + · + 1)
  have hstrings : (List.range rows.length).map (fun j =>
      (⟨sprintfD b.format.data (b.placeholders ((0 + j) * b.width))⟩ : String)) =
      T.map fun t => ⟨tupleText t⟩ := by
    simp only [T, List.map_map, Function.comp_def, Nat.zero_add, h.format_eq, h.placeholders_eq]
    congr 1
    funext i
    rw [← sprintfD_tuple, List.length_map, List.length_range, Nat.mul_comm]
  have hquery : (b.statement rows).query =
      b.header ++ (String.intercalate "," (T.map fun t => ⟨tupleText t⟩) ++ b.trailer) := by
    rw [statement, loop_eq]
    dsimp only
    rw [List.nil_append, hstrings, String.append_assoc]
  have hargs : (b.statement rows).args = (rows.map b.values).flatten := by
    rw [statement, loop_eq]
    rfl
  have hcols := h.columns rows
  obtain ⟨t, T', hT⟩ := List.exists_cons_of_ne_nil (by simpa [T] using hrows : T ≠ [])
  have hne : ∀ u ∈ T, u ≠ [] := fun u hu => by
    obtain ⟨i, -, rfl⟩ := List.mem_map.1 hu
    exact List.ne_nil_of_length_pos (by simpa using h.width_pos)
  refine ⟨?_, by rw [hcols, h.length_cols], by rw [hargs, length_flatten_map _ hvals], ?_⟩
  · rw [tuplesOf, hquery, String.data_append, afterFirst_append _ h.header_values, List.nil_append,
      Option.some_bind, String.data_append, hT, List.map_cons, intercalate_cons_data, List.map_map]
    have htrailer : b.trailer.data.head? ≠ some ',' := fun h' => by
      simpa [h'] using h.trailer_head
    exact (readTuples_tuples htrailer [] t T' (hne t (hT ▸ List.mem_cons_self _ _))
      fun u hu => hne u (hT ▸ List.mem_cons_of_mem _ hu)).trans (by rw [List.nil_append, ← hT])
  · intro i j hi hj
    rw [hargs, getElem?_flatten_map _ hvals _ _ _ hj, hcols]
    congr 1
    funext r
    exact eq_bind_of_map_eq (by rw [← List.getElem?_map, h.values_eq, List.getElem?_map])

/-- What the statement of a shaped batch insert binds: row by row, the rows' values of the
declared columns. -/
theorem Shaped.bound (h : b.Shaped cols column) {rows : List R} (hrows : rows ≠ []) :
    (tuplesOf (b.statement rows).query).map (bindTuples (b.statement rows).args) =
      some (rows.map fun r => cols.map (column r)) := by
  rw [(h.binds hrows).bound, h.columns]

end BatchInsert

/-! ## The columns of a row, by their `db` tags -/

/-- The `db` tags `StagingUser`, `StagingArticle` and `StagingComment` share, and those of the
row's own columns, which `fieldColumn` reads. -/
def StagingRow.column {F : Type} (fieldColumn : F → String → Option SqlArg) (r : StagingRow F) :
    String → Option SqlArg
  | "staging_id" => some (.int r.stagingId)
  | "job_id" => some (.uuid r.jobId)
  | "row_number" => some (.int r.rowNumber)
  | "validation_error" => some (.optText r.validationError)
  | "is_valid" => some (.bool r.isValid)
  | "is_duplicate" => some (.bool r.isDuplicate)
  | "processed" => some (.bool r.processed)
  | c => fieldColumn r.fields c

/-- The `db` tags of the columns of `StagingUser` that `UserFields` holds. -/
def UserFields.column (f : UserFields) : String → Option SqlArg
  | "id" => some (.optText f.id)
  | "email" => some (.optText f.email)
  | "name" => some (.optText f.name)
  | "role" => some (.optText f.role)
  | "active" => some (.optBool f.active)
  | "created_at" => some (.optText f.createdAt)
  | "updated_at" => some (.optText f.updatedAt)
  | _ => none

/-- The `db` tags of the columns of `StagingArticle` that `ArticleFields` holds; `tags` is the
text `json.Marshal` wrote. -/
def ArticleFields.column (f : ArticleFields) : String → Option SqlArg
  | "id" => some (.optText f.id)
  | "slug" => some (.optText f.slug)
  | "title" => some (.optText f.title)
  | "body" => some (.optText f.body)
  | "author_id" => some (.optText f.authorId)
  | "tags" => some (.optText (f.tags.map fun ts => (strArray ts).text))
  | "published_at" => some (.optText f.publishedAt)
  | "status" => some (.optText f.status)
  | _ => none

/-- The `db` tags of the columns of `StagingComment` that `CommentFields` holds. -/
def CommentFields.column (f : CommentFields) : String → Option SqlArg
  | "id" => some (.optText f.id)
  | "article_id" => some (.optText f.articleId)
  | "user_id" => some (.optText f.userId)
  | "body" => some (.optText f.body)
  | "created_at" => some (.optText f.createdAt)
  | _ => none

/-- The `db` tags of `models.User`. -/
def User.column (u : User) : String → Option SqlArg
  | "id" => some (.uuid u.id)
  | "email" => some (.text u.email)
  | "name" => some (.text u.name)
  | "role" => some (.text u.role)
  | "active" => some (.bool u.active)
  | "created_at" => some (.time u.createdAt)
  | "updated_at" => some (.time u.updatedAt)
  | _ => none

/-- The `db` tags of `models.Article`. -/
def Article.column (a : Article) : String → Option SqlArg
  | "id" => some (.uuid a.id)
  | "slug" => some (.text a.slug)
  | "title" => some (.text a.title)
  | "body" => some (.text a.body)
  | "author_id" => some (.uuid a.authorId)
  | "tags" => some (.json a.tags)
  | "published_at" => some (.optTime a.publishedAt)
  | "status" => some (.text a.status)
  | "created_at" => some (.time a.createdAt)
  | "updated_at" => some (.time a.updatedAt)
  | _ => none

/-- The `db` tags of `models.Comment`. -/
def Comment.column (c : Comment) : String → Option SqlArg
  | "id" => some (.uuid c.id)
  | "article_id" => some (.uuid c.articleId)
  | "user_id" => some (.uuid c.userId)
  | "body" => some (.text c.body)
  | "created_at" => some (.time c.createdAt)
  | "updated_at" => some (.time c.updatedAt)
  | _ => none

/-! ## The six statements -/

namespace StagingRepository

/-- The statement of `CreateStagingUsers`, the job's id in every row. -/
def createStagingUsersInsert (jobID : Uuid) : BatchInsert (StagingRow UserFields) where
  header := "\n\t\tINSERT INTO staging_users (job_id, row_number, id, email, name, role, " ++
    "active, created_at, updated_at, validation_error, is_valid)\n\t\tVALUES "
  trailer := "\n\t"
  format := "($%d, $%d, $%d, $%d, $%d, $%d, $%d, $%d, $%d, $%d, $%d)"
  width := 11
  placeholders base := [base + 1, base + 2, base + 3, base + 4, base + 5, base + 6, base + 7,
    base + 8, base + 9, base + 10, base + 11]
  values user := [.uuid jobID, .int user.rowNumber, .optText user.fields.id,
    .optText user.fields.email, .optText user.fields.name, .optText user.fields.role,
    .optBool user.fields.active, .optText user.fields.createdAt, .optText user.fields.updatedAt,
    .optText user.validationError, .bool user.isValid]

/-- `CreateStagingUsers` binds its rows to the eleven columns of `staging_users`. -/
theorem createStagingUsersInsert_shaped (jobID : Uuid) :
    (createStagingUsersInsert jobID).Shaped ["job_id", "row_number", "id", "email", "name", "role",
      "active", "created_at", "updated_at", "validation_error", "is_valid"]
      fun r => StagingRow.column UserFields.column { r with jobId := jobID } where
  width_pos := Nat.succ_pos _
  format_eq := rfl
  placeholders_eq _ := rfl
  header_values := rfl
  header_closed := rfl
  header_columns := rfl
  trailer_head := rfl
  length_cols := rfl
  values_eq _ := rfl

/-- The statement of `CreateStagingArticles`, the job's id in every row. -/
def createStagingArticlesInsert (jobID : Uuid) : BatchInsert (StagingRow ArticleFields) where
  header := "\n\t\tINSERT INTO staging_articles (job_id, row_number, id, slug, title, body, " ++
    "author_id, tags, published_at, status, validation_error, is_valid)\n\t\tVALUES "
  trailer := "\n\t"
  format := "($%d, $%d, $%d, $%d, $%d, $%d, $%d, $%d, $%d, $%d, $%d, $%d)"
  width := 12
  placeholders base := [base + 1, base + 2, base + 3, base + 4, base + 5, base + 6, base + 7,
    base + 8, base + 9, base + 10, base + 11, base + 12]
  values article := [.uuid jobID, .int article.rowNumber, .optText article.fields.id,
    .optText article.fields.slug, .optText article.fields.title, .optText article.fields.body,
    .optText article.fields.authorId,
    .optText (article.fields.tags.map fun ts => (strArray ts).text),
    .optText article.fields.publishedAt, .optText article.fields.status,
    .optText article.validationError, .bool article.isValid]

/-- `CreateStagingArticles` binds its rows to the twelve columns of `staging_articles`. -/
theorem createStagingArticlesInsert_shaped (jobID : Uuid) :
    (createStagingArticlesInsert jobID).Shaped ["job_id", "row_number", "id", "slug", "title",
      "body", "author_id", "tags", "published_at", "status", "validation_error", "is_valid"]
      fun r => StagingRow.column ArticleFields.column { r with jobId := jobID } where
  width_pos := Nat.succ_pos _
  format_eq := rfl
  placeholders_eq _ := rfl
  header_values := rfl
  header_closed := rfl
  header_columns := rfl
  trailer_head := rfl
  length_cols := rfl
  values_eq _ := rfl

/-- The statement of `CreateStagingComments`, the job's id in every row. -/
def createStagingCommentsInsert (jobID : Uuid) : BatchInsert (StagingRow CommentFields) where
  header := "\n\t\tINSERT INTO staging_comments (job_id, row_number, id, article_id, user_id, " ++
    "body, created_at, validation_error, is_valid)\n\t\tVALUES "
  trailer := "\n\t"
  format := "($%d, $%d, $%d, $%d, $%d, $%d, $%d, $%d, $%d)"
  width := 9
  placeholders base := [base + 1, base + 2, base + 3, base + 4, base + 5, base + 6, base + 7,
    base + 8, base + 9]
  values comment := [.uuid jobID, .int comment.rowNumber, .optText comment.fields.id,
    .optText comment.fields.articleId, .optText comment.fields.userId,
    .optText comment.fields.body, .optText comment.fields.createdAt,
    .optText comment.validationError, .bool comment.isValid]

/-- `CreateStagingComments` binds its rows to the nine columns of `staging_comments`. -/
theorem createStagingCommentsInsert_shaped (jobID : Uuid) :
    (createStagingCommentsInsert jobID).Shaped ["job_id", "row_number", "id", "article_id",
      "user_id", "body", "created_at", "validation_error", "is_valid"]
      fun r => StagingRow.column CommentFields.column { r with jobId := jobID } where
  width_pos := Nat.succ_pos _
  format_eq := rfl
  placeholders_eq _ := rfl
  header_values := rfl
  header_closed := rfl
  header_columns := rfl
  trailer_head := rfl
  length_cols := rfl
  values_eq _ := rfl

end StagingRepository

namespace UserRepository

/-- The statement of `CreateBatch`, over the users as `fill` leaves them. -/
def createBatchInsert : BatchInsert User where
  header := "\n\t\tINSERT INTO users (id, email, name, role, active, created_at, updated_at)" ++
    "\n\t\tVALUES "
  trailer := "\n\t\tON CONFLICT (id) DO UPDATE SET\n\t\t\temail = EXCLUDED.email,\n\t\t\t" ++
    "name = EXCLUDED.name,\n\t\t\trole = EXCLUDED.role,\n\t\t\tactive = EXCLUDED.active," ++
    "\n\t\t\tupdated_at = EXCLUDED.updated_at\n\t"
  format := "($%d, $%d, $%d, $%d, $%d, $%d, $%d)"
  width := 7
  placeholders base := [base + 1, base + 2, base + 3, base + 4, base + 5, base + 6, base + 7]
  values user := [.uuid user.id, .text user.email, .text user.name, .text user.role,
    .bool user.active, .time user.createdAt, .time user.updatedAt]

/-- `CreateBatch` of users binds its rows to the seven columns of `users`. -/
theorem createBatchInsert_shaped :
    createBatchInsert.Shaped ["id", "email", "name", "role", "active", "created_at", "updated_at"]
      User.column where
  width_pos := Nat.succ_pos _
  format_eq := rfl
  placeholders_eq _ := rfl
  header_values := rfl
  header_closed := rfl
  header_columns := rfl
  trailer_head := rfl
  length_cols := rfl
  values_eq _ := rfl

end UserRepository

namespace ArticleRepository

/-- The statement of `CreateBatch`, over the articles as `fill` leaves them. -/
def createBatchInsert : BatchInsert Article where
  header := "\n\t\tINSERT INTO articles (id, slug, title, body, author_id, tags, published_at, " ++
    "status, created_at, updated_at)\n\t\tVALUES "
  trailer := "\n\t\tON CONFLICT (id) DO UPDATE SET\n\t\t\tslug = EXCLUDED.slug,\n\t\t\t" ++
    "title = EXCLUDED.title,\n\t\t\tbody = EXCLUDED.body,\n\t\t\t" ++
    "author_id = EXCLUDED.author_id,\n\t\t\ttags = EXCLUDED.tags,\n\t\t\t" ++
    "published_at = EXCLUDED.published_at,\n\t\t\tstatus = EXCLUDED.status,\n\t\t\t" ++
    "updated_at = EXCLUDED.updated_at\n\t"
  format := "($%d, $%d, $%d, $%d, $%d, $%d, $%d, $%d, $%d, $%d)"
  width := 10
  placeholders base := [base + 1, base + 2, base + 3, base + 4, base + 5, base + 6, base + 7,
    base + 8, base + 9, base + 10]
  values article := [.uuid article.id, .text article.slug, .text article.title,
    .text article.body, .uuid article.authorId, .json article.tags,
    .optTime article.publishedAt, .text article.status, .time article.createdAt,
    .time article.updatedAt]

/-- `CreateBatch` of articles binds its rows to the ten columns of `articles`. -/
theorem createBatchInsert_shaped :
    createBatchInsert.Shaped ["id", "slug", "title", "body", "author_id", "tags", "published_at",
      "status", "created_at", "updated_at"] Article.column where
  width_pos := Nat.succ_pos _
  format_eq := rfl
  placeholders_eq _ := rfl
  header_values := rfl
  header_closed := rfl
  header_columns := rfl
  trailer_head := rfl
  length_cols := rfl
  values_eq _ := rfl

end ArticleRepository

namespace CommentRepository

/-- The statement of `CreateBatch`, over the comments as `fill` leaves them. -/
def createBatchInsert : BatchInsert Comment where
  header := "\n\t\tINSERT INTO comments (id, article_id, user_id, body, created_at)\n\t\tVALUES "
  trailer := "\n\t\tON CONFLICT (id) DO UPDATE SET\n\t\t\tarticle_id = EXCLUDED.article_id," ++
    "\n\t\t\tuser_id = EXCLUDED.user_id,\n\t\t\tbody = EXCLUDED.body\n\t"
  format := "($%d, $%d, $%d, $%d, $%d)"
  width := 5
  placeholders base := [base + 1, base + 2, base + 3, base + 4, base + 5]
  values comment := [.uuid comment.id, .uuid comment.articleId, .uuid comment.userId,
    .text comment.body, .time comment.createdAt]

/-- `CreateBatch` of comments binds its rows to the five columns of `comments`. -/
theorem createBatchInsert_shaped :
    createBatchInsert.Shaped ["id", "article_id", "user_id", "body", "created_at"]
      Comment.column where
  width_pos := Nat.succ_pos _
  format_eq := rfl
  placeholders_eq _ := rfl
  header_values := rfl
  header_closed := rfl
  header_columns := rfl
  trailer_head := rfl
  length_cols := rfl
  values_eq _ := rfl

/-- Two comments: two tuples, the second numbered from `6`. -/
example (c : Comment) : (createBatchInsert.statement [c, c]).query =
    "\n\t\tINSERT INTO comments (id, article_id, user_id, body, created_at)\n\t\tVALUES " ++
      "($1, $2, $3, $4, $5),($6, $7, $8, $9, $10)" ++ createBatchInsert.trailer := rfl

end CommentRepository

/-- The six multi-row `INSERT`s bind every row: for at least one row, one tuple a row, tuple `i`
numbering its placeholders from `k * i + 1` in order, `k` arguments a row, and the argument of
placeholder `j` of tuple `i` row `i`'s value of the `j`-th declared column. -/
theorem insert_placeholders_match_args :
    (∀ (jobID : Uuid) (users : List (StagingRow UserFields)), users ≠ [] →
      ((StagingRepository.createStagingUsersInsert jobID).statement users).Binds 11
        (fun r => StagingRow.column UserFields.column { r with jobId := jobID }) users) ∧
    (∀ (jobID : Uuid) (articles : List (StagingRow ArticleFields)), articles ≠ [] →
      ((StagingRepository.createStagingArticlesInsert jobID).statement articles).Binds 12
        (fun r => StagingRow.column ArticleFields.column { r with jobId := jobID }) articles) ∧
    (∀ (jobID : Uuid) (comments : List (StagingRow CommentFields)), comments ≠ [] →
      ((StagingRepository.createStagingCommentsInsert jobID).statement comments).Binds 9
        (fun r => StagingRow.column CommentFields.column { r with jobId := jobID }) comments) ∧
    (∀ users : List User, users ≠ [] →
      (UserRepository.createBatchInsert.statement users).Binds 7 User.column users) ∧
    (∀ articles : List Article, articles ≠ [] →
      (ArticleRepository.createBatchInsert.statement articles).Binds 10 Article.column articles) ∧
    ∀ comments : List Comment, comments ≠ [] →
      (CommentRepository.createBatchInsert.statement comments).Binds 5 Comment.column comments :=
  ⟨fun jobID _ h => (StagingRepository.createStagingUsersInsert_shaped jobID).binds h,
    fun jobID _ h => (StagingRepository.createStagingArticlesInsert_shaped jobID).binds h,
    fun jobID _ h => (StagingRepository.createStagingCommentsInsert_shaped jobID).binds h,
    fun _ h => UserRepository.createBatchInsert_shaped.binds h,
    fun _ h => ArticleRepository.createBatchInsert_shaped.binds h,
    fun _ h => CommentRepository.createBatchInsert_shaped.binds h⟩

end BulkImport
