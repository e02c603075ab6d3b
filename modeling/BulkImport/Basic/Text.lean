import Mathlib.Data.List.Basic
import Mathlib.Data.List.DropRight
import Mathlib.Data.Nat.Digits

/-!
# The Go string primitives that the pipeline uses

The import pipeline normalises fields with `strings.TrimSpace`, `strings.ToLower`,
`strings.ReplaceAll` and `strings.Split`, measures them with `len`, and the database measures them
again in characters for its `VARCHAR(n)` columns. This module gives those functions on the
characters of a `String`, by structural recursion on the list, so that the model evaluates under
`decide` and `rfl`.

The decimal text of a number, `Nat.toDigits` (what `fmt`'s `%d`, `strconv.Itoa` and the
time layouts print), reads back as the number (`toDigitsCore_value`).

`toLower` lowers the ASCII letters only: the model does not carry Unicode's case tables, so the
theorems that depend on lowering are stated for whatever this function computes.
-/

namespace BulkImport

/-- `unicode.IsSpace`: the Latin-1 spaces, and the other characters with Unicode's `White_Space`
property. -/
def isSpace (c : Char) : Bool :=
  c == ' ' || c == '\t' || c == '\n' || c == '\x0b' || c == '\x0c' || c == '\r' ||
    c == '\x85' || c == '\xa0' || c == '\u1680' || ('\u2000' ≤ c && c ≤ '\u200a') ||
    c == '\u2028' || c == '\u2029' || c == '\u202f' || c == '\u205f' || c == '\u3000'

/-- `strings.TrimSpace`: the string without its leading and trailing spaces. -/
def trimSpace (s : String) : String :=
  ⟨((s.data.dropWhile isSpace).reverse.dropWhile isSpace).reverse⟩

/-- `strings.ToLower`, on the ASCII letters. -/
def toLower (s : String) : String := ⟨s.data.map Char.toLower⟩

/-- `strings.ReplaceAll(s, " ", "-")`, the slug normalisation of `processArticle`. -/
def spacesToHyphens (s : String) : String :=
  ⟨s.data.map fun c => if c = ' ' then '-' else c⟩

/-- The pieces of a character list between the separators, as `strings.Split` cuts them: one
more piece than there are separators. -/
def splitOnChar (sep : Char) : List Char → List (List Char)
  | [] => [[]]
  | c :: cs =>
    if c = sep then [] :: splitOnChar sep cs
    else
      match splitOnChar sep cs with
      | [] => [[c]]
      | w :: ws => (c :: w) :: ws

/-- `strings.Split(s, ",")`. -/
def splitComma (s : String) : List String := (splitOnChar ',' s.data).map String.mk

/-- An ASCII decimal digit. -/
def isDigit (c : Char) : Bool := '0' ≤ c && c ≤ '9'

/-- An ASCII letter. -/
def isAsciiLetter (c : Char) : Bool := ('a' ≤ c && c ≤ 'z') || ('A' ≤ c && c ≤ 'Z')

/-- An ASCII character, one byte in UTF-8. -/
def isAscii (c : Char) : Bool := c.toNat < 128

/-- A `VARCHAR(n)` column accepts the text: at most `n` characters, and no NUL character, which
PostgreSQL refuses in every text value. -/
def fitsVarchar (n : Nat) (s : String) : Bool := s.length ≤ n && !s.data.contains '\x00'

/-- A `TEXT` column accepts the text: it has no NUL character. -/
def fitsText (s : String) : Bool := !s.data.contains '\x00'

/-- An optional text fits a `VARCHAR(n)` column; SQL `NULL` always does. -/
def fitsVarcharOpt (n : Nat) : Option String → Bool
  | none => true
  | some s => fitsVarchar n s

/-- An optional text fits a `TEXT` column. -/
def fitsTextOpt : Option String → Bool
  | none => true
  | some s => fitsText s

/-- A Go `int` value fits a PostgreSQL `INTEGER` column. -/
def fitsInt4 (n : Int) : Bool := -2147483648 ≤ n && n ≤ 2147483647

/-! ## Facts about the primitives -/

/-- Dropping a prefix of characters none of which satisfies `p` drops nothing. -/
theorem dropWhile_of_none {p : Char → Bool} : ∀ {cs : List Char}, (∀ c ∈ cs, p c = false) →
    cs.dropWhile p = cs
  | [], _ => rfl
  | c :: _, h => List.dropWhile_cons_of_neg (by simp [h c (List.mem_cons_self _ _)])

/-- A string with no space is its own `TrimSpace`. -/
theorem trimSpace_of_noSpace {s : String} (h : ∀ c ∈ s.data, isSpace c = false) :
    trimSpace s = s := by
  have hr : ∀ c ∈ s.data.reverse, isSpace c = false := fun c hc => h c (List.mem_reverse.mp hc)
  simp only [trimSpace, dropWhile_of_none h, dropWhile_of_none hr, List.reverse_reverse]

/-- Dropping the trailing spaces of a list that starts with no space leaves it starting with no
space. -/
theorem dropWhile_rdropWhile {p : Char → Bool} {m : List Char} (hm : m.dropWhile p = m) :
    (m.rdropWhile p).dropWhile p = m.rdropWhile p := by
  rw [List.dropWhile_eq_self_iff] at hm ⊢
  intro hl
  have hpre := List.rdropWhile_prefix p m
  simp only [List.get_eq_getElem, hpre.getElem hl] at hm ⊢
  exact hm (lt_of_lt_of_le hl hpre.length_le)

/-- `TrimSpace` of a trimmed string changes nothing. -/
theorem trimSpace_trimSpace (s : String) : trimSpace (trimSpace s) = trimSpace s := by
  show String.mk (((s.data.dropWhile isSpace).rdropWhile isSpace).dropWhile isSpace |>.rdropWhile
    isSpace) = String.mk ((s.data.dropWhile isSpace).rdropWhile isSpace)
  rw [dropWhile_rdropWhile (List.dropWhile_idempotent _ _), List.rdropWhile_idempotent]

/-- Lowering a character neither makes nor unmakes a space. -/
theorem isSpace_toLower (c : Char) : isSpace c.toLower = isSpace c := by
  have upper : ∀ n < 91, 65 ≤ n →
      isSpace (Char.ofNat (n + 32)) = false ∧ isSpace (Char.ofNat n) = false := by decide
  simp only [Char.toLower]
  split_ifs with h
  · obtain ⟨h₁, h₂⟩ := upper c.toNat (by omega) h.1
    rw [Char.ofNat_toNat] at h₂
    rw [h₁, h₂]
  · rfl

/-- `ToLower` leaves a string alone when it leaves each of its characters alone. -/
theorem toLower_of_forall {s : String} (h : ∀ c ∈ s.data, c.toLower = c) : toLower s = s := by
  show String.mk (s.data.map Char.toLower) = String.mk s.data
  rw [List.map_congr_left h, List.map_id']

/-- The space-to-hyphen replace leaves a string without spaces alone. -/
theorem spacesToHyphens_of_forall {s : String} (h : ∀ c ∈ s.data, c ≠ ' ') :
    spacesToHyphens s = s := by
  show String.mk (s.data.map _) = String.mk s.data
  rw [List.map_congr_left fun c hc => if_neg (h c hc), List.map_id']

/-- Every character of a text is a separator or in one of the pieces `strings.Split` cuts. -/
theorem mem_splitOnChar {sep c : Char} :
    ∀ {cs : List Char}, c ∈ cs → c = sep ∨ ∃ p ∈ splitOnChar sep cs, c ∈ p
  | [], h => absurd h (List.not_mem_nil _)
  | d :: cs, h => by
    have ih : c ∈ cs → c = sep ∨ ∃ p ∈ splitOnChar sep cs, c ∈ p := mem_splitOnChar
    unfold splitOnChar
    split_ifs with hd
    · rcases List.mem_cons.mp h with rfl | h
      · exact .inl hd
      · exact (ih h).imp_right fun ⟨p, hp, hc⟩ => ⟨p, List.mem_cons_of_mem _ hp, hc⟩
    · rcases hs : splitOnChar sep cs with _ | ⟨w, ws⟩ <;> rcases List.mem_cons.mp h with rfl | h
      · exact .inr ⟨[c], List.mem_singleton_self _, List.mem_singleton_self _⟩
      · exact (ih h).imp_right fun ⟨p, hp, _⟩ => absurd (hs ▸ hp) (List.not_mem_nil _)
      · exact .inr ⟨c :: w, List.mem_cons_self _ _, List.mem_cons_self _ _⟩
      · refine (ih h).imp_right fun ⟨p, hp, hc⟩ => ?_
        rcases List.mem_cons.mp (hs ▸ hp) with rfl | hp
        · exact ⟨d :: p, List.mem_cons_self _ _, List.mem_cons_of_mem _ hc⟩
        · exact ⟨p, List.mem_cons_of_mem _ hp, hc⟩

/-- Joining with a separator, `strings.Join` on lists, puts the separator before every element but
the first. -/
theorem intercalate_cons_flatten {α : Type} (sep x : List α) :
    ∀ xs : List (List α), sep.intercalate (x :: xs) = x ++ (xs.map (sep ++ ·)).flatten
  | [] => by simp [List.intercalate]
  | y :: ys => by
    have ih := intercalate_cons_flatten sep y ys
    simp only [List.intercalate, List.intersperse_cons₂, List.flatten_cons] at ih ⊢
    simp [ih]

/-! ## Decimal text -/

/-- One digit more of a decimal number. -/
def digitStep (m : Nat) (c : Char) : Nat := 10 * m + (c.toNat - '0'.toNat)

/-- A decimal digit's character is a digit, and reads back as that digit. -/
theorem digitChar_digit : ∀ m < 10,
    isDigit (Nat.digitChar m) = true ∧ (Nat.digitChar m).toNat - '0'.toNat = m := by
  decide

/-- The digits `toDigitsCore` writes go in front of its accumulator. -/
theorem toDigitsCore_append : ∀ (fuel n : Nat) (ds : List Char),
    Nat.toDigitsCore 10 fuel n ds = Nat.toDigitsCore 10 fuel n [] ++ ds
  | 0, _, _ => rfl
  | fuel + 1, n, ds => by
    simp only [Nat.toDigitsCore]
    split_ifs
    · rfl
    · rw [toDigitsCore_append fuel _ (_ :: ds), toDigitsCore_append fuel _ [_], List.append_assoc,
        List.singleton_append]

/-- Every character `Nat.toDigits` writes is a decimal digit. -/
theorem toDigitsCore_isDigit : ∀ (fuel n : Nat), ∀ c ∈ Nat.toDigitsCore 10 fuel n [],
    isDigit c = true
  | 0, _, _, h => absurd h (List.not_mem_nil _)
  | fuel + 1, n, c, h => by
    have hd := (digitChar_digit (n % 10) (Nat.mod_lt _ (by decide))).1
    simp only [Nat.toDigitsCore] at h
    split_ifs at h
    · rw [List.mem_singleton.1 h]
      exact hd
    · rw [toDigitsCore_append, List.mem_append, List.mem_singleton] at h
      rcases h with h | rfl
      · exact toDigitsCore_isDigit fuel _ c h
      · exact hd

/-- The digits `Nat.toDigits` writes read back, left to right, as the number. -/
theorem toDigitsCore_value : ∀ (fuel n : Nat), n < fuel →
    (Nat.toDigitsCore 10 fuel n []).foldl digitStep 0 = n
  | 0, _, h => absurd h (Nat.not_lt_zero _)
  | fuel + 1, n, h => by
    have hd := (digitChar_digit (n % 10) (Nat.mod_lt _ (by decide))).2
    simp only [Nat.toDigitsCore]
    split_ifs with h0
    · simp only [List.foldl, digitStep, hd]
      omega
    · rw [toDigitsCore_append, List.foldl_append, toDigitsCore_value fuel _ (by omega)]
      simp only [List.foldl, digitStep, hd]
      omega

/-- `Nat.toDigits` writes at least one digit. -/
theorem toDigits_ne_nil (n : Nat) : Nat.toDigits 10 n ≠ [] := by
  simp only [Nat.toDigits, Nat.toDigitsCore]
  split_ifs
  · exact List.cons_ne_nil _ _
  · rw [toDigitsCore_append]
    exact List.append_ne_nil_of_right_ne_nil _ (List.cons_ne_nil _ _)

end BulkImport
