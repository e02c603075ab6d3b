import BulkImport.Basic.Text
import Mathlib.Data.String.Basic

/-!
# UUIDs, as `github.com/google/uuid` reads and writes them

The pipeline parses every id it receives with `uuid.Parse`, and the database compares ids as the
text `u.id::text`, the canonical lower-case form. `uuid.Parse` accepts four spellings of the same
UUID: the canonical `xxxxxxxx-xxxx-xxxx-xxxx-xxxxxxxxxxxx` in either case, the same behind an
`urn:uuid:` prefix, the same between any two one-byte characters (it never looks at the braces),
and the 32 digits without hyphens. `Uuid.parse` follows the library's case split on the length
in bytes.

A `Uuid` is its 32 hexadecimal digits, lower-cased; the structure carries that invariant.
`Uuid.parse_toText` is the round trip from the canonical text back to the UUID.
-/

namespace BulkImport

/-- A hexadecimal digit in either case, as the library's `xvalues` table accepts it. -/
def isHexDigit (c : Char) : Bool := isDigit c || ('a' ≤ c && c ≤ 'f') || ('A' ≤ c && c ≤ 'F')

/-- A lower-case hexadecimal digit, as `UUID.String` writes them. -/
def isLowerHex (c : Char) : Bool := isDigit c || ('a' ≤ c && c ≤ 'f')

/-- A UUID: its 16 bytes as 32 lower-case hexadecimal digits, two a byte, in order. -/
structure Uuid where
  /-- The digits, high nibble first. -/
  digits : List Char
  /-- Two digits for each of the 16 bytes. -/
  length_digits : digits.length = 32
  /-- Every digit is a lower-case hexadecimal digit. -/
  lowerHex : digits.all isLowerHex = true
  deriving DecidableEq

/-- The UUID whose digits these are, when they are 32 lower-case hexadecimal digits. -/
def Uuid.ofDigits? (ds : List Char) : Option Uuid :=
  if h : ds.length = 32 ∧ ds.all isLowerHex = true then some ⟨ds, h.1, h.2⟩ else none

/-- `uuid.Nil`, the all-zero UUID. -/
def Uuid.nil : Uuid := ⟨List.replicate 32 '0', by decide, by decide⟩

/-- The last `k` lower-case hexadecimal digits of `n`, high digit first. -/
def hexDigits (n : Nat) : Nat → List Char
  | 0 => []
  | k + 1 => hexDigits (n / 16) k ++ [Nat.digitChar (n % 16)]

/-- `uuid.New()`, drawn from the run's entropy: the `n`-th fresh UUID. The model only asks of it
that different draws give different UUIDs. -/
def Uuid.ofSeed (n : Nat) : Uuid := (Uuid.ofDigits? (hexDigits (n + 1) 32)).getD Uuid.nil

/-- `UUID.String`: the canonical `8-4-4-4-12` text, lower case. -/
def Uuid.toText (u : Uuid) : String :=
  ⟨u.digits.take 8 ++ '-' :: (u.digits.drop 8).take 4 ++ '-' :: (u.digits.drop 12).take 4 ++
    '-' :: (u.digits.drop 16).take 4 ++ '-' :: u.digits.drop 20⟩

/-- The positions of the four hyphens of the canonical form. -/
def hyphenPositions : List Nat := [8, 13, 18, 23]

/-- The first 36 characters in the canonical layout, hyphens at `hyphenPositions` and hexadecimal
digits elsewhere, give the 32 digits lower-cased; the library reads no further. -/
def parseDashed (cs : List Char) : Option Uuid :=
  if (List.range 36).all (fun i =>
      if i ∈ hyphenPositions then cs.get? i = some '-' else (cs.get? i).any isHexDigit) then
    Uuid.ofDigits? (((cs.take 36).filter (· ≠ '-')).map Char.toLower)
  else none

/-- 32 hexadecimal digits without hyphens give themselves, lower-cased. -/
def parsePlain (cs : List Char) : Option Uuid :=
  if cs.length = 32 ∧ cs.all isHexDigit = true then Uuid.ofDigits? (cs.map Char.toLower) else none

/-- `uuid.Parse`: the case split on the length in bytes, `36`, `36 + 9` (an `urn:uuid:` prefix in
either case), `36 + 2` (one byte on each side, never checked), and `32`. -/
def Uuid.parse (s : String) : Option Uuid :=
  let cs := s.data
  if s.utf8ByteSize = 36 then parseDashed cs
  else if s.utf8ByteSize = 45 then
    if (cs.take 9).map Char.toLower = "urn:uuid:".data then parseDashed (cs.drop 9) else none
  else if s.utf8ByteSize = 38 then
    match cs with
    | c :: rest => if isAscii c then parseDashed rest else none
    | [] => none
  else if s.utf8ByteSize = 32 then parsePlain cs
  else none

/-- `uuid.Parse` accepts the text: the validators' test. -/
def isUuid (s : String) : Bool := (Uuid.parse s).isSome

/-! ## The canonical text parses back -/

/-- A lower-case hexadecimal digit takes one byte in UTF-8. -/
theorem isLowerHex_utf8Size {c : Char} (h : isLowerHex c = true) : c.utf8Size = 1 := by
  simp only [isLowerHex, isDigit, Bool.or_eq_true, Bool.and_eq_true, decide_eq_true_eq,
    Char.le_def, UInt32.le_def, BitVec.le_def] at h
  simp only [Char.utf8Size, UInt32.le_def, BitVec.le_def]
  rcases h with ⟨h3, h4⟩ | ⟨h3, h4⟩ <;> simp at h3 h4 ⊢ <;> omega

/-- A lower-case hexadecimal digit is a hexadecimal digit. -/
theorem isLowerHex_isHexDigit {c : Char} (h : isLowerHex c = true) : isHexDigit c = true := by
  show (isLowerHex c || ('A' ≤ c && c ≤ 'F')) = true
  rw [h, Bool.true_or]

/-- A lower-case hexadecimal digit is not a hyphen. -/
theorem isLowerHex_ne_hyphen {c : Char} (h : isLowerHex c = true) : c ≠ '-' := by
  rintro rfl
  exact absurd h (by decide)

/-- A lower-case hexadecimal digit is its own lower case. -/
theorem isLowerHex_toLower {c : Char} (h : isLowerHex c = true) : c.toLower = c := by
  simp only [isLowerHex, isDigit, Bool.or_eq_true, Bool.and_eq_true, decide_eq_true_eq,
    Char.le_def, UInt32.le_def, BitVec.le_def] at h
  simp only [Char.toLower, Char.toNat, UInt32.toNat]
  split_ifs
  · rcases h with ⟨h3, h4⟩ | ⟨h3, h4⟩ <;> simp at h3 h4 <;> omega
  · rfl

/-- What the layout check of `parseDashed` and the byte count read of a character: whether it is
a hyphen, whether it is a hexadecimal digit, and its width in UTF-8. -/
def charShape (c : Char) : Bool × Bool × Nat := (c == '-', isHexDigit c, c.utf8Size)

/-- The 32 digits of an id are hexadecimal digits of one byte, none a hyphen. -/
theorem Uuid.digits_shape (u : Uuid) :
    u.digits.map charShape = List.replicate 32 (false, true, 1) := by
  refine List.eq_replicate_iff.2 ⟨by rw [List.length_map, u.length_digits], fun b hb => ?_⟩
  obtain ⟨c, hc, rfl⟩ := List.mem_map.1 hb
  have h := List.all_eq_true.1 u.lowerHex c hc
  simp [charShape, isLowerHex_ne_hyphen h, isLowerHex_isHexDigit h, isLowerHex_utf8Size h]

/-- All canonical texts have one shape, that of `uuid.Nil`'s. -/
theorem Uuid.toText_shape (u v : Uuid) :
    u.toText.data.map charShape = v.toText.data.map charShape := by
  simp only [Uuid.toText, List.map_append, List.map_cons, List.map_take, List.map_drop,
    u.digits_shape, v.digits_shape]

/-- Texts of the same shape, character by character, have the same length in bytes. -/
theorem utf8Len_of_shape : ∀ {cs cs' : List Char}, cs.map charShape = cs'.map charShape →
    String.utf8Len cs = String.utf8Len cs'
  | [], [], _ => rfl
  | c :: cs, c' :: cs', h => by
    simp only [List.map_cons, List.cons.injEq, charShape, Prod.mk.injEq] at h
    simp only [String.utf8Len_cons, h.1.2.2, utf8Len_of_shape h.2]

/-- Texts of one shape pass or fail the layout check of `parseDashed` together. -/
theorem layout_of_shape {cs cs' : List Char} (h : cs.map charShape = cs'.map charShape) :
    (List.range 36).all (fun i =>
      if i ∈ hyphenPositions then cs.get? i = some '-' else (cs.get? i).any isHexDigit) =
    (List.range 36).all (fun i =>
      if i ∈ hyphenPositions then cs'.get? i = some '-' else (cs'.get? i).any isHexDigit) := by
  congr 1
  funext i
  have hi := congrArg (·[i]?) h
  simp only [List.getElem?_map, List.get?_eq_getElem?] at hi ⊢
  rcases hc : cs[i]? with _ | c <;> rcases hc' : cs'[i]? with _ | c' <;>
    simp only [hc, hc', Option.map, Option.some.injEq, reduceCtorEq] at hi ⊢
  simp only [charShape, Prod.mk.injEq, beq_eq_beq] at hi
  simp only [Option.any, hi.1, hi.2.1]

/-- Dropping the hyphens of the canonical text gives the digits back. -/
theorem Uuid.toText_filter (u : Uuid) : u.toText.data.filter (· ≠ '-') = u.digits := by
  have hne : ∀ l : List Char, l ⊆ u.digits → l.filter (· ≠ '-') = l := fun l hl =>
    List.filter_eq_self.2 fun c hc =>
      decide_eq_true (isLowerHex_ne_hyphen (List.all_eq_true.1 u.lowerHex c (hl hc)))
  have hblock : ∀ n m k, n + m = k →
      (u.digits.drop n).take m ++ u.digits.drop k = u.digits.drop n :=
    fun n m k h => h ▸ (List.drop_drop m n u.digits) ▸ List.take_append_drop _ _
  simp only [Uuid.toText, List.filter_append, List.filter_cons, hne _ (List.take_subset _ _),
    hne _ ((List.take_subset _ _).trans (List.drop_subset _ _)), hne _ (List.drop_subset _ _),
    ne_eq, not_true_eq_false, decide_False, Bool.false_eq_true, ↓reduceIte, List.append_assoc]
  rw [hblock 16 4 20 rfl, hblock 12 4 16 rfl, hblock 8 4 12 rfl, List.take_append_drop]

/-- The digits of an id are in lower case. -/
theorem Uuid.digits_toLower (u : Uuid) : u.digits.map Char.toLower = u.digits :=
  (List.map_congr_left fun c hc => isLowerHex_toLower (List.all_eq_true.1 u.lowerHex c hc)).trans
    (List.map_id _)

/-- `uuid.Parse` reads the canonical text `UUID.String` writes back to the same UUID: the text
has the shape of `uuid.Nil`'s, 36 one-byte characters with the hyphens in place, and its digits
are already lower case. -/
theorem Uuid.parse_toText (u : Uuid) : Uuid.parse u.toText = some u := by
  have hshape := u.toText_shape Uuid.nil
  have hsize : u.toText.utf8ByteSize = 36 := (utf8Len_of_shape hshape).trans (by decide)
  have hlen : u.toText.data.length = 36 := by simpa using congrArg List.length hshape
  have hcheck := (layout_of_shape hshape).trans (by decide : _ = true)
  simp only [Uuid.parse, hsize, parseDashed, hcheck, List.take_of_length_le hlen.le,
    u.toText_filter, u.digits_toLower, ↓reduceIte]
  exact dif_pos ⟨u.length_digits, u.lowerHex⟩

example : Uuid.parse "16b0c588-6f4b-4812-8fea-a39692850695" =
    Uuid.parse "{16B0C588-6F4B-4812-8FEA-A39692850695}" := by decide

end BulkImport
