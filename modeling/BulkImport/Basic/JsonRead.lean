import BulkImport.Basic.Json

/-!
# The encoder's text read back

The exports write each record as the text `render` gives, and an export is read again as JSON
text: a client reads the JSON export as one array, and the import's NDJSON parser hands each line
to `json.Unmarshal`. This module states what a JSON text denotes, as RFC 8259 reads it and as
`encoding/json` decodes it into a syntax tree (`decodeJson`), and shows that the encoder's text of
every value whose number literals are JSON numbers denotes that value again
(`decodeJson_render`). The text holds no line break (`render_no_break`), so a record's line is
the record.

The reader follows the decoder's choices where RFC 8259 leaves them open: a `\u` escape of a
surrogate half that is not followed by its other half decodes as U+FFFD, and control characters
are refused inside strings. Number literals are kept as their text, as `JVal.num` keeps them.
The nesting of arrays and objects is bounded by a fuel, which `decodeJson` sets to the length of
the text.
-/

namespace BulkImport

/-! ## Strings -/

/-- JSON's insignificant whitespace. -/
def isJsonSpace (c : Char) : Bool := c = ' ' || c = '\t' || c = '\n' || c = '\r'

/-- The value of a hexadecimal digit, in either case. -/
def hexDigitValue (c : Char) : Option Nat :=
  if '0' ≤ c ∧ c ≤ '9' then some (c.toNat - '0'.toNat)
  else if 'a' ≤ c ∧ c ≤ 'f' then some (c.toNat - 'a'.toNat + 10)
  else if 'A' ≤ c ∧ c ≤ 'F' then some (c.toNat - 'A'.toNat + 10)
  else none

/-- The UTF-16 code unit of the four hexadecimal digits of a `\u` escape. -/
def hex4 (a b c d : Char) : Option Nat := do
  pure ((((← hexDigitValue a) * 16 + (← hexDigitValue b)) * 16 + (← hexDigitValue c)) * 16 +
    (← hexDigitValue d))

/-- A code unit decoded on its own: a surrogate half is U+FFFD. -/
def unitChar (n : Nat) : Char := if 0xD800 ≤ n ∧ n < 0xE000 then '�' else Char.ofNat n

/-- The character of a one-letter escape. -/
def simpleEscape (c : Char) : Option Char :=
  if c = '"' then some '"' else if c = '\\' then some '\\' else if c = '/' then some '/'
  else if c = 'b' then some '\x08' else if c = 'f' then some '\x0c'
  else if c = 'n' then some '\n' else if c = 'r' then some '\r' else if c = 't' then some '\t'
  else none

mutual
/-- The characters of a JSON string after its opening quote, and the text after its closing
quote. -/
def readStr : List Char → Option (List Char × List Char)
  | [] => none
  | c :: rest =>
    if c = '"' then some ([], rest)
    else if c = '\\' then readEscape rest
    else if c.toNat < 32 then none
    else (readStr rest).map fun (s, r) => (c :: s, r)

/-- The string after a backslash: a one-letter escape or a `\u` escape, then the rest. -/
def readEscape : List Char → Option (List Char × List Char)
  | [] => none
  | e :: tail =>
    if e = 'u' then readUnit tail
    else match simpleEscape e with
      | some x => (readStr tail).map fun (s, r) => (x :: s, r)
      | none => none

/-- The string after `\u`: four hexadecimal digits, then the rest. A high surrogate half may be
followed by the escape of its low half. -/
def readUnit : List Char → Option (List Char × List Char)
  | a :: b :: c :: d :: tail =>
    match hex4 a b c d with
    | none => none
    | some n =>
      if 0xD800 ≤ n ∧ n < 0xDC00 then readLow n ((readStr tail).map fun (s, r) => ('�' :: s, r)) tail
      else (readStr tail).map fun (s, r) => (unitChar n :: s, r)
  | _ => none

/-- The string after a high surrogate half `n`: the escape of a low half joins it into one
character; anything else leaves it alone, decoded as `lone`. -/
def readLow (n : Nat) (lone : Option (List Char × List Char)) :
    List Char → Option (List Char × List Char)
  | b :: u :: e :: f :: g :: h :: more =>
    if b = '\\' ∧ u = 'u' then
      match hex4 e f g h with
      | none => none
      | some m =>
        if 0xDC00 ≤ m ∧ m < 0xE000 then
          (readStr more).map fun (s, r) =>
            (Char.ofNat ((n - 0xD800) * 1024 + (m - 0xDC00) + 0x10000) :: s, r)
        else lone
    else lone
  | _ => lone
end

/-- The reader undoes the encoder's escape of a hexadecimal digit. -/
theorem hexDigitValue_digitChar : ∀ m < 16, hexDigitValue (Nat.digitChar m) = some m := by
  decide

/-- The four digits of a `\u` escape the encoder writes read as the code unit. -/
theorem hex4_unicodeEscape {n : Nat} (h : n < 65536) :
    hex4 (hexChar (n / 4096)) (hexChar (n / 256)) (hexChar (n / 16)) (hexChar n) = some n := by
  simp only [hex4, hexChar, hexDigitValue_digitChar _ (Nat.mod_lt _ (by decide : 16 > 0)),
    Option.pure_def, Option.bind_eq_bind, Option.some_bind]
  congr 1
  omega

/-- A closing quote ends the string. -/
theorem readStr_close (rest : List Char) : readStr ('"' :: rest) = some ([], rest) := by
  rw [readStr, if_pos rfl]

/-- A character other than a quote, a backslash or a control character stands for itself. -/
theorem readStr_plain {c : Char} (h1 : c ≠ '"') (h2 : c ≠ '\\') (h32 : ¬c.toNat < 32)
    (rest : List Char) : readStr (c :: rest) = (readStr rest).map fun (s, r) => (c :: s, r) := by
  rw [readStr, if_neg h1, if_neg h2, if_neg h32]

/-- A one-letter escape stands for its character. -/
theorem readStr_simple (e x : Char) (hu : e ≠ 'u') (hx : simpleEscape e = some x)
    (tail : List Char) :
    readStr ('\\' :: e :: tail) = (readStr tail).map fun (s, r) => (x :: s, r) := by
  rw [readStr, if_neg (by decide), if_pos rfl, readEscape, if_neg hu, hx]

/-- A `\u` escape of a code unit that is not a high surrogate half stands for that unit. -/
theorem readStr_unicode {a b c d : Char} {n : Nat} (hn : hex4 a b c d = some n)
    (hs : ¬(0xD800 ≤ n ∧ n < 0xDC00)) (tail : List Char) :
    readStr ('\\' :: 'u' :: a :: b :: c :: d :: tail) =
      (readStr tail).map fun (s, r) => (unitChar n :: s, r) := by
  rw [readStr, if_neg (by decide), if_pos rfl, readEscape, if_pos rfl, readUnit, hn]
  exact if_neg hs

/-- What the encoder writes for a character: a one-letter escape of it, a `\u` escape of a code
point below the surrogates, or the character itself, which is then no quote, backslash or control
character. -/
theorem escapeChar_cases (c : Char) :
    (∃ e, escapeChar c = ['\\', e] ∧ e ≠ 'u' ∧ e ≠ '\n' ∧ e ≠ '\r' ∧ simpleEscape e = some c) ∨
      (escapeChar c = unicodeEscape c.toNat ∧ c.toNat < 0xD800) ∨
      (escapeChar c = [c] ∧ c ≠ '"' ∧ c ≠ '\\' ∧ ¬c.toNat < 32) := by
  unfold escapeChar
  by_cases h1 : c = '"'
  · exact .inl ⟨'"', by rw [if_pos h1], by decide, by decide, by decide, by rw [h1]; rfl⟩
  rw [if_neg h1]
  by_cases h2 : c = '\\'
  · exact .inl ⟨'\\', by rw [if_pos h2], by decide, by decide, by decide, by rw [h2]; rfl⟩
  rw [if_neg h2]
  by_cases h3 : c = '\n'
  · exact .inl ⟨'n', by rw [if_pos h3], by decide, by decide, by decide, by rw [h3]; rfl⟩
  rw [if_neg h3]
  by_cases h4 : c = '\r'
  · exact .inl ⟨'r', by rw [if_pos h4], by decide, by decide, by decide, by rw [h4]; rfl⟩
  rw [if_neg h4]
  by_cases h5 : c = '\t'
  · exact .inl ⟨'t', by rw [if_pos h5], by decide, by decide, by decide, by rw [h5]; rfl⟩
  rw [if_neg h5]
  by_cases h6 : c = '\x08'
  · exact .inl ⟨'b', by rw [if_pos h6], by decide, by decide, by decide, by rw [h6]; rfl⟩
  rw [if_neg h6]
  by_cases h7 : c = '\x0c'
  · exact .inl ⟨'f', by rw [if_pos h7], by decide, by decide, by decide, by rw [h7]; rfl⟩
  rw [if_neg h7]
  by_cases h8 : (c.toNat < 32 || c = '<' || c = '>' || c = '&' || c = '\u2028' || c = '\u2029') = true
  · -- a control character, `<`, `>`, `&`, U+2028 or U+2029
    refine .inr (.inl ⟨if_pos h8, ?_⟩)
    simp only [Bool.or_eq_true, decide_eq_true_eq] at h8
    rcases h8 with (((((h | rfl) | rfl) | rfl) | rfl) | rfl) <;> first | omega | decide
  · exact .inr (.inr ⟨if_neg h8, h1, h2, fun h => h8 (by simp [h])⟩)

/-- Each character the encoder escapes, or writes as itself, reads back as that character. -/
theorem readStr_escapeChar (c : Char) (tail : List Char) :
    readStr (escapeChar c ++ tail) = (readStr tail).map fun (s, r) => (c :: s, r) := by
  rcases escapeChar_cases c with ⟨e, he, hu, -, -, hx⟩ | ⟨he, hn⟩ | ⟨he, h1, h2, h32⟩
  · rw [he]
    exact readStr_simple e c hu hx tail
  · rw [he, unicodeEscape]
    simp only [List.cons_append, List.nil_append]
    rw [readStr_unicode (hex4_unicodeEscape (by omega)) (by omega), unitChar, if_neg (by omega),
      Char.ofNat_toNat]
  · rw [he]
    exact readStr_plain h1 h2 h32 tail

/-- A string's text after its opening quote reads as its characters, up to the closing quote. -/
theorem readStr_quote (rest : List Char) : ∀ cs : List Char,
    readStr (cs.flatMap escapeChar ++ '"' :: rest) = some (cs, rest)
  | [] => readStr_close rest
  | c :: cs => by
    rw [List.flatMap_cons, List.append_assoc, readStr_escapeChar, readStr_quote rest cs]
    rfl

/-! ## Numbers -/

/-- A character a number literal can hold. -/
def isNumChar (c : Char) : Bool :=
  isDigit c || c = '-' || c = '+' || c = '.' || c = 'e' || c = 'E'

/-- The digits of an exponent, after its optional sign. -/
def dropSign : List Char → List Char
  | s :: ds => if s = '+' ∨ s = '-' then ds else s :: ds
  | [] => []

/-- A non-empty run of digits. -/
def jsonDigits (ds : List Char) : Bool := !ds.isEmpty && ds.all isDigit

/-- The exponent of a number, if any: `e` or `E`, an optional sign, and digits. -/
def jsonExponent : List Char → Bool
  | [] => true
  | e :: r => (e = 'e' || e = 'E') && jsonDigits (dropSign r)

/-- The fraction of a number, if any, and its exponent: a dot and digits. -/
def jsonFraction : List Char → Bool
  | [] => true
  | c :: r =>
    if c = '.' then !(r.takeWhile isDigit).isEmpty && jsonExponent (r.dropWhile isDigit)
    else jsonExponent (c :: r)

/-- A number without its sign: `0` or digits without a leading zero, then the fraction and the
exponent. -/
def jsonUnsigned : List Char → Bool
  | [] => false
  | d :: r => isDigit d && jsonFraction (if d = '0' then r else r.dropWhile isDigit)

/-- A JSON number literal: an optional minus, then the number without its sign. -/
def isJsonNumber : List Char → Bool
  | [] => false
  | c :: r => jsonUnsigned (if c = '-' then r else c :: r)

/-- The number at the start of a text: the longest run of number characters, when it is a JSON
number. -/
def readNumber (cs : List Char) : Option (JVal × List Char) :=
  let lit := cs.takeWhile isNumChar
  if isJsonNumber lit then some (.num ⟨lit⟩, cs.dropWhile isNumChar) else none

/-- A digit may stand in a number literal. -/
theorem isNumChar_of_isDigit {c : Char} (h : isDigit c = true) : isNumChar c = true := by
  simp [isNumChar, h]

/-- Digits after an optional sign are number characters. -/
theorem dropSign_numChars : ∀ {r : List Char}, (dropSign r).all isDigit = true →
    ∀ c ∈ r, isNumChar c = true
  | [], _, c, hc => absurd hc (List.not_mem_nil c)
  | s :: ds, h, c, hc => by
    rw [dropSign] at h
    split_ifs at h with hs
    · rcases List.mem_cons.1 hc with rfl | hc
      · rcases hs with rfl | rfl <;> rfl
      · exact isNumChar_of_isDigit (List.all_eq_true.1 h c hc)
    · exact isNumChar_of_isDigit (List.all_eq_true.1 h c hc)

/-- The exponent of a number holds number characters only. -/
theorem jsonExponent_numChars : ∀ {r : List Char}, jsonExponent r = true →
    ∀ c ∈ r, isNumChar c = true
  | [], _, c, hc => absurd hc (List.not_mem_nil c)
  | e :: r, h, c, hc => by
    simp only [jsonExponent, jsonDigits, Bool.and_eq_true, Bool.or_eq_true, decide_eq_true_eq] at h
    rcases List.mem_cons.1 hc with rfl | hc
    · rcases h.1 with rfl | rfl <;> rfl
    · exact dropSign_numChars h.2.2 c hc

/-- The fraction and exponent of a number hold number characters only. -/
theorem jsonFraction_numChars : ∀ {r : List Char}, jsonFraction r = true →
    ∀ c ∈ r, isNumChar c = true
  | [], _, c, hc => absurd hc (List.not_mem_nil c)
  | d :: r, h, c, hc => by
    rw [jsonFraction] at h
    split_ifs at h with hd
    · simp only [Bool.and_eq_true] at h
      rcases List.mem_cons.1 hc with rfl | hc
      · rw [hd]; rfl
      rw [← List.takeWhile_append_dropWhile isDigit r] at hc
      rcases List.mem_append.1 hc with hc | hc
      · exact isNumChar_of_isDigit (by simpa using List.mem_takeWhile_imp hc)
      · exact jsonExponent_numChars h.2 c hc
    · exact jsonExponent_numChars h c hc

/-- A number literal holds number characters only, and starts with a minus or a digit. -/
theorem isJsonNumber_spec : ∀ {cs : List Char}, isJsonNumber cs = true →
    (∀ c ∈ cs, isNumChar c = true) ∧ ∃ c r, cs = c :: r ∧ (c = '-' ∨ isDigit c = true)
  | [], h => absurd h (by decide)
  | c :: r, h => by
    have hu : ∀ {u : List Char}, jsonUnsigned u = true →
        (∀ c ∈ u, isNumChar c = true) ∧ ∃ d u', u = d :: u' ∧ isDigit d = true := by
      intro u hu
      match u, hu with
      | d :: u', hu =>
        simp only [jsonUnsigned, Bool.and_eq_true] at hu
        refine ⟨fun c hc => ?_, d, u', rfl, hu.1⟩
        rcases List.mem_cons.1 hc with rfl | hc
        · exact isNumChar_of_isDigit hu.1
        split_ifs at hu
        · exact jsonFraction_numChars hu.2 c hc
        · rw [← List.takeWhile_append_dropWhile isDigit u'] at hc
          rcases List.mem_append.1 hc with hc | hc
          · exact isNumChar_of_isDigit (by simpa using List.mem_takeWhile_imp hc)
          · exact jsonFraction_numChars hu.2 c hc
    rw [isJsonNumber] at h
    split_ifs at h with hc
    · subst c
      exact ⟨fun x hx => (List.mem_cons.1 hx).elim (fun h => h ▸ rfl) ((hu h).1 x),
        '-', r, rfl, .inl rfl⟩
    · obtain ⟨hall, d, u', he, hd⟩ := hu h
      obtain ⟨rfl, -⟩ := List.cons.inj he
      exact ⟨hall, c, r, rfl, Or.inr hd⟩

/-- A number literal reads as itself, up to a character that cannot continue it. -/
theorem readNumber_lit {cs : List Char} (h : isJsonNumber cs = true) {rest : List Char}
    (hrest : ∀ c ∈ rest.head?, isNumChar c = false) :
    readNumber (cs ++ rest) = some (.num ⟨cs⟩, rest) := by
  have hall := (isJsonNumber_spec h).1
  have ht : rest.takeWhile isNumChar = [] ∧ rest.dropWhile isNumChar = rest := by
    cases rest with
    | nil => exact ⟨rfl, rfl⟩
    | cons c r =>
      have := hrest c rfl
      exact ⟨List.takeWhile_cons_of_neg (by simp [this]), List.dropWhile_cons_of_neg (by simp [this])⟩
  simp only [readNumber, List.takeWhile_append_of_pos hall, List.dropWhile_append_of_pos hall,
    ht.1, ht.2, List.append_nil, h, if_true]

/-! ## Values -/

mutual
/-- A JSON value after optional whitespace, and the text after it. -/
def readValue : Nat → List Char → Option (JVal × List Char)
  | 0, _ => none
  | fuel + 1, cs =>
    match cs.dropWhile isJsonSpace with
    | [] => none
    | c :: rest =>
      if c = '"' then (readStr rest).map fun (s, r) => (.str ⟨s⟩, r)
      else if c = '[' then
        if (rest.dropWhile isJsonSpace).head? = some ']' then
          some (.arr [], (rest.dropWhile isJsonSpace).tail)
        else readElems fuel [] rest
      else if c = '\x7b' then
        if (rest.dropWhile isJsonSpace).head? = some '\x7d' then
          some (.obj [], (rest.dropWhile isJsonSpace).tail)
        else readMembers fuel [] rest
      else if c = 'n' then
        if rest.take 3 = ['u', 'l', 'l'] then some (.null, rest.drop 3) else none
      else if c = 't' then
        if rest.take 3 = ['r', 'u', 'e'] then some (.bool true, rest.drop 3) else none
      else if c = 'f' then
        if rest.take 4 = ['a', 'l', 's', 'e'] then some (.bool false, rest.drop 4) else none
      else readNumber (c :: rest)

/-- The elements of an array from its first one on, after the ones in `acc`, and the text after
its closing bracket. -/
def readElems : Nat → List JVal → List Char → Option (JVal × List Char)
  | 0, _, _ => none
  | fuel + 1, acc, cs =>
    match readValue fuel cs with
    | none => none
    | some (v, r) =>
      match r.dropWhile isJsonSpace with
      | c :: r' =>
        if c = ',' then readElems fuel (acc ++ [v]) r'
        else if c = ']' then some (.arr (acc ++ [v]), r')
        else none
      | [] => none

/-- The members of an object from its first one on, after the ones in `acc`, and the text after
its closing brace. -/
def readMembers : Nat → List (String × JVal) → List Char → Option (JVal × List Char)
  | 0, _, _ => none
  | fuel + 1, acc, cs =>
    match cs.dropWhile isJsonSpace with
    | c :: r =>
      if c = '"' then
        match readStr r with
        | none => none
        | some (k, r) =>
          match r.dropWhile isJsonSpace with
          | c :: r =>
            if c = ':' then
              match readValue fuel r with
              | none => none
              | some (v, r) =>
                match r.dropWhile isJsonSpace with
                | c :: r' =>
                  if c = ',' then readMembers fuel (acc ++ [(⟨k⟩, v)]) r'
                  else if c = '\x7d' then some (.obj (acc ++ [(⟨k⟩, v)]), r')
                  else none
                | [] => none
            else none
          | [] => none
      else none
    | [] => none
end

/-- What `json.Unmarshal` decodes a text to: one value, with only whitespace around it. -/
def decodeJson (cs : List Char) : Option JVal :=
  match readValue (cs.length + 1) cs with
  | some (v, r) => if (r.dropWhile isJsonSpace).isEmpty then some v else none
  | none => none

example : (decodeJson " [1.5e3, \"a\\u00e9\\ud83d\\ude00\", \x7b\"k\" : null\x7d] ".data).map
    JVal.text = some "[1.5e3,\"aé😀\",\x7b\"k\":null\x7d]" := by decide

example : (decodeJson "[01]".data).isNone := by decide

/-! ## The encoder's text read back -/

mutual
/-- Every number literal of a value is a JSON number. -/
def JVal.numbersOk : JVal → Bool
  | .num lit => isJsonNumber lit.data
  | .arr xs => elemsNumbersOk xs
  | .obj fs => membersNumbersOk fs
  | _ => true

/-- Every number literal of a list of values is a JSON number. -/
def elemsNumbersOk : List JVal → Bool
  | [] => true
  | x :: xs => x.numbersOk && elemsNumbersOk xs

/-- Every number literal of a list of members is a JSON number. -/
def membersNumbersOk : List (String × JVal) → Bool
  | [] => true
  | (_, v) :: fs => v.numbersOk && membersNumbersOk fs
end

/-- The members of two lists have JSON numbers when those of each have. -/
theorem membersNumbersOk_append : ∀ a b : List (String × JVal),
    membersNumbersOk (a ++ b) = (membersNumbersOk a && membersNumbersOk b)
  | [], _ => rfl
  | (_, v) :: a, b => by
    rw [List.cons_append, membersNumbersOk, membersNumbersOk, membersNumbersOk_append a b,
      Bool.and_assoc]

/-- A digit is no whitespace and closes nothing. -/
theorem isDigit_not_delim {c : Char} (h : isDigit c = true) :
    isJsonSpace c = false ∧ c ≠ ']' ∧ c ≠ '\x7d' := by
  refine ⟨?_, ?_, ?_⟩
  · cases hs : isJsonSpace c
    · rfl
    · simp only [isJsonSpace, Bool.or_eq_true, decide_eq_true_eq] at hs
      rcases hs with ((rfl | rfl) | rfl) | rfl <;> exact absurd h (by decide)
  · rintro rfl; exact absurd h (by decide)
  · rintro rfl; exact absurd h (by decide)

/-- The encoder's text of a value starts with a character that begins no whitespace and closes
no array or object. -/
theorem render_head {v : JVal} (h : v.numbersOk = true) :
    ∃ c cs, render v = c :: cs ∧ isJsonSpace c = false ∧ c ≠ ']' ∧ c ≠ '\x7d' := by
  cases v with
  | num lit =>
    obtain ⟨c, r, he, hc⟩ := (isJsonNumber_spec h).2
    refine ⟨c, r, he, ?_⟩
    rcases hc with rfl | hc
    · decide
    · exact isDigit_not_delim hc
  | null => exact ⟨_, _, rfl, by decide⟩
  | bool b => cases b <;> exact ⟨_, _, rfl, by decide⟩
  | str s => exact ⟨_, _, rfl, by decide⟩
  | arr xs => exact ⟨_, _, rfl, by decide⟩
  | obj fs => exact ⟨_, _, rfl, by decide⟩

/-- The reader after a value's first character, when it is not whitespace. -/
theorem readValue_cons {fuel : Nat} {c : Char} (hc : isJsonSpace c = false) (rest : List Char) :
    readValue (fuel + 1) (c :: rest) =
      if c = '"' then (readStr rest).map fun (s, r) => (.str ⟨s⟩, r)
      else if c = '[' then
        if (rest.dropWhile isJsonSpace).head? = some ']' then
          some (.arr [], (rest.dropWhile isJsonSpace).tail)
        else readElems fuel [] rest
      else if c = '\x7b' then
        if (rest.dropWhile isJsonSpace).head? = some '\x7d' then
          some (.obj [], (rest.dropWhile isJsonSpace).tail)
        else readMembers fuel [] rest
      else if c = 'n' then
        if rest.take 3 = ['u', 'l', 'l'] then some (.null, rest.drop 3) else none
      else if c = 't' then
        if rest.take 3 = ['r', 'u', 'e'] then some (.bool true, rest.drop 3) else none
      else if c = 'f' then
        if rest.take 4 = ['a', 'l', 's', 'e'] then some (.bool false, rest.drop 4) else none
      else readNumber (c :: rest) := by
  rw [readValue, List.dropWhile_cons_of_neg (by simp [hc])]

/-- The elements of an array, a comma after each but the last. -/
theorem renderElems_cons_cons (x y : JVal) (ys : List JVal) :
    renderElems (x :: y :: ys) = render x ++ ',' :: renderElems (y :: ys) :=
  renderElems.eq_3 _ _ (List.cons_ne_nil _ _)

/-- The members of an object, a comma after each but the last. -/
theorem renderMembers_cons_cons (k : String) (v : JVal) (f : String × JVal)
    (fs : List (String × JVal)) :
    renderMembers ((k, v) :: f :: fs) = quote k ++ ':' :: render v ++ ',' :: renderMembers (f :: fs) :=
  renderMembers.eq_3 _ _ _ (List.cons_ne_nil _ _)

/-- A `String` is the string of its characters. -/
theorem string_mk_data (s : String) : String.mk s.data = s := rfl

/-- A string's text, then more text. -/
theorem quote_append (k : String) (L : List Char) :
    quote k ++ L = '"' :: (k.data.flatMap escapeChar ++ '"' :: L) := by
  simp only [quote, List.cons_append, List.append_assoc, List.singleton_append, List.nil_append]

/-- A closing bracket, brace, comma or colon cannot go on with a number. -/
theorem delim_head {c : Char} (h : isNumChar c = false) (rest : List Char) :
    ∀ d ∈ (c :: rest).head?, isNumChar d = false := by
  intro d hd; cases hd; exact h

/-- After an opening bracket, a text that starts with no whitespace and no closing bracket is
read as the elements. -/
theorem readValue_open_arr {fuel : Nat} {c : Char} {L : List Char} (hs : isJsonSpace c = false)
    (hb : c ≠ ']') : readValue (fuel + 1) ('[' :: c :: L) = readElems fuel [] (c :: L) := by
  rw [readValue_cons (by decide), if_neg (by decide), if_pos rfl,
    List.dropWhile_cons_of_neg (by simp [hs]), List.head?_cons,
    if_neg (fun h => hb (Option.some.inj h))]

/-- After an opening brace, a quote starts the members. -/
theorem readValue_open_obj {fuel : Nat} (L : List Char) :
    readValue (fuel + 1) ('\x7b' :: '"' :: L) = readMembers fuel [] ('"' :: L) := by
  rw [readValue_cons (by decide), if_neg (by decide), if_neg (by decide), if_pos rfl,
    List.dropWhile_cons_of_neg (by decide), List.head?_cons, if_neg (by decide)]

mutual
/-- The encoder's text of a value reads back as the value, up to the text after it; after a
number, that text must not go on with a number character. -/
theorem readValue_render : ∀ (v : JVal), v.numbersOk = true → ∀ (fuel : Nat) (rest : List Char),
    (render v).length < fuel → (∀ c ∈ rest.head?, isNumChar c = false) →
    readValue fuel (render v ++ rest) = some (v, rest)
  | _, _, 0, _, hl, _ => absurd hl (Nat.not_lt_zero _)
  | .null, _, fuel + 1, rest, _, _ => by
    rw [render, show "null".data ++ rest = 'n' :: 'u' :: 'l' :: 'l' :: rest from rfl,
      readValue_cons (by decide)]
    rfl
  | .bool b, _, fuel + 1, rest, _, _ => by
    cases b
    · rw [render, if_neg (by decide),
        show "false".data ++ rest = 'f' :: 'a' :: 'l' :: 's' :: 'e' :: rest from rfl,
        readValue_cons (by decide)]
      rfl
    · rw [render, if_pos rfl, show "true".data ++ rest = 't' :: 'r' :: 'u' :: 'e' :: rest from rfl,
        readValue_cons (by decide)]
      rfl
  | .num lit, h, fuel + 1, rest, _, hrest => by
    obtain ⟨c, r, he, hc⟩ := (isJsonNumber_spec h).2
    have hd : c ≠ '"' ∧ c ≠ '[' ∧ c ≠ '\x7b' ∧ c ≠ 'n' ∧ c ≠ 't' ∧ c ≠ 'f' ∧
        isJsonSpace c = false := by
      rcases hc with rfl | hc
      · decide
      · refine ⟨?_, ?_, ?_, ?_, ?_, ?_, (isDigit_not_delim hc).1⟩ <;> rintro rfl <;>
          exact absurd hc (by decide)
    rw [render, he, List.cons_append, readValue_cons hd.2.2.2.2.2.2, if_neg hd.1, if_neg hd.2.1,
      if_neg hd.2.2.1, if_neg hd.2.2.2.1, if_neg hd.2.2.2.2.1, if_neg hd.2.2.2.2.2.1,
      ← List.cons_append, ← he, readNumber_lit h hrest]
  | .str s, _, fuel + 1, rest, _, _ => by
    simp only [render, quote, List.cons_append, List.append_assoc, List.singleton_append]
    rw [readValue_cons (by decide), if_pos rfl, readStr_quote]
    rfl
  | .arr [], _, fuel + 1, rest, _, _ => by
    simp only [render, renderElems, List.cons_append, List.nil_append, List.singleton_append]
    rw [readValue_cons (by decide), if_neg (by decide), if_pos rfl]
    rfl
  | .arr (x :: xs), h, fuel + 1, rest, hl, _ => by
    have hx : x.numbersOk = true := by
      simp only [JVal.numbersOk, elemsNumbersOk, Bool.and_eq_true] at h; exact h.1
    have hr := readElems_render (x :: xs) (List.cons_ne_nil _ _) h fuel [] rest (by
      simp only [render, List.length_cons, List.length_append, List.length_singleton] at hl; omega)
    obtain ⟨c, cs, he, hs, hb, -⟩ := render_head hx
    obtain ⟨T, hT⟩ : ∃ T, renderElems (x :: xs) ++ ']' :: rest = c :: T := by
      cases xs with
      | nil => exact ⟨_, by rw [renderElems, he, List.cons_append]⟩
      | cons y ys => exact ⟨_, by rw [renderElems_cons_cons, he, List.cons_append, List.cons_append]⟩
    simp only [render, List.cons_append, List.append_assoc, List.singleton_append, List.nil_append]
    rw [hT, readValue_open_arr hs hb, ← hT, hr, List.nil_append]
  | .obj [], _, fuel + 1, rest, _, _ => by
    simp only [render, renderMembers, List.cons_append, List.nil_append, List.singleton_append]
    rw [readValue_cons (by decide), if_neg (by decide), if_neg (by decide), if_pos rfl]
    rfl
  | .obj ((k, v) :: fs), h, fuel + 1, rest, hl, _ => by
    have hr := readMembers_render k v fs h fuel [] rest (by
      simp only [render, List.length_cons, List.length_append, List.length_singleton] at hl; omega)
    obtain ⟨M, hM⟩ : ∃ M, renderMembers ((k, v) :: fs) = quote k ++ M := by
      cases fs with
      | nil => exact ⟨_, by rw [renderMembers]⟩
      | cons f fs => exact ⟨_, by rw [renderMembers_cons_cons, List.append_assoc]⟩
    simp only [render, List.cons_append, List.append_assoc, List.singleton_append, List.nil_append]
    rw [hM, List.append_assoc, quote_append, readValue_open_obj, ← quote_append, ← List.append_assoc,
      ← hM, hr, List.nil_append]

/-- The text of the elements of an array, then its closing bracket, reads back as the array. -/
theorem readElems_render : ∀ (xs : List JVal), xs ≠ [] → elemsNumbersOk xs = true →
    ∀ (fuel : Nat) (acc : List JVal) (rest : List Char), (renderElems xs).length + 1 < fuel →
    readElems fuel acc (renderElems xs ++ ']' :: rest) = some (.arr (acc ++ xs), rest)
  | [], hne, _, _, _, _, _ => absurd rfl hne
  | _ :: _, _, _, 0, _, _, hl => absurd hl (Nat.not_lt_zero _)
  | [x], _, h, fuel + 1, acc, rest, hl => by
    have hx : x.numbersOk = true := by
      simp only [elemsNumbersOk, Bool.and_eq_true] at h; exact h.1
    rw [renderElems] at hl ⊢
    rw [readElems, readValue_render x hx fuel (']' :: rest) (by omega) (delim_head (by decide) rest)]
    simp only [List.dropWhile_cons_of_neg (by decide : ¬isJsonSpace ']' = true)]
    rw [if_neg (by decide), if_pos trivial]
  | x :: y :: ys, _, h, fuel + 1, acc, rest, hl => by
    simp only [elemsNumbersOk, Bool.and_eq_true] at h
    rw [renderElems_cons_cons] at hl ⊢
    simp only [List.length_append, List.length_cons] at hl
    rw [List.append_assoc, List.cons_append, readElems,
      readValue_render x h.1 fuel _ (by omega) (delim_head (by decide) _)]
    simp only [List.dropWhile_cons_of_neg (by decide : ¬isJsonSpace ',' = true)]
    rw [if_pos trivial, readElems_render (y :: ys) (List.cons_ne_nil _ _)
      (by simpa only [elemsNumbersOk, Bool.and_eq_true] using h.2) fuel (acc ++ [x]) rest (by omega),
      List.append_assoc, List.singleton_append]

/-- The text of the members of an object, then its closing brace, reads back as the object. -/
theorem readMembers_render : ∀ (k : String) (v : JVal) (fs : List (String × JVal)),
    membersNumbersOk ((k, v) :: fs) = true →
    ∀ (fuel : Nat) (acc : List (String × JVal)) (rest : List Char),
    (renderMembers ((k, v) :: fs)).length + 1 < fuel →
    readMembers fuel acc (renderMembers ((k, v) :: fs) ++ '\x7d' :: rest) =
      some (.obj (acc ++ (k, v) :: fs), rest)
  | _, _, _, _, 0, _, _, hl => absurd hl (Nat.not_lt_zero _)
  | k, v, [], h, fuel + 1, acc, rest, hl => by
    have hv : v.numbersOk = true := by
      simp only [membersNumbersOk, Bool.and_eq_true] at h; exact h.1
    rw [renderMembers] at hl ⊢
    simp only [List.length_append, List.length_cons] at hl
    have hr := readValue_render v hv fuel ('\x7d' :: rest) (by omega) (delim_head (by decide) rest)
    rw [List.append_assoc, quote_append]
    simp only [readMembers, List.dropWhile_cons_of_neg (by decide : ¬isJsonSpace '"' = true),
      if_pos, readStr_quote, List.dropWhile_cons_of_neg (by decide : ¬isJsonSpace ':' = true), hr,
      List.dropWhile_cons_of_neg (by decide : ¬isJsonSpace '\x7d' = true), List.cons_append]
    rfl
  | k, v, (k', v') :: fs, h, fuel + 1, acc, rest, hl => by
    simp only [membersNumbersOk, Bool.and_eq_true] at h
    rw [renderMembers_cons_cons] at hl ⊢
    simp only [List.length_append, List.length_cons] at hl
    have hr := readValue_render v h.1 fuel (',' :: (renderMembers ((k', v') :: fs) ++ '\x7d' :: rest))
      (by omega) (delim_head (by decide) _)
    have hrec := readMembers_render k' v' fs (by simpa only [membersNumbersOk, Bool.and_eq_true] using h.2)
      fuel (acc ++ [(k, v)]) rest (by omega)
    simp only [List.append_assoc, List.cons_append]
    rw [quote_append]
    simp only [readMembers, List.dropWhile_cons_of_neg (by decide : ¬isJsonSpace '"' = true),
      if_pos, readStr_quote, List.dropWhile_cons_of_neg (by decide : ¬isJsonSpace ':' = true), hr,
      List.dropWhile_cons_of_neg (by decide : ¬isJsonSpace ',' = true), string_mk_data, hrec]
    rw [List.append_assoc, List.singleton_append]
end

/-- What `json.Unmarshal` makes of the encoder's text of a value is the value. -/
theorem decodeJson_render {v : JVal} (h : v.numbersOk = true) : decodeJson (render v) = some v := by
  rw [decodeJson, ← List.append_nil (render v),
    readValue_render v h _ [] (by simp) (fun _ hc => absurd hc (by simp))]
  rfl

/-! ## No line breaks -/

/-- A number character is no line break. -/
theorem numChar_no_break {c : Char} (h : isNumChar c = true) : c ≠ '\n' ∧ c ≠ '\r' := by
  constructor <;> rintro rfl <;> exact absurd h (by decide)

/-- The encoder writes no character as a line break. -/
theorem escapeChar_no_break (c : Char) : ∀ x ∈ escapeChar c, x ≠ '\n' ∧ x ≠ '\r' := by
  have hex : ∀ m < 16, Nat.digitChar m ≠ '\n' ∧ Nat.digitChar m ≠ '\r' := by decide
  have hh : ∀ n, hexChar n ≠ '\n' ∧ hexChar n ≠ '\r' :=
    fun n => hex _ (Nat.mod_lt _ (by decide))
  rcases escapeChar_cases c with ⟨e, he, -, hn, hr, -⟩ | ⟨he, -⟩ | ⟨he, -, -, h32⟩ <;> rw [he]
  · intro x hx
    simp only [List.mem_cons, List.mem_singleton, List.not_mem_nil, or_false] at hx
    rcases hx with rfl | rfl
    · decide
    · exact ⟨hn, hr⟩
  · intro x hx
    simp only [unicodeEscape, List.mem_cons, List.mem_singleton, List.not_mem_nil, or_false] at hx
    rcases hx with rfl | rfl | rfl | rfl | rfl | rfl
    · decide
    · decide
    all_goals exact hh _
  · intro x hx
    rw [List.mem_singleton.1 hx]
    constructor <;> rintro rfl <;> exact h32 (by decide)

/-- A string's text holds no line break. -/
theorem quote_no_break (s : String) : ∀ c ∈ quote s, c ≠ '\n' ∧ c ≠ '\r' := by
  intro c hc
  simp only [quote, List.mem_cons, List.mem_append, List.mem_flatMap, List.not_mem_nil, or_false] at hc
  rcases hc with (rfl | ⟨d, -, hd⟩) | rfl
  · decide
  · exact escapeChar_no_break d c hd
  · decide

mutual
/-- The encoder's text of a value holds no line break: it is one line. -/
theorem render_no_break : ∀ v : JVal, v.numbersOk = true → ∀ c ∈ render v, c ≠ '\n' ∧ c ≠ '\r'
  | .null, _ => by decide
  | .bool b, _ => by cases b <;> decide
  | .num lit, h => fun c hc => numChar_no_break ((isJsonNumber_spec h).1 c (by simpa [render] using hc))
  | .str s, _ => by rw [render]; exact quote_no_break s
  | .arr xs, h => by
    intro c hc
    simp only [render, List.mem_cons, List.mem_append, List.not_mem_nil, or_false] at hc
    rcases hc with (rfl | hc) | rfl
    · decide
    · exact renderElems_no_break xs h c hc
    · decide
  | .obj fs, h => by
    intro c hc
    simp only [render, List.mem_cons, List.mem_append, List.not_mem_nil, or_false] at hc
    rcases hc with (rfl | hc) | rfl
    · decide
    · exact renderMembers_no_break fs h c hc
    · decide

/-- The text of a list of elements holds no line break. -/
theorem renderElems_no_break : ∀ xs : List JVal, elemsNumbersOk xs = true →
    ∀ c ∈ renderElems xs, c ≠ '\n' ∧ c ≠ '\r'
  | [], _ => fun _ hc => absurd hc (List.not_mem_nil _)
  | [x], h => by
    rw [renderElems]
    simp only [elemsNumbersOk, Bool.and_eq_true] at h
    exact render_no_break x h.1
  | x :: y :: ys, h => by
    intro c hc
    simp only [elemsNumbersOk, Bool.and_eq_true] at h
    rw [renderElems_cons_cons, List.mem_append, List.mem_cons] at hc
    rcases hc with hc | rfl | hc
    · exact render_no_break x h.1 c hc
    · decide
    · exact renderElems_no_break (y :: ys) (by simpa only [elemsNumbersOk, Bool.and_eq_true] using h.2)
        c hc

/-- The text of a list of members holds no line break. -/
theorem renderMembers_no_break : ∀ fs : List (String × JVal), membersNumbersOk fs = true →
    ∀ c ∈ renderMembers fs, c ≠ '\n' ∧ c ≠ '\r'
  | [], _ => fun _ hc => absurd hc (List.not_mem_nil _)
  | [(k, v)], h => by
    intro c hc
    simp only [membersNumbersOk, Bool.and_eq_true] at h
    rw [renderMembers, List.mem_append, List.mem_cons] at hc
    rcases hc with hc | rfl | hc
    · exact quote_no_break k c hc
    · decide
    · exact render_no_break v h.1 c hc
  | (k, v) :: (k', v') :: fs, h => by
    intro c hc
    simp only [membersNumbersOk, Bool.and_eq_true] at h
    rw [renderMembers_cons_cons, List.mem_append, List.mem_cons, List.mem_append,
      List.mem_cons] at hc
    rcases hc with (hc | rfl | hc) | rfl | hc
    · exact quote_no_break k c hc
    · decide
    · exact render_no_break v h.1 c hc
    · decide
    · exact renderMembers_no_break ((k', v') :: fs)
        (by simpa only [membersNumbersOk, Bool.and_eq_true] using h.2) c hc
end

end BulkImport
