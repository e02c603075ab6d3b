import BulkImport.Basic.Text

/-!
# Instants, `time.Parse(time.RFC3339, ·)` and the JSON form of a `time.Time`

The validators accept a timestamp when `time.Parse(time.RFC3339, s)` succeeds, and the converters
keep the instant it returns. `parseRFC3339` is the library's fast path `parseRFC3339`:
`YYYY-MM-DDTHH:MM:SS`, an optional fraction, and `Z` or a `±hh:mm` offset, each number range
checked (the day against its month). The general parser that the library falls back on accepts a
few more spellings (a comma before the fraction); the model does not.

An instant is its distance from the Unix epoch in nanoseconds. `formatRFC3339Nano` is
`Time.MarshalJSON` for a UTC time: the fraction without trailing zeros, and no text at all for a
year outside `0..9999`, where the library returns an error.
-/

namespace BulkImport

/-- An instant: nanoseconds since 1970-01-01T00:00:00Z. -/
structure Time where
  /-- The distance from the epoch, in nanoseconds. -/
  unixNanos : Int
  deriving DecidableEq, Repr

/-- The value of a list of decimal digits, or nothing if one is not a digit. -/
def digitsValue : List Char → Option Nat
  | [] => some 0
  | c :: cs =>
    if isDigit c then (digitsValue cs).map fun v => (c.toNat - '0'.toNat) * Nat.pow 10 cs.length + v
    else none

/-- The library's `parseUint`: the digits' value, when it lies in `lo..hi`. -/
def parseUint (cs : List Char) (lo hi : Nat) : Option Nat :=
  match digitsValue cs with
  | some v => if lo ≤ v ∧ v ≤ hi then some v else none
  | none => none

/-- A Gregorian leap year. -/
def isLeap (y : Nat) : Bool := y % 4 == 0 && (y % 100 != 0 || y % 400 == 0)

/-- `daysIn`: the number of days of a month (`1..12`) of a year. -/
def daysIn (month year : Nat) : Nat :=
  if month = 2 then (if isLeap year then 29 else 28)
  else if month = 4 ∨ month = 6 ∨ month = 9 ∨ month = 11 then 30
  else 31

/-- Days from 1970-01-01 to a civil date of the proleptic Gregorian calendar, counted in 400-year
eras of years that start in March. `Int` division rounds down, so an era is a quotient. -/
def daysFromCivil (y m d : Int) : Int :=
  let y := if m ≤ 2 then y - 1 else y
  let era := y / 400
  let yoe := y - era * 400
  let doy := (153 * (if m > 2 then m - 3 else m + 9) + 2) / 5 + d - 1
  let doe := yoe * 365 + yoe / 4 - yoe / 100 + doy
  era * 146097 + doe - 719468

/-- The civil date `(year, month, day)` of a day count from 1970-01-01. -/
def civilFromDays (z : Int) : Int × Int × Int :=
  let z := z + 719468
  let era := z / 146097
  let doe := z - era * 146097
  let yoe := (doe - doe / 1460 + doe / 36524 - doe / 146096) / 365
  let doy := doe - (365 * yoe + yoe / 4 - yoe / 100)
  let mp := (5 * doy + 2) / 153
  let d := doy - (153 * mp + 2) / 5 + 1
  let m := if mp < 10 then mp + 3 else mp - 9
  (if m ≤ 2 then yoe + era * 400 + 1 else yoe + era * 400, m, d)

/-- The nanoseconds of a fraction's digits: the first nine, scaled to nine digits. -/
def fractionNanos (ds : List Char) : Nat :=
  let ds := ds.take 9
  ((digitsValue ds).getD 0) * Nat.pow 10 (9 - ds.length)

/-- The time zone part after the seconds and the fraction: `Z`, or `±hh:mm` as seconds east of
UTC. -/
def parseZone : List Char → Option Int
  | ['Z'] => some 0
  | [sign, h1, h2, ':', m1, m2] =>
    match parseUint [h1, h2] 0 23, parseUint [m1, m2] 0 59 with
    | some hr, some mm =>
      if sign = '+' then some ((hr * 60 + mm) * 60)
      else if sign = '-' then some (-((hr * 60 + mm) * 60 : Int))
      else none
    | _, _ => none
  | _ => none

/-- `time.Parse(time.RFC3339, s)`, on the strict path the library tries first: a text that only
the general layout parser it falls back to accepts is refused here. -/
def parseRFC3339 (s : String) : Option Time :=
  let cs := s.data
  if cs.length < 19 then none
  else
    let sep := cs.get? 4 = some '-' ∧ cs.get? 7 = some '-' ∧ cs.get? 10 = some 'T' ∧
      cs.get? 13 = some ':' ∧ cs.get? 16 = some ':'
    match parseUint (cs.take 4) 0 9999 with
    | none => none
    | some year =>
      match parseUint ((cs.drop 5).take 2) 1 12 with
      | none => none
      | some month =>
        match parseUint ((cs.drop 8).take 2) 1 (daysIn month year),
          parseUint ((cs.drop 11).take 2) 0 23, parseUint ((cs.drop 14).take 2) 0 59,
          parseUint ((cs.drop 17).take 2) 0 59 with
        | some day, some hour, some minute, some second =>
          if sep then
            let rest := cs.drop 19
            let (nsec, zone) := match rest with
              | '.' :: d :: more =>
                if isDigit d then
                  let frac := (d :: more).takeWhile isDigit
                  (fractionNanos frac, (d :: more).dropWhile isDigit)
                else (0, rest)
              | _ => (0, rest)
            match parseZone zone with
            | some offset =>
              let secs := daysFromCivil year month day * 86400 + hour * 3600 + minute * 60 +
                second - offset
              some ⟨secs * 1000000000 + nsec⟩
            | none => none
          else none
        | _, _, _, _ => none

/-- The validators' timestamp test: `time.Parse(time.RFC3339, s)` returns no error. -/
def isRFC3339 (s : String) : Bool := (parseRFC3339 s).isSome

/-- The decimal digits of `n`, left-padded with zeros to `width`. -/
def padDigits (width n : Nat) : List Char :=
  let ds := (Nat.repr n).data
  List.replicate (width - ds.length) '0' ++ ds

/-- The fraction of `Time.MarshalJSON`: nothing for a whole second, else `.` and the nine digits
without their trailing zeros. -/
def fractionText (nsec : Nat) : List Char :=
  if nsec = 0 then [] else '.' :: ((padDigits 9 nsec).reverse.dropWhile (· = '0')).reverse

/-- `Time.MarshalJSON` of a UTC time, `2006-01-02T15:04:05.999999999Z`; nothing for a year
outside `0..9999`. -/
def formatRFC3339Nano (t : Time) : Option String :=
  let secs := t.unixNanos / 1000000000
  let nsec := (t.unixNanos % 1000000000).toNat
  let days := secs / 86400
  let sod := (secs % 86400).toNat
  let (y, m, d) := civilFromDays days
  if 0 ≤ y ∧ y ≤ 9999 then
    some ⟨padDigits 4 y.toNat ++ '-' :: padDigits 2 m.toNat ++ '-' :: padDigits 2 d.toNat ++
      'T' :: padDigits 2 (sod / 3600) ++ ':' :: padDigits 2 (sod % 3600 / 60) ++
      ':' :: padDigits 2 (sod % 60) ++ fractionText nsec ++ ['Z']⟩
  else none

example : parseRFC3339 "2024-01-15T10:30:00Z" = some ⟨1705314600000000000⟩ := by decide

example : formatRFC3339Nano ⟨1705314600500000000⟩ = some "2024-01-15T10:30:00.5Z" := by decide

end BulkImport
