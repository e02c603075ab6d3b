import BulkImport.Basic.Time
import Mathlib.Tactic.IntervalCases

/-!
# The JSON text of an instant reads back

The exporters write every `time.Time` with `Time.MarshalJSON` (`formatRFC3339Nano`), and the
validators and converters read timestamps with `time.Parse(time.RFC3339, ·)` (`parseRFC3339`).
Whatever the writer prints, the reader takes back to the same instant (`parse_formatRFC3339Nano`):
the exported timestamps of a table survive an import.

The calendar part is the civil-date algorithm: a day count is cut into 400-year eras of
`146097` days, an era into four centuries of `36524` days (the last one day longer), a century
into four-year cycles of `1461` days (the last of a century one day shorter), and a cycle into
years of `365` days (the last one day longer). `civil_coords` states that cut once; the inverse
`daysFromCivil_civilFromDays` and the range of the month and the day are read off it.
-/

namespace BulkImport

/-! ## Decimal fields -/

/-- The value of digits read left to right, from a value already read. -/
theorem foldl_digitStep : ∀ (ds : List Char) (m : Nat),
    ds.foldl digitStep m = m * 10 ^ ds.length + ds.foldl digitStep 0
  | [], m => by simp
  | c :: cs, m => by
    simp only [List.foldl, List.length_cons]
    rw [foldl_digitStep cs, foldl_digitStep cs (digitStep 0 c)]
    simp only [digitStep, Nat.pow_succ]
    ring

/-- `digitsValue` is the left-to-right value of a run of digits. -/
theorem digitsValue_eq_foldl : ∀ ds : List Char, (∀ c ∈ ds, isDigit c = true) →
    digitsValue ds = some (ds.foldl digitStep 0)
  | [], _ => rfl
  | c :: cs, h => by
    rw [digitsValue, if_pos (h c (List.mem_cons_self _ _)),
      digitsValue_eq_foldl cs fun d hd => h d (List.mem_cons_of_mem _ hd), Option.map_some',
      List.foldl, foldl_digitStep cs (digitStep 0 c)]
    simp only [digitStep, Nat.mul_zero, Nat.zero_add, Nat.pow_eq]

/-- Zeros read as nothing. -/
theorem foldl_digitStep_zeros (k : Nat) : (List.replicate k '0').foldl digitStep 0 = 0 := by
  induction k with
  | zero => rfl
  | succ k ih => rw [List.replicate_succ', List.foldl_append, ih]; rfl

/-- A number below `10 ^ w`, padded to `w` digits: `w` digits that read back as the number. -/
theorem padDigits_spec {w n : Nat} (hw : 0 < w) (hn : n < 10 ^ w) :
    (padDigits w n).length = w ∧ (∀ c ∈ padDigits w n, isDigit c = true) ∧
      (padDigits w n).foldl digitStep 0 = n := by
  have hlen : (Nat.toDigits 10 n).length ≤ w := Nat.repr_length n w hw hn
  refine ⟨?_, ?_, ?_⟩
  · simp only [padDigits, List.length_append, List.length_replicate]
    exact Nat.sub_add_cancel hlen
  · intro c hc
    rcases List.mem_append.mp hc with h | h
    · rw [List.eq_of_mem_replicate h]; rfl
    · exact toDigitsCore_isDigit _ _ c h
  · rw [padDigits, List.foldl_append, foldl_digitStep_zeros]
    exact toDigitsCore_value _ _ (Nat.lt_succ_self n)

/-- A padded number in range passes `parseUint`. -/
theorem parseUint_padDigits {w n lo hi : Nat} (hw : 0 < w) (hn : n < 10 ^ w) (hlo : lo ≤ n)
    (hhi : n ≤ hi) : parseUint (padDigits w n) lo hi = some n := by
  obtain ⟨-, hd, hv⟩ := padDigits_spec hw hn
  simp only [parseUint, digitsValue_eq_foldl _ hd, hv, if_pos (And.intro hlo hhi)]

/-! ## The civil calendar -/

/-- No month is longer than 31 days. -/
theorem daysIn_le (month year : Nat) : daysIn month year ≤ 31 := by
  unfold daysIn; split_ifs <;> omega

/-- A day of a 400-year era, cut into its century, its four-year cycle in the century, its year
in the cycle and its day in the year, years starting in March. A year has a 366th day only as
the last of its cycle, and the last cycle of a century only in the last century. -/
structure EraDay where
  /-- The century in the era. -/
  century : Int
  /-- The four-year cycle in the century. -/
  cycle : Int
  /-- The year in the cycle. -/
  year : Int
  /-- The day in the year, from March 1. -/
  day : Int
  /-- An era has four centuries. -/
  century_range : 0 ≤ century ∧ century ≤ 3
  /-- A century has 25 cycles. -/
  cycle_range : 0 ≤ cycle ∧ cycle ≤ 24
  /-- A cycle has four years. -/
  year_range : 0 ≤ year ∧ year ≤ 3
  /-- A year has at most 366 days. -/
  day_range : 0 ≤ day ∧ day ≤ 365
  /-- A 366th day only in the last year of a cycle, and in the last cycle only in the last
  century. -/
  leap_day : day = 365 → year = 3 ∧ (cycle < 24 ∨ century = 3)

/-- The day's place in its era. -/
def EraDay.doe (e : EraDay) : Int := 36524 * e.century + 1461 * e.cycle + 365 * e.year + e.day

/-- The year's place in its era. -/
def EraDay.yoe (e : EraDay) : Int := 100 * e.century + 4 * e.cycle + e.year

/-- Every day of an era has its cut. -/
theorem EraDay.exists_doe {doe : Int} (h0 : 0 ≤ doe) (h1 : doe ≤ 146096) :
    ∃ e : EraDay, e.doe = doe := by
  let c := min (doe / 36524) 3
  let r := min ((doe - 36524 * c) % 1461 / 365) 3
  exact ⟨⟨c, (doe - 36524 * c) / 1461, r, (doe - 36524 * c) % 1461 - 365 * r,
    by omega, by omega, by omega, by omega, by omega⟩, by simp only [EraDay.doe]; omega⟩

/-- The year that `civilFromDays` computes from a day of the era is the day's year. -/
theorem EraDay.yoe_eq (e : EraDay) :
    (e.doe - e.doe / 1460 + e.doe / 36524 - e.doe / 146096) / 365 = e.yoe := by
  obtain ⟨c, q, r, d, hc, hq, hr, hd, hl⟩ := e
  simp only [EraDay.doe, EraDay.yoe]
  generalize hD : 36524 * c + 1461 * q + 365 * r + d = D
  -- The quotients of the era's day, each a century, cycle or leap-day count and a carry.
  have h3 : D / 146096 = if D = 146096 then 1 else 0 := by split <;> omega
  have h2 : D / 36524 = c + D / 146096 := by split at h3 <;> omega
  have h1 : D / 1460 = 25 * c + q + (24 * c + q + 365 * r + d) / 1460 := by omega
  have h0 : (24 * c + q + 365 * r + d) / 1460 =
      if 1460 ≤ 24 * c + q + 365 * r + d then 1 else 0 := by split <;> omega
  rw [h2, h1]
  split at h0 <;> split at h3 <;> omega

/-- `civilFromDays` through the cut of its day: the year from the era and the cut, the month and
the day of the month from the day of the (March) year. -/
theorem civilFromDays_of_eraDay {z era : Int} {e : EraDay}
    (hz : z + 719468 = era * 146097 + e.doe) :
    civilFromDays z =
      let mp := (5 * e.day + 2) / 153
      let m := if mp < 10 then mp + 3 else mp - 9
      (if m ≤ 2 then e.yoe + era * 400 + 1 else e.yoe + era * 400, m,
        e.day - (153 * mp + 2) / 5 + 1) := by
  have := e.day_range; have := e.year_range; have := e.cycle_range; have := e.century_range
  have he : (z + 719468) / 146097 = era := by simp only [EraDay.doe] at hz; omega
  have hdoe : z + 719468 - era * 146097 = e.doe := by omega
  have hdoy : e.doe - (365 * e.yoe + e.yoe / 4 - e.yoe / 100) = e.day := by
    simp only [EraDay.doe, EraDay.yoe]; omega
  simp only [civilFromDays, he, hdoe, e.yoe_eq, hdoy]

/-- Every day count lies in an era, at a day of it that has its cut. -/
theorem civil_coords (z : Int) : ∃ (era : Int) (e : EraDay), z + 719468 = era * 146097 + e.doe := by
  obtain ⟨e, he⟩ := @EraDay.exists_doe ((z + 719468) % 146097) (by omega) (by omega)
  exact ⟨(z + 719468) / 146097, e, by omega⟩

/-- `daysFromCivil` undoes `civilFromDays`. -/
theorem daysFromCivil_civilFromDays (z : Int) :
    daysFromCivil (civilFromDays z).1 (civilFromDays z).2.1 (civilFromDays z).2.2 = z := by
  obtain ⟨era, ⟨c, q, r, d, hc, hq, hr, hd, hl⟩, hz⟩ := civil_coords z
  rw [civilFromDays_of_eraDay hz]
  simp only [EraDay.doe, EraDay.yoe, daysFromCivil] at hz ⊢
  have hmp : 0 ≤ (5 * d + 2) / 153 ∧ (5 * d + 2) / 153 ≤ 11 := by omega
  generalize (5 * d + 2) / 153 = mp at hmp ⊢
  have hy : (100 * c + 4 * q + r + era * 400) / 400 = era := by omega
  split_ifs <;> simp only [add_sub_cancel_right, sub_add_cancel, hy] <;> omega

/-- The month `civilFromDays` computes is one of the twelve. -/
theorem civilFromDays_month (z : Int) :
    1 ≤ (civilFromDays z).2.1 ∧ (civilFromDays z).2.1 ≤ 12 := by
  obtain ⟨era, e, hz⟩ := civil_coords z
  rw [civilFromDays_of_eraDay hz]
  have := e.day_range
  dsimp only
  split_ifs <;> omega

/-- A month of a March year other than February is as long in every year as its place in the
March year says. -/
theorem daysIn_march {mp : Int} (h0 : 0 ≤ mp) (hk : mp < 11) (y : Nat) :
    (daysIn (if mp < 10 then mp + 3 else mp - 9).toNat y : Int) =
      (153 * (mp + 1) + 2) / 5 - (153 * mp + 2) / 5 := by
  interval_cases mp <;> rfl

/-- The day `civilFromDays` computes is a day of its month, in a year from 0 on, where the
month's length is `daysIn`'s: the 366th day of a March year is the 29th of a February whose year
is a leap year. -/
theorem civilFromDays_day (z : Int) (hy : 0 ≤ (civilFromDays z).1) :
    1 ≤ (civilFromDays z).2.2 ∧
      (civilFromDays z).2.2.toNat ≤ daysIn (civilFromDays z).2.1.toNat (civilFromDays z).1.toNat := by
  obtain ⟨era, ⟨c, q, r, d, hc, hq, hr, hd, hl⟩, hz⟩ := civil_coords z
  rw [civilFromDays_of_eraDay hz] at hy ⊢
  simp only [EraDay.yoe] at hy ⊢
  have hmp : 153 * ((5 * d + 2) / 153) ≤ 5 * d + 2 ∧ 5 * d + 2 < 153 * ((5 * d + 2) / 153) + 153 :=
    by omega
  generalize (5 * d + 2) / 153 = mp at hmp hy ⊢
  rcases (show mp < 11 ∨ mp = 11 by omega) with hk | rfl
  · have := daysIn_march (by omega) hk
      (if (if mp < 10 then mp + 3 else mp - 9) ≤ 2 then 100 * c + 4 * q + r + era * 400 + 1
        else 100 * c + 4 * q + r + era * 400).toNat
    omega
  · -- February: its 29th day is the 366th of a March year, which ends a leap year
    simp only [show ¬((11 : Int) < 10) by decide, show (11 : Int) - 9 ≤ 2 by decide, if_true,
      if_false, daysIn, show (11 - 9 : Int).toNat = 2 from rfl] at hy ⊢
    by_cases h365 : d = 365
    · obtain ⟨rfl, hq'⟩ := hl h365
      have hleap : isLeap (100 * c + 4 * q + 3 + era * 400 + 1).toNat = true := by
        simp only [isLeap, Bool.and_eq_true, Bool.or_eq_true, beq_iff_eq, bne_iff_ne, ne_eq]
        omega
      rw [if_pos hleap]
      omega
    · split_ifs <;> omega

/-! ## The fraction of a second -/

/-- A non-zero count of nanoseconds is written as a dot and one to nine digits, which the
reader's fraction takes back to the count: the trailing zeros the writer drops are the ones the
reader's scaling puts back. -/
theorem fractionText_spec {n : Nat} (h0 : 0 < n) (h9 : n < 10 ^ 9) :
    ∃ d more, fractionText n = '.' :: d :: more ∧ (∀ c ∈ d :: more, isDigit c = true) ∧
      fractionNanos (d :: more) = n := by
  obtain ⟨hlen, hdig, hval⟩ := padDigits_spec (by decide : 0 < 9) h9
  have hsplit := List.takeWhile_append_dropWhile (· = '0') (padDigits 9 n).reverse
  rw [fractionText, if_neg (Nat.ne_of_gt h0)]
  generalize hD : ((padDigits 9 n).reverse.dropWhile (· = '0')).reverse = D
  generalize hZ : (padDigits 9 n).reverse.takeWhile (· = '0') = Z at hsplit
  -- The padded digits are the written ones followed by the zeros dropped from the end.
  have hP : padDigits 9 n = D ++ Z.reverse := by
    rw [← hD, ← List.reverse_append, hsplit, List.reverse_reverse]
  have hz : Z.reverse = List.replicate Z.length '0' := List.eq_replicate_iff.2
    ⟨List.length_reverse _, fun b hb => by
      have := List.mem_takeWhile_imp (hZ ▸ List.mem_reverse.1 hb); simpa using this⟩
  have hDd : ∀ c ∈ D, isDigit c = true := fun c hc => hdig c (hP ▸ List.mem_append_left _ hc)
  have hlD : D.length + Z.length = 9 := by
    rw [← hlen, hP, List.length_append, List.length_reverse]
  have hv : D.foldl digitStep 0 * 10 ^ Z.length = n := by
    rw [← hval, hP, List.foldl_append, foldl_digitStep Z.reverse, hz, foldl_digitStep_zeros,
      List.length_replicate, Nat.add_zero]
  cases D with
  | nil => simp at hv; omega
  | cons d more =>
    refine ⟨d, more, rfl, hDd, ?_⟩
    rw [fractionNanos, List.take_of_length_le (by omega), digitsValue_eq_foldl _ hDd,
      Option.getD_some, Nat.pow_eq, show 9 - (d :: more).length = Z.length by omega, hv]

/-! ## The layout read back -/

/-- Two digits. -/
theorem exists_two {l : List Char} (h : l.length = 2) : ∃ a b, l = [a, b] :=
  match l, h with | [a, b], _ => ⟨a, b, rfl⟩

/-- The reader takes the writer's layout, `YYYY-MM-DDTHH:MM:SS`, a fraction and `Z`, to the
instant of its fields, when each field is in the reader's range. -/
theorem parseRFC3339_layout {Y M D H Mi S n : Nat} (hY : Y ≤ 9999) (hM : 1 ≤ M ∧ M ≤ 12)
    (hD : 1 ≤ D ∧ D ≤ daysIn M Y) (hH : H ≤ 23) (hMi : Mi ≤ 59) (hS : S ≤ 59)
    (hn : n < 10 ^ 9) :
    parseRFC3339 ⟨padDigits 4 Y ++ '-' :: padDigits 2 M ++ '-' :: padDigits 2 D ++
      'T' :: padDigits 2 H ++ ':' :: padDigits 2 Mi ++ ':' :: padDigits 2 S ++ fractionText n ++
      ['Z']⟩ = some ⟨(daysFromCivil Y M D * 86400 + H * 3600 + Mi * 60 + S) * 1000000000 + n⟩ := by
  have h31 := daysIn_le M Y
  have pY := parseUint_padDigits (by decide) (by omega : Y < 10 ^ 4) (Nat.zero_le _) hY
  have pM := parseUint_padDigits (by decide) (by omega : M < 10 ^ 2) hM.1 hM.2
  have pD := parseUint_padDigits (by decide) (by omega : D < 10 ^ 2) hD.1 hD.2
  have pH := parseUint_padDigits (by decide) (by omega : H < 10 ^ 2) (Nat.zero_le _) hH
  have pMi := parseUint_padDigits (by decide) (by omega : Mi < 10 ^ 2) (Nat.zero_le _) hMi
  have pS := parseUint_padDigits (by decide) (by omega : S < 10 ^ 2) (Nat.zero_le _) hS
  obtain ⟨y0, y1, y2, y3, hy⟩ : ∃ a b c d, padDigits 4 Y = [a, b, c, d] := by
    match padDigits 4 Y, (padDigits_spec (by decide) (by omega : Y < 10 ^ 4)).1 with
    | [a, b, c, d], _ => exact ⟨a, b, c, d, rfl⟩
  obtain ⟨m0, m1, hm⟩ := exists_two (padDigits_spec (by decide) (by omega : M < 10 ^ 2)).1
  obtain ⟨d0, d1, hd⟩ := exists_two (padDigits_spec (by decide) (by omega : D < 10 ^ 2)).1
  obtain ⟨h0, h1, hh⟩ := exists_two (padDigits_spec (by decide) (by omega : H < 10 ^ 2)).1
  obtain ⟨i0, i1, hi⟩ := exists_two (padDigits_spec (by decide) (by omega : Mi < 10 ^ 2)).1
  obtain ⟨s0, s1, hs⟩ := exists_two (padDigits_spec (by decide) (by omega : S < 10 ^ 2)).1
  rw [hy] at pY ⊢; rw [hm] at pM ⊢; rw [hd] at pD ⊢; rw [hh] at pH ⊢; rw [hi] at pMi ⊢
  rw [hs] at pS ⊢
  simp only [parseRFC3339, List.cons_append, List.nil_append, List.append_assoc,
    List.length_cons, List.take_succ_cons, List.take_zero, List.drop_succ_cons, List.drop_zero,
    List.get?_cons_succ, List.get?_cons_zero, pY, pM, pD, pH, pMi, pS, and_self, ite_true]
  rw [if_neg (by omega)]
  -- The fraction: none for a whole second, else digits up to the zone's `Z`.
  rcases Nat.eq_zero_or_pos n with rfl | hpos
  · simp only [show fractionText 0 = [] from rfl, List.nil_append]
    exact congrArg (fun x : Int => some (Time.mk (x * 1000000000 + ((0 : Nat) : Int))))
      (Int.sub_zero _)
  · obtain ⟨d, more, hf, hdig, hfn⟩ := fractionText_spec hpos hn
    have ht : (d :: (more ++ ['Z'])).takeWhile isDigit = d :: more := by
      rw [← List.cons_append, List.takeWhile_append_of_pos hdig,
        show List.takeWhile isDigit ['Z'] = [] from rfl, List.append_nil]
    have hdw : (d :: (more ++ ['Z'])).dropWhile isDigit = ['Z'] := by
      rw [← List.cons_append, List.dropWhile_append_of_pos hdig]; rfl
    simp only [hf, List.cons_append, if_pos (hdig d (List.mem_cons_self _ _)), ht, hdw, hfn,
      show parseZone ['Z'] = some 0 from rfl, Int.sub_zero]

/-! ## The round trip -/

/-- Whatever `Time.MarshalJSON` writes for an instant, `time.Parse(time.RFC3339, ·)` reads back
as that instant. -/
theorem parse_formatRFC3339Nano {t : Time} {s : String} (h : formatRFC3339Nano t = some s) :
    parseRFC3339 s = some t := by
  obtain ⟨T⟩ := t
  unfold formatRFC3339Nano at h
  dsimp only at h
  have hinv := daysFromCivil_civilFromDays (T / 1000000000 / 86400)
  have hm := civilFromDays_month (T / 1000000000 / 86400)
  have hday := civilFromDays_day (T / 1000000000 / 86400)
  rcases hc : civilFromDays (T / 1000000000 / 86400) with ⟨y, m, d⟩
  rw [hc] at h hinv hm hday
  simp only at h hinv hm hday
  split_ifs at h with hy
  obtain rfl := Option.some.inj h
  have hd := hday hy.1
  rw [parseRFC3339_layout (by omega) (by omega) (by omega) (by omega) (by omega) (by omega)
    (by omega), Int.toNat_of_nonneg hy.1, Int.toNat_of_nonneg (by omega : 0 ≤ m),
    Int.toNat_of_nonneg (by omega : 0 ≤ d), hinv]
  simp only [Option.some.injEq, Time.mk.injEq]
  omega

/-- The year of a day count is from 0 on exactly from 0000-01-01, day `-719528`. -/
theorem civilFromDays_year_nonneg (z : Int) : 0 ≤ (civilFromDays z).1 ↔ -719528 ≤ z := by
  obtain ⟨era, ⟨c, q, r, d, hc, hq, hr, hd, hl⟩, hz⟩ := civil_coords z
  rw [civilFromDays_of_eraDay hz]
  simp only [EraDay.doe, EraDay.yoe] at hz ⊢
  split_ifs <;> omega

/-- The year of a day count is at most 9999 exactly up to 9999-12-31, day `2932896`. -/
theorem civilFromDays_year_le (z : Int) : (civilFromDays z).1 ≤ 9999 ↔ z < 2932897 := by
  obtain ⟨era, ⟨c, q, r, d, hc, hq, hr, hd, hl⟩, hz⟩ := civil_coords z
  rw [civilFromDays_of_eraDay hz]
  simp only [EraDay.doe, EraDay.yoe] at hz ⊢
  split_ifs <;> omega

/-- `Time.MarshalJSON` writes an instant exactly when it lies from 0000-01-01T00:00:00Z up to, but
not including, 10000-01-01T00:00:00Z; outside, the library returns an error. -/
theorem formatRFC3339Nano_isSome (t : Time) :
    (formatRFC3339Nano t).isSome ↔
      -62167219200000000000 ≤ t.unixNanos ∧ t.unixNanos < 253402300800000000000 := by
  have h0 := civilFromDays_year_nonneg (t.unixNanos / 1000000000 / 86400)
  have h1 := civilFromDays_year_le (t.unixNanos / 1000000000 / 86400)
  unfold formatRFC3339Nano
  dsimp only
  rcases hc : civilFromDays (t.unixNanos / 1000000000 / 86400) with ⟨y, m, d⟩
  rw [hc] at h0 h1
  simp only at h0 h1 ⊢
  split_ifs with hy <;>
    simp only [Option.isSome_some, Option.isSome_none, true_iff, Bool.false_eq_true, false_iff] <;>
    omega

/-- A timestamp in the middle of a second, written and read back. -/
theorem half_second_reads_back :
    formatRFC3339Nano ⟨1705314600500000000⟩ = some "2024-01-15T10:30:00.5Z" ∧
      parseRFC3339 "2024-01-15T10:30:00.5Z" = some ⟨1705314600500000000⟩ :=
  ⟨by decide, parse_formatRFC3339Nano (by decide)⟩

end BulkImport
