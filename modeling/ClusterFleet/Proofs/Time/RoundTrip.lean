import ClusterFleet.Proofs.Decimal.Digits
import ClusterFleet.Proofs.Text.Parts
import ClusterFleet.Time.Timestamp

/-!
# Time — timestamps are read back

Writing an instant and reading the text gives the instant
(`read_write`), for every instant of the calendar: years with a sign,
leap seconds and fractions of any length included. The reader takes the
text off part by part, so the proof is one equation for each part, over
whatever text follows it.
-/

namespace ClusterFleet

namespace Timestamp

open Decimal

variable {rest : List Char}

/-! ## Blanks and digits -/

theorem skipBlanks_digits {ds : List Char} (hds : ∀ c ∈ ds, isDigit c = true) (hne : ds ≠ []) :
    Text.skipBlanks (ds ++ rest) = ds ++ rest :=
  Text.skipBlanks_of_head (fun c hc => isBlank_of_isDigit (hds c hc)) rest hne

/-- A run of digits is read to its end, if it is as long as the reader
takes or something else follows. -/
theorem readDigits_append (width : Nat) (rest : List Char) {ds : List Char}
    (hds : ∀ c ∈ ds, isDigit c = true) (hne : ds ≠ []) (hlen : ds.length ≤ width)
    (hend : ds.length = width ∨ rest.head?.any isDigit = false) :
    readDigits width (ds ++ rest) = .ok (ds, rest) := by
  have htake : ((ds ++ rest).take width).takeWhile isDigit = ds := by
    rw [List.take_append, List.takeWhile_append_of_pos (fun c hc => hds c (List.mem_of_mem_take hc)),
      List.take_of_length_le hlen]
    rcases hend with hfull | hstop
    · rw [hfull, Nat.sub_self, List.take_zero, List.takeWhile_nil, List.append_nil]
    · cases rest with
      | nil => rw [List.take_nil, List.takeWhile_nil, List.append_nil]
      | cons c rest =>
        have hc : isDigit c = false := hstop
        cases width - ds.length with
        | zero => rw [List.take_zero, List.takeWhile_nil, List.append_nil]
        | succ n => rw [List.take_succ_cons, List.takeWhile_cons, hc]; simp
  cases ds with
  | nil => exact absurd rfl hne
  | cons d ds =>
    rw [List.cons_append] at htake ⊢
    simp only [readDigits, hds d List.mem_cons_self, if_true, htake]
    rw [← List.cons_append, List.drop_left]

/-! ## The parts -/

/-- A number of two places is read back, whatever follows. -/
theorem readPart_fixedWidth {lo hi n : Nat} (hlo : lo ≤ n) (hhi : n ≤ hi) (hlt : n < 100) :
    readPart lo hi (fixedWidth 2 n ++ rest) = .ok (n, rest) := by
  have hds : ∀ c ∈ fixedWidth 2 n, isDigit c = true := fun c hc => isDigit_of_mem_fixedWidth hc
  have hlen : (fixedWidth 2 n).length = 2 := length_fixedWidth 2 n
  have hne : fixedWidth 2 n ≠ [] := by
    intro hnil
    rw [hnil] at hlen
    cases hlen
  have hvalue : value (fixedWidth 2 n) = n := by
    rw [value_fixedWidth, show Nat.pow 10 2 = 100 from rfl]
    omega
  rw [readPart, skipBlanks_digits hds hne,
    readDigits_append _ rest hds hne (Nat.le_of_eq hlen) (Or.inl hlen)]
  simp only [bind, Except.bind, pure, Except.pure, hvalue, hlo, hhi, and_self, if_true]

/-- A mark is read where it stands. -/
theorem readMark_cons {mark : Char} (h : Text.isBlank mark = false) :
    readMark mark (mark :: rest) = .ok ((), rest) := by
  rw [readMark, Text.skipBlanks_cons h]
  simp

/-- A year is read back in front of a character that is no digit. -/
theorem readYear_yearText {year : Int} (hlo : firstYear ≤ year) (hhi : year ≤ lastYear)
    (hend : rest.head?.any isDigit = false) :
    readYear (yearText year ++ rest) = .ok (year, rest) := by
  unfold yearText
  unfold firstYear at hlo
  unfold lastYear at hhi
  by_cases hplain : 0 ≤ year ∧ year ≤ 9999
  · rw [if_pos hplain]
    have hlen : (fixedWidth 4 year.toNat).length = 4 := length_fixedWidth 4 _
    have hds : ∀ c ∈ fixedWidth 4 year.toNat, isDigit c = true :=
      fun c hc => isDigit_of_mem_fixedWidth hc
    have hvalue : (value (fixedWidth 4 year.toNat) : Int) = year := by
      rw [value_fixedWidth, show Nat.pow 10 4 = 10000 from rfl]
      omega
    cases hcase : fixedWidth 4 year.toNat with
    | nil =>
      rw [hcase] at hlen
      cases hlen
    | cons d ds =>
      rw [hcase] at hlen hds hvalue
      have hd : isDigit d = true := hds d List.mem_cons_self
      have hread := readDigits_append _ rest hds (by simp) (Nat.le_of_eq hlen) (Or.inl hlen)
      -- a digit is no sign, so the year is read as one without
      have hminus : d ≠ '-' := by
        rintro rfl
        cases hd
      have hplus : d ≠ '+' := by
        rintro rfl
        cases hd
      rw [readYear, skipBlanks_digits hds (by simp)]
      rw [List.cons_append] at hread ⊢
      split
      · rename_i heq
        exact absurd (List.cons.inj heq).1 hminus
      · rename_i heq
        exact absurd (List.cons.inj heq).1 hplus
      · rw [hread]
        simp only [bind, Except.bind, pure, Except.pure, hvalue]
  · rw [if_neg hplain]
    have hds : ∀ c ∈ padded 4 year.natAbs, isDigit c = true :=
      fun c hc => isDigit_of_mem_padded hc
    have hread := readDigits_append (padded 4 year.natAbs ++ rest).length rest hds
      (padded_ne_nil 4 _) (by rw [List.length_append]; omega) (Or.inr hend)
    by_cases hneg : year < 0
    · rw [if_pos hneg, List.cons_append, readYear, Text.skipBlanks_cons (by decide)]
      have hle : year.natAbs ≤ yearLimit := by
        rw [show yearLimit = 2147483648 from rfl]
        omega
      have hvalue : -(year.natAbs : Int) = year := by omega
      simp only [hread, bind, Except.bind, pure, Except.pure, value_padded, hle, if_true, hvalue]
    · rw [if_neg hneg, List.cons_append, readYear, Text.skipBlanks_cons (by decide)]
      have hlt : year.natAbs < yearLimit := by
        rw [show yearLimit = 2147483648 from rfl]
        omega
      have hvalue : (year.natAbs : Int) = year := by omega
      simp only [hread, bind, Except.bind, pure, Except.pure, value_padded, hlt, if_true, hvalue]

/-- A fraction of some places is read as nanoseconds, in front of the
zone. -/
theorem readFraction_places {places n : Nat} (hpos : 0 < places) (hle : places ≤ 9)
    (hlt : n < Nat.pow 10 places) :
    readFraction ('.' :: fixedWidth places n ++ ['Z']) = .ok (n * Nat.pow 10 (9 - places), ['Z']) := by
  have hlen : (fixedWidth places n).length = places := length_fixedWidth places n
  have hds : ∀ c ∈ fixedWidth places n, isDigit c = true :=
    fun c hc => isDigit_of_mem_fixedWidth hc
  have hne : fixedWidth places n ≠ [] := by
    intro hnil
    rw [hnil, List.length_nil] at hlen
    omega
  have hread := readDigits_append 9 ['Z'] hds hne (by omega) (Or.inr rfl)
  have hvalue : value (fixedWidth places n) = n := by
    rw [value_fixedWidth, Nat.mod_eq_of_lt hlt]
  have hdrop : (['Z'] : List Char).dropWhile isDigit = ['Z'] := rfl
  rw [List.cons_append, readFraction]
  simp only [hread, bind, Except.bind, pure, Except.pure, hvalue, hlen, hdrop]

/-- The nanoseconds of a second are read back, in front of the zone. -/
theorem readFraction_fractionText {nanos : Nat} (hlt : nanos < nanosPerSecond) :
    readFraction (fractionText nanos ++ ['Z']) = .ok (nanos, ['Z']) := by
  unfold nanosPerSecond at hlt
  unfold fractionText
  by_cases hzero : nanos = 0
  · rw [if_pos hzero, hzero]
    rfl
  rw [if_neg hzero]
  by_cases hmilli : nanos % 1000000 = 0
  · have hfits : nanos / 1000000 < Nat.pow 10 3 := by
      rw [show Nat.pow 10 3 = 1000 from rfl]
      omega
    have hback : nanos / 1000000 * Nat.pow 10 (9 - 3) = nanos := by
      rw [show Nat.pow 10 (9 - 3) = 1000000 from rfl]
      omega
    rw [if_pos hmilli, readFraction_places (by omega) (by omega) hfits, hback]
  rw [if_neg hmilli]
  by_cases hmicro : nanos % 1000 = 0
  · have hfits : nanos / 1000 < Nat.pow 10 6 := by
      rw [show Nat.pow 10 6 = 1000000 from rfl]
      omega
    have hback : nanos / 1000 * Nat.pow 10 (9 - 6) = nanos := by
      rw [show Nat.pow 10 (9 - 6) = 1000 from rfl]
      omega
    rw [if_pos hmicro, readFraction_places (by omega) (by omega) hfits, hback]
  · rw [if_neg hmicro, readFraction_places (by omega) (by omega) hlt]
    exact congrArg (fun n => Except.ok (n, ['Z'])) (Nat.mul_one nanos)

/-! ## The whole -/

/-- The parts that the text of an instant has: its own, with a leap second
shown as second 60. -/
def partsOf (t : Instant) : Parts :=
  { date := t.date
    hour := t.time.second / 3600
    minute := t.time.second / 60 % 60
    second := t.time.second % 60 + (if nanosPerSecond ≤ t.time.nanos then 1 else 0)
    nanos := t.time.nanos % nanosPerSecond
    offset := 0 }

theorem daysInMonth_le (year : Int) (month : Nat) : daysInMonth year month ≤ 31 := by
  unfold daysInMonth
  split
  · split <;> omega
  · split <;> omega

/-- The parts are read off the text. -/
theorem readParts_write (t : Instant) : readParts (write t).toList = .ok (partsOf t) := by
  obtain ⟨hylo, hyhi, hmlo, hmhi, hdlo, hdhi⟩ := t.date_valid
  obtain ⟨hsec, hnanos, -⟩ := t.time_valid
  have hday := daysInMonth_le t.date.year t.date.month
  have hleap : (if nanosPerSecond ≤ t.time.nanos then 1 else 0) ≤ 1 := by split <;> omega
  have hfrac : t.time.nanos % nanosPerSecond < nanosPerSecond := Nat.mod_lt _ (by decide)
  unfold secondsPerDay at hsec
  -- the text from left to right, each part in front of all that follows it
  have htext : (write t).toList = yearText t.date.year ++ ('-' :: (fixedWidth 2 t.date.month ++
      ('-' :: (fixedWidth 2 t.date.day ++ ('T' :: (fixedWidth 2 (t.time.second / 3600) ++
      (':' :: (fixedWidth 2 (t.time.second / 60 % 60) ++ (':' :: (fixedWidth 2 (t.time.second % 60 +
      (if nanosPerSecond ≤ t.time.nanos then 1 else 0)) ++
      (fractionText (t.time.nanos % nanosPerSecond) ++ ['Z']))))))))))) := by
    simp only [write, minuteText, String.toList_ofList, List.append_assoc, List.cons_append]
  have hzone : readZone ['Z'] = .ok (0, []) := rfl
  have hsep (r : List Char) : readSeparator ('T' :: r) = .ok ((), r) := rfl
  have hdash (r : List Char) : readMark '-' ('-' :: r) = .ok ((), r) := readMark_cons (by decide)
  have hcolon (r : List Char) : readMark ':' (':' :: r) = .ok ((), r) := readMark_cons (by decide)
  have hmonth (r : List Char) : readPart 1 12 (fixedWidth 2 t.date.month ++ r) =
      .ok (t.date.month, r) := readPart_fixedWidth hmlo hmhi (by omega)
  have hdayOf (r : List Char) : readPart 1 31 (fixedWidth 2 t.date.day ++ r) =
      .ok (t.date.day, r) := readPart_fixedWidth hdlo (by omega) (by omega)
  have hhour (r : List Char) : readPart 0 23 (fixedWidth 2 (t.time.second / 3600) ++ r) =
      .ok (t.time.second / 3600, r) := readPart_fixedWidth (by omega) (by omega) (by omega)
  have hminute (r : List Char) : readPart 0 59 (fixedWidth 2 (t.time.second / 60 % 60) ++ r) =
      .ok (t.time.second / 60 % 60, r) := readPart_fixedWidth (by omega) (by omega) (by omega)
  have hsecond (r : List Char) : readPart 0 60 (fixedWidth 2 (t.time.second % 60 +
      (if nanosPerSecond ≤ t.time.nanos then 1 else 0)) ++ r) = .ok (t.time.second % 60 +
      (if nanosPerSecond ≤ t.time.nanos then 1 else 0), r) :=
    readPart_fixedWidth (by omega) (by omega) (by omega)
  rw [htext, readParts, readYear_yearText hylo hyhi rfl]
  simp only [bind, Except.bind, hdash, hsep, hcolon, hmonth, hdayOf, hhour, hminute, hsecond,
    readFraction_fractionText hfrac, hzone]
  rfl

/-- The second and the nanoseconds of an instant, off its parts: second 60
is second 59 with the nanoseconds of the leap second. -/
theorem second_partsOf (t : Instant) :
    (if (partsOf t).second = 60 then 59 else (partsOf t).second) = t.time.second % 60 ∧
      (if (partsOf t).second = 60 then (partsOf t).nanos + nanosPerSecond else (partsOf t).nanos) =
        t.time.nanos := by
  obtain ⟨-, hnanos, hleap⟩ := t.time_valid
  change (if t.time.second % 60 + _ = 60 then 59 else t.time.second % 60 + _) = _ ∧
    (if t.time.second % 60 + _ = 60 then t.time.nanos % nanosPerSecond + nanosPerSecond
      else t.time.nanos % nanosPerSecond) = _
  by_cases hle : nanosPerSecond ≤ t.time.nanos
  · rw [if_pos hle, hleap hle]
    unfold nanosPerSecond at hle hnanos ⊢
    exact ⟨rfl, by rw [if_pos rfl]; omega⟩
  · rw [if_neg hle, if_neg (by omega), if_neg (by omega)]
    exact ⟨Nat.add_zero _, Nat.mod_eq_of_lt (Nat.lt_of_not_le hle)⟩

/-- The parts of an instant denote it. -/
theorem instant_partsOf (t : Instant) : (partsOf t).instant = .ok t := by
  have hsec := t.time_valid.1
  unfold secondsPerDay at hsec
  obtain ⟨hsecond, hnanos⟩ := second_partsOf t
  have hmoved : (((partsOf t).hour * 60 + (partsOf t).minute) * 60 + t.time.second % 60 : Nat) -
      (partsOf t).offset = (t.time.second : Int) := by
    change ((((t.time.second / 3600) * 60 + t.time.second / 60 % 60) * 60 + t.time.second % 60 : Nat) :
      Int) - 0 = _
    omega
  have hof : Instant.of? t.date t.time = some t := by
    rw [Instant.of?, dif_pos ⟨t.date_valid, t.time_valid⟩]
  have hoffset : ¬86400 ≤ (partsOf t).offset.natAbs := by
    change ¬86400 ≤ 0
    omega
  have hdate : ¬¬(partsOf t).date.IsValid := not_not_intro t.date_valid
  rw [Parts.instant, if_neg hdate, if_neg hoffset]
  simp only [hsecond, hnanos, hmoved]
  rw [if_neg (by omega), if_neg (by unfold secondsPerDay; omega)]
  simp only [Int.toNat_natCast]
  split
  · rename_i t' hread
    exact congrArg Except.ok (Option.some.inj (hread.symm.trans hof))
  · rename_i hread
    cases hread.symm.trans hof

/-- **A timestamp is read back.** -/
theorem read_write (t : Instant) : read (write t) = .ok t := by
  rw [read, readParts_write]
  exact instant_partsOf t

end Timestamp

end ClusterFleet
