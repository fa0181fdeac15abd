import ImageRetention.Instant.Printer
import ImageRetention.Instant.Reader
import ImageRetention.Proofs.Instant.Calendar
import ImageRetention.Proofs.Text.Digits

/-!
Every instant that is printed is read back.

* `literal_cons`, `column_padded`, `year_yearText`, `fraction_fractionText`: one for each part of
  a printed instant, whatever follows it;
* `date_printed`, `time_printed`: a date and a time of day;
* `ofText?_text`: an instant.
-/

namespace ImageRetention.Instant

open Text (isBlank trimStart padded IsDigits EndsDigits endsDigits_cons)

variable {s : List Char}

/-! ### Parts -/

lemma trimStart_cons {c : Char} (hc : isBlank c = false) : trimStart (c :: s) = c :: s :=
  List.dropWhile_cons_of_neg (by simp [hc])

lemma isBlank_of_isDigit {c : Char} (h : c.isDigit = true) : isBlank c = false := by
  have hrange : 48 ≤ c.toNat ∧ c.toNat ≤ 57 := by
    simpa [Char.isDigit, UInt32.le_iff_toNat_le] using h
  simp only [isBlank, Text.blankRanges, List.any_cons, List.any_nil, Bool.or_eq_false_iff,
    Bool.and_eq_false_iff, decide_eq_false_iff_not]
  refine ⟨?_, ?_, ?_, ?_, ?_, ?_, ?_, ?_, ?_, ?_, trivial⟩ <;> omega

/-- The digits of a number start with one. -/
lemma exists_padded_eq_cons (width n : ℕ) :
    ∃ c digits, padded width n = c :: digits ∧ c.isDigit = true := by
  have hdigits := Text.isDigits_padded width n
  cases h : padded width n with
  | nil => exact absurd h (Text.padded_ne_nil width n)
  | cons c digits => exact ⟨c, digits, rfl, hdigits c (h ▸ List.mem_cons_self)⟩

lemma trimStart_padded (width n : ℕ) : trimStart (padded width n ++ s) = padded width n ++ s := by
  obtain ⟨c, digits, heq, hc⟩ := exists_padded_eq_cons width n
  rw [heq, List.cons_append, trimStart_cons (isBlank_of_isDigit hc)]

lemma takeDigits?_padded {width n most : ℕ} (hwidth : 0 < width) (h : n < 10 ^ width)
    (hs : EndsDigits s) (hmost : width ≤ most) :
    Text.takeDigits? most (padded width n ++ s) = some (n, s) := by
  have hlength : (padded width n).length ≤ most := (Text.length_padded hwidth h).trans_le hmost
  rw [Text.takeDigits?_append (Text.isDigits_padded width n) (Text.padded_ne_nil width n)
    hlength hs, Text.valueOf_padded]

lemma takeAllDigits?_padded (width n : ℕ) (hs : EndsDigits s) :
    Text.takeAllDigits? (padded width n ++ s) = some (n, s) := by
  rw [Text.takeAllDigits?_append (Text.isDigits_padded width n) (Text.padded_ne_nil width n) hs,
    Text.valueOf_padded]

lemma literal_cons {c : Char} (hc : isBlank c = false) : literal c (c :: s) = some ((), s) := by
  rw [literal, trimStart_cons hc]
  exact if_pos rfl

lemma column_padded {least most n : ℕ} (hleast : least ≤ n) (hmost : n ≤ most) (h : n < 10 ^ 2)
    (hs : EndsDigits s) : column least most (padded 2 n ++ s) = some (n, s) := by
  rw [column, trimStart_padded, takeDigits?_padded (by decide) h hs le_rfl]
  exact if_pos ⟨hleast, hmost⟩

lemma year_yearText (y : Int) (hs : EndsDigits s) : year (yearText y ++ s) = some (y, s) := by
  rw [yearText]
  split_ifs with hplain hnegative
  · obtain ⟨c, digits, heq, hc⟩ := exists_padded_eq_cons 4 y.toNat
    have hne {sign : Char} {rest rest' : List Char} (hsign : sign.isDigit = false) :
        c :: rest ≠ sign :: rest' := fun h => by
      rw [(List.cons.inj h).1, hsign] at hc
      exact Bool.false_ne_true hc
    have htake := takeDigits?_padded (by decide) (by omega : y.toNat < 10 ^ 4) hs le_rfl
    rw [year, trimStart_padded]
    rw [heq, List.cons_append] at htake ⊢
    split
    · exact absurd ‹_› (hne (by decide))
    · exact absurd ‹_› (hne (by decide))
    · rw [htake, Option.map_some, Int.toNat_of_nonneg hplain.1]
  all_goals
    rw [List.cons_append, year, trimStart_cons (by decide)]
    simp only [takeAllDigits?_padded 4 y.natAbs hs, Option.map_some]
    congr 2
    omega

/-- A point and the digits of a number are read as that part of a second. -/
lemma fraction_padded {width n : ℕ} (hwidth : 0 < width) (hmost : width ≤ 9) (h : n < 10 ^ width)
    (hs : EndsDigits s) :
    fraction ('.' :: (padded width n ++ s)) = some (n * 10 ^ (9 - width), s) := by
  have hdrop : s.dropWhile Char.isDigit = s := by
    cases s with
    | nil => rfl
    | cons c s => exact List.dropWhile_cons_of_neg (by simp [hs c rfl])
  simp only [fraction, takeDigits?_padded hwidth h hs hmost, Option.bind_eq_bind, Option.bind_some,
    hdrop, List.length_append, Text.length_padded hwidth h, Nat.add_sub_cancel_right]
  rfl

/-- The fewest digits that are exact are enough. -/
lemma fraction_fractionText {nano : ℕ} (h : nano < nanosPerSecond) :
    fraction (fractionText nano ++ 'Z' :: s) = some (nano, 'Z' :: s) := by
  have hs : EndsDigits ('Z' :: s) := endsDigits_cons (by decide) s
  rw [nanosPerSecond] at h
  rw [fractionText]
  split_ifs with hzero hmilli hmicro
  · rw [hzero]
    rfl
  · rw [List.cons_append, fraction_padded (by decide) (by decide) (by omega) hs]
    congr 2
    omega
  · rw [List.cons_append, fraction_padded (by decide) (by decide) (by omega) hs]
    congr 2
    omega
  · rw [List.cons_append, fraction_padded (by decide) (by decide) h hs]
    congr 2
    omega

lemma endsDigits_fractionText (nano : ℕ) : EndsDigits (fractionText nano ++ 'Z' :: s) := by
  rw [fractionText]
  split_ifs <;> exact endsDigits_cons (by decide) _

/-! ### Dates and times of day -/

lemma date_printed {d : Calendar.Date} (hd : d.exists = true) (hs : EndsDigits s) :
    date (yearText d.year ++ '-' :: (padded 2 d.month ++ '-' :: (padded 2 d.day ++ s))) =
      some (d, s) := by
  obtain ⟨hmonth, hday⟩ := Calendar.Date.bounds_of_exists hd
  have hdash (rest : List Char) : EndsDigits ('-' :: rest) := endsDigits_cons (by decide) rest
  simp only [date, year_yearText _ (hdash _), literal_cons (by decide : isBlank '-' = false),
    column_padded hmonth.1 hmonth.2 (by omega) (hdash _),
    column_padded hday.1 hday.2 (by omega) hs, Option.bind_eq_bind, Option.bind_some]
  exact if_pos hd

/-- The second that is printed is one more in a leap second. -/
lemma time_printed (t : Instant) :
    time (padded 2 (t.second / 3600) ++ ':' :: (padded 2 (t.second / 60 % 60) ++
      ':' :: (padded 2 (t.second % 60 + if t.isLeap then 1 else 0) ++
        (fractionText (t.nano % nanosPerSecond) ++ 'Z' :: s)))) =
      some ((t.second, t.nano), 'Z' :: s) := by
  have hsecond : t.second < 86400 := t.second_lt
  have hhour : t.second / 3600 ≤ 23 := by omega
  have hminute : t.second / 60 % 60 ≤ 59 := by omega
  have hmost : t.second % 60 + (if t.isLeap then 1 else 0) ≤ 60 := by
    split_ifs <;> omega
  have hcolon (rest : List Char) : EndsDigits (':' :: rest) := endsDigits_cons (by decide) rest
  have hstart : (t.second / 3600 * 60 + t.second / 60 % 60) * 60 + t.second % 60 = t.second := by
    omega
  simp only [time, literal_cons (by decide : isBlank ':' = false), Option.bind_eq_bind,
    Option.bind_some, column_padded (Nat.zero_le _) hhour (by omega) (hcolon _),
    column_padded (Nat.zero_le _) hminute (by omega) (hcolon _),
    column_padded (Nat.zero_le _) hmost (by omega) (endsDigits_fractionText _),
    fraction_fractionText (Nat.mod_lt t.nano (by decide : 0 < nanosPerSecond))]
  cases hleap : t.isLeap with
  | false =>
    have hnano : t.nano < nanosPerSecond := by simpa [isLeap] using hleap
    have hne : t.second % 60 ≠ 60 := by omega
    simp [hne, hstart, Nat.mod_eq_of_lt hnano]
  | true =>
    have hnano : nanosPerSecond ≤ t.nano := by simpa [isLeap] using hleap
    have hlast := t.leap hnano
    have hnano' : nanosPerSecond + t.nano % nanosPerSecond = t.nano := by
      have hmost := t.nano_lt
      rw [nanosPerSecond] at hnano hmost ⊢
      omega
    have hstart' : (t.second / 3600 * 60 + t.second / 60 % 60) * 60 + 59 = t.second := by omega
    simp [hlast, hnano', hstart']

/-! ### Instants -/

lemma ofParts?_self (t : Instant) : ofParts? t.day t.second t.nano = some t :=
  dif_pos ⟨t.firstDay_le, t.le_lastDay, t.second_lt, t.nano_lt, t.leap⟩

lemma ofLocal?_ofDays (t : Instant) :
    ofLocal? (Calendar.Date.ofDays t.day) t.second t.nano 0 = some t := by
  have hsecond : (t.second : Int) < 86400 := by exact_mod_cast t.second_lt
  have hday : ((t.second : Int) - 0) / secondsPerDay = 0 := by
    rw [secondsPerDay]
    omega
  have hrest : (((t.second : Int) - 0) % secondsPerDay).toNat = t.second := by
    rw [secondsPerDay]
    omega
  simp only [ofLocal?, Calendar.Date.toDays_ofDays, ofParts?_self, Option.bind_eq_bind,
    Option.bind_some, hday, hrest, add_zero]

/-- Every instant that is printed is read back. -/
theorem ofText?_text (t : Instant) : ofText? t.text = some t := by
  have hdate := Calendar.Date.exists_ofDays t.day
  have hs (rest : List Char) : EndsDigits ('T' :: rest) := endsDigits_cons (by decide) rest
  rw [ofText?, text, String.toList_ofList, toChars]
  simp only [List.append_assoc, List.cons_append, date_printed hdate (hs _), time_printed t,
    List.head?_cons, List.tail_cons, Option.bind_eq_bind, Option.bind_some]
  have hoffset : offset (trimStart ['Z']) = some (0, []) := rfl
  rw [hoffset, Option.bind_some, if_pos (by decide)]
  exact (if_pos rfl).trans (ofLocal?_ofDays t)

end ImageRetention.Instant
