import Mathlib.Algebra.Group.Nat.Defs
import TableMachine.Instant.Reader
import TableMachine.Proofs.Calendar

/-!
# Instants written and read

An instant that a text can tell is read back from the text in which it is written, and only such
instants are ever read. The text has no blanks, so each reader is met by the digits that it takes,
and stops at the mark that follows them.
-/

namespace TableMachine

/-- No digit stands in front. -/
def Numeral.Ends (cs : List Char) : Prop :=
  ∀ c ∈ cs.head?, c.isDigit = false

namespace Numeral

theorem digit?_of_isDigit {c : Char} (digit : c.isDigit = true) :
    digit? c = some (c.toNat - '0'.toNat) :=
  if_pos digit

theorem value_filterMap {ds : List Char} (digits : ∀ c ∈ ds, c.isDigit = true) :
    value (ds.filterMap digit?) = Nat.ofDigitChars 10 ds 0 := by
  -- The induction starts from whatever the digits before these are worth.
  have general : ∀ start : Nat, (ds.filterMap digit?).foldl (fun n d => 10 * n + d) start =
      Nat.ofDigitChars 10 ds start := by
    induction ds with
    | nil => exact fun _ => rfl
    | cons c rest ih =>
      intro start
      rw [List.filterMap_cons, digit?_of_isDigit (digits c List.mem_cons_self)]
      exact ih (fun d member => digits d (List.mem_cons_of_mem _ member)) _
  exact general 0

theorem ofDigitChars_lt {ds : List Char} (digits : ∀ c ∈ ds, c.isDigit = true) :
    Nat.ofDigitChars 10 ds 0 < 10 ^ ds.length := by
  induction ds with
  | nil => exact Nat.one_pos
  | cons c rest ih =>
    have bounds : 48 ≤ c.toNat ∧ c.toNat ≤ 57 :=
      Char.isDigit_iff_toNat.mp (digits c List.mem_cons_self)
    have later := ih fun d member => digits d (List.mem_cons_of_mem _ member)
    have zero : '0'.toNat = 48 := rfl
    have first : 10 ^ rest.length * (10 * 0 + (c.toNat - '0'.toNat)) ≤ 10 ^ rest.length * 9 :=
      Nat.mul_le_mul_left _ (by omega)
    rw [Nat.ofDigitChars_cons, Nat.ofDigitChars_eq_ofDigitChars_zero, List.length_cons, Nat.pow_succ]
    omega

theorem takeWhile_digits {ds rest : List Char} (digits : ∀ c ∈ ds, c.isDigit = true)
    (ends : Ends rest) : (ds ++ rest).takeWhile Char.isDigit = ds := by
  rw [List.takeWhile_append_of_pos digits]
  cases rest with
  | nil => simp
  | cons c rest => simp [ends c rfl]

theorem dropWhile_digits {ds rest : List Char} (digits : ∀ c ∈ ds, c.isDigit = true)
    (ends : Ends rest) : (ds ++ rest).dropWhile Char.isDigit = rest := by
  have whole := List.takeWhile_append_dropWhile (p := Char.isDigit) (l := ds ++ rest)
  rw [takeWhile_digits digits ends] at whole
  exact List.append_cancel_left whole

end Numeral

namespace Text

theorem isBlank_of_isDigit {c : Char} (digit : c.isDigit = true) : isBlank c = false := by
  have bounds : 48 ≤ c.toNat ∧ c.toNat ≤ 57 := Char.isDigit_iff_toNat.mp digit
  simp only [isBlank, blankRanges, List.any_cons, List.any_nil, Bool.or_false, Bool.or_eq_false_iff,
    Bool.and_eq_false_iff, decide_eq_false_iff_not]
  omega

theorem skipBlanks_cons {c : Char} (mark : isBlank c = false) (cs : List Char) :
    skipBlanks (c :: cs) = c :: cs := by
  simp [skipBlanks, mark]

end Text

namespace Instant

open Numeral

section Digits

variable {width n : Nat}

theorem toList_padded (width n : Nat) : (padded width n).toList =
    List.replicate (width - (Nat.toDigits 10 n).length) '0' ++ Nat.toDigits 10 n := by
  simp only [padded, Nat.toString_eq_ofList_toDigits, String.toList_append, String.toList_ofList,
    String.length_ofList]

theorem isDigit_of_mem_padded {c : Char} (member : c ∈ (padded width n).toList) :
    c.isDigit = true := by
  rw [toList_padded, List.mem_append] at member
  rcases member with zero | digit
  · rw [List.eq_of_mem_replicate zero]
    rfl
  · exact Nat.isDigit_of_mem_toDigits (by decide) (by decide) digit

theorem ofDigitChars_padded (width n : Nat) :
    Nat.ofDigitChars 10 (padded width n).toList 0 = n := by
  rw [toList_padded, Nat.ofDigitChars_append, Nat.ofDigitChars_replicate_zero, Nat.mul_zero,
    Nat.ofDigitChars_ten_toDigits]

theorem padded_ne_nil (width n : Nat) : (padded width n).toList ≠ [] := by
  rw [toList_padded]
  simp [Nat.toDigits_ne_nil]

/-- A digit stands in front. -/
theorem padded_eq_cons (width n : Nat) :
    ∃ c more, (padded width n).toList = c :: more ∧ c.isDigit = true := by
  obtain ⟨c, more, digits⟩ := List.exists_cons_of_ne_nil (padded_ne_nil width n)
  exact ⟨c, more, digits, isDigit_of_mem_padded (digits ▸ List.mem_cons_self)⟩

/-- A number that fits into the width is written with just so many digits. -/
theorem length_padded (positive : 0 < width) (fits : n < 10 ^ width) :
    (padded width n).toList.length = width := by
  have digits := (Nat.length_toDigits_le_iff (by decide : 1 < 10) positive).mpr fits
  rw [toList_padded, List.length_append, List.length_replicate]
  omega

end Digits

theorem numeral?_digits {width : Nat} {ds rest : List Char} (filled : ds ≠ [])
    (digits : ∀ c ∈ ds, c.isDigit = true) (fits : ds.length ≤ width) (ends : Ends rest) :
    numeral? width (ds ++ rest) = some (Nat.ofDigitChars 10 ds 0, rest) := by
  have unskipped : Text.skipBlanks (ds ++ rest) = ds ++ rest := by
    obtain ⟨c, more, rfl⟩ := List.exists_cons_of_ne_nil filled
    exact Text.skipBlanks_cons (Text.isBlank_of_isDigit (digits c List.mem_cons_self)) _
  have taken : ((ds ++ rest).takeWhile Char.isDigit).take width = ds := by
    rw [takeWhile_digits digits ends, List.take_of_length_le fits]
  simp only [numeral?, unskipped, taken]
  rw [if_neg (by simpa using filled), value_filterMap digits, List.drop_left]

theorem numeral?_padded {width n : Nat} (positive : 0 < width) (fits : n < 10 ^ width)
    {rest : List Char} (ends : Ends rest) :
    numeral? width ((padded width n).toList ++ rest) = some (n, rest) := by
  rw [numeral?_digits (padded_ne_nil width n) (fun _ => isDigit_of_mem_padded)
    (Nat.le_of_eq (length_padded positive fits)) ends, ofDigitChars_padded]

theorem mark?_cons {c : Char} (mark : Text.isBlank c = false) (cs : List Char) :
    mark? c (c :: cs) = some cs := by
  simp [mark?, Text.skipBlanks_cons mark]

theorem toList_mark_append (mark : Char) (s : String) :
    (String.ofList [mark] ++ s).toList = mark :: s.toList := by
  rw [String.toList_append, String.toList_ofList, List.singleton_append]

theorem signed_padded (n : Nat) {rest : List Char} (ends : Ends rest) :
    year?.signed ((padded 4 n).toList ++ rest) = some (n, rest) := by
  have read : numeral? ((padded 4 n).toList ++ rest).length ((padded 4 n).toList ++ rest) =
      some (n, rest) := by
    rw [numeral?_digits (padded_ne_nil 4 n) (fun _ => isDigit_of_mem_padded) (by simp) ends,
      ofDigitChars_padded]
  obtain ⟨c, more, digits, digit⟩ := padded_eq_cons 4 n
  rw [digits] at read ⊢
  simp only [List.cons_append, year?.signed, digit, if_true]
  exact read

theorem year?_minus (cs : List Char) :
    year? ('-' :: cs) = (year?.signed cs).map fun (n, rest) => (-(n : Int), rest) := rfl

theorem year?_plus (cs : List Char) :
    year? ('+' :: cs) = (year?.signed cs).map fun (n, rest) => ((n : Int), rest) := rfl

theorem year?_digit {c : Char} (digit : c.isDigit = true) (cs : List Char) :
    year? (c :: cs) = (numeral? 4 (c :: cs)).map fun (n, rest) => ((n : Int), rest) := by
  unfold year?
  rw [Text.skipBlanks_cons (Text.isBlank_of_isDigit digit)]
  split
  next minus =>
    cases (List.cons.inj minus).1
    cases digit
  next plus =>
    cases (List.cons.inj plus).1
    cases digit
  next => rfl

/-- A year of four digits has no sign, and any other has one. -/
theorem year?_text (year : Int) {rest : List Char} (ends : Ends rest) :
    year? ((yearText year).toList ++ rest) = some (year, rest) := by
  unfold yearText
  split
  next inside =>
    have read := numeral?_padded (by decide) (show year.natAbs < 10 ^ 4 by omega) ends
    obtain ⟨c, more, digits, digit⟩ := padded_eq_cons 4 year.natAbs
    rw [digits, List.cons_append] at read ⊢
    rw [year?_digit digit, read]
    exact congrArg (fun n => some (n, rest)) (Int.natAbs_of_nonneg inside.1)
  next outside =>
    have read := signed_padded year.natAbs ends
    split
    next below =>
      have value : -(year.natAbs : Int) = year := by omega
      rw [toList_mark_append, List.cons_append, year?_minus, read]
      exact congrArg (fun n => some (n, rest)) value
    next above =>
      have value : (year.natAbs : Int) = year := by omega
      rw [toList_mark_append, List.cons_append, year?_plus, read]
      exact congrArg (fun n => some (n, rest)) value

theorem ends_cons {c : Char} (mark : c.isDigit = false) (cs : List Char) : Ends (c :: cs) := by
  rintro d ⟨⟩
  exact mark

/-- The date as a text has it. -/
def dateChars (d : Date) : List Char :=
  (yearText d.year).toList ++ '-' :: ((padded 2 d.month).toList ++ '-' :: (padded 2 d.day).toList)

theorem date?_chars {d : Date} (month : d.month < 100) (day : d.day < 100) {rest : List Char}
    (ends : Ends rest) : date? (dateChars d ++ rest) = some (d, rest) := by
  have dash : ∀ cs, Ends ('-' :: cs) := ends_cons (by decide)
  have marked : ∀ cs, mark? '-' ('-' :: cs) = some cs := mark?_cons (by decide)
  simp only [date?, dateChars, List.append_assoc, List.cons_append, year?_text _ (dash _), marked,
    numeral?_padded (by decide : 0 < 2) month (dash _), numeral?_padded (by decide : 0 < 2) day ends,
    Option.bind_eq_bind, Option.bind_some, Option.pure_def]

theorem fraction?_padded {width n : Nat} (positive : 0 < width) (most : width ≤ 9)
    (fits : n < 10 ^ width) {rest : List Char} (ends : Ends rest) :
    fraction? (("." ++ padded width n).toList ++ rest) =
      some (n * 10 ^ (9 - width), rest) := by
  have digits : ∀ c ∈ (padded width n).toList, c.isDigit = true := fun _ => isDigit_of_mem_padded
  have length := length_padded positive fits
  have taken : (((padded width n).toList ++ rest).takeWhile Char.isDigit).take 9 =
      (padded width n).toList := by
    rw [takeWhile_digits digits ends, List.take_of_length_le (by omega)]
  have left : ((padded width n).toList ++ rest).dropWhile Char.isDigit = rest :=
    dropWhile_digits digits ends
  have filled : (padded width n).toList.isEmpty = false := by
    simpa using padded_ne_nil width n
  rw [toList_mark_append, List.cons_append]
  simp only [fraction?, taken, left, filled, Bool.false_eq_true, if_false, length,
    value_filterMap digits, ofDigitChars_padded]
  rfl

theorem fraction?_text {nanos : Nat} (bound : nanos < nanosPerSecond) (cs : List Char) :
    fraction? ((fractionText nanos).toList ++ 'Z' :: cs) = some (nanos, 'Z' :: cs) := by
  have ends : Ends ('Z' :: cs) := ends_cons (by decide) cs
  unfold nanosPerSecond at bound
  unfold fractionText
  split
  next zero =>
    subst zero
    rfl
  next =>
    split
    next millis =>
      rw [fraction?_padded (by decide) (by decide) (by omega) ends]
      exact congrArg (fun n => some (n, 'Z' :: cs)) (by omega)
    next =>
      split
      next micros =>
        rw [fraction?_padded (by decide) (by decide) (by omega) ends]
        exact congrArg (fun n => some (n, 'Z' :: cs)) (by omega)
      next =>
        rw [fraction?_padded (by decide) (by decide) (by omega) ends]
        exact congrArg (fun n => some (n, 'Z' :: cs)) (by omega)

/-- The time of day as a text has it, up to the `Z`. -/
def timeChars (hour minute second nanos : Nat) : List Char :=
  (padded 2 hour).toList ++ ':' :: ((padded 2 minute).toList ++ ':' ::
    ((padded 2 second).toList ++ (fractionText nanos).toList))

theorem ends_fractionText (nanos : Nat) (cs : List Char) :
    Ends ((fractionText nanos).toList ++ 'Z' :: cs) := by
  have point : ∀ width n, Ends (("." ++ padded width n).toList ++ 'Z' :: cs) := by
    intro width n
    rw [toList_mark_append]
    exact ends_cons (by decide) _
  unfold fractionText
  split
  · exact ends_cons (by decide) cs
  · split
    · exact point _ _
    · split <;> exact point _ _

/-- Second 60 is a whole second of nanoseconds after second 59. -/
theorem time?_chars {hour minute second nanos : Nat} (hours : hour ≤ 23) (minutes : minute ≤ 59)
    (seconds : second ≤ 60) (bound : nanos < nanosPerSecond) (cs : List Char) :
    time? (timeChars hour minute second nanos ++ 'Z' :: cs) =
      if second = 60 then some (hour * 3600 + minute * 60 + 59, nanosPerSecond + nanos, 'Z' :: cs)
      else some (hour * 3600 + minute * 60 + second, nanos, 'Z' :: cs) := by
  have colon : ∀ cs, Ends (':' :: cs) := ends_cons (by decide)
  have marked : ∀ cs, mark? ':' (':' :: cs) = some cs := mark?_cons (by decide)
  simp only [time?, timeChars, List.append_assoc, List.cons_append, marked,
    numeral?_padded (by decide : 0 < 2) (by omega : hour < 10 ^ 2) (colon _),
    numeral?_padded (by decide : 0 < 2) (by omega : minute < 10 ^ 2) (colon _),
    numeral?_padded (by decide : 0 < 2) (by omega : second < 10 ^ 2) (ends_fractionText nanos cs),
    fraction?_text bound, Option.bind_eq_bind, Option.bind_some, Option.pure_def,
    if_pos (⟨hours, minutes, seconds⟩ : hour ≤ 23 ∧ minute ≤ 59 ∧ second ≤ 60)]

/-- What a text can tell: the year is one of the calendar, and the nanoseconds pass a second only
where they tell a leap second, which follows the last second of a minute. -/
structure Proper (t : Instant) : Prop where
  year : Date.inRange (Date.ofDays t.day).year = true
  nanos : t.nanos < nanosPerSecond ∨ t.nanos < 2 * nanosPerSecond ∧ t.seconds % 60 = 59

/-- The time of day of an instant as its text has it, with second 60 for a leap second. -/
def clockChars (t : Instant) : List Char :=
  timeChars (t.secondOfDay.toNat / 3600) (t.secondOfDay.toNat / 60 % 60)
    (t.secondOfDay.toNat % 60 + if nanosPerSecond ≤ t.nanos then 1 else 0)
    (t.nanos % nanosPerSecond)

theorem toList_text (t : Instant) :
    t.text.toList = dateChars (Date.ofDays t.day) ++ 'T' :: (t.clockChars ++ ['Z']) := by
  simp [text, dateChars, clockChars, timeChars, String.toList_append]

theorem time?_clockChars {t : Instant} (proper : t.Proper) (cs : List Char) :
    time? (t.clockChars ++ 'Z' :: cs) = some (t.secondOfDay.toNat, t.nanos, 'Z' :: cs) := by
  have short : t.secondOfDay.toNat < 86400 := by
    unfold secondOfDay
    omega
  have nanos := proper.nanos
  have below : t.nanos % nanosPerSecond < nanosPerSecond := Nat.mod_lt _ (by decide)
  unfold clockChars
  by_cases leap : nanosPerSecond ≤ t.nanos
  · have closing : t.secondOfDay.toNat % 60 = 59 := by
      unfold secondOfDay
      omega
    rw [if_pos leap, time?_chars (by omega) (by omega) (by omega) below, if_pos (by omega)]
    have seconds : t.secondOfDay.toNat / 3600 * 3600 + t.secondOfDay.toNat / 60 % 60 * 60 + 59 =
        t.secondOfDay.toNat := by omega
    have whole : nanosPerSecond + t.nanos % nanosPerSecond = t.nanos := by
      unfold nanosPerSecond at *
      omega
    rw [seconds, whole]
  · rw [if_neg leap, time?_chars (by omega) (by omega) (by omega) below, if_neg (by omega)]
    have seconds : t.secondOfDay.toNat / 3600 * 3600 + t.secondOfDay.toNat / 60 % 60 * 60 +
        (t.secondOfDay.toNat % 60 + 0) = t.secondOfDay.toNat := by omega
    rw [seconds, Nat.mod_eq_of_lt (Nat.not_le.mp leap)]

/-- An instant is read back as it was written. -/
theorem ofText?_text {t : Instant} (proper : t.Proper) : ofText? t.text = some t := by
  have valid := Date.isValid_ofDays proper.year
  obtain ⟨month, day⟩ := Date.month_day_le valid
  have date := date?_chars (d := Date.ofDays t.day) (by omega) (by omega)
    (ends_cons (by decide : 'T'.isDigit = false) (t.clockChars ++ ['Z']))
  have instant : (⟨t.day * 86400 + t.secondOfDay.toNat - 0, t.nanos⟩ : Instant) = t := by
    have seconds : t.day * 86400 + t.secondOfDay.toNat - 0 = t.seconds := by
      unfold Instant.day secondOfDay
      omega
    rw [seconds]
  have zulu : offset? ['Z'] = some (0, []) := rfl
  simp only [ofText?, toList_text, date, time?_clockChars proper, zulu, Date.toDays_ofDays, instant,
    Option.bind_eq_bind, Option.bind_some, Option.pure_def, true_or, if_true, valid, proper.year]
  rfl

theorem nanos_of_fraction? {cs rest : List Char} {nanos : Nat}
    (read : fraction? cs = some (nanos, rest)) : nanos < nanosPerSecond := by
  unfold fraction? at read
  split at read
  next more =>
    simp only at read
    split at read
    · cases read
    · cases read
      have digits : ∀ c ∈ (more.takeWhile Char.isDigit).take 9, c.isDigit = true := fun c member =>
        List.all_eq_true.mp List.all_takeWhile c (List.mem_of_mem_take member)
      have length : ((more.takeWhile Char.isDigit).take 9).length ≤ 9 := List.length_take_le _ _
      rw [value_filterMap digits]
      generalize (more.takeWhile Char.isDigit).take 9 = ds at digits length ⊢
      calc Nat.ofDigitChars 10 ds 0 * 10 ^ (9 - ds.length)
          < 10 ^ ds.length * 10 ^ (9 - ds.length) :=
            Nat.mul_lt_mul_of_pos_right (ofDigitChars_lt digits) (Nat.pow_pos (by decide))
        _ = nanosPerSecond := by
          rw [← Nat.pow_add, Nat.add_sub_cancel' length]
          rfl
  · cases read
    decide

/-- The nanoseconds pass a second only for second 60, which is told as second 59 of its minute. -/
theorem nanos_of_time? {cs rest : List Char} {second nanos : Nat}
    (read : time? cs = some (second, nanos, rest)) :
    nanos < nanosPerSecond ∨ nanos < 2 * nanosPerSecond ∧ second % 60 = 59 := by
  simp only [time?, Option.bind_eq_bind, Option.bind_eq_some_iff] at read
  obtain ⟨⟨hour, _⟩, _, _, _, ⟨minute, _⟩, _, _, _, ⟨count, _⟩, _, ⟨fraction, _⟩, kept, read⟩ := read
  have bound := nanos_of_fraction? kept
  split at read
  · split at read
    · cases read
      refine .inr ⟨?_, ?_⟩ <;> omega
    · cases read
      exact .inl bound
  · cases read

theorem minutes_of_hoursAndMinutes? {cs rest : List Char} {offset : Int}
    (read : hoursAndMinutes? cs = some (offset, rest)) : offset % 60 = 0 := by
  simp only [hoursAndMinutes?, Option.bind_eq_bind, Option.bind_eq_some_iff] at read
  obtain ⟨_, _, _, _, read⟩ := read
  split at read
  · cases read
    omega
  · cases read

/-- Local time is ahead by whole minutes. -/
theorem minutes_of_offset? {cs rest : List Char} {offset : Int}
    (read : offset? cs = some (offset, rest)) : offset % 60 = 0 := by
  unfold offset? at read
  split at read
  · cases read
    rfl
  · cases read
    rfl
  · exact minutes_of_hoursAndMinutes? read
  · obtain ⟨⟨ahead, _⟩, found, same⟩ := Option.map_eq_some_iff.mp read
    cases same
    have minutes := minutes_of_hoursAndMinutes? found
    omega
  · obtain ⟨⟨ahead, _⟩, found, same⟩ := Option.map_eq_some_iff.mp read
    cases same
    have minutes := minutes_of_hoursAndMinutes? found
    omega
  · split at read
    · cases read
      rfl
    · cases read
  · cases read

theorem proper_of_ofText? {s : String} {t : Instant} (read : ofText? s = some t) : t.Proper := by
  simp only [ofText?, Option.bind_eq_bind, Option.bind_eq_some_iff] at read
  obtain ⟨⟨date, _⟩, _, read⟩ := read
  split at read
  · split at read
    · simp only [Option.bind_eq_some_iff] at read
      obtain ⟨⟨second, nanos, _⟩, time, ⟨offset, _⟩, found, read⟩ := read
      split at read
      next accepted =>
        cases read
        refine ⟨accepted.2.2, (nanos_of_time? time).imp_right fun ⟨leap, closing⟩ => ⟨leap, ?_⟩⟩
        have minutes := minutes_of_offset? found
        simp only
        omega
      · cases read
    · cases read
  · cases read

end Instant

end TableMachine
