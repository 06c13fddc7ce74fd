import OpenBanking.Proofs.Text.Padded
import OpenBanking.Proofs.TokenRequest.Beginning

/-!
# Execution dates

Month and day always take two digits each, so the text of a date splits into its parts from the end,
whatever the year takes: no two days have one text. The days of the years from zero to 9999 all take
eight digits, which compare as texts like the days in the calendar.
-/

namespace OpenBanking

open Text (padded ofDigits)

namespace Date

/-! ## Parts of a date -/

/-- Months are counted from one to twelve. -/
theorem month_mem (date : Date) : 1 ≤ date.month ∧ date.month ≤ 12 := by
  have least := Nat.le_trans date.day_mem.1 date.day_mem.2
  unfold daysOfMonth at least
  split at least <;> omega

/-- No month has more than thirty-one days. -/
theorem day_le (date : Date) : date.day ≤ 31 := by
  refine Nat.le_trans date.day_mem.2 ?_
  unfold daysOfMonth
  have february : (if isLeapYear date.year then 29 else 28) ≤ 31 := by split <;> decide
  split <;> first | exact february | decide

/-- The digits of month and day. -/
def dayDigits (date : Date) : List Nat :=
  [date.month / 10, date.month % 10, date.day / 10, date.day % 10]

/-- A date is written as its year and the digits of month and day. -/
theorem toList_compact (date : Date) :
    date.compact.toList = yearChars date.year ++ date.dayDigits.map Nat.digitChar := by
  have month := date.month_mem
  have day := date.day_le
  rw [compact, String.toList_ofList, Text.padded_two (by omega), Text.padded_two (by omega),
    List.append_assoc]
  rfl

/-! ## Texts tell dates -/

/-- Digits are no signs. -/
theorem sign_not_mem_padded {sign : Char} (isSign : sign = '-' ∨ sign = '+') (width n : Nat) :
    sign ∉ padded width n := by
  have apart : ∀ digit < 10, Nat.digitChar digit ≠ '-' ∧ Nat.digitChar digit ≠ '+' := by decide
  intro held
  obtain ⟨digit, small, rfl⟩ := Text.exists_digit_of_mem_padded held
  rcases isSign with minus | plus
  · exact (apart digit small).1 minus
  · exact (apart digit small).2 plus

/-- The text of a year tells the year. -/
theorem yearChars_inj {year other : Int} (same : yearChars year = yearChars other) : year = other := by
  have noMinus (n : Nat) : '-' ∉ yearChars (.ofNat n) := by
    rw [yearChars]
    split
    · exact sign_not_mem_padded (.inl rfl) 4 n
    · exact List.not_mem_cons_of_ne_of_not_mem (by decide) (sign_not_mem_padded (.inl rfl) 4 n)
  have minus (n : Nat) : '-' ∈ yearChars (.negSucc n) := List.mem_cons_self
  cases year with
  | negSucc m =>
    cases other with
    | negSucc n =>
      have digits := Text.padded_inj (List.cons.inj same).2
      rw [Nat.succ_inj.1 digits]
    | ofNat n => exact absurd (same ▸ minus m) (noMinus n)
  | ofNat m =>
    cases other with
    | negSucc n => exact absurd (same ▸ minus n) (noMinus m)
    | ofNat n =>
      simp only [yearChars] at same
      -- Behind a sign stands a year of more than four digits, without one another.
      split at same <;> split at same
      · rw [Text.padded_inj same]
      · exact absurd (same ▸ List.mem_cons_self) (sign_not_mem_padded (.inr rfl) 4 m)
      · exact absurd (same ▸ List.mem_cons_self) (sign_not_mem_padded (.inr rfl) 4 n)
      · rw [Text.padded_inj (List.cons.inj same).2]

/-- The text of a date tells the date. -/
theorem compact_inj {date other : Date} : date.compact = other.compact ↔ date = other := by
  refine ⟨fun same => ?_, congrArg compact⟩
  have chars := congrArg String.toList same
  rw [toList_compact, toList_compact] at chars
  obtain ⟨years, days⟩ := List.append_inj' chars rfl
  have apart : ∀ a < 10, ∀ b < 10, Nat.digitChar a = Nat.digitChar b → a = b := by decide
  have := date.month_mem
  have := other.month_mem
  have := date.day_le
  have := other.day_le
  obtain ⟨tens, ones, dayTens, dayOnes⟩ : date.month / 10 = other.month / 10 ∧
      date.month % 10 = other.month % 10 ∧ date.day / 10 = other.day / 10 ∧
      date.day % 10 = other.day % 10 := by
    simp only [dayDigits, List.map_cons, List.map_nil, List.cons.injEq, and_true] at days
    exact ⟨apart _ (by omega) _ (by omega) days.1, apart _ (by omega) _ (by omega) days.2.1,
      apart _ (by omega) _ (by omega) days.2.2.1, apart _ (by omega) _ (by omega) days.2.2.2⟩
  have year := yearChars_inj years
  have month : date.month = other.month := by omega
  have day : date.day = other.day := by omega
  cases date
  cases other
  cases year
  cases month
  cases day
  rfl

/-! ## Texts order dates -/

/-- Days come in the order of the calendar: by year, then by month, then by day. -/
instance : LT Date where
  lt date other := date.year < other.year ∨ date.year = other.year ∧
    (date.month < other.month ∨ date.month = other.month ∧ date.day < other.day)

/-- The year is one of four digits. -/
def HasPlainYear (date : Date) : Prop := 0 ≤ date.year ∧ date.year ≤ 9999
deriving Decidable

/-- Four digits of the year, two of the month and two of the day. -/
def digits (date : Date) : List Nat :=
  let year := date.year.toNat
  [year / 1000, year / 100 % 10, year / 10 % 10, year % 10] ++ date.dayDigits

/-- A date of a plain year is written with its eight digits. -/
theorem HasPlainYear.toList_compact {date : Date} (plain : date.HasPlainYear) :
    date.compact.toList = date.digits.map Nat.digitChar := by
  obtain ⟨positive, below⟩ := plain
  obtain ⟨n, year⟩ := Int.eq_ofNat_of_zero_le positive
  have year : date.year = .ofNat n := year
  rw [Date.toList_compact, digits, List.map_append, year, yearChars, if_pos (by omega),
    Text.padded_four (by omega)]
  rfl

/-- They are decimal digits. -/
theorem HasPlainYear.digits_lt {date : Date} (plain : date.HasPlainYear) :
    ∀ digit ∈ date.digits, digit < 10 := by
  have year := plain.2
  have month := date.month_mem
  have day := date.day_le
  simp only [digits, dayDigits, List.cons_append, List.nil_append, List.forall_mem_cons]
  refine ⟨?_, ?_, ?_, ?_, ?_, ?_, ?_, ?_, by simp⟩ <;> omega

/-- They denote the year times ten thousand, the month times a hundred and the day in all. -/
theorem ofDigits_digits (date : Date) :
    ofDigits date.digits = 10000 * date.year.toNat + 100 * date.month + date.day := by
  simp only [digits, dayDigits, ofDigits, List.cons_append, List.nil_append, List.foldl_cons,
    List.foldl_nil]
  omega

/-- Texts of dates of plain years compare like the dates. -/
theorem HasPlainYear.compact_lt_iff {date other : Date} (plain : date.HasPlainYear)
    (plainToo : other.HasPlainYear) : date.compact < other.compact ↔ date < other := by
  have := date.month_mem
  have := other.month_mem
  have := date.day_le
  have := other.day_le
  have := plain.1
  have := plainToo.1
  calc date.compact < other.compact
      ↔ date.digits.map Nat.digitChar < other.digits.map Nat.digitChar := by
        rw [← plain.toList_compact, ← plainToo.toList_compact]
        rfl
    _ ↔ ofDigits date.digits < ofDigits other.digits :=
        Text.map_digitChar_lt_iff rfl plain.digits_lt plainToo.digits_lt
    _ ↔ date < other := by
        rw [ofDigits_digits, ofDigits_digits]
        change _ ↔ date.year < other.year ∨ date.year = other.year ∧
          (date.month < other.month ∨ date.month = other.month ∧ date.day < other.day)
        omega

/-- No date has an empty text. -/
theorem compact_ne_empty (date : Date) : date.compact ≠ "" := by
  intro empty
  have chars := date.toList_compact
  rw [empty] at chars
  exact absurd (congrArg List.length chars) (by simp [dayDigits])

end Date

/-! ## Requests -/

/-- The execution date of a request for a transfer. -/
def TokenRequest.executionDate? (request : TokenRequest) : Option String :=
  request.payload.body.transfer?.map (·.executionDate)

/-- The date that a transfer was told last. -/
def lastExecutionDate? (settings : List TransferSetting) : Option Date :=
  (Sheet.of settings).last? .executionDate

namespace Beginning

/-- A request has the text of the date that was told last, or an empty one. -/
theorem executionDate?_request (amount : Double) (currency : String)
    (settings : List TransferSetting) : ((transfer amount currency).request settings).executionDate? =
      some (((lastExecutionDate? settings).map Date.compact).getD "") := by
  rw [request_eq]
  rfl

/-- Texts of dates that may be missing tell the dates. -/
theorem getD_compact_inj {date other : Option Date} :
    (date.map Date.compact).getD "" = (other.map Date.compact).getD "" ↔ date = other := by
  cases date with
  | none =>
    cases other with
    | none => simp
    | some other => simpa using other.compact_ne_empty.symm
  | some date =>
    cases other with
    | none => simpa using date.compact_ne_empty
    | some other => simpa using Date.compact_inj

variable (amount otherAmount : Double) (currency otherCurrency : String)
  (settings otherSettings : List TransferSetting)

/-- The execution dates of two requests are the same texts exactly if the dates that were told last
are the same. For a year from zero to 9999 the text is four digits of the year, two of the month and
two of the day, and two such texts compare like the dates in the calendar. -/
theorem executionDate_tells_date :
    (((transfer amount currency).request settings).executionDate? =
      ((transfer otherAmount otherCurrency).request otherSettings).executionDate? ↔
        lastExecutionDate? settings = lastExecutionDate? otherSettings) ∧
    (∀ date, lastExecutionDate? settings = some date → date.HasPlainYear →
      ∃ text, ((transfer amount currency).request settings).executionDate? = some text ∧
        text.toList = date.digits.map Nat.digitChar ∧ date.digits.length = 8 ∧
        ∀ digit ∈ date.digits, digit < 10) ∧
    ∀ date other, lastExecutionDate? settings = some date → date.HasPlainYear →
      lastExecutionDate? otherSettings = some other → other.HasPlainYear →
      ∃ text otherText, ((transfer amount currency).request settings).executionDate? = some text ∧
        ((transfer otherAmount otherCurrency).request otherSettings).executionDate? = some otherText ∧
        (text < otherText ↔ date < other) := by
  simp only [executionDate?_request]
  refine ⟨by rw [Option.some.injEq, getD_compact_inj], ?_, ?_⟩
  · intro date last plain
    exact ⟨date.compact, by rw [last]; rfl, plain.toList_compact, rfl, plain.digits_lt⟩
  · intro date other last plain lastToo plainToo
    exact ⟨date.compact, other.compact, by rw [last]; rfl, by rw [lastToo]; rfl,
      plain.compact_lt_iff plainToo⟩

/-- The twenty-ninth of February 2024, which replaces an earlier date, has an earlier text than the
first of October. -/
theorem executionDate_tells_date_of_leap_day :
    ∃ text otherText, ((transfer ⟨0x3FB999999999999A⟩ "EUR").request
        [.executionDate ⟨2023, 12, 1, by decide, by decide⟩,
          .executionDate ⟨2024, 2, 29, by decide, by decide⟩]).executionDate? = some text ∧
      ((transfer ⟨0⟩ "USD").request
        [.executionDate ⟨2024, 10, 1, by decide, by decide⟩]).executionDate? = some otherText ∧
      text < otherText := by
  let leapDay : Date := ⟨2024, 2, 29, by decide, by decide⟩
  let october : Date := ⟨2024, 10, 1, by decide, by decide⟩
  obtain ⟨text, otherText, first, second, order⟩ :=
    (executionDate_tells_date ⟨0x3FB999999999999A⟩ ⟨0⟩ "EUR" "USD"
      [.executionDate ⟨2023, 12, 1, by decide, by decide⟩, .executionDate leapDay]
      [.executionDate october]).2.2 leapDay october rfl (by decide) rfl (by decide)
  exact ⟨text, otherText, first, second, order.2 (.inr ⟨rfl, .inl (by decide)⟩)⟩

end Beginning

end OpenBanking
