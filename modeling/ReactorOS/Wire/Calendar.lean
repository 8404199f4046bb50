import ReactorOS.Wire.TextOrder
namespace Wire

def isLeapYear (year : Int) : Bool := year%4 = 0 && (year%100 ≠ 0 || year%400 = 0)

def monthLengths (year : Int) : List Nat := [31,if isLeapYear year then 29 else 28,31,30,31,30,31,31,30,31,30,31]

-- The day of the year from 1, the seconds since midnight, and nanoseconds that go on through
-- a leap second after the last second of a minute.
structure DateTime where
  year : Int
  ordinal : Nat
  secs : Nat
  nanos : Nat
  inYear : 1 ≤ ordinal ∧ ordinal ≤ (monthLengths year).sum
  inDay : secs < 86400
  inSecond : nanos < 1000000000 ∨ nanos < 2000000000 ∧ secs%60 = 59
  deriving DecidableEq

namespace DateTime
variable {one other : DateTime}

instance : LT DateTime := ⟨fun one other => one.year < other.year ∨ one.year = other.year ∧
  (one.ordinal < other.ordinal ∨ one.ordinal = other.ordinal ∧
    (one.secs < other.secs ∨ one.secs = other.secs ∧ one.nanos < other.nanos))⟩

instance : LE DateTime := ⟨fun one other => ¬other < one⟩

theorem lt_iff : one < other ↔ one.year < other.year ∨ one.year = other.year ∧
    (one.ordinal < other.ordinal ∨ one.ordinal = other.ordinal ∧
      (one.secs < other.secs ∨ one.secs = other.secs ∧ one.nanos < other.nanos)) := Iff.rfl

theorem le_iff : one ≤ other ↔ ¬other < one := Iff.rfl

instance (one other : DateTime) : Decidable (one < other) := decidable_of_iff' _ lt_iff

instance (one other : DateTime) : Decidable (one ≤ other) := decidable_of_iff' _ le_iff

end DateTime

-- The days from the start of the year 0 to that of the year.
def daysBefore (year : Int) : Int := 365*year + (year+3)/4 - (year+99)/100 + (year+399)/400

-- Nanoseconds since the start of the year 0.
def DateTime.elapsed (time : DateTime) : Int :=
  ((daysBefore time.year + time.ordinal - 1)*86400 + time.secs)*1000000000 + time.nanos

-- The month and its day, with the lengths of the months from one on.
def monthDay : List Nat → Nat → Nat → Nat × Nat
  | [],month,day => (month,day)
  | length :: rest,month,day => if day ≤ length then (month,day) else monthDay rest (month+1) (day-length)

theorem monthDay_range {lengths : List Nat} {month day : Nat} (inside : 1 ≤ day ∧ day ≤ lengths.sum) :
    month ≤ (monthDay lengths month day).1 ∧ (monthDay lengths month day).1 < month+lengths.length ∧
      ∃ length ∈ lengths, (monthDay lengths month day).2 ≤ length := by
  induction lengths generalizing month day with
  | nil => simp at inside; omega
  | cons length rest ih =>
      unfold monthDay
      by_cases here : day ≤ length
      · rw [if_pos here]
        exact ⟨Nat.le_refl _,by simp,length,by simp,here⟩
      · rw [List.sum_cons] at inside
        obtain ⟨above,below,bound,listed,short⟩ := @ih (month+1) (day-length) (by omega)
        rw [if_neg here]
        simp only [List.length_cons]
        exact ⟨by omega,by omega,bound,List.mem_cons_of_mem _ listed,short⟩

theorem monthDay_lt {lengths : List Nat} {month one other : Nat} (inside : 1 ≤ one ∧ one ≤ lengths.sum)
    (also : 1 ≤ other ∧ other ≤ lengths.sum) :
    ((monthDay lengths month one).1 < (monthDay lengths month other).1 ∨
      (monthDay lengths month one).1 = (monthDay lengths month other).1 ∧
      (monthDay lengths month one).2 < (monthDay lengths month other).2) ↔ one < other := by
  induction lengths generalizing month one other with
  | nil => simp at inside; omega
  | cons length rest ih =>
      rw [List.sum_cons] at inside also
      unfold monthDay
      by_cases here : one ≤ length
      · rw [if_pos here]
        by_cases there : other ≤ length
        · rw [if_pos there]
          omega
        · have later := (@monthDay_range rest (month+1) (other-length) (by omega)).1
          rw [if_neg there]
          omega
      · rw [if_neg here]
        by_cases there : other ≤ length
        · have later := (@monthDay_range rest (month+1) (one-length) (by omega)).1
          rw [if_pos there]
          omega
        · rw [if_neg there,ih (by omega) (by omega)]
          omega

-- Years of four digits, and others with a sign and at least four.
def yearText (year : Int) : List UInt8 :=
  if 0 ≤ year ∧ year ≤ 9999 then decimal 2 (year.toNat/100) ++ decimal 2 (year.toNat%100)
  else (if year < 0 then 45 else 43) :: decimal (if year.natAbs < 10000 then 4 else if year.natAbs < 100000 then 5 else 6)
    year.natAbs

-- As many digits as there are groups of three that are not zero.
def autoSi (nanos : Nat) : List UInt8 :=
  if nanos = 0 then []
  else if nanos%1000000 = 0 then 46 :: decimal 3 (nanos/1000000)
  else if nanos%1000 = 0 then 46 :: decimal 6 (nanos/1000)
  else 46 :: decimal 9 nanos

namespace DateTime

def date (time : DateTime) : List UInt8 :=
  let (month,day) := monthDay (monthLengths time.year) 1 time.ordinal
  yearText time.year ++ 45 :: (decimal 2 month ++ 45 :: decimal 2 day)

def clock (time : DateTime) : List UInt8 :=
  let (sec,nano) := if 1000000000 ≤ time.nanos then (time.secs%60 + 1,time.nanos-1000000000) else (time.secs%60,time.nanos)
  decimal 2 (time.secs/3600) ++ 58 :: (decimal 2 (time.secs/60%60) ++ 58 :: (decimal 2 sec ++ (autoSi nano ++ ascii "+00:00")))

def toRfc3339 (time : DateTime) : List UInt8 := time.date ++ 84 :: time.clock

-- The years that are written without a sign.
def InYears (time : DateTime) : Prop := 0 ≤ time.year ∧ time.year ≤ 9999

instance (time : DateTime) : Decidable time.InYears := inferInstanceAs (Decidable (_ ∧ _))

end DateTime

theorem autoSi_groups {nanos : Nat} (ending : List UInt8) : autoSi nanos ++ ending =
    if nanos = 0 then ending else 46 :: groups ending [nanos/1000000,nanos/1000%1000,nanos%1000] := by
  unfold autoSi
  by_cases zero : nanos = 0
  · simp [zero]
  · rw [if_neg zero,if_neg zero]
    have three : groups ending [nanos/1000000,nanos/1000%1000,nanos%1000] =
        if nanos/1000000 = 0 ∧ nanos/1000%1000 = 0 ∧ nanos%1000 = 0 then ending
        else decimal 3 (nanos/1000000) ++ if nanos/1000%1000 = 0 ∧ nanos%1000 = 0 then ending
        else decimal 3 (nanos/1000) ++ if nanos%1000 = 0 then ending else decimal 3 nanos ++ ending := by
      have micro : decimal 3 (nanos/1000%1000) = decimal 3 (nanos/1000) := decimal_mod 3 (nanos/1000)
      have nano : decimal 3 (nanos%1000) = decimal 3 nanos := decimal_mod 3 nanos
      simp [groups,micro,nano]
    rw [three]
    by_cases millis : nanos%1000000 = 0
    · rw [if_pos millis,if_neg (by omega),if_pos (by omega)]
      rfl
    · rw [if_neg millis]
      by_cases micros : nanos%1000 = 0
      · rw [if_pos micros,if_neg (by omega),if_neg (by omega),if_pos micros,decimal_six,Nat.div_div_eq_div_mul,
          List.cons_append,List.append_assoc]
      · rw [if_neg micros,if_neg (by omega),if_neg (by omega),if_neg micros,decimal_nine,decimal_six,
          List.cons_append,List.append_assoc,List.append_assoc]

theorem autoSi_lt {one other : Nat} (fits : one < 1000000000) (also : other < 1000000000) {byte : UInt8}
    (early : byte < 46) (ending : List UInt8) :
    autoSi one ++ byte :: ending < autoSi other ++ byte :: ending ↔ one < other := by
  have digits : byte < 48 := Nat.lt_trans early (by decide : (46 : UInt8) < 48)
  rw [autoSi_groups,autoSi_groups]
  by_cases zero : one = 0
  · subst zero
    rw [if_pos rfl]
    by_cases blank : other = 0
    · subst blank
      simp
    · rw [if_neg blank,List.cons_lt_cons_iff]
      exact ⟨fun _ => by omega,fun _ => .inl early⟩
  · rw [if_neg zero]
    by_cases blank : other = 0
    · subst blank
      rw [if_pos rfl,List.cons_lt_cons_iff]
      constructor
      · rintro (late | ⟨rfl,_⟩)
        · exact (Nat.lt_asymm early late).elim
        · exact (Nat.lt_irrefl _ early).elim
      · omega
    · have order := @groups_lt byte digits ending [one/1000000,one/1000%1000,one%1000]
        [other/1000000,other/1000%1000,other%1000] rfl (by simp; omega) (by simp; omega)
      rw [if_neg blank,cons_lt_cons_same,order]
      simp only [List.cons_lt_cons_iff,List.not_lt_nil,and_false,or_false]
      omega

namespace DateTime
variable {one other : DateTime}

theorem clock_fields (time : DateTime) : time.clock = decimal 2 (time.secs/3600) ++ 58 :: (decimal 2 (time.secs/60%60) ++
    58 :: (decimal 2 (time.secs%60 + time.nanos/1000000000) ++ (autoSi (time.nanos%1000000000) ++ ascii "+00:00"))) := by
  have late := time.inSecond
  unfold clock
  by_cases leap : 1000000000 ≤ time.nanos
  · have second : time.nanos/1000000000 = 1 := by omega
    have rest : time.nanos%1000000000 = time.nanos-1000000000 := by omega
    rw [if_pos leap,second,rest]
  · have second : time.nanos/1000000000 = 0 := by omega
    have rest : time.nanos%1000000000 = time.nanos := by omega
    rw [if_neg leap,second,rest]
    rfl

theorem clock_lt : one.clock < other.clock ↔ one.secs < other.secs ∨ one.secs = other.secs ∧ one.nanos < other.nanos := by
  have day := one.inDay
  have also := other.inDay
  have second := one.inSecond
  have other_second := other.inSecond
  have ending : ascii "+00:00" = 43 :: ascii "00:00" := by decide
  rw [clock_fields,clock_fields,ending,field_lt (by omega) (by omega),cons_lt_cons_same,field_lt (by omega) (by omega),
    cons_lt_cons_same,field_lt (by omega) (by omega),autoSi_lt (by omega) (by omega) (by decide)]
  omega

theorem date_fields {time : DateTime} (inYears : time.InYears) : time.date = decimal 4 time.year.toNat ++
    45 :: (decimal 2 (monthDay (monthLengths time.year) 1 time.ordinal).1 ++
      45 :: decimal 2 (monthDay (monthLengths time.year) 1 time.ordinal).2) := by
  have year : decimal 4 time.year.toNat = decimal 2 (time.year.toNat/100) ++ decimal 2 (time.year.toNat%100) := by
    have low : decimal 2 (time.year.toNat%100) = decimal 2 time.year.toNat := decimal_mod 2 time.year.toNat
    rw [low]
    exact decimal_add 2 2 _
  rw [year]
  unfold date yearText
  rw [if_pos ⟨inYears.1,inYears.2⟩]

theorem date_length {time : DateTime} (inYears : time.InYears) : time.date.length = 10 := by
  simp [date_fields inYears]

theorem month_fits (time : DateTime) : (monthDay (monthLengths time.year) 1 time.ordinal).1 < 10^2 ∧
    (monthDay (monthLengths time.year) 1 time.ordinal).2 < 10^2 := by
  obtain ⟨_,months,length,listed,days⟩ := @monthDay_range _ 1 _ time.inYear
  have short : length ≤ 31 := by
    simp only [monthLengths,List.mem_cons,List.not_mem_nil,or_false] at listed
    split at listed <;> omega
  have twelve : (monthLengths time.year).length = 12 := rfl
  omega

theorem date_lt (inYears : one.InYears) (also : other.InYears) : one.date < other.date ↔
    one.year < other.year ∨ one.year = other.year ∧ one.ordinal < other.ordinal := by
  obtain ⟨low,high⟩ := inYears
  obtain ⟨lowAlso,highAlso⟩ := also
  have month := one.month_fits
  have other_month := other.month_fits
  rw [date_fields ⟨low,high⟩,date_fields ⟨lowAlso,highAlso⟩,field_lt (by omega) (by omega),cons_lt_cons_same,
    field_lt month.1 other_month.1,cons_lt_cons_same,decimal_lt month.2 other_month.2]
  by_cases same : one.year = other.year
  · have sameLengths := one.inYear
    rw [same] at sameLengths ⊢
    rw [monthDay_lt sameLengths other.inYear]
    omega
  · omega

theorem date_inj (inYears : one.InYears) (also : other.InYears) : one.date = other.date ↔
    one.year = other.year ∧ one.ordinal = other.ordinal := by
  constructor
  · intro same
    have first : ¬one.date < other.date := by simp [same]
    have last : ¬other.date < one.date := by simp [same]
    rw [date_lt inYears also] at first
    rw [date_lt also inYears] at last
    omega
  · intro ⟨year,ordinal⟩
    rw [date,date,year,ordinal]

-- Texts of times in the years 0 to 9999 are in the order of the times.
theorem toRfc3339_lt (inYears : one.InYears) (also : other.InYears) : one.toRfc3339 < other.toRfc3339 ↔ one < other := by
  have same : one.date.length = other.date.length := (date_length inYears).trans (date_length also).symm
  rw [toRfc3339,toRfc3339,append_lt_append same,cons_lt_cons_same,date_lt inYears also,date_inj inYears also,clock_lt,lt_iff]
  omega

theorem toRfc3339_le (inYears : one.InYears) (also : other.InYears) : one.toRfc3339 ≤ other.toRfc3339 ↔ one ≤ other := by
  rw [le_iff,← toRfc3339_lt also inYears,List.not_lt]

end DateTime

end Wire
