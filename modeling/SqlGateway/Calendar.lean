import SqlGateway.Number.Numeral

namespace SqlGateway

/-!
Dates and times of day, with an optional distance from universal time, and their
numeric texts: year, month and day joined by hyphens, hours, minutes and seconds
by colons.

Moments are ordered exactly.  Times of day are ordered by whole seconds of universal
time first and by the microsecond of the clock after that, so times may be equal that
are a fraction of a second apart.  With a distance and without are not compared.
-/

/-- A day of the calendar. -/
structure Date where
  year : Nat
  month : Nat
  day : Nat
deriving DecidableEq, Repr, Inhabited

/-- A time of day.  The offset is the distance of the local clock from universal
time, in microseconds; `none` if the time is not tied to it. -/
structure TimeOfDay where
  hour : Nat
  minute : Nat
  second : Nat
  microsecond : Nat
  offset : Option Int
deriving DecidableEq, Repr, Inhabited

structure DateTime where
  date : Date
  time : TimeOfDay
deriving DecidableEq, Repr, Inhabited

namespace Calendar

def padded (width value : Nat) : List Char :=
  let digits := Numeral.digits value
  List.replicate (width - digits.length) '0' ++ digits

/-- Hours, minutes and, if wanted, seconds of a count of microseconds, and then
microseconds if there are any. -/
def clockChars (alwaysSeconds : Bool) (microseconds : Nat) : List Char :=
  let seconds := microseconds / 1000000
  let fraction := microseconds % 1000000
  padded 2 (seconds / 3600) ++ ':' :: padded 2 (seconds / 60 % 60) ++
    (if alwaysSeconds || seconds % 60 ≠ 0 || fraction ≠ 0 then ':' :: padded 2 (seconds % 60)
     else []) ++
    (if fraction = 0 then [] else '.' :: padded 6 fraction)

/-- The text of an offset, with its sign. -/
def offsetChars (offset : Int) : List Char :=
  (if offset < 0 then '-' else '+') :: clockChars false offset.natAbs

/-- The number of days from the first of March of year zero to a day. -/
def dayNumber (date : Date) : Int :=
  let monthFromMarch : Int := if date.month ≤ 2 then date.month + 9 else (date.month : Int) - 3
  let year : Int := if date.month ≤ 2 then (date.year : Int) - 1 else date.year
  365 * year + year / 4 - year / 100 + year / 400 + (153 * monthFromMarch + 2) / 5 + date.day

/-- The year, month and day of the day with a number; the inverse of `dayNumber`, before
the first year too. -/
def ofDayNumber (number : Int) : Int × Nat × Nat :=
  let shifted := number - 1
  let era := shifted / 146097
  let dayOfEra := shifted % 146097
  let yearOfEra :=
    (dayOfEra - dayOfEra / 1460 + dayOfEra / 36524 - dayOfEra / 146096) / 365
  let dayOfYear := dayOfEra - (365 * yearOfEra + yearOfEra / 4 - yearOfEra / 100)
  let monthFromMarch := (5 * dayOfYear + 2) / 153
  let day := dayOfYear - (153 * monthFromMarch + 2) / 5 + 1
  let month := if monthFromMarch < 10 then monthFromMarch + 3 else monthFromMarch - 9
  let year := era * 400 + yearOfEra + (if month ≤ 2 then 1 else 0)
  (year, month.toNat, day.toNat)

/-- Read up to a fixed count of digits. -/
def takeNumber? (count : Nat) (characters : List Char) : Option (Nat × List Char) :=
  let digits := characters.take count
  if digits.length = count ∧ digits.all Char.isDigit then
    some (Numeral.ofDigits digits, characters.drop count)
  else none

/-- Read two digits after a colon, if a colon follows. -/
def takePart? : List Char → Option (Nat × List Char)
  | ':' :: rest => takeNumber? 2 rest
  | rest => some (0, rest)

/-- Read a fraction of a second in microseconds, if a point or a comma follows. -/
def takeFraction? : List Char → Option (Nat × List Char)
  | mark :: rest =>
    if mark = '.' ∨ mark = ',' then
      let digits := (rest.takeWhile Char.isDigit).take 6
      if digits = [] then none
      else some (Numeral.ofDigits (digits ++ List.replicate (6 - digits.length) '0'),
        rest.dropWhile Char.isDigit)
    else some (0, mark :: rest)
  | [] => some (0, [])

/-- Read hours, minutes, seconds and a fraction. -/
def takeClock? (characters : List Char) : Option ((Nat × Nat × Nat × Nat) × List Char) := do
  let (hour, rest) ← takeNumber? 2 characters
  let (minute, rest) ← takePart? rest
  let (second, rest) ← takePart? rest
  let (fraction, rest) ← takeFraction? rest
  return ((hour, minute, second, fraction), rest)

/-- Read an offset that ends the text; it is shorter than a day. -/
def readOffset? : List Char → Option (Option Int)
  | [] => some none
  | ['Z'] => some (some 0)
  | sign :: rest => do
    let ((hour, minute, second, fraction), rest) ← takeClock? rest
    let size : Int := ((hour * 60 + minute) * 60 + second) * 1000000 + fraction
    if rest ≠ [] ∨ 86400000000 ≤ size then none
    else if sign = '+' then some (some size)
    else if sign = '-' then some (some (-size))
    else none

end Calendar

namespace Date

def chars (date : Date) : List Char :=
  Calendar.padded 4 date.year ++ '-' :: Calendar.padded 2 date.month ++
    '-' :: Calendar.padded 2 date.day

def write (date : Date) : String := String.ofList date.chars

/-- Whether the calendar has the day. -/
def isValid (date : Date) : Bool :=
  1 ≤ date.year && Calendar.ofDayNumber (Calendar.dayNumber date) == (↑date.year, date.month, date.day)

/-- Read a day that starts the text. -/
def take? (characters : List Char) : Option (Date × List Char) := do
  let (year, rest) ← Calendar.takeNumber? 4 characters
  let (month, rest) ← match rest with
    | '-' :: rest => Calendar.takeNumber? 2 rest
    | _ => none
  let (day, rest) ← match rest with
    | '-' :: rest => Calendar.takeNumber? 2 rest
    | _ => none
  let date : Date := ⟨year, month, day⟩
  if date.isValid then return (date, rest) else none

def read? (text : String) : Option Date := do
  let (date, rest) ← take? text.toList
  if rest = [] then some date else none

def isBefore (first second : Date) : Bool :=
  Calendar.dayNumber first < Calendar.dayNumber second

def display (date : Date) : String :=
  "datetime.date(" ++ ", ".intercalate ([date.year, date.month, date.day].map Nat.repr) ++ ")"

end Date

namespace TimeOfDay

/-- The count of microseconds since midnight on the local clock. -/
def microseconds (time : TimeOfDay) : Nat :=
  ((time.hour * 60 + time.minute) * 60 + time.second) * 1000000 + time.microsecond

def chars (time : TimeOfDay) : List Char :=
  Calendar.clockChars true time.microseconds ++
    (match time.offset with
     | some offset => Calendar.offsetChars offset
     | none => [])

def write (time : TimeOfDay) : String := String.ofList time.chars

/-- Read a time of day that is the whole text. -/
def readChars? (characters : List Char) : Option TimeOfDay := do
  let ((hour, minute, second, fraction), rest) ← Calendar.takeClock? characters
  let offset ← Calendar.readOffset? rest
  if 23 < hour ∨ 59 < minute ∨ 59 < second then none
  else return ⟨hour, minute, second, fraction, offset⟩

def read? (text : String) : Option TimeOfDay := readChars? text.toList

def displaySpan (span : Int) : String :=
  let days := span / 86400000000
  let rest := span % 86400000000
  let parts := [("days", days), ("seconds", rest / 1000000), ("microseconds", rest % 1000000)]
  let shown := parts.filterMap fun (name, amount) =>
    if amount = 0 then none else some (name ++ "=" ++ String.ofList (Numeral.chars amount))
  "datetime.timedelta(" ++ (if shown = [] then "0" else ", ".intercalate shown) ++ ")"

/-- The displayed form of an offset, as an argument. -/
def displayOffset : Option Int → List String
  | none => []
  | some 0 => ["tzinfo=datetime.timezone.utc"]
  | some offset => ["tzinfo=datetime.timezone(" ++ displaySpan offset ++ ")"]

/-- The parts of a time of day that are displayed: trailing zeros of the seconds
and microseconds are left out. -/
def displayParts (time : TimeOfDay) : List Nat :=
  [time.hour, time.minute] ++
    (if time.microsecond ≠ 0 then [time.second, time.microsecond]
     else if time.second ≠ 0 then [time.second]
     else [])

def display (time : TimeOfDay) : String :=
  "datetime.time(" ++
    ", ".intercalate (time.displayParts.map Nat.repr ++ displayOffset time.offset) ++ ")"

/-- The microseconds of universal time; the local time if there is no offset. -/
def instant (time : TimeOfDay) : Int := time.microseconds - time.offset.getD 0

/-- The place of a time of day in the order: the seconds of universal time, with the
offset cut down to whole seconds, and then the microsecond of the clock. -/
def place (time : TimeOfDay) : Int × Nat :=
  ((time.hour * 60 + time.minute) * 60 + time.second - time.offset.getD 0 / 1000000,
    time.microsecond)

/-- Whether two times of day have an order: both have an offset, or neither. -/
def isComparable (first second : TimeOfDay) : Bool := first.offset.isSome == second.offset.isSome

/-- Whether two times of day have the same place. -/
def same (first second : TimeOfDay) : Bool :=
  first.isComparable second && first.place == second.place

/-- Whether two times of day are the same to the microsecond. -/
def sameInstant (first second : TimeOfDay) : Bool :=
  first.isComparable second && first.instant == second.instant

/-- Whether the place of one time of day is before that of another. -/
def isBefore (first second : TimeOfDay) : Bool :=
  first.place.1 < second.place.1 ||
    (first.place.1 == second.place.1 && first.place.2 < second.place.2)

end TimeOfDay

namespace DateTime

/-- The numeric text of a moment with a separator between day and time. -/
def writeWith (separator : Char) (moment : DateTime) : String :=
  String.ofList (moment.date.chars ++ separator :: moment.time.chars)

def write (moment : DateTime) : String := moment.writeWith 'T'

/-- Read a moment; the time of day may be missing. -/
def read? (text : String) : Option DateTime := do
  let (date, rest) ← Date.take? text.toList
  match rest with
  | [] => some ⟨date, ⟨0, 0, 0, 0, none⟩⟩
  | _ :: rest => return ⟨date, ← TimeOfDay.readChars? rest⟩

/-- The displayed form of a moment. -/
def display (moment : DateTime) : String :=
  "datetime.datetime(" ++
    ", ".intercalate (([moment.date.year, moment.date.month, moment.date.day] ++
      moment.time.displayParts).map Nat.repr ++ TimeOfDay.displayOffset moment.time.offset) ++ ")"

/-- The microseconds of universal time; those of the local time if there is no offset. -/
def instant (moment : DateTime) : Int :=
  Calendar.dayNumber moment.date * 86400000000 + moment.time.instant

def same (first second : DateTime) : Bool :=
  first.time.isComparable second.time && first.instant == second.instant

def isBefore (first second : DateTime) : Bool := first.instant < second.instant

end DateTime

end SqlGateway
