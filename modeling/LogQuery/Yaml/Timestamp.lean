/-
Dates and times in YAML.
-/

namespace LogQuery.Yaml

/-- A time of day with an offset from UTC in minutes, if one is given. -/
structure TimeOfDay where
  hour : Nat
  minute : Nat
  second : Nat
  microsecond : Nat
  offset? : Option Int
deriving DecidableEq, Repr

/-- A date, or a date with a time. -/
structure Timestamp where
  year : Nat
  month : Nat
  day : Nat
  time? : Option TimeOfDay
deriving DecidableEq, Repr

namespace Timestamp

-- ================================================================= reading

/-- Takes from `least` to `most` digits from the front: their value, their
number and the rest. -/
def digits? (least most : Nat) (cs : List Char) :
    Option (Nat × Nat × List Char) :=
  let ds := (cs.take most).takeWhile (·.isDigit)
  if ds.length < least then none
  else
    let n := ds.foldl (fun n d => 10 * n + (d.toNat - '0'.toNat)) 0
    some (n, ds.length, cs.drop ds.length)

/-- Takes one character from the front. -/
def mark? (c : Char) : List Char → Option (List Char)
  | d :: cs => if c = d then some cs else none
  | [] => none

def isSpace (c : Char) : Bool := c = ' ' || c = '\t'

/-- Microseconds from the digits of a fraction; further digits are cut. -/
def microseconds (ds : List Char) : Nat :=
  let kept := ds.take 6
  (kept ++ List.replicate (6 - kept.length) '0').foldl
    (fun n d => 10 * n + (d.toNat - '0'.toNat)) 0

/-- The offset at the end of a time. -/
def offset? (cs : List Char) : Option (Option Int) :=
  match cs, cs.dropWhile isSpace with
  | [], _ => some none
  | _, ['Z'] => some (some 0)
  | _, sign :: rest =>
    if sign = '+' || sign = '-' then do
      let (hours, _, rest) ← digits? 1 2 rest
      let minutes ← match rest with
        | [] => some 0
        | ':' :: rest =>
          match digits? 2 2 rest with
          | some (n, _, []) => some n
          | _ => none
        | _ => none
      let total : Int := 60 * hours + minutes
      some (some (if sign = '-' then -total else total))
    else none
  | _, [] => none

/-- The time of day behind a date. -/
def timeOfDay? (cs : List Char) : Option TimeOfDay := do
  let rest ← match cs with
    | [] => none
    | c :: rest =>
      if c = 'T' || c = 't' then some rest
      else if isSpace c then some (rest.dropWhile isSpace)
      else none
  let (hour, _, rest) ← digits? 1 2 rest
  let (minute, _, rest) ← digits? 2 2 (← mark? ':' rest)
  let (second, _, rest) ← digits? 2 2 (← mark? ':' rest)
  let (fraction, rest) := match rest with
    | '.' :: rest =>
      let ds := rest.takeWhile (·.isDigit)
      (microseconds ds, rest.drop ds.length)
    | _ => (0, rest)
  some ⟨hour, minute, second, fraction, ← offset? rest⟩

/-- The timestamp that a text spells, with the numbers of digits of its month
and its day. -/
def withWidths? (cs : List Char) : Option (Timestamp × Nat × Nat) := do
  let (year, _, rest) ← digits? 4 4 cs
  let (month, monthWidth, rest) ← digits? 1 2 (← mark? '-' rest)
  let (day, dayWidth, rest) ← digits? 1 2 (← mark? '-' rest)
  let time? ← match rest with
    | [] => some none
    | _ => (timeOfDay? rest).map some
  some (⟨year, month, day, time?⟩, monthWidth, dayWidth)

/-- The timestamp that a text spells. A line feed may follow it. -/
def ofChars? (cs : List Char) : Option Timestamp :=
  let cs := if cs.getLast? = some '\n' then cs.dropLast else cs
  (withWidths? cs).map (·.1)

/-- Whether a text shows that it is a timestamp: a date without a time needs
two digits for the month and two for the day. -/
def isShown (cs : List Char) : Bool :=
  match withWidths? cs with
  | some (t, monthWidth, dayWidth) =>
    t.time?.isSome || (monthWidth = 2 && dayWidth = 2)
  | none => false

-- ================================================================ validity

/-- Days of a month in the Gregorian calendar. -/
def daysIn (year month : Nat) : Nat :=
  if month = 2 then
    if year % 4 = 0 && (year % 100 ≠ 0 || year % 400 = 0) then 29 else 28
  else if [4, 6, 9, 11].contains month then 30
  else 31

/-- Why a date or a time is none. -/
inductive Fault where
  | offset (minutes : Int)
  | year
  | month
  | day
  | hour
  | minute
  | second
deriving DecidableEq, Repr

/-- The minutes of a day. -/
def dayMinutes : Int := 24 * 60

/-- What is wrong with a time of day, if anything. -/
def TimeOfDay.fault? (time : TimeOfDay) : Option Fault :=
  if 23 < time.hour then some .hour
  else if 59 < time.minute then some .minute
  else if 59 < time.second then some .second
  else none

/-- What is wrong with a timestamp, if anything. -/
def fault? (t : Timestamp) : Option Fault :=
  let offset? := t.time?.bind (·.offset?)
  match offset?.filter fun o => dayMinutes ≤ (o.natAbs : Int) with
  | some minutes => some (.offset minutes)
  | none =>
    if t.year = 0 then some .year
    else if t.month = 0 || 12 < t.month then some .month
    else if t.day = 0 || daysIn t.year t.month < t.day then some .day
    else t.time?.bind TimeOfDay.fault?

/-- Days from the start of the calendar to the first day of a year. -/
def daysBeforeYear (year : Nat) : Nat :=
  let y := year - 1
  365 * y + y / 4 - y / 100 + y / 400

/-- Days from the start of the calendar to the day of a timestamp. -/
def dayNumber (t : Timestamp) : Nat :=
  daysBeforeYear t.year
    + (List.range (t.month - 1)).foldl (fun n m => n + daysIn t.year (m + 1)) 0
    + t.day

/-- Microseconds from the start of the calendar in UTC, of a time with an
offset. -/
def instant? (t : Timestamp) : Option Int := do
  let time ← t.time?
  let offset ← time.offset?
  let minutes : Int :=
    dayMinutes * t.dayNumber + 60 * time.hour + time.minute - offset
  some (1000000 * (60 * minutes + time.second) + time.microsecond)

/-- Whether two timestamps are the same: as times in UTC, or as they are
written if both have no offset. -/
def isSame (s t : Timestamp) : Bool :=
  match s.instant?, t.instant? with
  | some a, some b => a = b
  | _, _ => s = t

-- ================================================================= showing

/-- How a span of minutes is shown. -/
def spanText (minutes : Int) : String :=
  let days := minutes.fdiv dayMinutes
  let seconds := 60 * minutes.fmod dayMinutes
  let parts :=
    (if days = 0 then [] else ["days=" ++ toString days])
      ++ (if seconds = 0 then [] else ["seconds=" ++ toString seconds])
  "datetime.timedelta(" ++ String.intercalate ", " parts ++ ")"

/-- How an offset is shown. -/
def offsetText (minutes : Int) : String :=
  if minutes = 0 then "datetime.timezone.utc"
  else "datetime.timezone(" ++ spanText minutes ++ ")"

/-- The report of a date or a time that is none. -/
def Fault.message : Fault → String
  | offset minutes =>
    "offset must be a timedelta strictly between -timedelta(hours=24) and "
      ++ "timedelta(hours=24), not " ++ spanText minutes ++ "."
  | year => "year 0 is out of range"
  | month => "month must be in 1..12"
  | day => "day is out of range for month"
  | hour => "hour must be in 0..23"
  | minute => "minute must be in 0..59"
  | second => "second must be in 0..59"

/-- A number with at least `width` digits. -/
def padded (width n : Nat) : String :=
  let ds := Nat.toDigits 10 n
  String.ofList (List.replicate (width - ds.length) '0' ++ ds)

/-- The ISO form of a timestamp, with a space between date and time. -/
def iso (t : Timestamp) : String :=
  let date := String.intercalate "-"
    [padded 4 t.year, padded 2 t.month, padded 2 t.day]
  match t.time? with
  | none => date
  | some time =>
    let clock := String.intercalate ":"
      [padded 2 time.hour, padded 2 time.minute, padded 2 time.second]
    let fraction :=
      if time.microsecond = 0 then "" else "." ++ padded 6 time.microsecond
    let zone := match time.offset? with
      | none => ""
      | some minutes =>
        (if minutes < 0 then "-" else "+")
          ++ padded 2 (minutes.natAbs / 60) ++ ":"
          ++ padded 2 (minutes.natAbs % 60)
    date ++ " " ++ clock ++ fraction ++ zone

/-- How a timestamp is shown in messages. -/
def text (t : Timestamp) : String :=
  let date := [t.year, t.month, t.day]
  match t.time? with
  | none =>
    "datetime.date(" ++ String.intercalate ", " (date.map toString) ++ ")"
  | some time =>
    let fine :=
      if time.microsecond ≠ 0 then [time.second, time.microsecond]
      else if time.second ≠ 0 then [time.second]
      else []
    let zone := match time.offset? with
      | none => []
      | some minutes => ["tzinfo=" ++ offsetText minutes]
    let parts := (date ++ [time.hour, time.minute] ++ fine).map toString
    "datetime.datetime(" ++ String.intercalate ", " (parts ++ zone) ++ ")"

end Timestamp

end LogQuery.Yaml
