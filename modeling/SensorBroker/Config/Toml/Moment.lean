/-
# Dates and times of TOML

A date has a year of four digits, a month and a day of two; a time has hour and
minute, and maybe second and fraction. A time may follow a date behind a `T` or
a blank, and the offset to universal time may follow that. Dates must exist, and
so must times, the sixty-first second included.

Key definitions: `Moment.date`, `Moment.time`, `Moment.offset`,
`Moment.dateTime`, `Moment.check`.
-/
import SensorBroker.Config.Toml.Flaw
import SensorBroker.Text.Digits

namespace SensorBroker.Toml

open SensorBroker.Text

namespace Moment

/-- Takes something from a date or a time, or says what is wrong. -/
abbrev Reader (α : Type) := List Char → Except Cause (α × List Char)

/-- A part that is wrong, and what was expected. -/
def wrong {α : Type} (part expected : String) : Except Cause α :=
  .error (.badMoment (some part) (some expected))

/-- Takes digits, at least one. -/
def digitRun (part expected : String) : Reader (List Char) := fun cs =>
  match digitsOf cs with
  | ([], _) => wrong part expected
  | (ds, rest) => .ok (ds, rest)

/-- Takes a character. -/
def mark (part expected : String) (c : Char) : Reader Unit := fun cs =>
  match cs with
  | d :: rest => if d = c then .ok ((), rest) else wrong part expected
  | [] => wrong part expected

/-- The number of exactly so many digits. -/
def ofWidth (width : Nat) (part expected : String) (ds : List Char) : Except Cause Nat :=
  if ds.length = width then .ok (ofDigits 10 ds) else wrong part expected

/-- Looks whether a number is in range. -/
def within (low high : Nat) (part expected : String) (n : Nat) : Except Cause Unit :=
  if low ≤ n && n ≤ high then .ok () else wrong part expected

/-- The days of a month. -/
def daysIn (year month : Nat) : Nat :=
  if month = 2 then
    if year % 4 = 0 && (year % 100 ≠ 0 || year % 400 = 0) then 29 else 28
  else if month = 4 || month = 6 || month = 9 || month = 11 then 30
  else 31

/-- Takes what follows the year of a date. -/
def date (year : List Char) : Reader Unit := fun cs => do
  let (month, cs) ← digitRun "date" "month" cs
  let (_, cs) ← mark "date" "`-` (MM-DD)" '-' cs
  let (day, cs) ← digitRun "date" "day" cs
  let y ← ofWidth 4 "date" "a four-digit year (YYYY)" year
  let m ← ofWidth 2 "date" "a two-digit month (MM)" month
  let d ← ofWidth 2 "date" "a two-digit day (DD)" day
  within 1 12 "date" "month between 01 and 12" m
  within 1 (daysIn y m) "date" ("day between 01 and " ++ toString (daysIn y m)) d
  .ok ((), cs)

/-- Takes a time. -/
def time : Reader Unit := fun cs => do
  let (hour, cs) ← digitRun "time" "hour" cs
  let (_, cs) ← mark "time" "`:` (HH:MM)" ':' cs
  let (minute, cs) ← digitRun "time" "minute" cs
  let (second, cs) ← match cs with
    | ':' :: cs => do
      let (second, cs) ← digitRun "time" "second" cs
      match cs with
      | '.' :: cs => do
        let (_, cs) ← digitRun "time" "nanosecond" cs
        pure (second, cs)
      | cs => pure (second, cs)
    | cs => pure (['0', '0'], cs)
  let h ← ofWidth 2 "time" "a two-digit hour (HH)" hour
  let m ← ofWidth 2 "time" "a two-digit minute (MM)" minute
  let s ← ofWidth 2 "time" "a two-digit second (SS)" second
  within 0 23 "time" "hour between 00 and 23" h
  within 0 59 "time" "minute between 00 and 59" m
  within 0 60 "time" "second between 00 and 60" s
  .ok ((), cs)

/-- Takes the offset to universal time, if there is one. -/
def offset : Reader Unit := fun cs =>
  match cs with
  | [] => .ok ((), [])
  | c :: cs =>
    if c = 'Z' || c = 'z' then .ok ((), cs)
    else if c = '+' || c = '-' then do
      let (hours, cs) ← digitRun "offset" "hour" cs
      let (_, cs) ← mark "offset" "`:` (HH:MM)" ':' cs
      let (minutes, cs) ← digitRun "offset" "minute" cs
      let h ← ofWidth 2 "offset" "a two-digit hour (HH)" hours
      let m ← ofWidth 2 "offset" "a two-digit minute (MM)" minutes
      within 0 23 "offset" "hours between 00 and 23" h
      within 0 59 "offset" "minutes between 00 and 59" m
      .ok ((), cs)
    else wrong "offset" "`Z`, +OFFSET, -OFFSET"

/-- What must follow the first digits of a date or a time. -/
def firstMark : String := "`-` (YYYY-MM) or `:` (HH:MM)"

/-- Takes a date, a time, or both. -/
def dateTime : Reader Unit := fun cs =>
  match digitsOf cs with
  | ([], _) => .error (.badMoment none (some "year or hour"))
  | (year, '-' :: rest) => do
    let (_, cs) ← date year rest
    match cs with
    | [] => .ok ((), [])
    | c :: cs =>
      if c = 'T' || c = 't' || c = ' ' then do
        let (_, cs) ← time cs
        offset cs
      else wrong "date-time" "`T` between date and time"
  | (_, ':' :: _) => time cs
  | _ => .error (.badMoment none (some firstMark))

/-- Looks whether characters are a date, a time, or both. -/
def check (cs : List Char) : Except Cause Unit := do
  let (_, rest) ← dateTime cs
  if rest.isEmpty then .ok () else .error (.badMoment none none)

end Moment
end SensorBroker.Toml
