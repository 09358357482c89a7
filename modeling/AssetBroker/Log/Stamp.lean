/-!
# Time stamps of console lines

A console line starts with the time in UTC, written as
`YYYY-MM-DDTHH:MM:SS.ffffffZ` with microseconds. The calendar date of a day
count since 1970-01-01 follows the proleptic Gregorian calendar, counted in
400-year eras of 146097 days that start on a March 1st, so that the leap day
ends each counted year.
-/

namespace AssetBroker

namespace Log

/-- The year, month and day of a day count since 1970-01-01. -/
def civilDate (days : Nat) : Nat × Nat × Nat :=
  let z := days + 719468
  let era := z / 146097
  let doe := z - era * 146097
  let yoe := (doe - doe / 1460 + doe / 36524 - doe / 146096) / 365
  let doy := doe - (365 * yoe + yoe / 4 - yoe / 100)
  let mp := (5 * doy + 2) / 153
  let day := doy - (153 * mp + 2) / 5 + 1
  let month := if mp < 10 then mp + 3 else mp - 9
  let year := yoe + era * 400 + (if month ≤ 2 then 1 else 0)
  (year, month, day)

/-- A number written with at least `width` digits. -/
def digits (width n : Nat) : String :=
  let s := toString n
  String.ofList (List.replicate (width - s.length) '0') ++ s

/-- The time stamp of an instant, given in nanoseconds since the epoch. -/
def stampOfNanos (nanos : Nat) : String :=
  let seconds := nanos / 1000000000
  let micros := nanos % 1000000000 / 1000
  let (year, month, day) := civilDate (seconds / 86400)
  let inDay := seconds % 86400
  digits 4 year ++ "-" ++ digits 2 month ++ "-" ++ digits 2 day ++ "T" ++ digits 2 (inDay / 3600) ++ ":" ++
    digits 2 (inDay % 3600 / 60) ++ ":" ++ digits 2 (inDay % 60) ++ "." ++ digits 6 micros ++ "Z"

end Log

end AssetBroker
