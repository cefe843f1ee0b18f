import TickScript.Text.Quoted

/-! What stops a program altogether. Nothing that was under way has a result then. -/
namespace TickScript

inductive Breakdown
  /-- A time would lie beyond the last one. -/
  | timeOverflow
  /-- A run would have no time between its ticks. -/
  | zeroPeriod
  /-- A place counted from the end of a list would lie before its start. -/
  | placeUnderflow
  /-- A list would be longer than any memory. -/
  | listTooLong
  /-- More quotes stand in a row than a byte can count. -/
  | quotesOverflow
  /-- A variable would hold a NUL character. -/
  | nulInVariable (name value : String)
  deriving DecidableEq, Repr

def Breakdown.message : Breakdown → String
  | timeOverflow => "overflow when adding durations"
  | zeroPeriod => "`period` must be non-zero."
  | placeUnderflow => "attempt to subtract with overflow"
  | listTooLong => "capacity overflow"
  | quotesOverflow => "attempt to add with overflow"
  | nulInVariable name value =>
    "failed to set environment variable `" ++ Text.quotedPath name ++ "` to `" ++
      Text.quotedPath value ++ "`: file name contained an unexpected NUL byte"

end TickScript
