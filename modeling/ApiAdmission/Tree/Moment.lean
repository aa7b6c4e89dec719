import ApiAdmission.Text.Digit
import ApiAdmission.Text.Search

/-!
# Days and instants

A document may hold a day or an instant.  A day is shown as year, month and day; an instant adds
the time, the fraction of the second when there is one, and the offset from universal time when it
is known.
-/

namespace ApiAdmission

set_option autoImplicit false

/-- A day, or an instant with an optional offset from universal time in minutes. -/
inductive Moment where
  /-- A calendar day. -/
  | day (year month date : Nat)
  /-- An instant of a day. -/
  | instant (year month date hour minute second microsecond : Nat) (offset : Option Int)
deriving DecidableEq, Repr

namespace Moment

/-- A calendar day as text. -/
def dayText (year month date : Nat) : String :=
  Text.join "-"
    [Text.toPaddedDecimal 4 year, Text.toPaddedDecimal 2 month, Text.toPaddedDecimal 2 date]

/-- An offset from universal time as text. -/
def offsetText (offset : Int) : String :=
  let sign := if offset < 0 then "-" else "+"
  sign ++ Text.toPaddedDecimal 2 (offset.natAbs / 60) ++ ":" ++
    Text.toPaddedDecimal 2 (offset.natAbs % 60)

/-- How a moment is shown. -/
def text : Moment → String
  | .day year month date => dayText year month date
  | .instant year month date hour minute second microsecond offset =>
    let time := Text.join ":"
      [Text.toPaddedDecimal 2 hour, Text.toPaddedDecimal 2 minute, Text.toPaddedDecimal 2 second]
    let fraction :=
      if microsecond == 0 then "" else "." ++ Text.toPaddedDecimal 6 microsecond
    let zone := match offset with
      | none => ""
      | some offset => offsetText offset
    dayText year month date ++ " " ++ time ++ fraction ++ zone

/-- A span of minutes as a literal. -/
def spanLiteral (minutes : Int) : String :=
  let seconds := minutes * 60
  let days := seconds / 86400
  let rest := seconds % 86400
  let dayPart := if days == 0 then [] else ["days=" ++ toString days]
  let restPart := if rest == 0 then [] else ["seconds=" ++ toString rest]
  "datetime.timedelta(" ++ Text.join ", " (dayPart ++ restPart) ++ ")"

/-- The offset of an instant as a literal. -/
def offsetLiteral (offset : Int) : String :=
  if offset == 0 then "datetime.timezone.utc"
  else "datetime.timezone(" ++ spanLiteral offset ++ ")"

/-- A moment as a literal. -/
def literal : Moment → String
  | .day year month date =>
    "datetime.date(" ++ Text.join ", " [toString year, toString month, toString date] ++ ")"
  | .instant year month date hour minute second microsecond offset =>
    let leading := [year, month, date, hour, minute].map toString
    let trailing :=
      if microsecond != 0 then [toString second, toString microsecond]
      else if second != 0 then [toString second]
      else []
    let zone := match offset with
      | none => []
      | some offset => ["tzinfo=" ++ offsetLiteral offset]
    "datetime.datetime(" ++ Text.join ", " (leading ++ trailing ++ zone) ++ ")"

end Moment

end ApiAdmission
