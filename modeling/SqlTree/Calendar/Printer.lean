-- Dates and timestamps as text.
import SqlTree.Calendar.Basic
import SqlTree.Text.Digits

namespace SqlTree

/-- A year has at least four digits, and a sign if it is negative or has more. -/
def yearChars (year : Int) : List Char :=
  let ds := Text.padded 4 year.natAbs
  if year < 0 then '-' :: ds
  else if year > 9999 then '+' :: ds
  else ds

/-- Year, month and day with hyphens between them. -/
def Date.chars (d : Date) : List Char :=
  yearChars d.year ++ '-' :: (Text.padded 2 d.month ++ '-' :: Text.padded 2 d.day)

def Date.text (d : Date) : String := String.ofList d.chars

/-- A fraction of a second: the fewest of none, three, six and nine digits that are exact. -/
def fractionChars (nanos : Nat) : List Char :=
  if nanos == 0 then []
  else if nanos % 1000000 == 0 then '.' :: Text.padded 3 (nanos / 1000000)
  else if nanos % 1000 == 0 then '.' :: Text.padded 6 (nanos / 1000)
  else '.' :: Text.padded 9 nanos

namespace Timestamp

/-- The time of day; a leap second is shown as second 60. -/
def timeChars (t : Timestamp) : List Char :=
  let leap := t.nanos ≥ 1000000000
  let second := if leap then t.second + 1 else t.second
  let nanos := if leap then t.nanos - 1000000000 else t.nanos
  Text.padded 2 t.hour ++ ':' :: (Text.padded 2 t.minute ++ ':' :: (Text.padded 2 second
    ++ fractionChars nanos))

/-- Date and time with a character of choice between them. -/
def charsWith (separator : Char) (t : Timestamp) : List Char :=
  t.date.chars ++ separator :: t.timeChars

/-- Date and time with a space between them. -/
def text (t : Timestamp) : String := String.ofList (t.charsWith ' ')

/-- Date and time with a `T` between them. -/
def isoText (t : Timestamp) : String := String.ofList (t.charsWith 'T')

end Timestamp

end SqlTree
