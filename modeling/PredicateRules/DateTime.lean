namespace PredicateRules

structure DateTime where
  year : Int
  month : Nat
  day : Nat
  hour : Nat
  minute : Nat
  second : Nat
  nanosecond : Nat
  deriving DecidableEq, Repr

namespace DateTime

def padded (width number : Nat) : String :=
  let digits := Nat.toDigits 10 number
  String.ofList (List.replicate (width - digits.length) '0' ++ digits)

/-- Four digits, and a sign outside of the years that four digits can name. -/
def yearText (year : Int) : String :=
  if year < 0 then "-" ++ padded 4 year.natAbs
  else if 9999 < year then "+" ++ padded 4 year.natAbs
  else padded 4 year.natAbs

def dateText (moment : DateTime) : String :=
  yearText moment.year ++ "-" ++ padded 2 moment.month ++ "-" ++ padded 2 moment.day

def timeText (moment : DateTime) : String :=
  padded 2 moment.hour ++ ":" ++ padded 2 moment.minute ++ ":" ++ padded 2 moment.second

def text (moment : DateTime) : String := moment.dateText ++ " " ++ moment.timeText

def fields (moment : DateTime) : List Int :=
  [moment.year, moment.month, moment.day, moment.hour, moment.minute, moment.second,
    moment.nanosecond]

def order (left right : DateTime) : Ordering := compareLex
  (fun a b : DateTime => compare a.year b.year) (fun a b => compare (a.fields.drop 1) (b.fields.drop 1))
  left right

end DateTime

end PredicateRules
