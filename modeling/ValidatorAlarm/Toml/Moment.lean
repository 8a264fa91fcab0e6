import ValidatorAlarm.Toml.Numeral

/-!
# Dates and times in TOML

A date, a time of day, or both with or without an offset.  Settings keep them as texts, so reading
one checks it and writes it the one way: `T` between date and time, fractions of a second in as many
of at most nine digits as are needed, and an offset as `Z` or with sign, hours and minutes.
-/
namespace ValidatorAlarm.Toml.Moment

def isLeap (year : Nat) : Bool := year % 4 = 0 && (year % 100 ≠ 0 || year % 400 = 0)

def daysOf (year month : Nat) : Nat :=
  if month = 2 then (if isLeap year then 29 else 28)
  else if month = 4 || month = 6 || month = 9 || month = 11 then 30
  else 31

/-- The value of decimal digits, if nothing else is among them. -/
def digits? (cs : List Char) : Option Nat :=
  if cs.all Char.isDigit then some (Numeral.value 10 cs) else none

/-- A date in ten characters, and what follows it. -/
def date? : List Char → Option (List Char × List Char)
  | y :: y' :: y'' :: y''' :: '-' :: m :: m' :: '-' :: d :: d' :: rest => do
    let year ← digits? [y, y', y'', y''']
    let month ← digits? [m, m']
    let day ← digits? [d, d']
    if 1 ≤ month && month ≤ 12 && 1 ≤ day && day ≤ daysOf year month then
      some ([y, y', y'', y''', '-', m, m', '-', d, d'], rest)
    else none
  | _ => none

/-- Hour and minute in five characters, and what follows them. -/
def clock? : List Char → Option (List Char × List Char)
  | h :: h' :: ':' :: m :: m' :: rest => do
    let hour ← digits? [h, h']
    let minute ← digits? [m, m']
    if hour ≤ 23 && minute ≤ 59 then some ([h, h', ':', m, m'], rest) else none
  | _ => none

/-- The digits of a fraction as they are written: nine at most, and no zeros at the end but for one
that is alone. -/
def trimFraction (digits : List Char) : List Char :=
  let kept := ((digits.take 9).reverse.dropWhile (· == '0')).reverse
  if kept.isEmpty then ['0'] else kept

/-- A fraction of a second, if there is one, and what follows it. -/
def fraction? : List Char → Option (List Char × List Char)
  | '.' :: rest =>
    let digits := rest.takeWhile Char.isDigit
    if digits.isEmpty then none else some ('.' :: trimFraction digits, rest.drop digits.length)
  | rest => some ([], rest)

/-- Seconds, if there are any, and what follows them.  A minute may have a leap second. -/
def seconds? : List Char → Option (List Char × List Char)
  | ':' :: s :: s' :: rest => do
    let second ← digits? [s, s']
    if second ≤ 60 then
      let (fraction, rest) ← fraction? rest
      some ([':', s, s'] ++ fraction, rest)
    else none
  | ':' :: _ => none
  | rest => some ([], rest)

/-- A time of day, and what follows it. -/
def time? (cs : List Char) : Option (List Char × List Char) := do
  let (clock, rest) ← clock? cs
  let (seconds, rest) ← seconds? rest
  return (clock ++ seconds, rest)

/-- An offset up to the end, if there is one.  One of no length counts as positive. -/
def offset? : List Char → Option (List Char)
  | [] => some []
  | ['Z'] => some ['Z']
  | ['z'] => some ['Z']
  | sign :: cs =>
    if sign = '+' || sign = '-' then
      match clock? cs with
      | some (clock, []) => some ((if clock = ['0', '0', ':', '0', '0'] then '+' else sign) :: clock)
      | _ => none
    else none

/-- May the character stand between date and time? -/
def isSeparator (c : Char) : Bool := c = 'T' || c = 't' || c = ' '

/-- A date with what may follow it. -/
def withDate? (cs : List Char) : Option (List Char) := do
  match ← date? cs with
  | (date, []) => some date
  | (date, c :: rest) =>
    if isSeparator c then
      let (time, rest) ← time? rest
      return date ++ 'T' :: time ++ (← offset? rest)
    else none

def timeOnly? (cs : List Char) : Option (List Char) := do
  match ← time? cs with
  | (time, []) => some time
  | _ => none

/-- A date, a time of day or both. -/
def moment? (cs : List Char) : Option Setting :=
  (withDate? cs <|> timeOnly? cs).map fun cs => .text (String.ofList cs)

/-- Does the run hold a date and no more?  Then a time may follow it behind one space. -/
def isDate (run : List Char) : Bool :=
  match date? run with
  | some (_, []) => true
  | _ => false

end ValidatorAlarm.Toml.Moment
