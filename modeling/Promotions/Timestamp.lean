/-! Points in time with microseconds, with or without a zone. Times without a zone compare by their
fields, and so do times of one and the same zone, also if it has changed its offset from one to the
other. Times of different zones compare by the instants they name. A time with a zone does not
compare with one without. -/
namespace Promotions

/-- Where a clock stands, and how many microseconds it is ahead of universal time there. A zone with
a name may have one offset in summer and another in winter. -/
inductive Zone where
  | fixed (offset : Int)
  | named (name : String) (offset : Int)
  deriving DecidableEq, Repr

namespace Zone

def offset : Zone → Int
  | fixed offset => offset
  | named _ offset => offset

/-- Whether two clocks stand in one zone, whatever they are ahead of universal time. -/
def isSame : Zone → Zone → Bool
  | fixed offset, fixed other => offset == other
  | named name _, named other _ => name == other
  | _, _ => false

end Zone

structure Timestamp where
  year : Nat
  month : Nat
  day : Nat
  hour : Nat
  minute : Nat
  second : Nat
  microsecond : Nat
  zone : Option Zone
  deriving DecidableEq, Repr, Inhabited

namespace Timestamp

def isLeap (year : Nat) : Bool := year % 4 == 0 && (year % 100 != 0 || year % 400 == 0)

def daysBefore (year month : Nat) : Nat :=
  let days := [0, 31, 59, 90, 120, 151, 181, 212, 243, 273, 304, 334].getD (month - 1) 0
  if 2 < month && isLeap year then days + 1 else days

def dayNumber (t : Timestamp) : Nat :=
  let years := t.year - 1
  365 * years + years / 4 - years / 100 + years / 400 + daysBefore t.year t.month + (t.day - 1)

/-- Microseconds since the start of year one, as the fields read. -/
def reading (t : Timestamp) : Int :=
  (((t.dayNumber * 24 + t.hour) * 60 + t.minute) * 60 + t.second) * 1000000 + t.microsecond

/-- The reading of a clock that shows universal time. -/
def instant (t : Timestamp) (offset : Int) : Int := t.reading - offset

def isAware (t : Timestamp) : Bool := t.zone.isSome

def order? (a b : Timestamp) : Option Ordering :=
  match a.zone, b.zone with
  | none, none => some (compare a.reading b.reading)
  | some x, some y =>
      if x.isSame y then some (compare a.reading b.reading)
      else some (compare (a.instant x.offset) (b.instant y.offset))
  | _, _ => none

theorem orderIsSome (a b : Timestamp) : (order? a b).isSome = (a.isAware == b.isAware) := by
  unfold order? isAware
  cases a.zone with
  | none => cases b.zone <;> rfl
  | some x =>
    cases b.zone with
    | none => rfl
    | some y => cases same : x.isSame y <;> simp [same]

def padded (width n : Nat) : List Char :=
  let digits := Nat.toDigits 10 n
  List.replicate (width - digits.length) '0' ++ digits

def dateText (t : Timestamp) : String :=
  String.ofList (padded 1 t.year ++ '-' :: padded 2 t.month ++ '-' :: padded 2 t.day)

/-- Hours and minutes, and what is beyond them only if there is anything. -/
def offsetText (offset : Int) : List Char :=
  let seconds := offset.natAbs / 1000000
  let microseconds := offset.natAbs % 1000000
  (if offset < 0 then '-' else '+') :: padded 2 (seconds / 3600) ++
    ':' :: padded 2 (seconds / 60 % 60) ++
    (if seconds % 60 = 0 ∧ microseconds = 0 then [] else ':' :: padded 2 (seconds % 60)) ++
    (if microseconds = 0 then [] else '.' :: padded 6 microseconds)

def text (t : Timestamp) : String :=
  String.ofList (padded 4 t.year ++ '-' :: padded 2 t.month ++ '-' :: padded 2 t.day ++
    'T' :: padded 2 t.hour ++ ':' :: padded 2 t.minute ++ ':' :: padded 2 t.second ++
    (if t.microsecond = 0 then [] else '.' :: padded 6 t.microsecond) ++
    ((t.zone.map fun zone => offsetText zone.offset).getD []))

def field? (mark : List Char) (width : Nat) (chars : List Char) : Option (Nat × List Char) :=
  let rest := chars.drop mark.length
  let digits := rest.take width
  if chars.take mark.length = mark ∧ digits.length = width ∧ digits.all Char.isDigit then
    some (Nat.ofDigitChars 10 digits 0, rest.drop width)
  else none

def offset? : List Char → Option (Option Int)
  | [] => some none
  | ['Z'] => some (some 0)
  | mark :: rest => do
      let (hours, rest) ← field? [] 2 rest
      let (minutes, rest) ← field? [':'] 2 rest
      let (seconds, rest) := (field? [':'] 2 rest).getD (0, rest)
      let (microseconds, rest) := (field? ['.'] 6 rest).getD (0, rest)
      let offset : Int := ((hours * 60 + minutes) * 60 + seconds) * 1000000 + microseconds
      if rest ≠ [] then none
      else if mark = '+' then some (some offset)
      else if mark = '-' then some (some (-offset))
      else none

def read? (text : String) : Option Timestamp := do
  let (year, rest) ← field? [] 4 text.toList
  let (month, rest) ← field? ['-'] 2 rest
  let (day, rest) ← field? ['-'] 2 rest
  let (hour, rest) ← field? ['T'] 2 rest
  let (minute, rest) ← field? [':'] 2 rest
  let (second, rest) ← field? [':'] 2 rest
  let (microsecond, rest) := (field? ['.'] 6 rest).getD (0, rest)
  let offset ← offset? rest
  some ⟨year, month, day, hour, minute, second, microsecond, offset.map .fixed⟩

end Timestamp

/-- What tells the time to compare a promotion's dates with. It is shown the first of the dates,
so that it can answer in kind. -/
abbrev Clock := Option Timestamp → Timestamp

namespace Clock

def fixed (now : Timestamp) : Clock := fun _ => now

/-- A clock that tells the time in the zone of the date that it is asked about. What it shows there,
and without a zone, is up to the system. -/
def system (now : Option Zone → Timestamp) : Clock := fun date => now (date.bind (·.zone))

/-- A clock that has one face for all zones. -/
def onWall (now : Timestamp) : Clock := system fun zone => { now with zone }

end Clock

end Promotions
