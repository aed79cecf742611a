import Postbox.Text.Decimal
import Postbox.Text.Hex
import Postbox.Toml.Document

namespace Postbox.Toml

/-!
# TOML numbers and dates

Integers of 64 bits in four bases, floating-point numbers, and dates and times.  An underscore may
stand between two digits.  Dates are checked against the calendar, times against the clock.

* `digitRun?` — digits with underscores between them.
* `radix?`, `decimal?`, `number?` — the numbers.
* `datetime?` — what follows a date, a time, or both.
-/

/-- Digits of one kind with underscores between them, the underscores left out, and what follows.
    An underscore that no digit follows is a fault. -/
def digitsAfter (isDigit : Char → Bool) : Bool → List Char → Option (List Char × List Char)
  | due, [] => if due then none else some ([], [])
  | due, c :: cs =>
    if isDigit c then (digitsAfter isDigit false cs).map fun (ds, rest) => (c :: ds, rest)
    else if due then none
    else if c = '_' then digitsAfter isDigit true cs
    else some ([], c :: cs)

/-- At least one digit, as in `digitsAfter`. -/
def digitRun? (isDigit : Char → Bool) (cs : List Char) : Option (List Char × List Char) :=
  digitsAfter isDigit true cs

/-- The number of a run of digits in a base. -/
def valueIn (base : Nat) (ds : List Char) : Nat :=
  ds.foldl (fun n c => base * n + (Text.hexValue? c).getD 0) 0

/-- Whether an integer has 64 bits. -/
def isInt64 (n : Int) : Bool := -9223372036854775808 ≤ n && n ≤ 9223372036854775807

/-- An integer in a base other than ten, behind its mark. -/
def radix? (base : Nat) (isDigit : Char → Bool) (cs : List Char) : Option (Node × List Char) :=
  (digitRun? isDigit cs).bind fun (ds, rest) =>
    if isInt64 (valueIn base ds) then some (.integer (valueIn base ds), rest) else none

/-- The digits before a point: a lone zero, or digits that begin with another one. -/
def wholeRun? : List Char → Option (List Char × List Char)
  | '0' :: rest => some (['0'], rest)
  | cs => digitRun? Char.isDigit cs

/-- A point and digits behind it; nothing if there is no point. -/
def fraction? : List Char → Option (List Char × List Char)
  | '.' :: cs => digitRun? Char.isDigit cs
  | cs => some ([], cs)

/-- A sign, if there is one: whether it is a minus, and what follows. -/
def sign : List Char → Bool × List Char
  | '+' :: cs => (false, cs)
  | '-' :: cs => (true, cs)
  | cs => (false, cs)

/-- An exponent behind its mark; nothing if there is no mark. -/
def exponent? : List Char → Option (Int × List Char)
  | [] => some (0, [])
  | c :: cs =>
    if c = 'e' ∨ c = 'E' then
      let (negative, ds) := sign cs
      (digitRun? Char.isDigit ds).map fun (ds, rest) =>
        (if negative then -(valueIn 10 ds : Int) else valueIn 10 ds, rest)
    else some (0, c :: cs)

/-- Whether what follows the whole part makes a number a floating-point one. -/
def isFloatMark : List Char → Bool
  | c :: _ => c == '.' || c == 'e' || c == 'E'
  | [] => false

/-- A decimal number behind its sign.  A number too great is a fault, unless it is negative. -/
def decimal? (negative : Bool) (cs : List Char) : Option (Node × List Char) := do
  let (whole, rest) ← wholeRun? cs
  if isFloatMark rest then
    let (fraction, rest) ← fraction? rest
    let (exponent, rest) ← exponent? rest
    let value := Number.Binary64.ofDecimal negative (valueIn 10 (whole ++ fraction))
      (exponent - fraction.length)
    if value = .infinity false then none else some (.float value, rest)
  else
    let n : Int := if negative then -(valueIn 10 whole : Int) else valueIn 10 whole
    if isInt64 n then some (.integer n, rest) else none

/-- A number behind its sign, the two special ones included. -/
def signed? (negative : Bool) : List Char → Option (Node × List Char)
  | 'i' :: 'n' :: 'f' :: rest => some (.float (.infinity negative), rest)
  | 'n' :: 'a' :: 'n' :: rest => some (.float .nan, rest)
  | cs => decimal? negative cs

/-- A number, and what follows it. -/
def number? : List Char → Option (Node × List Char)
  | '0' :: 'x' :: cs => radix? 16 (fun c => (Text.hexValue? c).isSome) cs
  | '0' :: 'o' :: cs => radix? 8 (fun c => '0' ≤ c && c ≤ '7') cs
  | '0' :: 'b' :: cs => radix? 2 (fun c => c == '0' || c == '1') cs
  | cs => signed? (sign cs).1 (sign cs).2

/-! ### Dates and times -/

/-- The number of exactly `n` digits, and what follows them. -/
def fixed? (n : Nat) (cs : List Char) : Option (Nat × List Char) :=
  if (cs.take n).length = n && (cs.take n).all Char.isDigit then
    some (valueIn 10 (cs.take n), cs.drop n)
  else none

/-- Two digits whose number lies in a range, and what follows them. -/
def between? (low high : Nat) (cs : List Char) : Option (Nat × List Char) :=
  (fixed? 2 cs).bind fun (n, rest) => if low ≤ n ∧ n ≤ high then some (n, rest) else none

/-- What follows a given character. -/
def expect? (c : Char) : List Char → Option (List Char)
  | d :: cs => if d = c then some cs else none
  | [] => none

/-- The number of days of a month. -/
def daysOf (year month : Nat) : Nat :=
  if month = 2 then
    if year % 4 = 0 ∧ (year % 100 ≠ 0 ∨ year % 400 = 0) then 29 else 28
  else if month = 4 ∨ month = 6 ∨ month = 9 ∨ month = 11 then 30
  else 31

/-- What follows a date of the calendar. -/
def date? (cs : List Char) : Option (List Char) := do
  let (year, cs) ← fixed? 4 cs
  let cs ← expect? '-' cs
  let (month, cs) ← between? 1 12 cs
  let cs ← expect? '-' cs
  let (_, cs) ← between? 1 (daysOf year month) cs
  pure cs

/-- What follows the fraction of a second, if there is one. -/
def secondFraction : List Char → List Char
  | '.' :: c :: cs => if c.isDigit then cs.dropWhile Char.isDigit else '.' :: c :: cs
  | cs => cs

/-- What follows a time of the clock. -/
def time? (cs : List Char) : Option (List Char) := do
  let (_, cs) ← between? 0 23 cs
  let cs ← expect? ':' cs
  let (_, cs) ← between? 0 59 cs
  let cs ← expect? ':' cs
  let (_, cs) ← between? 0 60 cs
  pure (secondFraction cs)

/-- What follows the distance from universal time, if there is one. -/
def offset : List Char → List Char
  | [] => []
  | c :: cs =>
    if c = 'Z' ∨ c = 'z' then cs
    else if c = '+' ∨ c = '-' then
      (do let (_, r) ← between? 0 23 cs
          let r ← expect? ':' r
          let (_, r) ← between? 0 59 r
          pure r).getD (c :: cs)
    else c :: cs

/-- What follows the time of a day, if there is one. -/
def timeOfDay : List Char → List Char
  | [] => []
  | c :: cs =>
    if c = 'T' ∨ c = 't' ∨ c = ' ' then
      match time? cs with
      | some rest => offset rest
      | none => c :: cs
    else c :: cs

/-- What follows a date with or without a time, or a time. -/
def datetime? (cs : List Char) : Option (List Char) :=
  match date? cs with
  | some rest => some (timeOfDay rest)
  | none => time? cs

end Postbox.Toml
