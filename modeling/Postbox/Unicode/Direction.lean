import Postbox.Unicode.Table

namespace Postbox.Unicode

/-!
# Directions

Which way a character is written, as far as that matters within a name (Unicode 16).

* `Direction` — the kinds.
* `direction` — the kind of a character that may occur in a name.
-/

/-- Which way a character is written. -/
inductive Direction where
  | left
  | right
  /-- A digit of numbers that are written as in Europe. -/
  | europeanNumber
  | arabicNumber
  /-- A mark without width. -/
  | nonspacing
  /-- A separator, a symbol, or a character that is not shown. -/
  | neutral
  deriving Repr, DecidableEq

/-- The directions other than left-to-right, numbered in their order. -/
def directions : Table := .ofLines
  ["0 9 5 5 14 5 5 15 5 0 10 2 0 39 5 26 93 5 31 1 5 449 2 5 7 14 5 2 28 5 1 17 5 0 112 4 5 1 5",
   "128 1 5 140 7 4 256 6 5 1 45 4 0 1 1 0 1 4 0 1 1 0 2 4 0 1 1 0 2 4 0 1 1 0 1 4 8 37 1 17 2 5",
   "0 1 1 0 2 5 0 1 1 0 1 5 0 1 1 0 2 5 0 11 4 0 48 1 0 21 4 0 10 3 0 1 5 0 2 3 0 3 1 0 1 4 0",
   "101 1 0 7 4 1 1 5 0 6 4 0 2 1 0 2 4 0 1 5 0 4 4 0 2 1 0 10 2 0 23 1 0 1 4 0 30 1 0 27 4 2 89",
   "1 0 11 4 0 58 1 0 9 4 0 2 1 0 4 5 0 1 1 2 1 4 0 24 1 0 4 4 0 1 1 0 9 4 0 1 1 0 3 4 0 1 1 0 5",
   "4 2 41 1 0 3 4 2 49 1 8 9 4 0 42 1 0 57 4 55 1 4 1 1 4 4 8 4 4 1 4 3 7 4 10 2 4 29 1 4 58 1",
   "4 4 4 4 8 1 4 20 2 4 14 2 5 7 1 5 2 5 4 57 1 4 4 17 4 30 2 4 3 1 4 11 2 4 57 1 4 4 8 4 4 1 4",
   "20 2 4 13 1 5 8 8 4 58 1 4 2 1 4 1 4 4 8 10 4 11 2 4 30 1 4 61 1 4 12 1 4 37 8 5 5 1 4 3 1 4",
   "55 1 4 1 3 4 5 17 4 11 2 4 20 7 5 2 1 4 58 1 4 15 2 4 20 2 4 28 2 4 57 2 4 4 4 4 8 1 4 20 2",
   "4 29 1 4 72 1 4 7 5 4 90 1 4 2 7 4 4 1 5 7 8 4 98 1 4 2 9 4 11 7 4 73 2 4 27 1 4 1 1 4 1 1 4",
   "0 4 5 51 14 4 1 5 4 1 2 4 5 48 4 9 1 4 102 4 4 1 6 4 1 2 4 2 2 4 25 2 4 4 3 4 16 4 4 13 1 4",
   "2 2 4 6 1 4 15 1 4 703 3 4 48 10 5 102 1 5 666 2 5 117 3 4 29 2 4 30 2 4 30 2 4 67 7 4 8 1 4",
   "2 11 4 7 1 5 1 1 4 18 27 5 122 2 4 34 1 4 118 3 4 4 2 4 9 1 4 6 3 4 4 6 5 152 34 5 23 2 4 2",
   "1 4 58 1 4 1 9 4 1 1 4 2 8 4 6 13 4 48 84 4 48 1 4 1 5 4 1 1 4 5 1 4 40 9 4 12 2 4 32 4 4 2",
   "2 4 1 3 4 56 1 4 1 2 4 3 1 4 1 3 4 58 8 4 2 2 4 152 3 4 1 13 4 1 7 4 4 1 4 6 1 4 3 2 4 198",
   "64 4 524 181 5 15 33 4 19 74 5 60 428 5 69 26 5 1 790 5 1 339 5 256 768 5 229 6 5 4 3 4 7 7",
   "5 127 1 4 96 32 4 0 517 5 3 25 5 9 4 4 2 1 5 6 1 5 5 3 5 89 2 4 5 1 5 90 1 5 196 36 5 7132",
   "64 5 22160 55 5 326 3 5 95 4 4 0 1 5 0 10 4 0 2 5 30 2 4 80 2 4 14 34 5 102 1 5 121 1 4 3 1",
   "4 4 1 4 25 2 4 1 4 5 0 1 4 11 2 5 58 4 5 76 2 4 26 18 4 13 1 4 38 8 4 25 11 4 46 3 4 48 1 4",
   "2 4 4 2 2 4 39 1 4 67 6 4 2 2 4 2 2 4 12 1 4 8 1 4 47 1 4 51 1 4 1 3 4 2 2 4 5 2 4 1 1 4 42",
   "2 4 8 1 4 115 2 5 121 1 4 2 1 4 4 1 4 20272 1 4 147 17 1 379 194 5 32 16 4 21 2 5 44 1 1 653",
   "1 5 62 77 5 3 17 5 92 1 4 226 1 4 0 27 2 122 5 4 1157 284 1 3 1 5 0 225 1 0 15 4 0 38 1 2 8",
   "4 0 165 1 0 2 4 4 75 1 3 7 5 0 484 1 0 4 4 8 10 3 6 16 1 25 5 4 0 34 1 208 31 3 1 42 1 1 2 4",
   "0 24 1 55 4 4 0 70 1 0 11 4 0 49 1 0 4 4 0 113 1 10 1 4 54 15 4 11 20 5 10 1 4 2 2 4 10 3 4",
   "49 4 4 2 2 4 7 1 4 61 3 4 36 5 4 1 8 4 62 1 4 12 2 4 52 9 4 10 4 4 2 1 4 95 3 4 2 1 4 1 2 4",
   "6 1 4 2 1 4 157 1 4 3 8 4 21 2 4 57 2 4 3 1 4 37 15 4 70 6 4 13 1 4 1 1 4 1 1 4 14 2 4 85 8",
   "4 2 3 4 1 1 4 23 1 4 84 6 4 1 1 4 4 2 4 1 2 4 238 4 4 6 2 4 1 2 4 27 2 4 85 8 4 2 1 4 1 2 4",
   "31 13 5 62 1 4 1 1 4 2 6 4 1 1 4 101 3 4 2 4 4 1 5 4 259 9 4 1 2 4 256 2 4 1 1 4 4 1 4 144 8",
   "4 4 1 4 32 6 4 2 2 4 40 6 4 2 4 4 8 1 4 9 6 4 2 3 4 46 13 4 1 2 4 406 14 4 84 22 4 2 7 4 1 2",
   "4 1 2 4 122 21 4 1 1 4 72 2 4 3 1 4 1 1 4 347 2 4 11 2 4 52 5 4 5 1 4 1 1 4 23 1 4 122 29 5",
   "5198 1 4 6 15 4 11464 12 4 3 3 4 2496 5 4 59 7 4 1048 1 4 63 4 4 79 1 5 1 1 4 19640 2 4 3937",
   "692 5 76 71 4 544 3 4 17 8 4 2 7 4 30 4 4 59 89 5 0 3 4 0 124 5 63 87 5 1705 55 4 4 50 4 8 1",
   "4 14 1 4 22 21 4 1360 144 4 160 7 4 375 1 4 61 4 4 15 1 5 492 4 4 254 2 4 528 208 1 0 7 4 75",
   "34 1 0 7 4 0 1011 1 434 576 5 61 3 5 61 1 5 178 2448 5"]

/-- The direction of a character that may occur in a name. -/
def direction (c : Char) : Direction :=
  match directions.value? c with
  | some 1 => .right
  | some 2 => .europeanNumber
  | some 3 => .arabicNumber
  | some 4 => .nonspacing
  | some 5 => .neutral
  | _ => .left

end Postbox.Unicode
