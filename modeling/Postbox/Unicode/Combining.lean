import Postbox.Text.Runs
import Postbox.Unicode.Table

namespace Postbox.Unicode

/-!
# Marks and their classes

A mark is written onto the character before it.  Marks with a combining class other than zero may
be reordered among themselves, by that class; class nine is that of the viramas (Unicode 16).

* `isMark` — whether a character is a mark.
* `combiningClass` — the class of a character, zero for a base.
-/

/-- The marks. -/
def marks : Text.Runs := .ofLines
  ["768 112 275 7 263 45 1 1 1 2 1 2 1 1 72 11 48 21 16 1 101 7 2 6 2 2 1 4 35 1 30 27 91 11 58",
   "9 9 1 24 4 1 9 1 3 1 5 43 3 59 9 42 58 54 3 1 18 1 7 10 2 29 3 56 1 1 16 9 1 10 2 26 6 56 22",
   "30 2 3 1 11 3 56 1 1 16 20 2 22 10 56 1 1 26 10 2 30 1 59 16 9 1 40 5 55 1 1 25 11 2 29 3 56",
   "1 1 25 11 2 15 17 55 2 1 16 9 1 10 2 29 3 70 22 18 2 61 1 2 7 12 8 98 1 2 9 11 7 73 2 27 1 1",
   "1 1 1 4 2 49 20 1 2 5 48 9 1 100 20 23 4 4 3 1 3 2 7 3 4 13 12 1 1 10 4 703 3 946 4 28 3 29",
   "2 30 2 66 30 9 1 167 2 34 1 118 28 219 5 57 43 48 85 47 17 38 9 12 3 30 13 56 14 48 20 152 3",
   "1 21 4 1 6 1 2 3 198 64 720 33 3070 3 141 1 96 32 554 6 105 2 30164 4 1 10 32 2 80 2 272 1 3",
   "1 4 1 23 5 4 1 83 2 50 18 26 18 13 1 38 8 25 13 44 4 47 14 36 1 67 14 12 1 8 2 45 3 50 1 1 3",
   "2 2 5 2 1 1 41 5 5 2 236 8 1 2 20272 1 769 16 973 1 226 1 149 5 1670 15 40 8 165 2 573 4 65",
   "5 317 2 79 4 70 11 49 4 122 3 53 15 41 1 2 2 10 4 45 11 7 1 61 3 36 14 16 2 44 1 12 3 48 14",
   "8 4 1 2 92 12 6 1 2 1 157 12 21 4 55 2 1 16 9 1 10 19 67 25 1 1 14 2 82 18 23 1 81 20 235 18",
   "27 2 82 17 106 13 101 15 256 15 245 15 1 1 1 2 141 16 3 1 28 10 40 7 1 4 8 1 9 11 46 16 405",
   "17 82 37 122 21 1 1 66 14 347 4 9 2 1 1 48 15 23 1 5349 1 6 15 11464 18 2496 5 59 7 1048 1 1",
   "66 81 14 19627 2 4705 71 542 5 3 22 2 7 30 4 148 3 1979 55 4 50 8 1 14 1 22 21 1360 144 160",
   "7 375 1 61 4 508 4 254 2 736 7 109 7"]

/-- Whether a character is a mark. -/
def isMark (c : Char) : Bool := marks.contains c.toNat

/-- The combining classes other than zero. -/
def combiningClasses : Table := .ofLines
  ["768 21 230 0 1 232 0 4 220 0 1 232 0 1 216 0 5 220 0 2 202 0 4 220 0 2 202 0 11 220 0 5 1 0",
   "4 220 0 8 230 0 1 240 0 1 230 0 3 220 0 3 230 0 2 220 1 3 230 0 4 220 0 1 230 0 1 232 0 2",
   "220 0 1 230 0 1 233 0 2 234 0 1 233 0 2 234 0 1 233 0 13 230 275 5 230 265 1 220 0 4 230 0 1",
   "220 0 3 230 0 1 222 0 1 220 0 6 230 0 6 220 0 2 230 0 1 220 0 2 230 0 1 222 0 1 228 0 1 230",
   "0 1 10 0 1 11 0 1 12 0 1 13 0 1 14 0 1 15 0 1 16 0 1 17 0 1 18 0 2 19 0 1 20 0 1 21 0 1 22 1",
   "1 23 1 1 24 0 1 25 1 1 230 0 1 220 1 1 18 72 8 230 0 1 30 0 1 31 0 1 32 48 1 27 0 1 28 0 1",
   "29 0 1 30 0 1 31 0 1 32 0 1 33 0 1 34 0 2 230 0 2 220 0 5 230 0 1 220 0 2 230 0 1 220 16 1",
   "35 101 7 230 2 4 230 0 1 220 0 1 230 2 2 230 1 1 220 0 2 230 0 1 220 35 1 36 30 1 230 0 1",
   "220 0 2 230 0 1 220 0 2 230 0 3 220 0 1 230 0 2 220 0 1 230 0 1 220 0 3 230 0 1 220 0 1 230",
   "0 1 220 0 1 230 0 1 220 0 1 230 0 1 220 0 2 230 160 7 230 0 1 220 0 1 230 9 1 220 24 4 230 1",
   "9 230 1 3 230 1 5 230 43 3 220 59 2 230 0 3 220 0 4 230 42 5 230 0 5 220 0 14 230 1 1 220 0",
   "2 230 0 1 220 0 2 230 0 1 220 0 3 230 0 3 220 0 1 27 0 1 28 0 1 29 0 3 230 0 1 220 0 2 230 0",
   "2 220 0 5 230 60 1 7 16 1 9 3 1 230 0 1 220 0 2 230 103 1 7 16 1 9 48 1 230 61 1 7 16 1 9",
   "110 1 7 16 1 9 110 1 7 16 1 9 127 1 9 110 1 7 16 1 9 7 1 84 0 1 91 101 1 7 16 1 9 109 2 9 16",
   "1 9 124 1 9 109 2 103 0 1 9 13 4 107 108 2 118 0 1 9 13 4 122 2 1 122 73 2 220 27 1 220 1 1",
   "220 1 1 216 55 1 129 0 1 130 1 1 132 5 4 130 2 1 130 1 2 230 0 1 9 1 2 230 62 1 220 112 1 7",
   "1 2 9 82 1 220 719 3 230 948 2 9 30 1 9 157 1 9 10 1 230 203 1 228 143 1 222 0 1 230 0 1 220",
   "219 1 230 0 1 220 71 1 9 20 8 230 2 1 220 48 5 230 0 6 220 0 2 230 0 1 220 1 2 220 0 2 230 0",
   "2 220 0 5 230 0 1 220 0 4 230 101 1 7 15 1 9 38 1 230 0 1 220 0 7 230 54 2 9 58 1 7 11 2 9",
   "67 1 7 152 3 230 1 1 1 0 5 220 0 2 230 0 4 220 0 1 230 1 7 1 4 1 220 6 1 230 3 2 230 198 2",
   "230 0 1 220 0 7 230 0 1 220 0 2 230 0 1 234 0 1 214 0 1 220 0 1 202 0 37 230 0 1 232 0 2 228",
   "0 1 220 0 1 218 0 1 230 0 1 233 0 1 220 0 1 230 0 1 220 720 2 230 0 2 1 0 4 230 0 3 1 0 2",
   "230 4 1 230 3 2 1 0 1 230 0 1 220 0 1 230 0 2 1 0 4 220 0 1 230 3070 3 230 141 1 9 96 32 230",
   "554 1 218 0 1 228 0 1 232 0 1 222 0 2 224 105 2 8 30164 1 230 4 10 230 32 2 230 80 2 230 276",
   "1 9 37 1 9 151 1 9 27 18 230 57 3 220 37 1 9 95 1 7 12 1 9 239 1 230 1 2 230 0 1 220 2 2 230",
   "5 2 230 1 1 230 52 1 9 246 1 9 20272 1 26 769 7 230 0 7 220 0 2 230 973 1 220 226 1 220 149",
   "5 230 1682 1 220 1 1 230 40 1 230 0 1 1 0 1 220 4 1 9 165 1 230 0 1 220 573 4 230 65 5 230",
   "317 2 230 80 3 220 70 2 220 0 3 230 0 1 220 0 1 230 0 4 220 49 1 230 0 1 220 0 1 230 0 1 220",
   "192 1 9 41 1 9 14 1 9 57 1 9 0 1 7 69 3 230 48 2 9 62 1 7 76 1 9 9 1 7 106 1 9 0 1 7 178 1 7",
   "0 1 9 80 2 7 16 1 9 24 7 230 3 5 230 89 1 9 1 1 9 16 2 230 95 1 9 3 1 7 23 1 230 99 1 9 0 1",
   "7 251 1 9 0 1 7 126 1 9 118 1 9 0 1 7 115 1 9 269 1 9 0 1 7 258 2 9 4 1 7 156 1 9 83 1 9 18",
   "1 9 81 1 9 421 1 9 258 1 7 1 2 9 81 1 9 425 2 9 16876 1 9 2496 5 1 59 7 230 1209 2 6 19628 1",
   "1 5318 2 216 0 3 1 3 1 226 0 5 216 8 8 220 2 5 230 0 2 220 30 4 230 148 3 230 3515 7 230 1",
   "17 230 2 7 230 1 2 230 1 5 230 100 1 230 160 7 230 375 1 230 61 4 230 508 2 232 0 1 220 0 1",
   "230 254 1 230 0 1 220 736 7 220 109 6 230 0 1 7"]

/-- The combining class of a character. -/
def combiningClass (c : Char) : Nat := (combiningClasses.value? c).getD 0

/-- Whether a character is a virama. -/
def isVirama (c : Char) : Bool := combiningClass c == 9

end Postbox.Unicode
