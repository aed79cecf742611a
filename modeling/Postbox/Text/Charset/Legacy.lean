import Postbox.Text.Charset.Big5
import Postbox.Text.Charset.EucKr
import Postbox.Text.Charset.Gbk
import Postbox.Text.Charset.Jis
import Postbox.Text.Charset.Page

namespace Postbox.Text.Charset

/-!
# Charsets besides UTF-8

Each of them is a set of words of at most four bytes, and every word stands for characters.  Bytes
are read word by word; where no word begins, some of them are replaced by U+FFFD.

* `PairCode` — the words of one byte and of two that most charsets of eastern Asia have.
* `Legacy` — the charsets besides UTF-8.
* `Legacy.word?` — what a word stands for.
* `Legacy.lost` — how many bytes are replaced where no word begins.
* `Legacy.decode` — the text of a sequence of bytes.
-/

/-- Whether a byte lies in a range. -/
def within (low high b : UInt8) : Bool := low ≤ b && b ≤ high

/-- The character of a byte in ASCII. -/
def ascii? (b : UInt8) : Option Char := if b < 0x80 then some (Char.ofNat b.toNat) else none

/-! ### Words of two bytes -/

/-- Words of one byte and of two. -/
structure PairCode where
  single? : UInt8 → Option Char
  /-- Whether a byte is the first one of two. -/
  isLead : UInt8 → Bool
  pair? : UInt8 → UInt8 → Option (List Char)

namespace PairCode

/-- The characters of a word. -/
def word? (code : PairCode) : List UInt8 → Option (List Char)
  | [a] => if code.isLead a then none else (code.single? a).map ([·])
  | [a, b] => if code.isLead a then code.pair? a b else none
  | _ => none

/-- How many bytes are replaced where no word begins.  The second of two bytes is read again if it
    is one of ASCII. -/
def lost (code : PairCode) : List UInt8 → Nat
  | a :: b :: _ => if code.isLead a && 0x80 ≤ b then 2 else 1
  | _ => 1

end PairCode

/-- The character of half a width that a byte stands for, counted from the first. -/
def halfKatakana (first b : UInt8) : Char := Char.ofNat (0xff61 + (b.toNat - first.toNat))

/-- The pairs of Big5.  Four of them stand for a letter with two marks. -/
def big5Pairs : PairCode where
  single? := ascii?
  isLead := within 0x81 0xfe
  pair? a b :=
    let row := a.toNat - 0x81
    if a = 0x88 ∧ b = 0x62 then some ['Ê', '\u0304']
    else if a = 0x88 ∧ b = 0x64 then some ['Ê', '\u030c']
    else if a = 0x88 ∧ b = 0xa3 then some ['ê', '\u0304']
    else if a = 0x88 ∧ b = 0xa5 then some ['ê', '\u030c']
    else if within 0x40 0x7e b then (big5Low.char? row (b.toNat - 0x40)).map ([·])
    else if within 0xa1 0xfe b then (big5High.char? row (b.toNat - 0xa1)).map ([·])
    else none

/-- The pairs of EUC-KR. -/
def eucKrPairs : PairCode where
  single? := ascii?
  isLead := within 0x81 0xfe
  pair? a b :=
    let row := a.toNat - 0x81
    if within 0x41 0xa0 b then (ksLow.char? row (b.toNat - 0x41)).map ([·])
    else if within 0xa1 0xfe b then (ksHigh.char? row (b.toNat - 0xa1)).map ([·])
    else none

/-- The pairs of EUC-JP. -/
def eucJpPairs : PairCode where
  single? := ascii?
  isLead b := b = 0x8e || b = 0x8f || within 0xa1 0xfe b
  pair? a b :=
    if a = 0x8e then if within 0xa1 0xdf b then some [halfKatakana 0xa1 b] else none
    else if within 0xa1 0xfe a && within 0xa1 0xfe b then
      (jis0208.char? (a.toNat - 0xa1) (b.toNat - 0xa1)).map ([·])
    else none

/-- The pairs of Shift_JIS.  The numbers from 8836 to 10715 are for private use. -/
def shiftJisPairs : PairCode where
  single? b :=
    if b = 0x80 then some '\x80'
    else if within 0xa1 0xdf b then some (halfKatakana 0xa1 b)
    else ascii? b
  isLead b := within 0x81 0x9f b || within 0xe0 0xfc b
  pair? a b :=
    let row := a.toNat - if a < 0xa0 then 0x81 else 0xc1
    if within 0x40 0x7e b || within 0x80 0xfc b then
      let n := 188 * row + (b.toNat - if b < 0x7f then 0x40 else 0x41)
      if 8836 ≤ n ∧ n ≤ 10715 then some [Char.ofNat (0xe000 + (n - 8836))]
      else (jis0208.char? (n / 94) (n % 94)).map ([·])
    else none

/-- The characters for private use that two bytes stand for in GB 18030. -/
def gbkPrivate? (a b : UInt8) : Option Nat :=
  if within 0xaa 0xaf a && within 0xa1 0xfe b then
    some (0xe000 + 94 * (a.toNat - 0xaa) + (b.toNat - 0xa1))
  else if within 0xf8 0xfe a && within 0xa1 0xfe b then
    some (0xe234 + 94 * (a.toNat - 0xf8) + (b.toNat - 0xa1))
  else if within 0xa1 0xa7 a && within 0x40 0x7e b then
    some (0xe4c6 + 96 * (a.toNat - 0xa1) + (b.toNat - 0x40))
  else if within 0xa1 0xa7 a && within 0x80 0xa0 b then
    some (0xe4c6 + 96 * (a.toNat - 0xa1) + (b.toNat - 0x41))
  else none

/-- The pairs of GB 18030.  One of those for private use stands for the wide blank. -/
def gbkPairs : PairCode where
  single? b := if b = 0x80 then some '€' else ascii? b
  isLead := within 0x81 0xfe
  pair? a b :=
    let row := a.toNat - 0x81
    if a = 0xa3 ∧ b = 0xa0 then some ['\u3000']
    else match gbkPrivate? a b with
      | some n => some [Char.ofNat n]
      | none =>
        if within 0x40 0x7e b then (gbkLow.char? row (b.toNat - 0x40)).map ([·])
        else if within 0x80 0xa0 b then (gbkLow.char? row (b.toNat - 0x41)).map ([·])
        else if within 0xa1 0xfe b then (gbkHigh.char? row (b.toNat - 0xa1)).map ([·])
        else none

/-! ### Longer words -/

/-- The character of the four bytes with a number in GB 18030. -/
def gbkRanged? (n : Nat) : Option Char :=
  if 39419 < n ∧ n < 189000 ∨ 1237575 < n then none
  else if n = 7457 then some '\ue7c7'
  else
    (gbkRanges.reverse.find? (·.1 ≤ n)).map fun (start, first) => Char.ofNat (first + (n - start))

/-- Whether two bytes begin a word of four in GB 18030. -/
def beginsFour (a b : UInt8) : Bool := within 0x81 0xfe a && within 0x30 0x39 b

/-- The characters of a word of GB 18030. -/
def gb18030Word? : List UInt8 → Option (List Char)
  | [a, b, c, d] =>
    if beginsFour a b && beginsFour c d then
      (gbkRanged? (12600 * (a.toNat - 0x81) + 1260 * (b.toNat - 0x30) + 10 * (c.toNat - 0x81)
        + (d.toNat - 0x30))).map ([·])
    else none
  | w => gbkPairs.word? w

/-- How many bytes are replaced where no word of GB 18030 begins.  Behind the first of four bytes
    everything is read again, unless all four are there or nothing comes behind them. -/
def gb18030Lost (bs : List UInt8) : Nat :=
  match bs with
  | a :: b :: rest =>
    if beginsFour a b then
      match rest with
      | [] => 2
      | [c] => if within 0x81 0xfe c then 3 else 1
      | c :: d :: _ => if beginsFour c d then 4 else 1
    else gbkPairs.lost bs
  | _ => 1

/-- Whether two bytes begin a word of three in EUC-JP. -/
def beginsThree (a b : UInt8) : Bool := a = 0x8f && within 0xa1 0xfe b

/-- The characters of a word of EUC-JP. -/
def eucJpWord? : List UInt8 → Option (List Char)
  | [a, b, c] =>
    if beginsThree a b && within 0xa1 0xfe c then
      (jis0212.char? (b.toNat - 0xa1) (c.toNat - 0xa1)).map ([·])
    else none
  | w => eucJpPairs.word? w

/-- How many bytes are replaced where no word of EUC-JP begins. -/
def eucJpLost (bs : List UInt8) : Nat :=
  match bs with
  | a :: b :: rest =>
    if beginsThree a b then
      match rest with
      | [] => 2
      | c :: _ => if c < 0x80 then 2 else 3
    else eucJpPairs.lost bs
  | _ => 1

/-! ### Units of 16 bits -/

/-- The unit of two bytes. -/
def unit (lowFirst : Bool) (a b : UInt8) : Nat :=
  if lowFirst then 256 * b.toNat + a.toNat else 256 * a.toNat + b.toNat

/-- Whether a unit is the first half of a pair. -/
def isFirstHalf (u : Nat) : Bool := 0xd800 ≤ u && u < 0xdc00

/-- Whether a unit is the second half of a pair. -/
def isSecondHalf (u : Nat) : Bool := 0xdc00 ≤ u && u < 0xe000

/-- The characters of a word of UTF-16. -/
def utf16Word? (lowFirst : Bool) : List UInt8 → Option (List Char)
  | [a, b] =>
    let u := unit lowFirst a b
    if isFirstHalf u || isSecondHalf u then none else some [Char.ofNat u]
  | [a, b, c, d] =>
    let (u, v) := (unit lowFirst a b, unit lowFirst c d)
    if isFirstHalf u && isSecondHalf v then
      some [Char.ofNat (0x10000 + 1024 * (u - 0xd800) + (v - 0xdc00))]
    else none
  | _ => none

/-- How many bytes are replaced where no word of UTF-16 begins.  A byte that is left over at the end
    goes with the first half before it. -/
def utf16Lost (lowFirst : Bool) : List UInt8 → Nat
  | [_] => 1
  | [a, b, _] => if isFirstHalf (unit lowFirst a b) then 3 else 2
  | _ => 2

/-! ### Escapes -/

/-- The sets of characters that the escapes of ISO-2022-JP choose. -/
inductive JisSet where
  | ascii | roman | katakana | kanji
  deriving Repr, DecidableEq

/-- What the bytes so far mean for the next ones. -/
structure Shift where
  set : JisSet := .ascii
  /-- Whether the last bytes were an escape. -/
  isFresh : Bool := false
  deriving Repr, DecidableEq

/-- The set that an escape chooses with its last two bytes. -/
def jisSet? (b c : UInt8) : Option JisSet :=
  if b = 0x28 ∧ c = 0x42 then some .ascii
  else if b = 0x28 ∧ c = 0x4a then some .roman
  else if b = 0x28 ∧ c = 0x49 then some .katakana
  else if b = 0x24 ∧ (c = 0x40 ∨ c = 0x42) then some .kanji
  else none

/-- Whether a byte of ASCII has no place in ISO-2022-JP. -/
def isJisControl (b : UInt8) : Bool := b = 0x0e || b = 0x0f || b = 0x1b

/-- The character of one byte in a set. -/
def jisSingle? (set : JisSet) (b : UInt8) : Option Char :=
  match set with
  | .ascii => if isJisControl b then none else ascii? b
  | .roman =>
    if isJisControl b then none
    else if b = 0x5c then some '¥'
    else if b = 0x7e then some '‾'
    else ascii? b
  | .katakana => if within 0x21 0x5f b then some (halfKatakana 0x21 b) else none
  | .kanji => none

/-- Whether a byte is the first of two that stand for a character. -/
def isJisLead (s : Shift) (a : UInt8) : Bool := s.set = .kanji && within 0x21 0x7e a

/-- The characters of a word of ISO-2022-JP, and what it means for the next ones.  An escape
    directly behind another one stands for a replacement. -/
def iso2022JpWord? (s : Shift) : List UInt8 → Option (List Char × Shift)
  | [a] => (jisSingle? s.set a).map fun c => ([c], ⟨s.set, false⟩)
  | [a, b] =>
    if isJisLead s a && within 0x21 0x7e b then
      (jis0208.char? (a.toNat - 0x21) (b.toNat - 0x21)).map fun c => ([c], ⟨s.set, false⟩)
    else none
  | [a, b, c] =>
    if a = 0x1b then
      (jisSet? b c).map fun set => (if s.isFresh then ['\ufffd'] else [], ⟨set, true⟩)
    else none
  | _ => none

/-- How many bytes are replaced where no word of ISO-2022-JP begins. -/
def iso2022JpLost (s : Shift) : List UInt8 → Nat
  | a :: b :: _ => if isJisLead s a && b != 0x1b then 2 else 1
  | _ => 1

/-! ### Charsets -/

/-- The charsets besides UTF-8. -/
inductive Legacy where
  /-- Units of 16 bits, the low byte first. -/
  | utf16le
  /-- Units of 16 bits, the high byte first. -/
  | utf16be
  | page (page : Page)
  /-- ASCII, and characters for private use. -/
  | userDefined
  | gb18030
  | big5
  | eucKr
  | eucJp
  | shiftJis
  | iso2022Jp
  /-- A charset that is not read: all bytes are replaced. -/
  | replacement
  deriving Repr, DecidableEq

namespace Legacy

/-- The characters that a word stands for, and what it means for the next ones. -/
def word? (code : Legacy) (s : Shift) (w : List UInt8) : Option (List Char × Shift) :=
  match code with
  | utf16le => (utf16Word? true w).map (·, s)
  | utf16be => (utf16Word? false w).map (·, s)
  | page p => match w with
    | [b] => (p.char? b).map fun c => ([c], s)
    | _ => none
  | userDefined => match w with
    | [b] => some ([Char.ofNat (if b < 0x80 then b.toNat else 0xf780 + (b.toNat - 0x80))], s)
    | _ => none
  | gb18030 => (gb18030Word? w).map (·, s)
  | big5 => (big5Pairs.word? w).map (·, s)
  | eucKr => (eucKrPairs.word? w).map (·, s)
  | eucJp => (eucJpWord? w).map (·, s)
  | shiftJis => (shiftJisPairs.word? w).map (·, s)
  | iso2022Jp => iso2022JpWord? s w
  | replacement => none

/-- How many bytes are replaced where no word begins. -/
def lost (code : Legacy) (s : Shift) (bs : List UInt8) : Nat :=
  match code with
  | utf16le => utf16Lost true bs
  | utf16be => utf16Lost false bs
  | page _ | userDefined => 1
  | gb18030 => gb18030Lost bs
  | big5 => big5Pairs.lost bs
  | eucKr => eucKrPairs.lost bs
  | eucJp => eucJpLost bs
  | shiftJis => shiftJisPairs.lost bs
  | iso2022Jp => iso2022JpLost s bs
  | replacement => bs.length

/-- The word that bytes begin with: its characters, what it means for the next ones, and how many
    bytes it has. -/
def front? (code : Legacy) (s : Shift) (bs : List UInt8) : Option (List Char × Shift × Nat) :=
  [1, 2, 3, 4].findSome? fun k => (code.word? s (bs.take k)).map fun (cs, next) => (cs, next, k)

/-- The text of bytes of which the first ones have been read already. -/
def decodeFrom (code : Legacy) : Shift → Nat → List UInt8 → List Char
  | _, _, [] => []
  | s, skipped + 1, _ :: bs => decodeFrom code s skipped bs
  | s, 0, b :: bs =>
    match code.front? s (b :: bs) with
    | some (cs, next, size) => cs ++ decodeFrom code next (size - 1) bs
    | none => '\ufffd' :: decodeFrom code { s with isFresh := false } (code.lost s (b :: bs) - 1) bs

/-- The text of a sequence of bytes. -/
def decode (code : Legacy) (bs : List UInt8) : List Char := code.decodeFrom {} 0 bs

end Legacy

end Postbox.Text.Charset
