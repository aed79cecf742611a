import Postbox.Proofs.Text.Lossy
import Postbox.Text.Charset

namespace Postbox.Text.Charset

/-!
# The text of bytes

Whatever the charset, bytes are read as one text, and every byte counts: it belongs to a word, which
stands for its characters, or to bytes that are replaced because no word begins there.  For charsets
besides UTF-8 this rests on one fact about their words, that none is the beginning of another.

* `PrefixFree` — no word is the beginning of another; `Legacy.prefixFree_word?` for all charsets.
* `Legacy.Reads` — the text that bytes are read as in a charset besides UTF-8.
* `Legacy.front?_eq_some`, `Legacy.front?_eq_none_iff` — the word that bytes begin with.
* `Legacy.decode_eq_iff` — decoding gives the text that the bytes are read as, and no other.
* `Decodes`, `decode_eq_iff` — the same for all charsets, and behind a mark.
-/

/-! ### Words -/

/-- No word is the beginning of another. -/
def PrefixFree {α : Type} (word? : List UInt8 → Option α) : Prop :=
  ∀ ⦃w w' : List UInt8⦄ ⦃x y : α⦄, word? w = some x → word? w' = some y → w <+: w' → w = w'

/-- Words have at least one byte and at most four. -/
def ShortWords {α : Type} (word? : List UInt8 → Option α) : Prop :=
  ∀ ⦃w : List UInt8⦄ ⦃x : α⦄, word? w = some x → 1 ≤ w.length ∧ w.length ≤ 4

/-- Whether words begin each other does not depend on what they mean. -/
theorem PrefixFree.map {α β : Type} {word? : List UInt8 → Option α} (h : PrefixFree word?)
    (f : α → β) : PrefixFree fun w => (word? w).map f := by
  intro w w' x y hw hw' hp
  obtain ⟨a, ha, -⟩ := Option.map_eq_some_iff.mp hw
  obtain ⟨b, hb, -⟩ := Option.map_eq_some_iff.mp hw'
  exact h ha hb hp

theorem ShortWords.map {α β : Type} {word? : List UInt8 → Option α} (h : ShortWords word?)
    (f : α → β) : ShortWords fun w => (word? w).map f := by
  intro w x hw
  obtain ⟨a, ha, -⟩ := Option.map_eq_some_iff.mp hw
  exact h ha

namespace PairCode

variable {code : PairCode} {w : List UInt8} {cs : List Char}

/-- A word of one byte or of two, by whether the first of two begins it. -/
theorem word?_cases (h : code.word? w = some cs) :
    (∃ a, w = [a] ∧ code.isLead a = false)
      ∨ ∃ a b, w = [a, b] ∧ code.isLead a = true ∧ code.pair? a b = some cs := by
  unfold word? at h
  split at h
  · next a =>
    split at h
    · cases h
    · next ha => exact .inl ⟨a, rfl, Bool.eq_false_iff.mpr ha⟩
  · next a b =>
    split at h
    · next ha => exact .inr ⟨a, b, rfl, ha, h⟩
    · cases h
  · cases h

theorem prefixFree (code : PairCode) : PrefixFree code.word? := by
  intro w w' x y hw hw' hp
  rcases word?_cases hw with ⟨a, rfl, ha⟩ | ⟨a, b, rfl, ha, -⟩ <;>
    rcases word?_cases hw' with ⟨a', rfl, ha'⟩ | ⟨a', b', rfl, ha', -⟩ <;>
    simp_all

/-- A word is a byte or a pair. -/
theorem shortWords (code : PairCode) : ShortWords code.word? := by
  intro w x hw
  rcases word?_cases hw with ⟨a, rfl, -⟩ | ⟨a, b, rfl, -, -⟩ <;> simp

/-- Longer words of one length may be added, behind two bytes that are no word. -/
theorem prefixFree_extended {word? : List UInt8 → Option (List Char)} {n : Nat} (hn : 2 < n)
    (h : ∀ w x, word? w = some x → code.word? w = some x ∨ w.length = n
      ∧ ∃ a b rest, w = a :: b :: rest ∧ code.isLead a = true ∧ code.pair? a b = none) :
    PrefixFree word? := by
  intro w w' x y hw hw' hp
  rcases h w x hw with hw | ⟨hlen, a, b, rest, rfl, ha, hab⟩
  · rcases h w' y hw' with hw' | ⟨hlen', a', b', rest', rfl, ha', hab'⟩
    · exact code.prefixFree hw hw' hp
    · -- A word of the pairs is neither the first byte of a longer one nor its first two.
      rcases word?_cases hw with ⟨a, rfl, ha⟩ | ⟨a, b, rfl, -, hpair⟩
      · rw [(List.cons_prefix_cons.mp hp).1, ha'] at ha
        cases ha
      · obtain ⟨rfl, htail⟩ := List.cons_prefix_cons.mp hp
        obtain ⟨rfl, -⟩ := List.cons_prefix_cons.mp htail
        rw [hab'] at hpair
        cases hpair
  · rcases h w' y hw' with hw' | ⟨hlen', -⟩
    · have hle := hp.length_le
      rcases word?_cases hw' with ⟨a, rfl, -⟩ | ⟨a, b, rfl, -, -⟩ <;>
        simp only [List.length_cons, List.length_nil] at hle hlen <;> omega
    · exact hp.eq_of_length (hlen.trans hlen'.symm)

/-- Words of three or four bytes stay short if they begin like a pair without a character. -/
theorem shortWords_extended {word? : List UInt8 → Option (List Char)} {n : Nat}
    (hn : 2 < n ∧ n ≤ 4)
    (h : ∀ w x, word? w = some x → code.word? w = some x ∨ w.length = n
      ∧ ∃ a b rest, w = a :: b :: rest ∧ code.isLead a = true ∧ code.pair? a b = none) :
    ShortWords word? := by
  intro w x hw
  rcases h w x hw with hw | ⟨hlen, -⟩
  · exact code.shortWords hw
  · omega

end PairCode

/-- Two bytes that begin four in GB 18030 are no word by themselves. -/
theorem gbkPairs_pair?_of_beginsFour {a b : UInt8} (h : beginsFour a b = true) :
    gbkPairs.pair? a b = none := by
  have hb : b ≤ 0x39 := by
    simp only [beginsFour, within, Bool.and_eq_true, decide_eq_true_eq] at h
    exact h.2.2
  have hlow {low high : UInt8} (hl : 0x39 < low) : within low high b = false := by
    simp only [within, Bool.and_eq_false_iff, decide_eq_false_iff_not, UInt8.not_le]
    exact .inl (UInt8.lt_of_le_of_lt hb hl)
  have hne : ¬(a = 0xa3 ∧ b = 0xa0) := by
    rintro ⟨-, rfl⟩
    exact absurd hb (by decide)
  simp [gbkPairs, gbkPrivate?, hne, hlow]

/-- A word of GB 18030 is one of its pairs, or has four bytes. -/
theorem gb18030Word?_cases {w : List UInt8} {cs : List Char} (h : gb18030Word? w = some cs) :
    gbkPairs.word? w = some cs ∨ w.length = 4 ∧ ∃ a b rest, w = a :: b :: rest
      ∧ gbkPairs.isLead a = true ∧ gbkPairs.pair? a b = none := by
  unfold gb18030Word? at h
  split at h
  · next a b c d =>
    split at h
    · next hfour =>
      obtain ⟨hab, -⟩ := Bool.and_eq_true_iff.mp hfour
      have hlead : gbkPairs.isLead a = true := (Bool.and_eq_true_iff.mp hab).1
      exact .inr ⟨rfl, a, b, [c, d], rfl, hlead, gbkPairs_pair?_of_beginsFour hab⟩
    · cases h
  · exact .inl h

/-- The first of three bytes in EUC-JP is no word with the second. -/
theorem eucJpPairs_pair?_of_beginsThree {a b : UInt8} (h : beginsThree a b = true) :
    eucJpPairs.isLead a = true ∧ eucJpPairs.pair? a b = none := by
  obtain ⟨rfl, -⟩ : a = 0x8f ∧ within 0xa1 0xfe b = true := by
    simpa [beginsThree] using h
  exact ⟨rfl, rfl⟩

/-- A word of EUC-JP is one of its pairs, or has three bytes. -/
theorem eucJpWord?_cases {w : List UInt8} {cs : List Char} (h : eucJpWord? w = some cs) :
    eucJpPairs.word? w = some cs ∨ w.length = 3 ∧ ∃ a b rest, w = a :: b :: rest
      ∧ eucJpPairs.isLead a = true ∧ eucJpPairs.pair? a b = none := by
  unfold eucJpWord? at h
  split at h
  · next a b c =>
    split at h
    · next hthree =>
      obtain ⟨hab, -⟩ := Bool.and_eq_true_iff.mp hthree
      exact .inr ⟨rfl, a, b, [c], rfl, eucJpPairs_pair?_of_beginsThree hab⟩
    · cases h
  · exact .inl h

/-- A word of UTF-16 is a unit, or two of which the first announces the second. -/
theorem utf16Word?_cases {lowFirst : Bool} {w : List UInt8} {cs : List Char}
    (h : utf16Word? lowFirst w = some cs) :
    (∃ a b, w = [a, b] ∧ isFirstHalf (unit lowFirst a b) = false)
      ∨ ∃ a b c d, w = [a, b, c, d] ∧ isFirstHalf (unit lowFirst a b) = true := by
  unfold utf16Word? at h
  split at h
  · next a b =>
    dsimp only at h
    split at h
    · cases h
    · next hu =>
      rw [Bool.or_eq_true, not_or] at hu
      exact .inl ⟨a, b, rfl, Bool.eq_false_iff.mpr hu.1⟩
  · next a b c d =>
    dsimp only at h
    split at h
    · next hu => exact .inr ⟨a, b, c, d, rfl, (Bool.and_eq_true_iff.mp hu).1⟩
    · cases h
  · cases h

theorem prefixFree_utf16Word? (lowFirst : Bool) : PrefixFree (utf16Word? lowFirst) := by
  intro w w' x y hw hw' hp
  rcases utf16Word?_cases hw with ⟨a, b, rfl, ha⟩ | ⟨a, b, c, d, rfl, ha⟩ <;>
    rcases utf16Word?_cases hw' with ⟨a', b', rfl, ha'⟩ | ⟨a', b', c', d', rfl, ha'⟩ <;>
    simp_all

theorem shortWords_utf16Word? (lowFirst : Bool) : ShortWords (utf16Word? lowFirst) := by
  intro w x hw
  rcases utf16Word?_cases hw with ⟨a, b, rfl, -⟩ | ⟨a, b, c, d, rfl, -⟩ <;> simp

/-- A byte that is a character in ISO-2022-JP is neither the first of two nor begins an escape. -/
theorem jisSingle?_eq_some {set : JisSet} {a : UInt8} {c : Char} (h : jisSingle? set a = some c) :
    set ≠ .kanji ∧ a ≠ 0x1b := by
  cases set with
  | kanji => cases h
  | ascii | roman =>
    refine ⟨nofun, ?_⟩
    rintro rfl
    cases h
  | katakana =>
    refine ⟨nofun, ?_⟩
    rintro rfl
    cases h

/-- A word of ISO-2022-JP is a character of one byte or of two, or an escape. -/
theorem iso2022JpWord?_cases {s : Shift} {w : List UInt8} {r : List Char × Shift}
    (h : iso2022JpWord? s w = some r) :
    (∃ a, w = [a] ∧ s.set ≠ .kanji ∧ a ≠ 0x1b)
      ∨ (∃ a b, w = [a, b] ∧ s.set = .kanji ∧ a ≠ 0x1b) ∨ ∃ b c, w = [0x1b, b, c] := by
  unfold iso2022JpWord? at h
  split at h
  · next a =>
    obtain ⟨c, hc, -⟩ := Option.map_eq_some_iff.mp h
    exact .inl ⟨a, rfl, jisSingle?_eq_some hc⟩
  · next a b =>
    split at h
    · next hlead =>
      obtain ⟨ha, -⟩ := Bool.and_eq_true_iff.mp hlead
      obtain ⟨hset, hrange⟩ := Bool.and_eq_true_iff.mp ha
      refine .inr (.inl ⟨a, b, rfl, of_decide_eq_true hset, ?_⟩)
      rintro rfl
      cases hrange
    · cases h
  · next a b c =>
    split at h
    · next ha => exact .inr (.inr ⟨b, c, by rw [ha]⟩)
    · cases h
  · cases h

theorem prefixFree_iso2022JpWord? (s : Shift) : PrefixFree (iso2022JpWord? s) := by
  intro w w' x y hw hw' hp
  rcases iso2022JpWord?_cases hw with ⟨a, rfl, hs, ha⟩ | ⟨a, b, rfl, hs, ha⟩ | ⟨b, c, rfl⟩ <;>
    rcases iso2022JpWord?_cases hw' with
      ⟨a', rfl, hs', ha'⟩ | ⟨a', b', rfl, hs', ha'⟩ | ⟨b', c', rfl⟩ <;>
    simp_all

theorem shortWords_iso2022JpWord? (s : Shift) : ShortWords (iso2022JpWord? s) := by
  intro w x hw
  rcases iso2022JpWord?_cases hw with ⟨a, rfl, -⟩ | ⟨a, b, rfl, -⟩ | ⟨b, c, rfl⟩ <;> simp

/-! ### Bytes that are replaced -/

/-- In a code of pairs one byte at least is replaced. -/
theorem PairCode.lost_pos (code : PairCode) (bs : List UInt8) : 1 ≤ code.lost bs := by
  unfold PairCode.lost
  split
  · split <;> decide
  · decide

theorem gb18030Lost_pos (bs : List UInt8) : 1 ≤ gb18030Lost bs := by
  unfold gb18030Lost
  split
  · split
    · split
      · decide
      · split <;> decide
      · split <;> decide
    · exact gbkPairs.lost_pos _
  · decide

theorem eucJpLost_pos (bs : List UInt8) : 1 ≤ eucJpLost bs := by
  unfold eucJpLost
  split
  · split
    · split
      · decide
      · split <;> decide
    · exact eucJpPairs.lost_pos _
  · decide

theorem utf16Lost_pos (lowFirst : Bool) (bs : List UInt8) : 1 ≤ utf16Lost lowFirst bs := by
  unfold utf16Lost
  split
  · decide
  · split <;> decide
  · decide

theorem iso2022JpLost_pos (s : Shift) (bs : List UInt8) : 1 ≤ iso2022JpLost s bs := by
  unfold iso2022JpLost
  split
  · split <;> decide
  · decide

/-! ### Charsets besides UTF-8 -/

namespace Legacy

/-- From here on, the bytes are read as this text. -/
inductive Reads (code : Legacy) : Shift → List UInt8 → List Char → Prop
  | nil {s : Shift} : Reads code s [] []
  | word {s next : Shift} {w bs : List UInt8} {cs text : List Char}
      (hw : code.word? s w = some (cs, next)) (h : Reads code next bs text) :
      Reads code s (w ++ bs) (cs ++ text)
  | lost {s : Shift} {bs : List UInt8} {text : List Char} (hne : bs ≠ [])
      (hw : ∀ w, w <+: bs → code.word? s w = none)
      (h : Reads code { s with isFresh := false } (bs.drop (code.lost s bs)) text) :
      Reads code s bs ('\ufffd' :: text)

section

variable {code : Legacy} {s next : Shift} {w bs : List UInt8} {cs text : List Char}

/-- On a page every word is one byte. -/
theorem length_of_page {p : Page} {r : List Char × Shift} (h : (page p).word? s w = some r) :
    w.length = 1 := by
  unfold word? at h
  dsimp only at h
  split at h
  · rfl
  · cases h

theorem length_of_userDefined {r : List Char × Shift} (h : userDefined.word? s w = some r) :
    w.length = 1 := by
  unfold word? at h
  dsimp only at h
  split at h
  · rfl
  · cases h

/-- **In no charset is a word the beginning of another.** -/
theorem prefixFree_word? (code : Legacy) (s : Shift) : PrefixFree (code.word? s) := by
  cases code with
  | utf16le => exact (prefixFree_utf16Word? true).map _
  | utf16be => exact (prefixFree_utf16Word? false).map _
  | page p =>
    intro w w' x y hw hw' hp
    exact hp.eq_of_length ((length_of_page hw).trans (length_of_page hw').symm)
  | userDefined =>
    intro w w' x y hw hw' hp
    exact hp.eq_of_length ((length_of_userDefined hw).trans (length_of_userDefined hw').symm)
  | gb18030 =>
    exact (PairCode.prefixFree_extended (by decide) fun _ _ => gb18030Word?_cases).map _
  | big5 => exact big5Pairs.prefixFree.map _
  | eucKr => exact eucKrPairs.prefixFree.map _
  | eucJp => exact (PairCode.prefixFree_extended (by decide) fun _ _ => eucJpWord?_cases).map _
  | shiftJis => exact shiftJisPairs.prefixFree.map _
  | iso2022Jp => exact prefixFree_iso2022JpWord? s
  | replacement => exact nofun

/-- In every charset the words have at least one byte and at most four. -/
theorem shortWords_word? (code : Legacy) (s : Shift) : ShortWords (code.word? s) := by
  cases code with
  | utf16le => exact (shortWords_utf16Word? true).map _
  | utf16be => exact (shortWords_utf16Word? false).map _
  | page p =>
    intro w x hw
    rw [length_of_page hw]
    decide
  | userDefined =>
    intro w x hw
    rw [length_of_userDefined hw]
    decide
  | gb18030 =>
    exact (PairCode.shortWords_extended (by decide) fun _ _ => gb18030Word?_cases).map _
  | big5 => exact big5Pairs.shortWords.map _
  | eucKr => exact eucKrPairs.shortWords.map _
  | eucJp => exact (PairCode.shortWords_extended (by decide) fun _ _ => eucJpWord?_cases).map _
  | shiftJis => exact shiftJisPairs.shortWords.map _
  | iso2022Jp => exact shortWords_iso2022JpWord? s
  | replacement => exact nofun

/-! ### The first word -/

/-- What is found at the beginning is a word, with the rest behind it. -/
theorem front?_eq_some {size : Nat} (h : code.front? s bs = some (cs, next, size)) :
    code.word? s (bs.take size) = some (cs, next) ∧ 1 ≤ size := by
  obtain ⟨k, hk, hword⟩ := List.exists_of_findSome?_eq_some h
  obtain ⟨⟨cs', next'⟩, hword, hr⟩ := Option.map_eq_some_iff.mp hword
  cases hr
  refine ⟨hword, ?_⟩
  simp only [List.mem_cons, List.not_mem_nil, or_false] at hk
  omega

/-- Nothing is found at the beginning exactly where no word begins. -/
theorem front?_eq_none_iff :
    code.front? s bs = none ↔ ∀ w, w <+: bs → code.word? s w = none := by
  have htake : code.front? s bs = none ↔ ∀ k ∈ [1, 2, 3, 4], code.word? s (bs.take k) = none := by
    rw [front?, List.findSome?_eq_none_iff]
    simp only [Option.map_eq_none_iff]
  rw [htake]
  constructor
  · intro h w hp
    cases hw : code.word? s w with
    | none => rfl
    | some r =>
      -- A word has at most four bytes, so it was looked for.
      obtain ⟨hmin, hmax⟩ := shortWords_word? code s hw
      have hmem : w.length ∈ [1, 2, 3, 4] := by
        simp only [List.mem_cons, List.not_mem_nil, or_false]
        omega
      have hnone := h _ hmem
      rw [← List.prefix_iff_eq_take.mp hp, hw] at hnone
      exact hnone
  · intro h k _
    exact h _ (List.take_prefix k bs)

/-- A word at the beginning is found. -/
theorem front?_of_word (hw : code.word? s w = some (cs, next)) (bs : List UInt8) :
    ∃ size, code.front? s (w ++ bs) = some (cs, next, size) ∧ (w ++ bs).drop size = bs := by
  cases hf : code.front? s (w ++ bs) with
  | none =>
    rw [front?_eq_none_iff.mp hf w (List.prefix_append w bs)] at hw
    cases hw
  | some found =>
    obtain ⟨cs', next', size⟩ := found
    obtain ⟨hfound, -⟩ := front?_eq_some hf
    -- Both words begin the same bytes, so one is the beginning of the other.
    have hsame : w = (w ++ bs).take size := by
      rcases List.prefix_or_prefix_of_prefix (List.prefix_append w bs)
          (List.take_prefix size (w ++ bs)) with hp | hp
      · exact prefixFree_word? code s hw hfound hp
      · exact (prefixFree_word? code s hfound hw hp).symm
    rw [← hsame, hw] at hfound
    cases hfound
    refine ⟨size, rfl, ?_⟩
    have happend := List.take_append_drop size (w ++ bs)
    rw [← hsame] at happend
    exact List.append_cancel_left happend

/-! ### Whole texts -/

/-- Where no word begins, bytes are replaced. -/
theorem lost_pos (code : Legacy) (s : Shift) (hne : bs ≠ []) : 1 ≤ code.lost s bs := by
  cases code with
  | utf16le => exact utf16Lost_pos true bs
  | utf16be => exact utf16Lost_pos false bs
  | page p => exact Nat.le_refl 1
  | userDefined => exact Nat.le_refl 1
  | gb18030 => exact gb18030Lost_pos bs
  | big5 => exact big5Pairs.lost_pos bs
  | eucKr => exact eucKrPairs.lost_pos bs
  | eucJp => exact eucJpLost_pos bs
  | shiftJis => exact shiftJisPairs.lost_pos bs
  | iso2022Jp => exact iso2022JpLost_pos s bs
  | replacement => exact List.length_pos_iff.mpr hne

/-- The bytes that have been read already do not count. -/
theorem decodeFrom_eq (code : Legacy) (s : Shift) (skipped : Nat) (bs : List UInt8) :
    code.decodeFrom s skipped bs = code.decodeFrom s 0 (bs.drop skipped) := by
  induction bs generalizing skipped with
  | nil => cases skipped <;> rfl
  | cons b bs ih =>
    cases skipped with
    | zero => rfl
    | succ skipped => exact ih skipped

/-- Behind a word, reading goes on with what it means for the next ones. -/
theorem decodeFrom_of_front? {size : Nat} (h : code.front? s bs = some (cs, next, size))
    (hne : bs ≠ []) :
    code.decodeFrom s 0 bs = cs ++ code.decodeFrom next 0 (bs.drop size) := by
  obtain ⟨-, hsize⟩ := front?_eq_some h
  obtain ⟨b, bs, rfl⟩ := List.exists_cons_of_ne_nil hne
  obtain ⟨size, rfl⟩ := Nat.exists_eq_add_of_le' hsize
  rw [decodeFrom, h]
  dsimp only
  rw [decodeFrom_eq, Nat.add_sub_cancel, List.drop_succ_cons]

/-- Where no word begins, some bytes are replaced. -/
theorem decodeFrom_of_lost (h : code.front? s bs = none) (hne : bs ≠ []) :
    code.decodeFrom s 0 bs
      = '\ufffd' :: code.decodeFrom { s with isFresh := false } 0 (bs.drop (code.lost s bs)) := by
  have hlost := lost_pos code s hne
  obtain ⟨b, bs, rfl⟩ := List.exists_cons_of_ne_nil hne
  obtain ⟨size, hsize⟩ := Nat.exists_eq_add_of_le' hlost
  rw [decodeFrom, h]
  dsimp only
  rw [decodeFrom_eq, hsize, Nat.add_sub_cancel, List.drop_succ_cons]

end

/-- Every sequence of bytes is read as the text that decoding gives. -/
theorem reads_decodeFrom (code : Legacy) (s : Shift) (bs : List UInt8) :
    Reads code s bs (code.decodeFrom s 0 bs) := by
  -- On the number of bytes, since a word may take several.
  induction hn : bs.length using Nat.strongRecOn generalizing s bs with
  | ind n ih =>
    by_cases hne : bs = []
    · rw [hne]
      exact .nil
    have hpos : 0 < bs.length := List.length_pos_iff.mpr hne
    cases hf : code.front? s bs with
    | none =>
      have hlost := lost_pos code s hne
      rw [decodeFrom_of_lost hf hne]
      exact .lost hne (front?_eq_none_iff.mp hf)
        (ih _ (by rw [List.length_drop]; omega) _ _ rfl)
    | some found =>
      obtain ⟨cs, next, size⟩ := found
      obtain ⟨hword, hsize⟩ := front?_eq_some hf
      rw [decodeFrom_of_front? hf hne]
      have hrest := ih _ (by rw [List.length_drop]; omega) next (bs.drop size) rfl
      have hreads := Reads.word hword hrest
      rwa [List.take_append_drop] at hreads

/-- Bytes are read as one text. -/
theorem decodeFrom_of_reads {code : Legacy} {s : Shift} {bs : List UInt8} {text : List Char}
    (h : Reads code s bs text) : code.decodeFrom s 0 bs = text := by
  induction h with
  | nil => rfl
  | @word s next w bs cs text hw h ih =>
    obtain ⟨size, hf, hdrop⟩ := front?_of_word hw bs
    have hne : w ++ bs ≠ [] := by
      have hmin := (shortWords_word? code s hw).1
      exact List.append_ne_nil_of_left_ne_nil (List.ne_nil_of_length_pos hmin) bs
    rw [decodeFrom_of_front? hf hne, hdrop, ih]
  | lost hne hw h ih => rw [decodeFrom_of_lost (front?_eq_none_iff.mpr hw) hne, ih]

/-- **Decoding gives the text that the bytes are read as, and no other.** -/
theorem decode_eq_iff {code : Legacy} {bs : List UInt8} {text : List Char} :
    code.decode bs = text ↔ Reads code {} bs text := by
  constructor
  · rintro rfl
    exact reads_decodeFrom code {} bs
  · exact decodeFrom_of_reads

/-- A word, the first half of a pair without its second half, and another word. -/
example : utf16be.decode [0x4e, 0x2d, 0xd8, 0x00, 0x00, 0x41] = ['中', '\ufffd', 'A'] := by
  decide +kernel

end Legacy

/-! ### All charsets -/

/-- The bytes, which have no mark, are read as this text. -/
inductive Spells : Charset → List UInt8 → List Char → Prop
  | utf8 {bs : List UInt8} {text : List Char} (h : Utf8.Reads bs text) : Spells utf8 bs text
  | legacy {code : Legacy} {bs : List UInt8} {text : List Char} (h : Legacy.Reads code {} bs text) :
      Spells (legacy code) bs text

/-- The marks at the beginning of a text, each with the charset that it stands for. -/
def marks : List (List UInt8 × Charset) :=
  [([0xef, 0xbb, 0xbf], utf8), ([0xff, 0xfe], legacy .utf16le), ([0xfe, 0xff], legacy .utf16be)]

/-- The bytes of a text in this charset are read as this text; a mark at their beginning decides
    before the charset, and is no part of the text. -/
inductive Decodes (charset : Charset) : List UInt8 → List Char → Prop
  | marked {mark bs : List UInt8} {marked : Charset} {text : List Char}
      (hm : (mark, marked) ∈ marks) (h : Spells marked bs text) : Decodes charset (mark ++ bs) text
  | unmarked {bs : List UInt8} {text : List Char} (hm : ∀ m ∈ marks, ¬m.1 <+: bs)
      (h : Spells charset bs text) : Decodes charset bs text

/-- Bytes without a mark are read as the text that they spell. -/
theorem decodeUnmarked_eq_iff {charset : Charset} {bs : List UInt8} {text : List Char} :
    charset.decodeUnmarked bs = text ↔ Spells charset bs text := by
  cases charset with
  | utf8 =>
    rw [decodeUnmarked, Utf8.decodeLossy_eq_iff]
    exact ⟨.utf8, fun h => by cases h; assumption⟩
  | legacy code =>
    rw [decodeUnmarked, Legacy.decode_eq_iff]
    exact ⟨.legacy, fun h => by cases h; assumption⟩

/-- Behind a mark, its charset is read. -/
theorem decode_of_mark {charset marked : Charset} {mark : List UInt8}
    (hm : (mark, marked) ∈ marks) (bs : List UInt8) :
    charset.decode (mark ++ bs) = marked.decodeUnmarked bs := by
  simp only [marks, List.mem_cons, Prod.mk.injEq, List.not_mem_nil, or_false] at hm
  rcases hm with ⟨rfl, rfl⟩ | ⟨rfl, rfl⟩ | ⟨rfl, rfl⟩ <;> rfl

/-- Without a mark, the charset itself is read. -/
theorem decode_of_unmarked {charset : Charset} {bs : List UInt8}
    (hm : ∀ m ∈ marks, ¬m.1 <+: bs) : charset.decode bs = charset.decodeUnmarked bs := by
  simp only [marks, List.forall_mem_cons, List.not_mem_nil, false_implies, implies_true,
    and_true] at hm
  obtain ⟨hutf8, hlow, hhigh⟩ := hm
  unfold decode
  split
  · exact absurd (List.prefix_append [0xef, 0xbb, 0xbf] _) hutf8
  · exact absurd (List.prefix_append [0xff, 0xfe] _) hlow
  · exact absurd (List.prefix_append [0xfe, 0xff] _) hhigh
  · rfl

/-- **Decoding gives the text that the bytes are read as, and no other.** -/
theorem decode_eq_iff {charset : Charset} {bs : List UInt8} {text : List Char} :
    charset.decode bs = text ↔ Decodes charset bs text := by
  constructor
  · rintro rfl
    by_cases hm : ∃ m ∈ marks, m.1 <+: bs
    · obtain ⟨⟨mark, marked⟩, hm, rest, rfl⟩ := hm
      rw [decode_of_mark hm]
      exact .marked hm (decodeUnmarked_eq_iff.mp rfl)
    · have hnone : ∀ m ∈ marks, ¬m.1 <+: bs := fun m hmem hp => hm ⟨m, hmem, hp⟩
      rw [decode_of_unmarked hnone]
      exact .unmarked hnone (decodeUnmarked_eq_iff.mp rfl)
  · intro h
    cases h with
    | marked hm h => rw [decode_of_mark hm, decodeUnmarked_eq_iff.mpr h]
    | unmarked hm h => rw [decode_of_unmarked hm, decodeUnmarked_eq_iff.mpr h]

end Postbox.Text.Charset
