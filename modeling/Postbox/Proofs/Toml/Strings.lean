import Mathlib.Tactic.SplitIfs
import Postbox.Toml.Printer
import Postbox.Toml.Text

namespace Postbox.Toml

/-!
# Written strings are read

Each of the four forms of a string is undone by the reader of that form, for the texts that it is
chosen for; the two forms with escapes even for all texts.  What is delicate are the quotes.  On
several lines two of them may stand in a row, also right before the closing ones, and the reader
must neither stop too early nor take one too many.

* `Escaped` — how one character may stand in a string with escapes, and `ReadsEscapes` what both
  readers of such strings do with it.
* `basic_escapedText`, `literal_append`, `multiBasic_escapedText`, `multiLiteral_append` — the four
  readers behind the opening quotes.
* `string?_written` — a written string at the end of a line is read as the text it was made from.
* `isPrintable_of_mem_written` — it holds line feeds, but no other control character.
-/

/-! ### Single characters -/

theorem isPrintable_of_not_isControl {c : Char} (h : isControl c = false) (hn : c ≠ '\n') :
    isPrintable c = true := by
  simp only [isControl, isPrintable, Bool.or_eq_false_iff, Bool.and_eq_false_iff, Bool.or_eq_true,
    Bool.and_eq_true, decide_eq_true_eq, beq_iff_eq, bne_iff_ne, beq_eq_false_iff_ne,
    decide_eq_false_iff_not, bne_eq_false_iff_eq] at h ⊢
  obtain ⟨(hlow | htab) | hfeed, hdel⟩ := h
  · exact .inr ⟨by omega, hdel⟩
  · exact .inl htab
  · exact absurd hfeed hn

theorem toNat_lt_of_isControl {c : Char} (h : isControl c = true) : c.toNat < 0x80 := by
  simp only [isControl, Bool.or_eq_true, Bool.and_eq_true, decide_eq_true_eq, beq_iff_eq] at h
  omega

/-- How a character stands in a string with escapes: behind a backslash as a letter or as four
    digits, or as itself. -/
inductive Escaped (c : Char) : List Char → Prop
  | letter {e : Char} (h : escaped? e = some c) : Escaped c ['\\', e]
  | code (h : c.toNat < 0x10000) : Escaped c ('\\' :: 'u' :: fourDigits c.toNat)
  | plain (hq : c ≠ '"') (hb : c ≠ '\\') (hp : isPrintable c = true) : Escaped c [c]

/-- A character is escaped as it is to be read. -/
theorem escaped_escapedChar (c : Char) : Escaped c (escapedChar c) := by
  unfold escapedChar
  split
  case h_8 hn _ _ hq hb =>
    split
    · next h =>
      have hlt := toNat_lt_of_isControl h
      exact .code (by omega)
    · next h => exact .plain hq hb (isPrintable_of_not_isControl (by simpa using h) hn)
  all_goals exact .letter rfl

/-- The letters behind a backslash are none of those that a reader treats by themselves. -/
theorem ne_of_escaped? {e c : Char} (h : escaped? e = some c) :
    e ≠ 'u' ∧ e ≠ 'U' ∧ e ≠ '\n' ∧ isBlank e = false := by
  unfold escaped? at h
  split at h
  case h_8 => cases h
  all_goals decide

/-- No written character begins with a double quote. -/
theorem Escaped.eq_cons {c : Char} {w : List Char} (h : Escaped c w) :
    ∃ d ds, w = d :: ds ∧ d ≠ '"' := by
  cases h with
  | letter => exact ⟨_, _, rfl, by decide⟩
  | code => exact ⟨_, _, rfl, by decide⟩
  | plain hq => exact ⟨_, _, rfl, hq⟩

theorem isPrintable_upperHexDigit : ∀ n < 16, isPrintable (Text.upperHexDigit n) = true := by
  decide

/-- The digits of an escape are printable. -/
theorem isPrintable_of_mem_fourDigits {n : Nat} {d : Char} (h : d ∈ fourDigits n) :
    isPrintable d = true := by
  simp only [fourDigits, List.mem_cons, List.not_mem_nil, or_false] at h
  rcases h with rfl | rfl | rfl | rfl <;>
    exact isPrintable_upperHexDigit _ (Nat.mod_lt _ (by decide))

/-- An escape is printable. -/
theorem Escaped.isPrintable {c : Char} {w : List Char} (h : Escaped c w) {d : Char} (hd : d ∈ w) :
    isPrintable d = true := by
  cases h with
  | @letter e h =>
    simp only [List.mem_cons, List.not_mem_nil, or_false] at hd
    rcases hd with rfl | rfl
    · rfl
    · unfold escaped? at h
      split at h
      case h_8 => cases h
      all_goals rfl
  | code =>
    simp only [List.mem_cons] at hd
    rcases hd with rfl | rfl | hd
    · rfl
    · rfl
    · exact isPrintable_of_mem_fourDigits hd
  | plain _ _ hp =>
    rw [List.mem_singleton.mp hd]
    exact hp

/-! ### The readers of strings with escapes -/

/-- What a reader does outside of quotes and line ends: it takes a backslash with a letter, the four
    digits of a code point, and any other character that may stand in a string. -/
structure ReadsEscapes (read : Mode → List Char → Option (List Char × List Char)) : Prop where
  letter : ∀ {e c : Char} {tail : List Char}, escaped? e = some c →
    read .plain ('\\' :: e :: tail) = push c (read .plain tail)
  unit : ∀ {tail : List Char}, read .plain ('\\' :: 'u' :: tail) = read (.code 4 0) tail
  digit : ∀ {due value : Nat} {d : Char} {tail : List Char}, read (.code due value) (d :: tail)
    = (Text.hexValue? d).bind fun k =>
        if due ≤ 1 then (scalar? (16 * value + k)).bind fun x => push x (read .plain tail)
        else read (.code (due - 1) (16 * value + k)) tail
  plain : ∀ {c : Char} {tail : List Char}, c ≠ '"' → c ≠ '\\' → isPrintable c = true →
    read .plain (c :: tail) = push c (read .plain tail)

/-- Escapes are read on one line. -/
theorem basic_readsEscapes : ReadsEscapes basic where
  letter h := by
    obtain ⟨hu, hU, -, -⟩ := ne_of_escaped? h
    simp [basic, hu, hU, h]
  unit := by simp [basic]
  digit := rfl
  plain hq hb hp := by simp [basic, hq, hb, hp]

theorem multiBasic_readsEscapes : ReadsEscapes multiBasic where
  letter h := by
    obtain ⟨hu, hU, hn, hb⟩ := ne_of_escaped? h
    simp [multiBasic, hu, hU, hn, hb, h]
  unit := by simp [multiBasic]
  digit := rfl
  plain hq hb hp := by simp [multiBasic, hq, hb, hp]

section

variable {read : Mode → List Char → Option (List Char × List Char)}

/-- The number of a character stands for it. -/
theorem scalar?_toNat (c : Char) : scalar? c.toNat = some c := by
  have hc : c.toNat.isValidChar := c.valid
  rw [scalar?, if_pos hc, Char.ofNat_toNat]

/-- Four digits are read as the code point they were made from. -/
theorem ReadsEscapes.code (hr : ReadsEscapes read) {c : Char} (h : c.toNat < 0x10000)
    (tail : List Char) :
    read (.code 4 0) (fourDigits c.toNat ++ tail) = push c (read .plain tail) := by
  have hd (k : Nat) : Text.hexValue? (Text.upperHexDigit (k % 16)) = some (k % 16) :=
    Text.hexValue?_upperHexDigit _ (Nat.mod_lt _ (by decide))
  have hv : 16 * (16 * (16 * (c.toNat / 4096 % 16) + c.toNat / 256 % 16) + c.toNat / 16 % 16)
      + c.toNat % 16 = c.toNat := by
    omega
  simp [fourDigits, hr.digit, hd, hv, scalar?_toNat]

/-- **A written character is read as itself**, whatever follows it. -/
theorem ReadsEscapes.escaped (hr : ReadsEscapes read) {c : Char} {w : List Char} (h : Escaped c w)
    (tail : List Char) : read .plain (w ++ tail) = push c (read .plain tail) := by
  cases h with
  | letter h => exact hr.letter h
  | code h =>
    rw [List.cons_append, List.cons_append, hr.unit]
    exact hr.code h tail
  | plain hq hb hp => exact hr.plain hq hb hp

end

/-! ### Strings of one line -/

@[simp] theorem push_some (c : Char) (text rest : List Char) :
    push c (some (text, rest)) = some (c :: text, rest) := rfl

/-- On one line nothing but escapes is written. -/
theorem escapedText_one_cons (run : Nat) (c : Char) (cs : List Char) :
    escapedText false run (c :: cs) = escapedChar c ++ escapedText false 0 cs := by
  simp [escapedText]

/-- **The escapes of one line are undone**, for every text. -/
theorem basic_escapedText (run : Nat) (cs rest : List Char) :
    basic .plain (escapedText false run cs ++ '"' :: rest) = some (cs, rest) := by
  induction cs generalizing run with
  | nil => simp [escapedText, basic]
  | cons c cs ih =>
    rw [escapedText_one_cons, List.append_assoc,
      basic_readsEscapes.escaped (escaped_escapedChar c), ih, push_some]

/-- A text without single quotes and control characters is read as it stands. -/
theorem literal_append {cs : List Char} (h : ∀ c ∈ cs, c ≠ '\'' ∧ isPrintable c = true)
    (rest : List Char) : literal (cs ++ '\'' :: rest) = some (cs, rest) := by
  induction cs with
  | nil => simp [literal]
  | cons c cs ih =>
    obtain ⟨⟨hq, hp⟩, hcs⟩ := List.forall_mem_cons.mp h
    simp [literal, hq, hp, ih hcs]

/-! ### Strings of several lines -/

/-- Two quotes do not stand at the front. -/
def OpensAtMostOne (q : Char) (w : List Char) : Prop := ∀ tail, w ≠ q :: q :: tail

theorem opensAtMostOne_of_ne {q d : Char} {ds : List Char} (h : d ≠ q) :
    OpensAtMostOne q (d :: ds) :=
  fun _ he => h (List.cons.inj he).1

theorem opensAtMostOne_of_snd_ne {q d : Char} {ds : List Char} (h : d ≠ q) :
    OpensAtMostOne q (q :: d :: ds) :=
  fun _ he => h (List.cons.inj (List.cons.inj he).2).1

/-- A quote that two others do not follow belongs to the text. -/
theorem multiBasic_quote {w : List Char} (h : OpensAtMostOne '"' w) :
    multiBasic .plain ('"' :: w) = push '"' (multiBasic .plain w) := by
  rw [multiBasic.eq_def]
  simp only [reduceCtorEq, false_and, if_false, ne_eq, not_true_eq_false, if_true]
  split
  · exact absurd rfl (h _)
  · exact absurd rfl (h _)
  · exact absurd rfl (h _)
  · rfl

/-- One or two quotes on several lines stand for themselves. -/
theorem multiLiteral_quote {w : List Char} (h : OpensAtMostOne '\'' w) :
    multiLiteral ('\'' :: w) = push '\'' (multiLiteral w) := by
  rw [multiLiteral.eq_def]
  simp only [if_true]
  split
  · exact absurd rfl (h _)
  · exact absurd rfl (h _)
  · exact absurd rfl (h _)
  · rfl

/-- What closes a string of several lines, at the end of a line. -/
def closing (q : Char) (rest : List Char) : List Char := q :: q :: q :: '\n' :: rest

/-- A line feed on several lines stands for itself. -/
theorem multiBasic_feed (tail : List Char) :
    multiBasic .plain ('\n' :: tail) = push '\n' (multiBasic .plain tail) := by
  simp [multiBasic]

/-- Up to two quotes on several lines stand for themselves. -/
theorem escapedText_quote {run : Nat} (h : run < 2) (cs : List Char) :
    escapedText true run ('"' :: cs) = '"' :: escapedText true (run + 1) cs := by
  simp [escapedText, h]

/-- A line feed on several lines is written as it is. -/
theorem escapedText_feed (run : Nat) (cs : List Char) :
    escapedText true run ('\n' :: cs) = '\n' :: escapedText true 0 cs := by
  simp [escapedText]

/-- Every other character is escaped. -/
theorem escapedText_of_not {run : Nat} {c : Char} (hq : ¬(c = '"' ∧ run < 2)) (hn : c ≠ '\n')
    (cs : List Char) : escapedText true run (c :: cs) = escapedChar c ++ escapedText true 0 cs := by
  rw [escapedText, if_neg (by simpa using hq), if_neg (by simpa using hn)]

/-- What is written of a text begins with a quote only if the text does and the quote is not the
    third in a row. -/
theorem escapedText_eq_cons {run : Nat} {c : Char} (h : ¬(c = '"' ∧ run < 2)) (cs : List Char) :
    ∃ d ds, escapedText true run (c :: cs) = d :: ds ∧ d ≠ '"' := by
  by_cases hn : c = '\n'
  · rw [hn, escapedText_feed]
    exact ⟨_, _, rfl, by decide⟩
  · obtain ⟨d, ds, hd, hne⟩ := (escaped_escapedChar c).eq_cons
    rw [escapedText_of_not h hn, hd]
    exact ⟨d, _, rfl, hne⟩

/-- **The escapes of several lines are undone**, for every text and behind any number of quotes. -/
theorem multiBasic_escapedText (run : Nat) (cs rest : List Char) :
    multiBasic .plain (escapedText true run cs ++ closing '"' rest) = some (cs, '\n' :: rest) := by
  induction cs generalizing run with
  | nil => rfl
  | cons c cs ih =>
    by_cases hq : c = '"' ∧ run < 2
    · obtain ⟨rfl, hrun⟩ := hq
      rw [escapedText_quote hrun, List.cons_append]
      -- A quote at the end of the text is read with the closing ones, and so are two.
      cases cs with
      | nil => rfl
      | cons d ds =>
        by_cases hd : d = '"' ∧ run + 1 < 2
        · obtain ⟨rfl, hrun'⟩ := hd
          cases ds with
          | nil =>
            rw [escapedText_quote hrun']
            rfl
          | cons e es =>
            -- The third of three quotes is escaped, so the text goes on.
            have hno : ¬(e = '"' ∧ run + 1 + 1 < 2) := by omega
            obtain ⟨f, fs, hf, hne⟩ := escapedText_eq_cons hno es
            have ih := ih (run + 1)
            rw [escapedText_quote hrun', hf, List.cons_append, List.cons_append] at ih ⊢
            rw [multiBasic_quote (opensAtMostOne_of_snd_ne hne), ih, push_some]
        · obtain ⟨f, fs, hf, hne⟩ := escapedText_eq_cons hd ds
          have ih := ih (run + 1)
          rw [hf, List.cons_append] at ih ⊢
          rw [multiBasic_quote (opensAtMostOne_of_ne hne), ih, push_some]
    · by_cases hn : c = '\n'
      · rw [hn, escapedText_feed, List.cons_append, multiBasic_feed, ih, push_some]
      · rw [escapedText_of_not hq hn, List.append_assoc,
          multiBasic_readsEscapes.escaped (escaped_escapedChar c), ih, push_some]

/-! ### Runs of quotes -/

/-- A run that has been passed is no longer than the longest one. -/
theorem le_longestRun (q : Char) (current : Nat) (cs : List Char) :
    current ≤ longestRun q current cs := by
  induction cs generalizing current with
  | nil => exact Nat.le_refl current
  | cons c cs ih =>
    rw [longestRun]
    split
    · exact Nat.le_of_lt (ih (current + 1))
    · exact Nat.le_max_left _ _

theorem longestRun_cons_self (q : Char) (current : Nat) (cs : List Char) :
    longestRun q current (q :: cs) = longestRun q (current + 1) cs := by
  rw [longestRun, if_pos rfl]

/-- What follows another character has no longer runs. -/
theorem longestRun_le_of_cons {q c : Char} (h : c ≠ q) (current : Nat) (cs : List Char) :
    longestRun q 0 cs ≤ longestRun q current (c :: cs) := by
  rw [longestRun, if_neg h]
  exact Nat.le_max_right _ _

/-- Where there are no runs there is no quote. -/
theorem not_mem_of_longestRun {q : Char} {current : Nat} {cs : List Char}
    (h : longestRun q current cs = 0) : q ∉ cs := by
  induction cs generalizing current with
  | nil => exact List.not_mem_nil
  | cons c cs ih =>
    by_cases hc : c = q
    · rw [hc, longestRun_cons_self] at h
      have hle := le_longestRun q (current + 1) cs
      omega
    · have hle := longestRun_le_of_cons hc current cs
      have hzero : longestRun q 0 cs = 0 := by omega
      rw [List.mem_cons, not_or]
      exact ⟨fun he => hc he.symm, ih hzero⟩

/-- A character other than a quote stands for itself. -/
theorem multiLiteral_of_ne {c : Char} (hq : c ≠ '\'') (hc : isPrintable c = true ∨ c = '\n')
    (tail : List Char) : multiLiteral (c :: tail) = push c (multiLiteral tail) := by
  rw [multiLiteral.eq_def]
  simp only [hq, if_false, hc, if_true]

/-- **A text without three single quotes in a row is read as it stands**, if it has no control
    character other than line feeds and tabs. -/
theorem multiLiteral_append {run : Nat} {cs : List Char} (hrun : longestRun '\'' run cs ≤ 2)
    (h : ∀ c ∈ cs, isPrintable c = true ∨ c = '\n') (rest : List Char) :
    multiLiteral (cs ++ closing '\'' rest) = some (cs, '\n' :: rest) := by
  induction cs generalizing run with
  | nil => rfl
  | cons c cs ih =>
    obtain ⟨hc, hcs⟩ := List.forall_mem_cons.mp h
    rw [List.cons_append]
    by_cases hq : c = '\''
    · subst hq
      rw [longestRun_cons_self] at hrun
      have ih := ih hrun hcs
      cases cs with
      | nil => rfl
      | cons d ds =>
        by_cases hd : d = '\''
        · subst hd
          rw [longestRun_cons_self] at hrun
          cases ds with
          | nil => rfl
          | cons e es =>
            -- A third quote would make the run too long.
            have he : e ≠ '\'' := by
              rintro rfl
              rw [longestRun_cons_self] at hrun
              have hle := le_longestRun '\'' (run + 1 + 1 + 1) es
              omega
            rw [List.cons_append, List.cons_append] at ih ⊢
            rw [multiLiteral_quote (opensAtMostOne_of_snd_ne he), ih, push_some]
        · rw [List.cons_append] at ih ⊢
          rw [multiLiteral_quote (opensAtMostOne_of_ne hd), ih, push_some]
    · have hle : longestRun '\'' 0 cs ≤ 2 := Nat.le_trans (longestRun_le_of_cons hq run cs) hrun
      rw [multiLiteral_of_ne hq hc, ih hle hcs, push_some]

/-! ### The form that is chosen -/

/-- A profile tells whether there are control characters. -/
theorem hasControl_eq_false_iff {cs : List Char} :
    (Profile.of cs).hasControl = false ↔ ∀ c ∈ cs, isControl c = false := by
  simp [Profile.of]

/-- Without control characters, a text has line feeds and printable ones. -/
theorem isPrintable_or_of_hasControl {cs : List Char} (h : (Profile.of cs).hasControl = false) :
    ∀ c ∈ cs, isPrintable c = true ∨ c = '\n' := by
  intro c hc
  by_cases hn : c = '\n'
  · exact .inr hn
  · exact .inl (isPrintable_of_not_isControl (hasControl_eq_false_iff.mp h c hc) hn)

/-- A literal string on one line is chosen only for texts that it can hold. -/
theorem literal_of_choose {cs : List Char} (h : Style.choose (.of cs) = .literal) :
    ∀ c ∈ cs, c ≠ '\'' ∧ isPrintable c = true := by
  have hp : (Profile.of cs).hasControl = false ∧ (Profile.of cs).singles = 0
      ∧ (Profile.of cs).hasLineFeed = false := by
    unfold Style.choose at h
    split_ifs at h with h1 h2 h3 h4 h5
    simpa [and_assoc] using h2
  obtain ⟨hcontrol, hsingles, hfeed⟩ := hp
  have hq : '\'' ∉ cs := not_mem_of_longestRun hsingles
  have hn : '\n' ∉ cs := by simpa [Profile.of] using hfeed
  intro c hc
  rcases isPrintable_or_of_hasControl hcontrol c hc with hp | rfl
  · exact ⟨fun he => hq (he ▸ hc), hp⟩
  · exact absurd hc hn

/-- A literal string on several lines is chosen only for texts that it can hold. -/
theorem multiLiteral_of_choose {cs : List Char} (h : Style.choose (.of cs) = .multiLiteral) :
    longestRun '\'' 0 cs ≤ 2 ∧ ∀ c ∈ cs, isPrintable c = true ∨ c = '\n' := by
  have hp : (Profile.of cs).hasControl = false ∧ (Profile.of cs).singles ≤ 2 := by
    unfold Style.choose at h
    split_ifs at h with h1 h2 h3 h4 h5
    simpa using h4
  exact ⟨hp.2, isPrintable_or_of_hasControl hp.1⟩

/-! ### Whole strings -/

/-- An opening quote that two others do not follow opens a string of one line. -/
theorem string?_basic {w : List Char} (h : OpensAtMostOne '"' w) :
    string? ('"' :: w) = basic .plain w := by
  rw [string?.eq_def]
  split
  · next he => exact absurd (List.cons.inj he).2 (h _)
  · next he => cases he
  · rfl

/-- A single quote begins a literal text. -/
theorem string?_literal {w : List Char} (h : OpensAtMostOne '\'' w) :
    string? ('\'' :: w) = literal w := by
  rw [string?.eq_def]
  split
  · next he => cases he
  · next he => exact absurd (List.cons.inj he).2 (h _)
  · rfl

/-- The line feed in front is the one that is not part of the text. -/
theorem dropLineFeed_leading {cs w : List Char} (h : '\n' ∉ cs → ∀ tail, w ≠ '\n' :: tail) :
    dropLineFeed (leadingLineFeed cs ++ w) = w := by
  unfold leadingLineFeed
  split
  · rfl
  · next hn =>
    have hw := h (by simpa using hn)
    rw [List.nil_append, dropLineFeed]
    exact hw

/-- Escapes bring no line feed to the front that is not there. -/
theorem escapedText_ne_feed {cs : List Char} (h : '\n' ∉ cs) (rest tail : List Char) :
    escapedText true 0 cs ++ closing '"' rest ≠ '\n' :: tail := by
  cases cs with
  | nil => exact fun he => absurd (List.cons.inj he).1 (by decide)
  | cons c cs =>
    by_cases hq : c = '"'
    · rw [hq, escapedText_quote (by decide)]
      exact fun he => absurd (List.cons.inj he).1 (by decide)
    · have hn : c ≠ '\n' := fun he => h (he ▸ List.mem_cons_self)
      have hc := escaped_escapedChar c
      obtain ⟨d, ds, hd, -⟩ := hc.eq_cons
      rw [escapedText_of_not (fun h => hq h.1) hn, hd]
      intro he
      -- What is written of a character is printable, and a line feed is not.
      have hp := hc.isPrintable (d := d) (by rw [hd]; exact List.mem_cons_self)
      rw [(List.cons.inj he).1] at hp
      cases hp

/-- **A written string is read as its text**, at the end of a line. -/
theorem string?_written (cs rest : List Char) :
    string? (written cs ++ '\n' :: rest) = some (cs, '\n' :: rest) := by
  unfold written
  -- For each style: it opens as itself and not as another one, and its own reader undoes it.
  cases hstyle : Style.choose (.of cs) with
  | basic =>
    have hw : writtenAs .basic cs ++ '\n' :: rest
        = '"' :: (escapedText false 0 cs ++ '"' :: '\n' :: rest) := by simp [writtenAs]
    have hopen : OpensAtMostOne '"' (escapedText false 0 cs ++ '"' :: '\n' :: rest) := by
      cases cs with
      | nil => exact opensAtMostOne_of_snd_ne (by decide)
      | cons c cs =>
        obtain ⟨d, ds, hd, hne⟩ := (escaped_escapedChar c).eq_cons
        rw [escapedText_one_cons, hd]
        exact opensAtMostOne_of_ne hne
    rw [hw, string?_basic hopen, basic_escapedText]
  | literal =>
    have hcs := literal_of_choose hstyle
    have hw : writtenAs .literal cs ++ '\n' :: rest = '\'' :: (cs ++ '\'' :: '\n' :: rest) := by
      simp [writtenAs]
    have hopen : OpensAtMostOne '\'' (cs ++ '\'' :: '\n' :: rest) := by
      cases cs with
      | nil => exact opensAtMostOne_of_snd_ne (by decide)
      | cons c cs => exact opensAtMostOne_of_ne (hcs c List.mem_cons_self).1
    rw [hw, string?_literal hopen, literal_append hcs]
  | multiBasic =>
    have hw : writtenAs .multiBasic cs ++ '\n' :: rest
        = '"' :: '"' :: '"'
          :: (leadingLineFeed cs ++ (escapedText true 0 cs ++ closing '"' rest)) := by
      simp [writtenAs, closing]
    rw [hw, string?, dropLineFeed_leading fun h => escapedText_ne_feed h rest,
      multiBasic_escapedText]
  | multiLiteral =>
    obtain ⟨hrun, hcs⟩ := multiLiteral_of_choose hstyle
    have hw : writtenAs .multiLiteral cs ++ '\n' :: rest
        = '\'' :: '\'' :: '\'' :: (leadingLineFeed cs ++ (cs ++ closing '\'' rest)) := by
      simp [writtenAs, closing]
    have hfeed (h : '\n' ∉ cs) (tail : List Char) : cs ++ closing '\'' rest ≠ '\n' :: tail := by
      cases cs with
      | nil => exact fun he => absurd (List.cons.inj he).1 (by decide)
      | cons c cs => exact fun he => h ((List.cons.inj he).1 ▸ List.mem_cons_self)
    rw [hw, string?, dropLineFeed_leading hfeed, multiLiteral_append hrun hcs]

/-- A written string begins with one of the two quotes. -/
theorem written_eq_cons (cs : List Char) :
    ∃ q w, written cs = q :: w ∧ (q = '"' ∨ q = '\'') := by
  unfold written
  cases Style.choose (.of cs) with
  | basic => exact ⟨_, _, rfl, .inl rfl⟩
  | literal => exact ⟨_, _, rfl, .inr rfl⟩
  | multiBasic => exact ⟨_, _, rfl, .inl rfl⟩
  | multiLiteral => exact ⟨_, _, rfl, .inr rfl⟩

/-! ### The characters of a written string -/

/-- A text with escapes has line feeds and printable characters. -/
theorem isPrintable_of_mem_escapedText {several : Bool} {run : Nat} {cs : List Char} {d : Char}
    (h : d ∈ escapedText several run cs) : isPrintable d = true ∨ d = '\n' := by
  induction cs generalizing run with
  | nil => cases h
  | cons c cs ih =>
    rw [escapedText] at h
    split at h
    · next hq =>
      rcases List.mem_cons.mp h with rfl | h
      · simp only [Bool.and_eq_true, beq_iff_eq] at hq
        exact .inl (by rw [hq.1.2]; rfl)
      · exact ih h
    · split at h
      · next hn =>
        rcases List.mem_cons.mp h with rfl | h
        · simp only [Bool.and_eq_true, beq_iff_eq] at hn
          exact .inr hn.2
        · exact ih h
      · rcases List.mem_append.mp h with h | h
        · exact .inl ((escaped_escapedChar c).isPrintable h)
        · exact ih h

theorem isPrintable_of_mem_leading {cs : List Char} {d : Char} (h : d ∈ leadingLineFeed cs) :
    d = '\n' := by
  unfold leadingLineFeed at h
  split at h
  · exact List.mem_singleton.mp h
  · cases h

/-- A written string holds no control character, line feeds and tabs apart. -/
theorem isPrintable_of_mem_written {cs : List Char} {d : Char} (h : d ∈ written cs) :
    isPrintable d = true ∨ d = '\n' := by
  unfold written at h
  -- A character is one of the quotes around the text, or stands for one of its characters.
  cases hstyle : Style.choose (.of cs) with
  | basic =>
    simp only [hstyle, writtenAs, List.mem_append, List.mem_cons, List.not_mem_nil, or_false] at h
    rcases h with (rfl | h) | rfl
    · exact .inl rfl
    · exact isPrintable_of_mem_escapedText h
    · exact .inl rfl
  | literal =>
    simp only [hstyle, writtenAs, List.mem_append, List.mem_cons, List.not_mem_nil, or_false] at h
    rcases h with (rfl | h) | rfl
    · exact .inl rfl
    · exact .inl (literal_of_choose hstyle d h).2
    · exact .inl rfl
  | multiBasic =>
    simp only [hstyle, writtenAs, List.mem_append, List.mem_cons, List.not_mem_nil, or_false] at h
    rcases h with (((rfl | rfl | rfl) | h) | h) | rfl | rfl | rfl
    iterate 3 exact .inl rfl
    · exact .inr (isPrintable_of_mem_leading h)
    · exact isPrintable_of_mem_escapedText h
    iterate 3 exact .inl rfl
  | multiLiteral =>
    simp only [hstyle, writtenAs, List.mem_append, List.mem_cons, List.not_mem_nil, or_false] at h
    rcases h with (((rfl | rfl | rfl) | h) | h) | rfl | rfl | rfl
    iterate 3 exact .inl rfl
    · exact .inr (isPrintable_of_mem_leading h)
    · exact (multiLiteral_of_choose hstyle).2 d h
    iterate 3 exact .inl rfl

end Postbox.Toml
