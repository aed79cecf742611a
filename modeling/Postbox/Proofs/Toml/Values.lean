import Postbox.Proofs.Text.Decimal
import Postbox.Proofs.Toml.Strings
import Postbox.Text.Record
import Postbox.Toml.Reader

namespace Postbox.Toml

/-!
# Written values are read

A string in its written form, a truth value, and a decimal numeral of 64 bits, each at the end of a
line, are read as the values they were made from.  A numeral is tried as a date and as a time first,
which fails where the mark behind the year or the hour should be.

* `ReadsAs` — a text is read as a value at the end of a line.
* `readsAs_written`, `readsAs_boolean`, `readsAs_numeral` — the three kinds of values.
-/

/-- The text is read as this value, whatever lines follow it, and is not blank at its front. -/
structure ReadsAs (text : List Char) (node : Node) : Prop where
  read : ∀ rest, Reader.value? (text ++ '\n' :: rest) = some (node, '\n' :: rest)
  front : ∃ c cs, text = c :: cs ∧ isBlank c = false

/-! ### First characters -/

section

variable {p : Char → Bool} {c d : Char}

theorem ne_of_holds (hc : p c = true) (hd : p d = false) : c ≠ d := by
  rintro rfl
  rw [hc] at hd
  cases hd

/-- A text does not begin with a character that has not what its first one has. -/
theorem cons_ne_cons (hc : p c = true) (hd : p d = false) (cs ds : List Char) :
    c :: cs ≠ d :: ds :=
  fun he => ne_of_holds hc hd (List.cons.inj he).1

end

/-! ### Strings and truth values -/

/-- A text that is written is read again. -/
theorem readsAs_written (cs : List Char) : ReadsAs (written cs) (.string cs) := by
  obtain ⟨q, w, hw, hq⟩ := written_eq_cons cs
  refine ⟨fun rest => ?_, q, w, hw, by rcases hq with rfl | rfl <;> rfl⟩
  have hs := string?_written cs rest
  rw [hw, List.cons_append] at hs ⊢
  rw [Reader.value?]
  rcases hq with rfl | rfl
  · rw [Reader.value, hs, Option.map_some]
  · rw [Reader.value, hs, Option.map_some]

/-- A truth value that is written is read again. -/
theorem readsAs_boolean (b : Bool) : ReadsAs (Text.boolean b).toList (.boolean b) := by
  cases b with
  | false => exact ⟨fun rest => rfl, _, _, rfl, rfl⟩
  | true => exact ⟨fun rest => rfl, _, _, rfl, rfl⟩

/-! ### Numerals -/

section

open Text.Decimal (Digits)

variable {ds : List Char}

/-- Behind some of the digits there is another digit or the end of the line. -/
theorem expect?_drop (hd : ∀ c ∈ ds, c.isDigit = true) {n : Nat} (hn : n ≤ ds.length) {m : Char}
    (hm : m.isDigit = false) (hf : m ≠ '\n') (rest : List Char) :
    expect? m ((ds ++ '\n' :: rest).drop n) = none := by
  rw [List.drop_append_of_le_length hn]
  cases h : ds.drop n with
  | nil => simp [expect?, Ne.symm hf]
  | cons c cs =>
    have hc : c.isDigit = true := hd c (List.mem_of_mem_drop (h ▸ List.mem_cons_self))
    have hne : c ≠ m := Text.Decimal.ne_of_isDigit hc hm
    simp [expect?, hne]

/-- A number of fixed width is read of the digits only. -/
theorem fixed?_eq_some {n v : Nat} {rest tail : List Char}
    (h : fixed? n (ds ++ '\n' :: rest) = some (v, tail)) :
    n ≤ ds.length ∧ tail = (ds ++ '\n' :: rest).drop n := by
  unfold fixed? at h
  split at h
  · next hw =>
    simp only [Bool.and_eq_true, decide_eq_true_eq, List.all_eq_true] at hw
    cases h
    refine ⟨Nat.le_of_not_lt fun hlt => ?_, rfl⟩
    -- Among more characters than there are digits is the line feed.
    have hmem : '\n' ∈ (ds ++ '\n' :: rest).take n := by
      rw [List.take_append]
      obtain ⟨k, hk⟩ : ∃ k, n - ds.length = k + 1 := ⟨n - ds.length - 1, by omega⟩
      rw [hk, List.take_succ_cons]
      exact List.mem_append_right _ List.mem_cons_self
    exact absurd (hw.2 _ hmem) (by decide)
  · cases h

/-- Digits at the end of a line are no date and no time. -/
theorem datetime?_digits (hd : ∀ c ∈ ds, c.isDigit = true) (rest : List Char) :
    datetime? (ds ++ '\n' :: rest) = none := by
  -- Behind the digits of a year or an hour there is no mark, as digits or the line end follow.
  have hmark {n v : Nat} {tail : List Char} {m : Char} (hm : m.isDigit = false) (hf : m ≠ '\n')
      (h : fixed? n (ds ++ '\n' :: rest) = some (v, tail)) : expect? m tail = none := by
    obtain ⟨hn, rfl⟩ := fixed?_eq_some h
    exact expect?_drop hd hn hm hf rest
  have hdate : date? (ds ++ '\n' :: rest) = none := by
    unfold date?
    cases hy : fixed? 4 (ds ++ '\n' :: rest) with
    | none => rfl
    | some r =>
      have he := hmark (m := '-') rfl (by decide) hy
      simp [he]
  have htime : time? (ds ++ '\n' :: rest) = none := by
    unfold time? between?
    cases hh : fixed? 2 (ds ++ '\n' :: rest) with
    | none => rfl
    | some r =>
      have he := hmark (m := ':') rfl (by decide) hh
      by_cases hr : r.1 ≤ 23
      · simp [hr, he]
      · simp [hr]
  rw [datetime?, hdate, htime]

/-- Digits are read up to the end of the line. -/
theorem digitsAfter_append (hd : ∀ c ∈ ds, c.isDigit = true) (due : Bool)
    (hdue : due = true → ds ≠ []) (rest : List Char) :
    digitsAfter Char.isDigit due (ds ++ '\n' :: rest) = some (ds, '\n' :: rest) := by
  induction ds generalizing due with
  | nil =>
    cases due with
    | true => exact absurd rfl (hdue rfl)
    | false => rfl
  | cons c cs ih =>
    obtain ⟨hc, hcs⟩ := List.forall_mem_cons.mp hd
    simp only [List.cons_append, digitsAfter, hc, if_true, ih hcs false (by simp), Option.map_some]

/-- A decimal digit stands for the same number in the other base. -/
theorem hexValue?_of_isDigit {c : Char} (h : c.isDigit = true) :
    Text.hexValue? c = some (c.toNat - 48) := by
  have hc : 48 ≤ c.toNat ∧ c.toNat ≤ 57 := by
    simp only [Char.isDigit, Bool.and_eq_true, decide_eq_true_eq] at h
    exact h
  rw [Text.hexValue?]
  exact if_pos hc

/-- Digits stand for the same number here as in any decimal numeral. -/
theorem valueIn_ten (hd : ∀ c ∈ ds, c.isDigit = true) : valueIn 10 ds = Text.Decimal.value ds := by
  have hfold (n : Nat) : ds.foldl (fun n c => 10 * n + (Text.hexValue? c).getD 0) n
      = Text.Decimal.valueAfter n ds := by
    induction ds generalizing n with
    | nil => rfl
    | cons c cs ih =>
      obtain ⟨hc, hcs⟩ := List.forall_mem_cons.mp hd
      rw [List.foldl_cons, ih hcs, hexValue?_of_isDigit hc]
      rfl
  exact hfold 0

/-- A run of digits without a leading zero is read as its number, if that has 64 bits. -/
theorem number?_digits {c : Char} {cs : List Char} (hd : ∀ d ∈ c :: cs, d.isDigit = true)
    (hc : c ≠ '0') (hn : Text.Decimal.value (c :: cs) ≤ 9223372036854775807) (rest : List Char) :
    number? (c :: cs ++ '\n' :: rest)
      = some (.integer (Text.Decimal.value (c :: cs)), '\n' :: rest) := by
  -- Without a sign, a prefix or a mark of a float, each reader hands the digits on to the next.
  have hdigit : c.isDigit = true := hd c List.mem_cons_self
  have hrun := digitsAfter_append hd true (fun _ => List.cons_ne_nil c cs) rest
  have hwhole : wholeRun? (c :: cs ++ '\n' :: rest) = some (c :: cs, '\n' :: rest) := by
    rw [List.cons_append, wholeRun?.eq_def]
    split
    · next he => exact absurd (List.cons.inj he).1 hc
    · exact hrun
  have hvalue := valueIn_ten hd
  have h64 : isInt64 (Text.Decimal.value (c :: cs)) = true := by
    simp only [isInt64, Bool.and_eq_true, decide_eq_true_eq]
    omega
  have hdecimal : decimal? false (c :: cs ++ '\n' :: rest)
      = some (.integer (Text.Decimal.value (c :: cs)), '\n' :: rest) := by
    have hmark : isFloatMark ('\n' :: rest) = false := rfl
    simp only [decimal?, hwhole, Option.bind_eq_bind, Option.bind_some, hmark, hvalue, h64,
      Bool.false_eq_true, if_false, if_true]
  have hsign : sign (c :: cs ++ '\n' :: rest) = (false, c :: cs ++ '\n' :: rest) := by
    rw [List.cons_append, sign.eq_def]
    split
    · next he => exact absurd he (cons_ne_cons hdigit (by decide) _ _)
    · next he => exact absurd he (cons_ne_cons hdigit (by decide) _ _)
    · rfl
  have hsigned : signed? false (c :: cs ++ '\n' :: rest)
      = decimal? false (c :: cs ++ '\n' :: rest) := by
    rw [List.cons_append, signed?.eq_def]
    split
    · next he => exact absurd he (cons_ne_cons hdigit (by decide) _ _)
    · next he => exact absurd he (cons_ne_cons hdigit (by decide) _ _)
    · rfl
  rw [number?.eq_def]
  split
  iterate 3
    next he => exact absurd (List.cons.inj he).1 hc
  rw [hsign, hsigned, hdecimal]

end

/-- A number is read up to the end of the line. -/
theorem number?_written {n : Nat} (hn : n ≤ 9223372036854775807) (rest : List Char) :
    number? (Text.Decimal.written n ++ '\n' :: rest) = some (.integer n, '\n' :: rest) := by
  by_cases h0 : n = 0
  · subst h0
    rfl
  · obtain ⟨c, cs, hw, hc⟩ := Text.Decimal.written_of_pos (Nat.pos_of_ne_zero h0)
    have hd := (Text.Decimal.digits_written n).isDigit
    have hv := Text.Decimal.value_written n
    rw [hw] at hd hv ⊢
    rw [number?_digits hd hc (by omega), hv]

/-- A numeral goes past the forms of all other values. -/
theorem value_digit {c : Char} (hc : c.isDigit = true) (fuel depth : Nat) (cs : List Char) :
    Reader.value (fuel + 1) depth (c :: cs)
      = match datetime? (c :: cs) with
        | some rest => some (.datetime, rest)
        | none => number? (c :: cs) := by
  rw [Reader.value.eq_def]
  simp only
  split
  all_goals first
    | rfl
    | next he => exact absurd he (cons_ne_cons hc (by decide) _ _)

/-- A number that is written is read again. -/
theorem readsAs_numeral {n : Nat} (hn : n ≤ 9223372036854775807) :
    ReadsAs (Text.Decimal.written n) (.integer n) := by
  have hd := Text.Decimal.digits_written n
  obtain ⟨c, cs, hw, hc⟩ := hd.eq_cons
  have hblank : isBlank c = false := by
    have h1 : c ≠ ' ' := Text.Decimal.ne_of_isDigit hc rfl
    have h2 : c ≠ '\t' := Text.Decimal.ne_of_isDigit hc rfl
    simp [isBlank, h1, h2]
  refine ⟨fun rest => ?_, c, cs, hw, hblank⟩
  have hdate := datetime?_digits hd.isDigit rest
  have hnumber := number?_written hn rest
  rw [hw, List.cons_append] at hdate hnumber ⊢
  rw [Reader.value?, value_digit hc, hdate]
  exact hnumber

end Postbox.Toml
