import Postbox.Text.Decimal

namespace Postbox.Text.Decimal

/-!
# The numerals that are read

Which texts the reader of decimal numerals takes, and for which numbers.

* `Digits` — a run of digits.
* `value` — the number that digits stand for.
* `Signed` — a run of digits after at most one sign, and the number it stands for.
* `natural?_eq_some_iff`, `signed?_eq_some_iff` — what is read is exactly that.
* `value_written` — a written numeral stands for its number.
-/

/-! ### Digits -/

/-- A run of digits, at least one. -/
structure Digits (ds : List Char) : Prop where
  ne_nil : ds ≠ []
  isDigit : ∀ c ∈ ds, c.isDigit = true

theorem Digits.eq_cons {ds : List Char} (h : Digits ds) :
    ∃ c cs, ds = c :: cs ∧ c.isDigit = true := by
  cases ds with
  | nil => exact absurd rfl h.ne_nil
  | cons c cs => exact ⟨c, cs, rfl, h.isDigit c List.mem_cons_self⟩

theorem Digits.isEmpty_eq {ds : List Char} (h : Digits ds) : ds.isEmpty = false :=
  List.isEmpty_eq_false_iff.mpr h.ne_nil

theorem ne_of_isDigit {c d : Char} (hc : c.isDigit = true) (hd : d.isDigit = false) : c ≠ d := by
  intro h
  rw [h, hd] at hc
  exact absurd hc (by decide)

/-- The number that digits stand for when they follow those of `n`. -/
def valueAfter (n : Nat) (ds : List Char) : Nat := ds.foldl (fun m c => 10 * m + (c.toNat - 48)) n

/-- The number that digits stand for. -/
def value (ds : List Char) : Nat := valueAfter 0 ds

/-- Digits are read as the number that they stand for behind others. -/
theorem valueFrom_eq_some_iff {cs : List Char} {n m : Nat} :
    valueFrom n cs = some m ↔ (∀ c ∈ cs, c.isDigit = true) ∧ m = valueAfter n cs := by
  induction cs generalizing n with
  | nil =>
    rw [valueFrom_nil, Option.some.injEq]
    exact ⟨fun h => ⟨fun _ hc => absurd hc List.not_mem_nil, h.symm⟩, fun h => h.2.symm⟩
  | cons c cs ih =>
    rw [valueFrom_cons, List.forall_mem_cons]
    split
    · next hc =>
      rw [ih, valueAfter, valueAfter, List.foldl_cons]
      exact ⟨fun h => ⟨⟨hc, h.1⟩, h.2⟩, fun h => ⟨h.1.2, h.2⟩⟩
    · next hc => exact ⟨fun h => (by cases h), fun h => absurd h.1.1 hc⟩

/-- What is read without a sign is a run of digits. -/
theorem natural?_eq_some_iff {cs : List Char} {n : Nat} :
    natural? cs = some n ↔ Digits cs ∧ n = value cs := by
  cases cs with
  | nil => exact ⟨fun h => (by cases h), fun h => absurd rfl h.1.ne_nil⟩
  | cons c cs =>
    rw [natural?_cons, valueFrom_eq_some_iff]
    exact ⟨fun h => ⟨⟨List.cons_ne_nil _ _, h.1⟩, h.2⟩, fun h => ⟨h.1.isDigit, h.2⟩⟩

/-! ### Signs -/

/-- Digits after at most one sign, and the integer they stand for. -/
inductive Signed : List Char → Int → Prop
  | bare {ds : List Char} (h : Digits ds) : Signed ds (value ds)
  | plus {ds : List Char} (h : Digits ds) : Signed ('+' :: ds) (value ds)
  | minus {ds : List Char} (h : Digits ds) : Signed ('-' :: ds) (-value ds)

/-- A numeral holds digits and signs only. -/
theorem Signed.mem {cs : List Char} {z : Int} (h : Signed cs z) {c : Char} (hc : c ∈ cs) :
    c.isDigit = true ∨ c = '+' ∨ c = '-' := by
  cases h with
  | bare h => exact .inl (h.isDigit c hc)
  | plus h =>
    rcases List.mem_cons.mp hc with rfl | hc
    · exact .inr (.inl rfl)
    · exact .inl (h.isDigit c hc)
  | minus h =>
    rcases List.mem_cons.mp hc with rfl | hc
    · exact .inr (.inr rfl)
    · exact .inl (h.isDigit c hc)

/-- **What is read as a numeral is one**, and stands for the number that is given. -/
theorem signed?_eq_some_iff {cs : List Char} {z : Int} : signed? cs = some z ↔ Signed cs z := by
  constructor
  · intro h
    rw [signed?.eq_def] at h
    split at h
    all_goals
      rw [Option.map_eq_some_iff] at h
      obtain ⟨n, hn, rfl⟩ := h
      obtain ⟨hd, rfl⟩ := natural?_eq_some_iff.mp hn
    · exact .plus hd
    · exact .minus hd
    · exact .bare hd
  · intro h
    cases h with
    | bare h =>
      -- The first digit is not taken for a sign.
      have hn := natural?_eq_some_iff.mpr ⟨h, rfl⟩
      obtain ⟨c, cs, rfl, hc⟩ := h.eq_cons
      rw [signed?]
      · rw [hn]
        rfl
      · rintro cs' h
        exact ne_of_isDigit hc rfl (List.cons.inj h).1
      · rintro cs' h
        exact ne_of_isDigit hc rfl (List.cons.inj h).1
    | plus h => rw [signed?, natural?_eq_some_iff.mpr ⟨h, rfl⟩]; rfl
    | minus h => rw [signed?, natural?_eq_some_iff.mpr ⟨h, rfl⟩]; rfl

/-! ### Written numerals -/

/-- What is written of a number is a run of digits. -/
theorem digits_written (n : Nat) : Digits (written n) where
  ne_nil := Nat.toDigits_ne_nil
  isDigit _ h := Nat.isDigit_of_mem_toDigits (by decide) (Nat.le_refl 10) h

/-- **A written numeral stands for its number.** -/
theorem value_written (n : Nat) : value (written n) = n :=
  Nat.ofDigitChars_toDigits (by decide) (Nat.le_refl 10)

theorem digitChar_ne_zero : ∀ d < 10, d ≠ 0 → Nat.digitChar d ≠ '0' := by decide

/-- The numeral of a positive number does not begin with a zero. -/
theorem written_of_pos {n : Nat} (h : 0 < n) : ∃ c cs, written n = c :: cs ∧ c ≠ '0' := by
  unfold written
  induction n using Nat.strongRecOn with
  | _ n ih =>
    by_cases hn : n < 10
    · rw [Nat.toDigits_of_lt_base hn]
      exact ⟨_, _, rfl, digitChar_ne_zero n hn (by omega)⟩
    · -- The first digit is that of the number without its last digit.
      obtain ⟨c, cs, hc, hne⟩ := ih (n / 10) (by omega) (by omega)
      rw [Nat.toDigits_of_base_le (by decide) (by omega), hc]
      exact ⟨c, _, rfl, hne⟩

end Postbox.Text.Decimal
