import Postbox.Proofs.Json.Grammar

namespace Postbox.Json.Reader

/-!
# Reading strings and numbers

The two leaves of the reader against the grammar, each in both directions: what is read was
written there, and what was written there is read.  A number ends only where no further character
could belong to it, so it has to be said what follows it; a string ends at its quote.

* `string_sound`, `string_complete` — strings.
* `Ends` — what may follow a number.
* `numeral_sound`, `numeral_complete` — numbers.
-/

open Text.Decimal (Digits ne_of_isDigit)

/-! ### Strings -/

/-- A plain character of a string stands for itself. -/
theorem string_plain {c : Char} (hq : c ≠ '"') (hb : c ≠ '\\') (hc : 0x20 ≤ c.toNat)
    (cs : List Char) :
    string (c :: cs) = (string cs).map fun (us, rest) => (c.toNat :: us, rest) := by
  rw [string]
  · rw [if_neg]
    rintro (h | h)
    · exact hb h
    · omega
  · exact hq
  · exact fun _ _ _ _ _ h => absurd h hb
  · exact fun _ _ h => absurd h hb

/-- An escape of two characters stands for its unit. -/
theorem string_escape {e : Char} {u : Nat} (h : escaped? e = some u) {cs rest : List Char}
    {us : Units} (hs : string cs = some (us, rest)) :
    string ('\\' :: e :: cs) = some (u :: us, rest) := by
  rw [string]
  · rw [h, hs]
  · rintro a b c d cs' rfl -
    have hu : escaped? 'u' = none := rfl
    rw [hu] at h
    cases h

/-- An escape with four digits stands for its unit. -/
theorem string_unit {a b c d : Char} {u : Nat} (h : unit? a b c d = some u)
    {cs rest : List Char} {us : Units} (hs : string cs = some (us, rest)) :
    string ('\\' :: 'u' :: a :: b :: c :: d :: cs) = some (u :: us, rest) := by
  rw [string, h, hs]

/-- What was written as a string is read as that string. -/
theorem string_complete {us : Units} {w : List Char} (h : Characters us w) (rest : List Char) :
    string (w ++ '"' :: rest) = some (us, rest) := by
  induction h with
  | nil => rfl
  | cons h _ ih =>
    rw [List.append_assoc]
    cases h with
    | plain hq hb hc => rw [List.cons_append, List.nil_append, string_plain hq hb hc, ih]; rfl
    | escape he => exact string_escape he ih
    | unit hu => exact string_unit hu ih

/-- What is read as a string was written as that string. -/
theorem string_sound {cs rest : List Char} {us : Units} (h : string cs = some (us, rest)) :
    ∃ w, Characters us w ∧ cs = w ++ '"' :: rest := by
  -- By how the first character stands there: as itself, escaped, or as a unit.
  fun_induction string cs generalizing us rest with
  | case1 => cases h
  | case2 cs =>
    cases h
    exact ⟨[], .nil, rfl⟩
  | case3 a b c d cs u us rest hs hu ih =>
    cases h
    obtain ⟨w, hw, rfl⟩ := ih hs
    exact ⟨_, .cons (.unit hu) hw, rfl⟩
  | case4 => cases h
  | case5 e cs _ u us rest hs he ih =>
    cases h
    obtain ⟨w, hw, rfl⟩ := ih hs
    exact ⟨_, .cons (.escape he) hw, rfl⟩
  | case6 => cases h
  | case7 => cases h
  | case8 c cs hq _ _ hc ih =>
    rw [Option.map_eq_some_iff] at h
    obtain ⟨⟨us', rest'⟩, hs, h⟩ := h
    cases h
    obtain ⟨w, hw, rfl⟩ := ih hs
    rw [not_or] at hc
    exact ⟨_, .cons (.plain hq hc.1 (by omega)) hw, rfl⟩

/-! ### Digits -/

/-- No digit stands in front. -/
def NoDigit (cs : List Char) : Prop := ∀ c ∈ cs.head?, c.isDigit = false

/-- What is read as digits are digits in front of the rest. -/
theorem digits_sound {cs : List Char} (h : (digits cs).1.isEmpty = false) :
    Digits (digits cs).1 ∧ cs = (digits cs).1 ++ (digits cs).2 := by
  refine ⟨⟨List.isEmpty_eq_false_iff.mp h, fun c hc => ?_⟩, List.takeWhile_append_dropWhile.symm⟩
  exact List.all_eq_true.mp List.all_takeWhile c hc

/-- Digits are read up to the first character that is none. -/
theorem digits_complete {ds rest : List Char} (hd : ∀ c ∈ ds, c.isDigit = true)
    (hr : NoDigit rest) : digits (ds ++ rest) = (ds, rest) := by
  have htake : rest.takeWhile Char.isDigit = [] ∧ rest.dropWhile Char.isDigit = rest := by
    cases rest with
    | nil => exact ⟨rfl, rfl⟩
    | cons c cs =>
      have hc : c.isDigit = false := hr c rfl
      rw [List.takeWhile_cons, List.dropWhile_cons, hc]
      exact ⟨rfl, rfl⟩
  rw [digits, List.takeWhile_append_of_pos hd, List.dropWhile_append_of_pos hd, htake.1, htake.2,
    List.append_nil]

theorem noDigit_of_head {c : Char} (h : c.isDigit = false) (cs : List Char) :
    NoDigit (c :: cs) := by
  intro d hd
  cases hd
  exact h

/-! ### The parts of a number -/

/-- A whole number is read up to the first character that is no digit. -/
theorem whole?_complete {ds rest : List Char} (h : Whole ds) (hr : NoDigit rest) :
    whole? (ds ++ rest) = some (ds, rest) := by
  obtain ⟨c, cs, rfl, -⟩ := h.toDigits.eq_cons
  -- A zero in front is the whole, and the reader looks at what follows it.
  by_cases hc : c = '0'
  · subst hc
    cases cs with
    | cons d cs => exact absurd rfl (h.no_zero d cs)
    | nil =>
      cases rest with
      | nil => rfl
      | cons d rest =>
        have hd : d.isDigit = false := hr d rfl
        show (if d.isDigit then none else some (['0'], d :: rest)) = some (['0'], d :: rest)
        rw [hd]
        rfl
  · rw [whole?]
    · rw [digits_complete h.isDigit hr, h.isEmpty_eq]
      rfl
    · rintro d cs' h0
      exact hc (List.cons.inj h0).1
    · intro h0
      exact hc (List.cons.inj h0).1

/-- What is read as a whole number is one. -/
theorem whole?_sound {cs ds rest : List Char} (h : whole? cs = some (ds, rest)) :
    Whole ds ∧ cs = ds ++ rest := by
  have hzero : Whole ['0'] := by
    refine ⟨⟨List.cons_ne_nil _ _, fun c hc => ?_⟩, nofun⟩
    rw [List.mem_singleton.mp hc]
    rfl
  rw [whole?.eq_def] at h
  split at h
  · split at h
    · cases h
    · cases h
      exact ⟨hzero, rfl⟩
  · cases h
    exact ⟨hzero, rfl⟩
  · next hlong _ =>
    split at h
    · cases h
    · next he =>
      rw [Bool.not_eq_true] at he
      obtain ⟨hd, hcs⟩ := digits_sound he
      cases h
      refine ⟨⟨hd, fun c t ht => ?_⟩, hcs⟩
      exact hlong c _ (hcs.trans (congrArg (· ++ (digits cs).2) ht))

/-- A fraction, or its absence, is read. -/
theorem fraction?_complete {f : Option (List Char)} {w rest : List Char} (h : Fraction f w)
    (hr : NoDigit rest) (hp : ∀ cs, rest ≠ '.' :: cs) : fraction? (w ++ rest) = some (f, rest) := by
  cases h with
  | absent =>
    rw [List.nil_append, fraction?]
    exact hp
  | present hd =>
    rw [List.cons_append, fraction?, digits_complete hd.isDigit hr, hd.isEmpty_eq]
    rfl

/-- What is read as a fraction is one, or none is there. -/
theorem fraction?_sound {cs rest : List Char} {f : Option (List Char)}
    (h : fraction? cs = some (f, rest)) : ∃ w, Fraction f w ∧ cs = w ++ rest := by
  rw [fraction?.eq_def] at h
  split at h
  · split at h
    · cases h
    · next he =>
      rw [Bool.not_eq_true] at he
      obtain ⟨hd, hcs⟩ := digits_sound he
      cases h
      exact ⟨_, .present hd, congrArg _ hcs⟩
  · cases h
    exact ⟨[], .absent, rfl⟩

/-- What is read as a sign is one, or none is there. -/
theorem sign_sound (cs : List Char) :
    ((sign cs).1 = [] ∨ (sign cs).1 = ['+'] ∨ (sign cs).1 = ['-'])
      ∧ cs = (sign cs).1 ++ (sign cs).2 := by
  rw [sign.eq_def]
  split
  · exact ⟨.inr (.inl rfl), rfl⟩
  · exact ⟨.inr (.inr rfl), rfl⟩
  · exact ⟨.inl rfl, rfl⟩

/-- A sign, or its absence, is read before digits. -/
theorem sign_complete {s ds : List Char} (hs : s = [] ∨ s = ['+'] ∨ s = ['-']) (hd : Digits ds)
    (rest : List Char) : sign (s ++ (ds ++ rest)) = (s, ds ++ rest) := by
  obtain ⟨c, cs, rfl, hc⟩ := hd.eq_cons
  rcases hs with rfl | rfl | rfl
  -- Without a sign, the first digit must not be taken for one.
  · rw [List.nil_append, sign]
    · rintro cs' h
      exact ne_of_isDigit hc rfl (List.cons.inj h).1
    · rintro cs' h
      exact ne_of_isDigit hc rfl (List.cons.inj h).1
  · rfl
  · rfl

/-- An exponent, or its absence, is read. -/
theorem exponent?_complete {e : Option (List Char)} {w rest : List Char} (h : Exponent e w)
    (hr : NoDigit rest) (hm : ∀ c ∈ rest.head?, c ≠ 'e' ∧ c ≠ 'E') :
    exponent? (w ++ rest) = some (e, rest) := by
  cases h with
  | absent =>
    rw [List.nil_append]
    cases rest with
    | nil => rfl
    | cons c rest =>
      obtain ⟨h1, h2⟩ := hm c rfl
      rw [exponent?, if_neg (not_or.mpr ⟨h1, h2⟩)]
  | present hmark hs hd =>
    rw [List.cons_append, List.append_assoc, exponent?, if_pos hmark, sign_complete hs hd]
    simp only [digits_complete hd.isDigit hr, hd.isEmpty_eq, Bool.false_eq_true, if_false]

/-- What is read as an exponent is one, or none is there. -/
theorem exponent?_sound {cs rest : List Char} {e : Option (List Char)}
    (h : exponent? cs = some (e, rest)) : ∃ w, Exponent e w ∧ cs = w ++ rest := by
  cases cs with
  | nil =>
    cases h
    exact ⟨[], .absent, rfl⟩
  | cons c cs =>
    rw [exponent?] at h
    split at h
    · next hmark =>
      obtain ⟨hs, hsign⟩ := sign_sound cs
      dsimp only at h
      split at h
      · cases h
      · next he =>
        rw [Bool.not_eq_true] at he
        obtain ⟨hd, hds⟩ := digits_sound he
        cases h
        refine ⟨_, .present hmark hs hd, ?_⟩
        rw [List.cons_append, List.append_assoc, ← hds, ← hsign]
    · cases h
      exact ⟨[], .absent, rfl⟩

/-! ### Numbers -/

/-- No character stands in front that could belong to a number. -/
def Ends (cs : List Char) : Prop :=
  ∀ c ∈ cs.head?, c.isDigit = false ∧ c ≠ '.' ∧ c ≠ 'e' ∧ c ≠ 'E'

theorem Ends.nil : Ends [] := fun _ h => by cases h

theorem Ends.cons {c : Char} (hc : c.isDigit = false ∧ c ≠ '.' ∧ c ≠ 'e' ∧ c ≠ 'E')
    (cs : List Char) : Ends (c :: cs) := by
  intro d hd
  cases hd
  exact hc

theorem Ends.noDigit {cs : List Char} (h : Ends cs) : NoDigit cs := fun c hc => (h c hc).1

/-- What follows the digits before the point begins with no digit. -/
theorem noDigit_exponent {e : Option (List Char)} {w rest : List Char} (h : Exponent e w)
    (hr : Ends rest) : NoDigit (w ++ rest) := by
  cases h with
  | absent => exact hr.noDigit
  | present hm _ _ => exact noDigit_of_head (by rcases hm with rfl | rfl <;> rfl) _

/-- No digit follows where a fraction may stand. -/
theorem noDigit_fraction {f : Option (List Char)} {w rest : List Char} (h : Fraction f w)
    (hr : NoDigit rest) : NoDigit (w ++ rest) := by
  cases h with
  | absent => exact hr
  | present _ => exact noDigit_of_head rfl _

/-- No point follows where an exponent may stand. -/
theorem exponent_ne_point {e : Option (List Char)} {w rest : List Char} (h : Exponent e w)
    (hr : Ends rest) (cs : List Char) : w ++ rest ≠ '.' :: cs := by
  intro hp
  cases h with
  | absent =>
    rw [List.nil_append] at hp
    exact (hr '.' (by rw [hp]; rfl)).2.1 rfl
  | present hm _ _ =>
    have hc := (List.cons.inj hp).1
    rcases hm with rfl | rfl <;> exact absurd hc (by decide)

/-- A numeral is read up to its end. -/
theorem unsigned?_complete {n : Numeral} {w rest : List Char} (h : Unsigned n w) (hr : Ends rest) :
    unsigned? n.negative (w ++ rest) = some (n, rest) := by
  cases h with
  | mk hw hf he =>
    have hexp := noDigit_exponent he hr
    -- Each part is read as far as it was written, because the next one begins differently.
    rw [List.append_assoc, List.append_assoc, unsigned?,
      whole?_complete hw (noDigit_fraction hf hexp)]
    show (fraction? _).bind _ = _
    rw [fraction?_complete hf hexp (exponent_ne_point he hr)]
    show (exponent? _).bind _ = _
    rw [exponent?_complete he hr.noDigit fun c hc => (hr c hc).2.2]
    rfl

/-- What is read as a numeral is one. -/
theorem unsigned?_sound {negative : Bool} {cs rest : List Char} {n : Numeral}
    (h : unsigned? negative cs = some (n, rest)) :
    n.negative = negative ∧ ∃ w, Unsigned n w ∧ cs = w ++ rest := by
  rw [unsigned?] at h
  obtain ⟨⟨whole, cs₁⟩, h1, h⟩ := Option.bind_eq_some_iff.mp h
  obtain ⟨⟨fraction, cs₂⟩, h2, h⟩ := Option.bind_eq_some_iff.mp h
  obtain ⟨⟨exponent, cs₃⟩, h3, h⟩ := Option.bind_eq_some_iff.mp h
  cases h
  obtain ⟨hw, rfl⟩ := whole?_sound h1
  obtain ⟨f, hf, rfl⟩ := fraction?_sound h2
  obtain ⟨e, he, rfl⟩ := exponent?_sound h3
  refine ⟨rfl, _, .mk hw hf he, ?_⟩
  rw [List.append_assoc, List.append_assoc]

/-- What was written as a number is read as that number, if nothing follows that could belong to
    it. -/
theorem numeral_complete {n : Numeral} {w rest : List Char} (h : Number n w) (hr : Ends rest) :
    numeral (w ++ rest) = some (n, rest) := by
  cases h with
  | plain hn h =>
    have hread := unsigned?_complete h hr
    obtain ⟨c, cs, rfl, hc⟩ := h.eq_cons
    rw [hn] at hread
    rw [numeral]
    · exact hread
    · rintro cs' h
      exact ne_of_isDigit hc rfl (List.cons.inj h).1
  | minus hn h =>
    have hread := unsigned?_complete h hr
    rw [hn] at hread
    exact hread

/-- What is read as a number was written as that number. -/
theorem numeral_sound {cs rest : List Char} {n : Numeral} (h : numeral cs = some (n, rest)) :
    ∃ w, Number n w ∧ cs = w ++ rest := by
  rw [numeral.eq_def] at h
  split at h
  · obtain ⟨hn, w, hw, rfl⟩ := unsigned?_sound h
    exact ⟨_, .minus hn hw, rfl⟩
  · obtain ⟨hn, w, hw, rfl⟩ := unsigned?_sound h
    exact ⟨_, .plain hn hw, rfl⟩

end Postbox.Json.Reader
