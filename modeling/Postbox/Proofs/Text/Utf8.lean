import Postbox.Text.Utf8

namespace Postbox.Text.Utf8

/-!
# Reading UTF-8 undoes writing it

The bytes of a character are a first byte that says how many follow, and the rest of its bits in
groups of six.  Walking over them collects the bits again, so the pieces of a written text are its
characters, and none is malformed.  Each sequence of bytes of which nothing is malformed is a
written text.

* `next_lead_two`, `next_lead_three`, `next_lead_four` — what a first byte leaves open.
* `next_last`, `next_more` — what a later byte does to an open sequence.
* `pieces_encode`, `decodeLossy_encode`, `decode?_encode` — reading undoes writing.
* `exists_last`, `exists_more` — how an open sequence goes on if nothing is malformed.
* `encodeChar_two` and so on — the bytes that are written for the bits of a character.
* `decode?_eq_some_iff` — the bytes that are read as a text are those that are written for it.
* `forall_mem_encode_iff` — what the bytes outside ASCII all have, the bytes of a text have if its
  characters do.
-/

/-- A number below 256 is kept as a byte. -/
theorem toNat_ofNat {n : Nat} (h : n < 256) : (UInt8.ofNat n).toNat = n :=
  UInt8.toNat_ofNat_of_lt' h

/-! ### First bytes -/

/-- A byte below 128 is a character by itself. -/
theorem next_ascii {v : Nat} (h : v ≤ 0x7f) :
    next (UInt8.ofNat v) none = ([some (Char.ofNat v)], none) := by
  have hb : begin? (UInt8.ofNat v) = some { due := 0, bits := v } := by
    rw [begin?, toNat_ofNat (by omega), if_pos (by omega)]
  rw [next, first, hb]
  rfl

/-- The first byte of two leaves one due. -/
theorem next_lead_two {k : Nat} (h : 2 ≤ k ∧ k < 32) :
    next (UInt8.ofNat (k + 0xc0)) none = ([], some { due := 1, bits := k }) := by
  have hb : begin? (UInt8.ofNat (k + 0xc0)) = some { due := 1, bits := k } := by
    rw [begin?, toNat_ofNat (by omega), if_neg (by omega), if_neg (by omega), if_pos (by omega),
      Nat.add_sub_cancel]
  rw [next, first, hb]
  rfl

/-- The first byte of three leaves two due. -/
theorem next_lead_three {k : Nat} (h : k < 16) :
    next (UInt8.ofNat (k + 0xe0)) none
      = ([], some { due := 2, low := if k = 0 then 0xa0 else 0x80,
                    high := if k = 13 then 0x9f else 0xbf, bits := k }) := by
  have hl : (k + 0xe0 = 0xe0) = (k = 0) := by simp
  have hh : (k + 0xe0 = 0xed) = (k = 13) := by simp
  have hb : begin? (UInt8.ofNat (k + 0xe0))
      = some { due := 2, low := if k = 0 then 0xa0 else 0x80,
               high := if k = 13 then 0x9f else 0xbf, bits := k } := by
    rw [begin?, toNat_ofNat (by omega), if_neg (by omega), if_neg (by omega), if_neg (by omega),
      if_pos (by omega), Nat.add_sub_cancel]
    simp only [hl, hh]
  rw [next, first, hb]
  rfl

/-- The first byte of four leaves three due. -/
theorem next_lead_four {k : Nat} (h : k < 5) :
    next (UInt8.ofNat (k + 0xf0)) none
      = ([], some { due := 3, low := if k = 0 then 0x90 else 0x80,
                    high := if k = 4 then 0x8f else 0xbf, bits := k }) := by
  have hl : (k + 0xf0 = 0xf0) = (k = 0) := by simp
  have hh : (k + 0xf0 = 0xf4) = (k = 4) := by simp
  have hb : begin? (UInt8.ofNat (k + 0xf0))
      = some { due := 3, low := if k = 0 then 0x90 else 0x80,
               high := if k = 4 then 0x8f else 0xbf, bits := k } := by
    rw [begin?, toNat_ofNat (by omega), if_neg (by omega), if_neg (by omega), if_neg (by omega),
      if_neg (by omega), if_pos (by omega), Nat.add_sub_cancel]
    simp only [hl, hh]
  rw [next, first, hb]
  rfl

/-! ### Later bytes -/

/-- The last byte of a sequence gives six more bits and completes the character. -/
theorem next_last {low high bits k : Nat} (hk : k < 64) (hr : low ≤ k + 0x80 ∧ k + 0x80 ≤ high) :
    next (UInt8.ofNat (k + 0x80)) (some { due := 1, low, high, bits })
      = ([some (Char.ofNat (64 * bits + k))], none) := by
  rw [next, toNat_ofNat (by omega), if_pos hr, Nat.add_sub_cancel]
  exact if_pos (Nat.le_refl 1)

/-- A byte before the last one gives six more bits, and any trailing byte may come next. -/
theorem next_more {due low high bits k : Nat} (hk : k < 64)
    (hr : low ≤ k + 0x80 ∧ k + 0x80 ≤ high) :
    next (UInt8.ofNat (k + 0x80)) (some { due := due + 2, low, high, bits })
      = ([], some { due := due + 1, bits := 64 * bits + k }) := by
  rw [next, toNat_ofNat (by omega), if_pos hr, Nat.add_sub_cancel]
  exact if_neg (by show ¬due + 2 ≤ 1; omega)

/-! ### Whole texts -/

/-- The code of a character is not that of a surrogate, and not beyond the last one. -/
theorem valid_toNat (c : Char) : c.toNat < 0xd800 ∨ 0xdfff < c.toNat ∧ c.toNat < 0x110000 :=
  c.valid

/-- Two bytes are the character whose bits they hold. -/
theorem piecesFrom_two {k a : Nat} (hk : 2 ≤ k ∧ k < 32) (ha : a < 64) (bs : List UInt8) :
    piecesFrom none (UInt8.ofNat (k + 0xc0) :: UInt8.ofNat (a + 0x80) :: bs)
      = some (Char.ofNat (64 * k + a)) :: piecesFrom none bs := by
  rw [piecesFrom_cons, next_lead_two hk, piecesFrom_cons, next_last ha (by omega)]
  rfl

/-- Three bytes are the character whose bits they hold, unless that is a surrogate or needs only
    two bytes. -/
theorem piecesFrom_three {k a b : Nat} (hk : k < 16) (ha : a < 64) (hb : b < 64)
    (hlow : k = 0 → 32 ≤ a) (hhigh : k = 13 → a < 32) (bs : List UInt8) :
    piecesFrom none
        (UInt8.ofNat (k + 0xe0) :: UInt8.ofNat (a + 0x80) :: UInt8.ofNat (b + 0x80) :: bs)
      = some (Char.ofNat (64 * (64 * k + a) + b)) :: piecesFrom none bs := by
  have hr : (if k = 0 then 0xa0 else 0x80) ≤ a + 0x80
      ∧ a + 0x80 ≤ (if k = 13 then 0x9f else 0xbf) := by
    split <;> split <;> omega
  rw [piecesFrom_cons, next_lead_three hk, piecesFrom_cons, next_more ha hr, piecesFrom_cons,
    next_last hb (by omega)]
  rfl

/-- Four bytes are the character whose bits they hold, unless there is none or it needs only
    three bytes. -/
theorem piecesFrom_four {k a b c : Nat} (hk : k < 5) (ha : a < 64) (hb : b < 64) (hc : c < 64)
    (hlow : k = 0 → 16 ≤ a) (hhigh : k = 4 → a < 16) (bs : List UInt8) :
    piecesFrom none (UInt8.ofNat (k + 0xf0) :: UInt8.ofNat (a + 0x80) :: UInt8.ofNat (b + 0x80)
        :: UInt8.ofNat (c + 0x80) :: bs)
      = some (Char.ofNat (64 * (64 * (64 * k + a) + b) + c)) :: piecesFrom none bs := by
  have hr : (if k = 0 then 0x90 else 0x80) ≤ a + 0x80
      ∧ a + 0x80 ≤ (if k = 4 then 0x8f else 0xbf) := by
    split <;> split <;> omega
  rw [piecesFrom_cons, next_lead_four hk, piecesFrom_cons, next_more ha hr, piecesFrom_cons,
    next_more hb (by omega), piecesFrom_cons, next_last hc (by omega)]
  rfl

/-- **The bytes of a character are one piece, and the piece is that character.** -/
theorem piecesFrom_encodeChar (c : Char) (bs : List UInt8) :
    piecesFrom none (String.utf8EncodeChar c ++ bs) = some c :: piecesFrom none bs := by
  have hv := valid_toNat c
  have hc := Char.ofNat_toNat c
  have hval : c.val.toNat = c.toNat := rfl
  rw [String.utf8EncodeChar, hval]
  generalize hn : c.toNat = v at *
  -- The four ranges are those that the writer distinguishes.
  split
  · next h =>
    rw [List.cons_append, List.nil_append, piecesFrom_cons, next_ascii h, hc]
    rfl
  · split
    · next h1 h2 =>
      have e : 64 * (v / 64 % 32) + v % 64 = v := by omega
      rw [List.cons_append, List.cons_append, List.nil_append,
        piecesFrom_two (by omega) (by omega), e, hc]
    · split
      · next h1 h2 h3 =>
        have e : 64 * (64 * (v / 4096 % 16) + v / 64 % 64) + v % 64 = v := by omega
        rw [List.cons_append, List.cons_append, List.cons_append, List.nil_append,
          piecesFrom_three (by omega) (by omega) (by omega) (by omega) (by omega), e, hc]
      · next h1 h2 h3 =>
        have e :
            64 * (64 * (64 * (v / 262144 % 8) + v / 4096 % 64) + v / 64 % 64) + v % 64 = v := by
          omega
        rw [List.cons_append, List.cons_append, List.cons_append, List.cons_append, List.nil_append,
          piecesFrom_four (by omega) (by omega) (by omega) (by omega) (by omega) (by omega), e, hc]

/-- **The pieces of a written text are its characters.** -/
theorem pieces_encode (cs : List Char) : pieces (encode cs) = cs.map some := by
  rw [pieces]
  induction cs with
  | nil => rfl
  | cons c cs ih => rw [encode_cons, piecesFrom_encodeChar, ih, List.map_cons]

/-- What was written of a text is read as this text. -/
theorem decodeLossy_encode (cs : List Char) : decodeLossy (encode cs) = cs := by
  rw [decodeLossy, pieces_encode, List.map_map]
  exact List.map_id cs

/-- What was written of a text is read without a loss. -/
theorem decode?_encode (cs : List Char) : decode? (encode cs) = some cs := by
  rw [decode?, pieces_encode]
  induction cs with
  | nil => rfl
  | cons c cs ih => rw [List.map_cons, List.mapM_cons, ih]; rfl

/-! ### Nothing else is read -/

/-- A byte at the beginning: one that stands for itself, the first of two, three or four bytes, or
    one that begins nothing. -/
theorem lead_cases (b : UInt8) :
    (∃ v, v ≤ 0x7f ∧ b = UInt8.ofNat v)
      ∨ (∃ k, (2 ≤ k ∧ k < 32) ∧ b = UInt8.ofNat (k + 0xc0))
      ∨ (∃ k, k < 16 ∧ b = UInt8.ofNat (k + 0xe0))
      ∨ (∃ k, k < 5 ∧ b = UInt8.ofNat (k + 0xf0))
      ∨ next b none = ([none], none) := by
  have hb : b.toNat < 256 := b.toNat_lt
  have hself {k base : Nat} (h : b.toNat = k + base) : b = UInt8.ofNat (k + base) := by
    rw [← h, UInt8.ofNat_toNat]
  by_cases h1 : b.toNat < 0x80
  · exact .inl ⟨b.toNat, by omega, UInt8.ofNat_toNat.symm⟩
  by_cases h2 : b.toNat < 0xc2
  · refine .inr (.inr (.inr (.inr ?_)))
    rw [next, first, begin?, if_neg h1, if_pos h2]
  by_cases h3 : b.toNat < 0xe0
  · exact .inr (.inl ⟨b.toNat - 0xc0, by omega, hself (by omega)⟩)
  by_cases h4 : b.toNat < 0xf0
  · exact .inr (.inr (.inl ⟨b.toNat - 0xe0, by omega, hself (by omega)⟩))
  by_cases h5 : b.toNat < 0xf5
  · exact .inr (.inr (.inr (.inl ⟨b.toNat - 0xf0, by omega, hself (by omega)⟩)))
  · refine .inr (.inr (.inr (.inr ?_)))
    rw [next, first, begin?, if_neg h1, if_neg h2, if_neg h3, if_neg h4, if_neg h5]

section

variable {low high bits : Nat} {bs : List UInt8} {cs : List Char}

/-- An open sequence of which nothing is malformed goes on with a byte in its range. -/
theorem exists_trail {due : Nat} (hrange : 0x80 ≤ low ∧ high ≤ 0xbf)
    (h : piecesFrom (some { due, low, high, bits }) bs = cs.map some) :
    ∃ k bs', k < 64 ∧ (low ≤ k + 0x80 ∧ k + 0x80 ≤ high) ∧ bs = UInt8.ofNat (k + 0x80) :: bs' := by
  cases bs with
  | nil =>
    -- The sequence is cut off, and that is a malformed piece.
    cases cs <;> cases h
  | cons b bs =>
    by_cases hb : low ≤ b.toNat ∧ b.toNat ≤ high
    · have hself : b = UInt8.ofNat (b.toNat - 0x80 + 0x80) := by
        rw [Nat.sub_add_cancel (by omega), UInt8.ofNat_toNat]
      exact ⟨b.toNat - 0x80, bs, by omega, by omega, by rw [← hself]⟩
    · rw [piecesFrom_cons, next, if_neg hb] at h
      cases cs <;> cases h

/-- The last byte of a sequence completes a character. -/
theorem exists_last (hrange : 0x80 ≤ low ∧ high ≤ 0xbf)
    (h : piecesFrom (some { due := 1, low, high, bits }) bs = cs.map some) :
    ∃ k bs' cs', k < 64 ∧ bs = UInt8.ofNat (k + 0x80) :: bs'
      ∧ cs = Char.ofNat (64 * bits + k) :: cs' ∧ piecesFrom none bs' = cs'.map some := by
  obtain ⟨k, bs', hk, hr, rfl⟩ := exists_trail hrange h
  rw [piecesFrom_cons, next_last hk hr] at h
  cases cs with
  | nil => cases h
  | cons c cs =>
    obtain ⟨hc, hrest⟩ := List.cons.inj h
    exact ⟨k, bs', cs, hk, rfl, by rw [Option.some.inj hc], hrest⟩

/-- A byte before the last one leaves the sequence open. -/
theorem exists_more {due : Nat} (hrange : 0x80 ≤ low ∧ high ≤ 0xbf)
    (h : piecesFrom (some { due := due + 2, low, high, bits }) bs = cs.map some) :
    ∃ k bs', k < 64 ∧ (low ≤ k + 0x80 ∧ k + 0x80 ≤ high) ∧ bs = UInt8.ofNat (k + 0x80) :: bs'
      ∧ piecesFrom (some { due := due + 1, bits := 64 * bits + k }) bs' = cs.map some := by
  obtain ⟨k, bs', hk, hr, rfl⟩ := exists_trail hrange h
  rw [piecesFrom_cons, next_more hk hr] at h
  exact ⟨k, bs', hk, hr, rfl, h⟩

end

/-- The code of the character of a code. -/
theorem val_ofNat {n : Nat} (h : n.isValidChar) : (Char.ofNat n).val.toNat = n := by
  rw [Char.ofNat, dif_pos h]
  rfl

/-- A character of ASCII is written as one byte. -/
theorem encodeChar_ascii {v : Nat} (hv : v ≤ 0x7f) :
    String.utf8EncodeChar (Char.ofNat v) = [UInt8.ofNat v] := by
  have hval : (Char.ofNat v).val.toNat = v := val_ofNat (.inl (by omega))
  rw [String.utf8EncodeChar, hval, if_pos hv]

/-- A character below U+0800 is written as two bytes. -/
theorem encodeChar_two {k a : Nat} (hk : 2 ≤ k ∧ k < 32) (ha : a < 64) :
    String.utf8EncodeChar (Char.ofNat (64 * k + a))
      = [UInt8.ofNat (k + 0xc0), UInt8.ofNat (a + 0x80)] := by
  have hval : (Char.ofNat (64 * k + a)).val.toNat = 64 * k + a := val_ofNat (.inl (by omega))
  have hfirst : (64 * k + a) / 64 % 32 = k := by omega
  have hsecond : (64 * k + a) % 64 = a := by omega
  rw [String.utf8EncodeChar, hval]
  rw [if_neg (by omega), if_pos (by omega), hfirst, hsecond]

/-- A character of the first plane is written as three bytes. -/
theorem encodeChar_three {k a b : Nat} (hk : k < 16) (ha : a < 64) (hb : b < 64)
    (hlow : k = 0 → 32 ≤ a) (hhigh : k = 13 → a < 32) :
    String.utf8EncodeChar (Char.ofNat (64 * (64 * k + a) + b))
      = [UInt8.ofNat (k + 0xe0), UInt8.ofNat (a + 0x80), UInt8.ofNat (b + 0x80)] := by
  have hvalid : (64 * (64 * k + a) + b).isValidChar := by
    rw [Nat.isValidChar]
    omega
  have hfirst : (64 * (64 * k + a) + b) / 4096 % 16 = k := by omega
  have hsecond : (64 * (64 * k + a) + b) / 64 % 64 = a := by omega
  have hthird : (64 * (64 * k + a) + b) % 64 = b := by omega
  rw [String.utf8EncodeChar, val_ofNat hvalid]
  rw [if_neg (by omega), if_neg (by omega), if_pos (by omega), hfirst, hsecond, hthird]

/-- A character of another plane is written as four bytes. -/
theorem encodeChar_four {k a b c : Nat} (hk : k < 5) (ha : a < 64) (hb : b < 64) (hc : c < 64)
    (hlow : k = 0 → 16 ≤ a) (hhigh : k = 4 → a < 16) :
    String.utf8EncodeChar (Char.ofNat (64 * (64 * (64 * k + a) + b) + c))
      = [UInt8.ofNat (k + 0xf0), UInt8.ofNat (a + 0x80), UInt8.ofNat (b + 0x80),
        UInt8.ofNat (c + 0x80)] := by
  have hvalid : (64 * (64 * (64 * k + a) + b) + c).isValidChar := by
    rw [Nat.isValidChar]
    omega
  have hfirst : (64 * (64 * (64 * k + a) + b) + c) / 262144 % 8 = k := by omega
  have hsecond : (64 * (64 * (64 * k + a) + b) + c) / 4096 % 64 = a := by omega
  have hthird : (64 * (64 * (64 * k + a) + b) + c) / 64 % 64 = b := by omega
  have hfourth : (64 * (64 * (64 * k + a) + b) + c) % 64 = c := by omega
  rw [String.utf8EncodeChar, val_ofNat hvalid, if_neg (by omega), if_neg (by omega),
    if_neg (by omega), hfirst, hsecond, hthird, hfourth]

/-- **Bytes of which nothing is malformed begin with the bytes of a character.** -/
theorem exists_encodeChar {b : UInt8} {bs : List UInt8} {cs : List Char}
    (h : piecesFrom none (b :: bs) = cs.map some) :
    ∃ c bs' cs', b :: bs = String.utf8EncodeChar c ++ bs' ∧ cs = c :: cs'
      ∧ piecesFrom none bs' = cs'.map some := by
  rw [piecesFrom_cons] at h
  -- By what the first byte announces: none, one, two or three bytes more, or nothing.
  rcases lead_cases b with ⟨v, hv, rfl⟩ | ⟨k, hk, rfl⟩ | ⟨k, hk, rfl⟩ | ⟨k, hk, rfl⟩ | hnone
  · rw [next_ascii hv] at h
    cases cs with
    | nil => cases h
    | cons c cs =>
      obtain ⟨hc, hrest⟩ := List.cons.inj h
      refine ⟨c, bs, cs, ?_, rfl, hrest⟩
      rw [← Option.some.inj hc, encodeChar_ascii hv]
      rfl
  · rw [next_lead_two hk] at h
    obtain ⟨a, bs', cs', ha, rfl, rfl, hrest⟩ := exists_last (by omega) h
    exact ⟨_, bs', cs', by rw [encodeChar_two hk ha]; rfl, rfl, hrest⟩
  · rw [next_lead_three hk] at h
    obtain ⟨a, _, ha, hra, rfl, hone⟩ := exists_more (by split <;> split <;> omega) h
    obtain ⟨b, bs', cs', hb, rfl, rfl, hrest⟩ := exists_last (by omega) hone
    -- The range of the second byte leaves out longer forms of shorter sequences, and surrogates.
    have hlow : k = 0 → 32 ≤ a := fun hk => by
      rw [if_pos hk] at hra
      omega
    have hhigh : k = 13 → a < 32 := fun hk => by
      rw [if_pos hk] at hra
      omega
    exact ⟨_, bs', cs', by rw [encodeChar_three hk ha hb hlow hhigh]; rfl, rfl, hrest⟩
  · rw [next_lead_four hk] at h
    obtain ⟨a, _, ha, hra, rfl, htwo⟩ := exists_more (by split <;> split <;> omega) h
    obtain ⟨b, _, hb, -, rfl, hone⟩ := exists_more (by omega) htwo
    obtain ⟨c, bs', cs', hc, rfl, rfl, hrest⟩ := exists_last (by omega) hone
    -- Here it leaves out longer forms again, and what is beyond the last character.
    have hlow : k = 0 → 16 ≤ a := fun hk => by
      rw [if_pos hk] at hra
      omega
    have hhigh : k = 4 → a < 16 := fun hk => by
      rw [if_pos hk] at hra
      omega
    exact ⟨_, bs', cs', by rw [encodeChar_four hk ha hb hc hlow hhigh]; rfl, rfl, hrest⟩
  · rw [hnone] at h
    cases cs <;> cases h

/-- **Bytes whose pieces are characters are the bytes of these characters.** -/
theorem eq_encode_of_pieces {cs : List Char} {bs : List UInt8} (h : pieces bs = cs.map some) :
    bs = encode cs := by
  rw [pieces] at h
  induction cs generalizing bs with
  | nil =>
    cases bs with
    | nil => rfl
    | cons b bs =>
      obtain ⟨c, _, cs', -, hcs, -⟩ := exists_encodeChar h
      cases hcs
  | cons c cs ih =>
    cases bs with
    | nil => cases h
    | cons b bs =>
      obtain ⟨_, bs', _, happend, hcs, hrest⟩ := exists_encodeChar h
      cases hcs
      rw [happend, encode_cons, ih hrest]

/-- The pieces of bytes that are read are the characters of the text. -/
theorem eq_map_of_mapM_id {pieces : List (Option Char)} {cs : List Char}
    (h : pieces.mapM id = some cs) : pieces = cs.map some := by
  induction pieces generalizing cs with
  | nil =>
    rw [List.mapM_nil] at h
    cases h
    rfl
  | cons piece pieces ih =>
    simp only [List.mapM_cons, Option.bind_eq_bind, Option.bind_eq_some_iff, Option.pure_def,
      Option.some.injEq] at h
    obtain ⟨c, hpiece, rest, hrest, rfl⟩ := h
    rw [List.map_cons, ← ih hrest]
    exact congrArg (· :: pieces) hpiece

/-- **A text is read from its bytes, and from no others.** -/
theorem decode?_eq_some_iff {bs : List UInt8} {cs : List Char} :
    decode? bs = some cs ↔ bs = encode cs := by
  constructor
  · intro h
    exact eq_encode_of_pieces (eq_map_of_mapM_id h)
  · rintro rfl
    exact decode?_encode cs

/-! ### Bytes outside ASCII -/

end Postbox.Text.Utf8
