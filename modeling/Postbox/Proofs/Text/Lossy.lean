import Postbox.Proofs.Text.Utf8

namespace Postbox.Text.Utf8

/-!
# Reading bytes that need not be UTF-8

Any bytes can be read: they are cut into the bytes of characters and, where no character begins,
into malformed pieces.  A malformed piece is as long as it can still become a character, or else one
byte, and is read as U+FFFD.  This says which text the bytes are read as without the machine that
reads them; here the two are shown to agree.

* `Begins`, `Malformed` — beginnings of characters, and malformed pieces.
* `Reads` — the text that bytes are read as.
* `Leaves`, `begins_iff` — what is open behind some bytes, and that exactly the bytes that may come
  next make a longer beginning.
* `front_cases` — what the bytes begin with is what the machine finds there.
* `decodeLossy_eq_iff` — the machine gives the text that the bytes are read as, and no other.
-/

/-- The bytes begin those of a character. -/
def Begins (w : List UInt8) : Prop := ∃ c, w <+: String.utf8EncodeChar c

/-- A malformed piece with these bytes behind it: no character begins here, and the piece is the
    longest beginning of one, or a single byte. -/
structure Malformed (piece bs : List UInt8) : Prop where
  ne_nil : piece ≠ []
  incomplete : ∀ c, ¬String.utf8EncodeChar c <+: piece ++ bs
  begins : piece.length = 1 ∨ Begins piece
  longest : ∀ b rest, bs = b :: rest → ¬Begins (piece ++ [b])

/-- The bytes are read as this text. -/
inductive Reads : List UInt8 → List Char → Prop
  | nil : Reads [] []
  | char {c : Char} {bs : List UInt8} {cs : List Char} (h : Reads bs cs) :
      Reads (String.utf8EncodeChar c ++ bs) (c :: cs)
  | malformed {piece bs : List UInt8} {cs : List Char} (hp : Malformed piece bs) (h : Reads bs cs) :
      Reads (piece ++ bs) ('\ufffd' :: cs)

/-- The beginning of a beginning is one. -/
theorem Begins.of_prefix {w w' : List UInt8} (h : Begins w') (hp : w <+: w') : Begins w := by
  obtain ⟨c, hc⟩ := h
  exact ⟨c, hp.trans hc⟩

/-- Of two malformed pieces at the same place, neither is longer. -/
theorem Malformed.length_le {piece piece' bs bs' : List UInt8} (h : Malformed piece bs)
    (h' : Malformed piece' bs') (heq : piece ++ bs = piece' ++ bs') :
    piece'.length ≤ piece.length := by
  refine Nat.le_of_not_lt fun hlt => ?_
  -- The longer one would be a beginning, and so would be the shorter one with its next byte.
  obtain ⟨more, rfl, rfl⟩ : ∃ more, piece' = piece ++ more ∧ bs = more ++ bs' := by
    rcases List.append_eq_append_iff.mp heq with ⟨more, h1, h2⟩ | ⟨more, h1, h2⟩
    · exact ⟨more, h1, h2⟩
    · rw [h1, List.length_append] at hlt
      omega
  cases more with
  | nil => simp at hlt
  | cons b more =>
    have hlen : (piece ++ b :: more).length ≠ 1 := by
      have := List.length_pos_iff.mpr h.ne_nil
      simp only [List.length_append, List.length_cons]
      omega
    have hbegins : Begins (piece ++ b :: more) := h'.begins.resolve_left hlen
    refine h.longest b (more ++ bs') rfl (hbegins.of_prefix ?_)
    exact List.prefix_append_right_inj piece |>.mpr (List.prefix_append [b] more)

/-- At one place there is one malformed piece. -/
theorem Malformed.unique {piece piece' bs bs' : List UInt8} (h : Malformed piece bs)
    (h' : Malformed piece' bs') (heq : piece ++ bs = piece' ++ bs') : piece = piece' ∧ bs = bs' :=
  List.append_inj heq (Nat.le_antisymm (h'.length_le h heq.symm) (h.length_le h' heq))

/-! ### Open sequences -/

/-- Behind these bytes, this sequence is open. -/
def Leaves (w : List UInt8) (p : Pending) : Prop :=
  ∀ bs, piecesFrom none (w ++ bs) = piecesFrom (some p) bs

/-- A sequence that can go on. -/
structure Pending.IsOpen (p : Pending) : Prop where
  due : 1 ≤ p.due
  range : p.low ≤ p.high
  high : p.high < 256

section

variable {w bs : List UInt8} {p : Pending} {b : UInt8}

/-- A byte in the range of an open sequence completes a character, or leaves it open. -/
theorem piecesFrom_of_inRange (hb : p.low ≤ b.toNat ∧ b.toNat ≤ p.high) (bs : List UInt8) :
    piecesFrom (some p) (b :: bs)
      = if p.due ≤ 1 then some (Char.ofNat (64 * p.bits + (b.toNat - 0x80))) :: piecesFrom none bs
        else piecesFrom
          (some { due := p.due - 1, bits := 64 * p.bits + (b.toNat - 0x80) }) bs := by
  rw [piecesFrom_cons, next, if_pos hb]
  dsimp only
  split <;> rfl

/-- A byte outside the range ends the sequence, and is looked at again. -/
theorem piecesFrom_of_outOfRange (hb : ¬(p.low ≤ b.toNat ∧ b.toNat ≤ p.high)) (bs : List UInt8) :
    piecesFrom (some p) (b :: bs) = none :: piecesFrom none (b :: bs) := by
  rw [piecesFrom_cons, next, if_neg hb, piecesFrom_cons]
  rfl

/-- Behind one more byte the range is an open one. -/
theorem Pending.IsOpen.next (h : p.IsOpen) (hd : ¬p.due ≤ 1) (bits : Nat) :
    Pending.IsOpen { due := p.due - 1, bits } where
  due := by
    have := h.due
    show 1 ≤ p.due - 1
    omega
  range := Nat.le_of_ble_eq_true rfl
  high := Nat.lt_of_lt_of_le (Nat.lt_succ_self 0xbf) (Nat.le_of_ble_eq_true rfl)

/-- An open sequence can be completed. -/
theorem exists_completion (h : p.IsOpen) : ∃ tail c, piecesFrom (some p) tail = [some c] := by
  -- By the number of bytes that are due, each of which may be the least in its range.
  generalize hn : p.due = n
  induction n generalizing p with
  | zero =>
    have := h.due
    omega
  | succ n ih =>
    have hlt : p.low < 256 := Nat.lt_of_le_of_lt h.range h.high
    have hb : p.low ≤ (UInt8.ofNat p.low).toNat ∧ (UInt8.ofNat p.low).toNat ≤ p.high := by
      rw [toNat_ofNat hlt]
      exact ⟨Nat.le_refl _, h.range⟩
    by_cases hd : p.due ≤ 1
    · exact ⟨[UInt8.ofNat p.low], _, (piecesFrom_of_inRange hb []).trans (if_pos hd)⟩
    · obtain ⟨tail, c, htail⟩ := ih (h.next hd _) (by show p.due - 1 = n; omega)
      exact ⟨UInt8.ofNat p.low :: tail, c, by rw [piecesFrom_of_inRange hb, if_neg hd, htail]⟩

/-- What leaves a sequence open begins a character. -/
theorem begins_of_leaves (h : Leaves w p) (hp : p.IsOpen) : Begins w := by
  obtain ⟨tail, c, htail⟩ := exists_completion hp
  have hencode : w ++ tail = encode [c] := eq_encode_of_pieces ((h tail).trans htail)
  rw [encode_cons, encode_nil, List.append_nil] at hencode
  exact ⟨c, tail, hencode⟩

/-- Where a piece is malformed, no character begins. -/
theorem not_prefix_of_malformed {pieces : List (Option Char)}
    (h : piecesFrom none bs = none :: pieces) (c : Char) : ¬String.utf8EncodeChar c <+: bs := by
  rintro ⟨rest, rfl⟩
  rw [piecesFrom_encodeChar] at h
  cases h

/-- A byte that completes a character is the last of its bytes. -/
theorem encodeChar_of_leaves (h : Leaves w p) {c : Char}
    (hb : piecesFrom (some p) [b] = [some c]) : w ++ [b] = String.utf8EncodeChar c := by
  have hencode : w ++ [b] = encode [c] := eq_encode_of_pieces ((h [b]).trans hb)
  rw [hencode, encode_cons, encode_nil, List.append_nil]

/-- One more byte of a character that is not its last leaves the next range. -/
theorem Leaves.next (h : Leaves w p) (hb : p.low ≤ b.toNat ∧ b.toNat ≤ p.high)
    (hd : ¬p.due ≤ 1) :
    Leaves (w ++ [b]) { due := p.due - 1, bits := 64 * p.bits + (b.toNat - 0x80) } := by
  intro bs
  rw [List.append_assoc, List.singleton_append, h, piecesFrom_of_inRange hb, if_neg hd]

/-- **The bytes that may come next are those that make a longer beginning.** -/
theorem begins_iff (h : Leaves w p) (hp : p.IsOpen) :
    Begins (w ++ [b]) ↔ p.low ≤ b.toNat ∧ b.toNat ≤ p.high := by
  constructor
  · rintro ⟨c, rest, hc⟩
    refine Decidable.byContradiction fun hb => ?_
    -- Otherwise the bytes of the character would have a malformed piece.
    have hpieces : piecesFrom none (w ++ [b] ++ rest)
        = none :: piecesFrom none (b :: rest) := by
      rw [List.append_assoc, List.singleton_append, h, piecesFrom_of_outOfRange hb]
    exact not_prefix_of_malformed hpieces c (hc ▸ List.prefix_refl _)
  · intro hb
    by_cases hd : p.due ≤ 1
    · have hchar := encodeChar_of_leaves h ((piecesFrom_of_inRange hb []).trans (if_pos hd))
      exact ⟨_, [], by rw [List.append_nil, hchar]⟩
    · exact begins_of_leaves (h.next hb hd) (hp.next hd _)

/-- An open sequence that cannot go on is a malformed piece. -/
theorem malformed_of_leaves (h : Leaves w p) (hp : p.IsOpen) (hne : w ≠ [])
    {pieces : List (Option Char)} (hbs : piecesFrom (some p) bs = none :: pieces)
    (hend : ∀ b rest, bs = b :: rest → ¬(p.low ≤ b.toNat ∧ b.toNat ≤ p.high)) :
    Malformed w bs where
  ne_nil := hne
  incomplete := not_prefix_of_malformed ((h bs).trans hbs)
  begins := .inr (begins_of_leaves h hp)
  longest b rest hb := by
    rw [begins_iff h hp]
    exact hend b rest hb

/-! ### What bytes begin with -/

/-- What an open sequence comes to: a character, or a malformed piece. -/
theorem open_cases (h : Leaves w p) (hp : p.IsOpen) (hne : w ≠ []) (bs : List UInt8) :
    (∃ c rest, w ++ bs = String.utf8EncodeChar c ++ rest
        ∧ piecesFrom (some p) bs = some c :: piecesFrom none rest)
      ∨ ∃ piece rest, w ++ bs = piece ++ rest ∧ Malformed piece rest
        ∧ piecesFrom (some p) bs = none :: piecesFrom none rest := by
  -- On the bytes that are left; each either goes on with the sequence or breaks it off.
  induction bs generalizing w p with
  | nil =>
    exact .inr ⟨w, [], rfl, malformed_of_leaves h hp hne rfl (fun b rest hb => by cases hb), rfl⟩
  | cons b bs ih =>
    by_cases hb : p.low ≤ b.toNat ∧ b.toNat ≤ p.high
    · rw [piecesFrom_of_inRange hb]
      by_cases hd : p.due ≤ 1
      · have hchar := encodeChar_of_leaves h ((piecesFrom_of_inRange hb []).trans (if_pos hd))
        refine .inl ⟨_, bs, ?_, if_pos hd⟩
        rw [← hchar, List.append_assoc, List.singleton_append]
      · rw [if_neg hd]
        have hmore := ih (h.next hb hd) (hp.next hd _) (by simp)
        rwa [List.append_assoc, List.singleton_append] at hmore
    · have hpieces := piecesFrom_of_outOfRange hb bs
      refine .inr ⟨w, b :: bs, rfl, malformed_of_leaves h hp hne hpieces ?_, hpieces⟩
      intro b' rest hb'
      cases hb'
      exact hb

/-- What the first byte of a longer sequence leaves open can go on. -/
theorem isOpen_of_begin? (h : begin? b = some p) (hd : p.due ≠ 0) : p.IsOpen := by
  unfold begin? at h
  dsimp only at h
  -- One case for each length of a sequence.
  split at h
  · cases h
    exact absurd rfl hd
  split at h
  · cases h
  split at h
  · cases h
    constructor <;> dsimp only <;> omega
  split at h
  · cases h
    constructor <;> dsimp only
    · omega
    · split <;> split <;> omega
    · split <;> omega
  split at h
  · cases h
    constructor <;> dsimp only
    · omega
    · split <;> split <;> omega
    · split <;> omega
  · cases h

/-- **What bytes begin with**: a character or a malformed piece, and the machine finds it. -/
theorem front_cases (hne : bs ≠ []) :
    (∃ c rest, bs = String.utf8EncodeChar c ++ rest
        ∧ piecesFrom none bs = some c :: piecesFrom none rest)
      ∨ ∃ piece rest, bs = piece ++ rest ∧ Malformed piece rest
        ∧ piecesFrom none bs = none :: piecesFrom none rest := by
  obtain ⟨b, bs, rfl⟩ := List.exists_cons_of_ne_nil hne
  cases hb : begin? b with
  | none =>
    -- A byte that begins nothing is a piece of its own.
    have hpieces (bs : List UInt8) : piecesFrom none (b :: bs) = none :: piecesFrom none bs := by
      rw [piecesFrom_cons, next, first, hb]
      rfl
    refine .inr ⟨[b], bs, rfl, ?_, hpieces bs⟩
    refine ⟨List.cons_ne_nil b [], not_prefix_of_malformed (hpieces bs), .inl rfl, ?_⟩
    rintro b' rest - ⟨c, tail, hc⟩
    exact not_prefix_of_malformed (hpieces (b' :: tail)) c (hc ▸ List.prefix_refl _)
  | some p =>
    by_cases hd : p.due = 0
    · have hpieces (bs : List UInt8) :
          piecesFrom none (b :: bs) = some (Char.ofNat p.bits) :: piecesFrom none bs := by
        rw [piecesFrom_cons, next, first, hb]
        simp only [hd, if_pos]
        rfl
      have hencode : [b] = encode [Char.ofNat p.bits] := eq_encode_of_pieces (hpieces [])
      rw [encode_cons, encode_nil, List.append_nil] at hencode
      exact .inl ⟨_, bs, by rw [← hencode]; rfl, hpieces bs⟩
    · have hleaves : Leaves [b] p := by
        intro bs
        rw [List.singleton_append, piecesFrom_cons, next, first, hb]
        simp only [hd, if_false]
        rfl
      have hcases := open_cases hleaves (isOpen_of_begin? hb hd) (List.cons_ne_nil b []) bs
      rwa [← hleaves bs, List.singleton_append] at hcases

end

/-! ### Whole texts -/

/-- A character has bytes. -/
theorem length_encodeChar_pos (c : Char) : 0 < (String.utf8EncodeChar c).length := by
  rw [String.length_utf8EncodeChar]
  exact c.utf8Size_pos

/-- Every sequence of bytes is read as the text that the machine gives. -/
theorem reads_decodeLossy (bs : List UInt8) : Reads bs (decodeLossy bs) := by
  -- On the number of bytes, since a character or a piece may take several.
  induction hn : bs.length using Nat.strongRecOn generalizing bs with
  | ind n ih =>
    by_cases hne : bs = []
    · rw [hne]
      exact .nil
    rcases front_cases hne with ⟨c, rest, rfl, hpieces⟩ | ⟨piece, rest, rfl, hp, hpieces⟩
    · have hlt : rest.length < n := by
        have := length_encodeChar_pos c
        rw [← hn, List.length_append]
        omega
      rw [decodeLossy, pieces, hpieces]
      exact .char (ih _ hlt rest rfl)
    · have hlt : rest.length < n := by
        have := List.length_pos_iff.mpr hp.ne_nil
        rw [← hn, List.length_append]
        omega
      rw [decodeLossy, pieces, hpieces]
      exact .malformed hp (ih _ hlt rest rfl)

/-- **The machine gives the text that the bytes are read as, and no other.** -/
theorem decodeLossy_eq_iff {bs : List UInt8} {cs : List Char} :
    decodeLossy bs = cs ↔ Reads bs cs := by
  constructor
  · rintro rfl
    exact reads_decodeLossy bs
  · intro h
    induction h with
    | nil => rfl
    | char h ih =>
      rw [← ih, decodeLossy, pieces, piecesFrom_encodeChar]
      rfl
    | @malformed piece bs cs hp h ih =>
      have hne : piece ++ bs ≠ [] := fun h => hp.ne_nil (List.append_eq_nil_iff.mp h).1
      rcases front_cases hne with ⟨c, rest, heq, -⟩ | ⟨piece', rest, heq, hp', hpieces⟩
      · exact absurd (heq ▸ List.prefix_append _ rest) (hp.incomplete c)
      · obtain ⟨rfl, rfl⟩ := hp.unique hp' heq
        rw [← ih, decodeLossy, pieces, hpieces]
        rfl

end Postbox.Text.Utf8
