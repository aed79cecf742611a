import Postbox.Http.Framing

namespace Postbox.Http

/-!
# Complete bodies

A body is complete when its end has come: so many bytes as were announced, the last of its chunks,
or the end of the connection.  A body in chunks is a sequence of lines that announce a size, each
with so many bytes behind it, up to a size of zero and the lines of a trailer.  The reading of it
goes byte by byte through states.  Here the two are shown to agree, so nothing short of a complete
body is taken for one.

* `SizeLine`, `Trailers`, `Remarked`, `Chunked` — what a complete body in chunks looks like.
* `Chunk.Remains` — what is to come from a state on, so that the body is complete;
  `Chunk.Remains.of_next?` for one byte, `Chunk.remains_of_read` for all of them.
* `Chunk.Leads` — the way from one state to another; `Chunk.leads_of_remarked` for all of a body.
* `Chunk.read_start_iff` — what is read in chunks is a complete body, and each complete one is read.
* `Framing.Completes`, `Framing.read_eq_done_iff` — complete bodies of all kinds, and that they are
  the bodies that are read.
* `Framing.not_completes_of_cut` — a complete body is no longer complete when its end is cut off.
-/

/-! ### Chunks -/

/-- The size that hexadecimal digits come to behind others. -/
def sizeBehind? (n : Nat) (digits : List UInt8) : Option Nat :=
  digits.foldlM (fun n b => (hexDigit? b).map (16 * n + ·)) n

/-- What follows the digits of a size: blanks, remarks behind a semicolon, and the end of the
    line. -/
inductive SizeTail : List UInt8 → Prop
  | ended : SizeTail [13, 10]
  | gap {b : UInt8} {tail : List UInt8} (hb : isGap b = true) (h : SizeTail tail) :
      SizeTail (b :: tail)
  | remark {words : List UInt8} (hr : 13 ∉ words) (hf : 10 ∉ words) :
      SizeTail (59 :: (words ++ [13, 10]))

/-- The line of a size. -/
inductive SizeLine (n : Nat) : List UInt8 → Prop
  | mk {digits tail : List UInt8} (hne : digits ≠ []) (hn : sizeBehind? 0 digits = some n)
      (hmax : n < UInt64.size) (ht : SizeTail tail) : SizeLine n (digits ++ tail)

/-- The lines of a trailer, and the empty line behind them. -/
inductive Trailers : List UInt8 → Prop
  | ended : Trailers [13, 10]
  | line {words more : List UInt8} (hne : words ≠ []) (hr : 13 ∉ words) (h : Trailers more) :
      Trailers (words ++ 13 :: 10 :: more)

/-- The number of bytes between the semicolon of a line and its end. -/
def remarkLength (line : List UInt8) : Nat := (line.dropWhile (· != 59)).length - 3

/-- The bytes begin with a body in chunks; so many of them are remarks, this is the body, and this
    is left behind the last chunk. -/
inductive Remarked : Nat → List UInt8 → List UInt8 → List UInt8 → Prop
  | last {line trailers rest : List UInt8} (hl : SizeLine 0 line) (ht : Trailers trailers) :
      Remarked (remarkLength line) (line ++ (trailers ++ rest)) [] rest
  | chunk {n : Nat} {line data more body rest : List UInt8} (hl : SizeLine data.length line)
      (hne : data ≠ []) (h : Remarked n more body rest) :
      Remarked (remarkLength line + n) (line ++ (data ++ 13 :: 10 :: more)) (data ++ body) rest

/-- The same with any number of remarks. -/
def Chunked (bs body rest : List UInt8) : Prop := ∃ n, Remarked n bs body rest

/-- A chunk of no size is the last one. -/
theorem Chunked.last {line trailers rest : List UInt8} (hl : SizeLine 0 line)
    (ht : Trailers trailers) : Chunked (line ++ (trailers ++ rest)) [] rest :=
  ⟨_, .last hl ht⟩

/-- Any other chunk stands before the next one. -/
theorem Chunked.chunk {line data more body rest : List UInt8} (hl : SizeLine data.length line)
    (hne : data ≠ []) (h : Chunked more body rest) :
    Chunked (line ++ (data ++ 13 :: 10 :: more)) (data ++ body) rest := by
  obtain ⟨n, h⟩ := h
  exact ⟨_, .chunk hl hne h⟩

/-- Whatever comes behind a complete body is left. -/
theorem Chunked.append {bs body rest : List UInt8} (h : Chunked bs body rest) (more : List UInt8) :
    Chunked (bs ++ more) body (rest ++ more) := by
  obtain ⟨n, h⟩ := h
  induction h with
  | last hl ht =>
    simp only [List.append_assoc]
    exact .last hl ht
  | chunk hl hne h ih =>
    simp only [List.append_assoc, List.cons_append]
    exact .chunk hl hne ih

/-! ### What is to come -/

/-- What is to come before so many bytes of a chunk. -/
def InData (n : Nat) (bs body rest : List UInt8) : Prop :=
  ∃ data more others, data.length = n ∧ Chunked more others rest ∧ bs = data ++ 13 :: 10 :: more
    ∧ body = data ++ others

/-- What is to come behind the line of a size. -/
def BehindSize (n : Nat) (bs body rest : List UInt8) : Prop :=
  (n = 0 ∧ body = [] ∧ ∃ trailers, Trailers trailers ∧ bs = trailers ++ rest)
    ∨ (0 < n ∧ InData n bs body rest)

namespace Chunk

/-- What is to come where the reading stands: the bytes begin with the rest of the chunks, this is
    what they add to the body, and this is left behind them. -/
def Remains : Chunk → List UInt8 → List UInt8 → List UInt8 → Prop
  | start, bs, content, rest => Chunked bs content rest
  | size n, bs, content, rest =>
    n < UInt64.size → ∃ digits tail more k, sizeBehind? n digits = some k ∧ k < UInt64.size
      ∧ SizeTail tail ∧ BehindSize k more content rest ∧ bs = digits ++ (tail ++ more)
  | blank n, bs, content, rest =>
    ∃ tail more, SizeTail tail ∧ BehindSize n more content rest ∧ bs = tail ++ more
  | remark n, bs, content, rest =>
    ∃ words more, 13 ∉ words ∧ 10 ∉ words ∧ BehindSize n more content rest
      ∧ bs = words ++ 13 :: 10 :: more
  | sizeEnd n, bs, content, rest => ∃ more, BehindSize n more content rest ∧ bs = 10 :: more
  | body n, bs, content, rest => 0 < n → InData n bs content rest
  | chunkEnd, bs, content, rest => ∃ more, Chunked more content rest ∧ bs = 13 :: 10 :: more
  | chunkFeed, bs, content, rest => ∃ more, Chunked more content rest ∧ bs = 10 :: more
  | trailer, bs, content, rest => content = [] ∧ ∃ lines, Trailers lines ∧ bs = lines ++ rest
  | inTrailer, bs, content, rest =>
    content = [] ∧ ∃ words lines, 13 ∉ words ∧ Trailers lines
      ∧ bs = words ++ 13 :: 10 :: (lines ++ rest)
  | trailerFeed, bs, content, rest =>
    content = [] ∧ ∃ lines, Trailers lines ∧ bs = 10 :: (lines ++ rest)
  | lastFeed, bs, content, rest => content = [] ∧ bs = 10 :: rest
  | finished, bs, content, rest => content = [] ∧ bs = rest

theorem hexDigit?_lt {b : UInt8} {d : Nat} (h : hexDigit? b = some d) : d < 16 := by
  unfold hexDigit? Text.hexValue? at h
  dsimp only at h
  split at h
  · cases h
    omega
  · split at h
    · cases h
      omega
    · split at h
      · cases h
        omega
      · cases h

section

variable {n : Nat} {b : UInt8} {c : Chunk} {isBody : Bool} {bs content rest : List UInt8}

/-- One digit more in front makes a size from the digits behind it. -/
theorem sizeBehind?_cons {digits : List UInt8} {d : Nat} (h : hexDigit? b = some d) :
    sizeBehind? n (b :: digits) = sizeBehind? (16 * n + d) digits := by
  unfold sizeBehind?
  rw [List.foldlM_cons, h]
  rfl

/-- The digits of a size begin with one. -/
theorem exists_of_sizeBehind?_cons {digits : List UInt8} {k : Nat}
    (h : sizeBehind? n (b :: digits) = some k) :
    ∃ d, hexDigit? b = some d ∧ sizeBehind? (16 * n + d) digits = some k := by
  cases hd : hexDigit? b with
  | none =>
    unfold sizeBehind? at h
    rw [List.foldlM_cons, hd] at h
    cases h
  | some d =>
    rw [sizeBehind?_cons hd] at h
    exact ⟨d, rfl, h⟩

/-- What takes one certain byte only takes this one. -/
theorem next?_fixed {x : UInt8} {next : Chunk}
    (h : (if b = x then some (next, false) else none) = some (c, isBody)) :
    b = x ∧ c = next ∧ isBody = false := by
  split at h
  · next hb =>
    cases h
    exact ⟨hb, rfl, rfl⟩
  · cases h

/-- Behind the line of a size, the chunks go on with this chunk. -/
theorem chunked_of_behindSize {line : List UInt8} (hl : SizeLine n line)
    (h : BehindSize n bs content rest) :
    Chunked (line ++ bs) content rest := by
  rcases h with ⟨rfl, rfl, trailers, ht, rfl⟩ | ⟨hn, data, more, others, rfl, hmore, rfl, rfl⟩
  · exact .last hl ht
  · exact .chunk hl (List.ne_nil_of_length_pos hn) hmore

/-! One lemma for each state that has more than one way on: what one byte leads to, with this byte
in front, was to come. -/

/-- A byte behind the digits of a size is the first of the rest of its line. -/
theorem remains_of_behindSize (h : next?.behindSize b n = some (c, isBody))
    (hr : c.Remains bs content rest) :
    isBody = false ∧ ∃ tail more, SizeTail tail ∧ BehindSize n more content rest
      ∧ b :: bs = tail ++ more := by
  -- A blank, the semicolon of a remark, or the end of the line.
  unfold next?.behindSize at h
  split at h
  · next hb =>
    cases h
    obtain ⟨tail, more, ht, hmore, rfl⟩ := hr
    exact ⟨rfl, b :: tail, more, .gap hb ht, hmore, rfl⟩
  · split at h
    · next hb =>
      cases h
      obtain ⟨words, more, hwr, hwf, hmore, rfl⟩ := hr
      refine ⟨rfl, _, more, .remark hwr hwf, hmore, ?_⟩
      simp [hb]
    · split at h
      · next hb =>
        cases h
        obtain ⟨more, hmore, rfl⟩ := hr
        refine ⟨rfl, _, more, .ended, hmore, ?_⟩
        simp [hb]
      · cases h

/-- Before a size: the byte is its first digit. -/
theorem remains_start (h : start.next? b = some (c, isBody)) (hr : c.Remains bs content rest) :
    isBody = false ∧ Chunked (b :: bs) content rest := by
  obtain ⟨d, hd, hc⟩ := Option.map_eq_some_iff.mp h
  cases hc
  have hlt : d < UInt64.size := Nat.lt_trans (hexDigit?_lt hd) (by decide)
  obtain ⟨digits, tail, more, k, hk, hmax, ht, hmore, rfl⟩ := hr hlt
  have hk' : sizeBehind? 0 (b :: digits) = some k := by
    rw [sizeBehind?_cons hd, Nat.mul_zero, Nat.zero_add, hk]
  have hline : SizeLine k ((b :: digits) ++ tail) := .mk (List.cons_ne_nil b digits) hk' hmax ht
  have hchunked : Chunked (((b :: digits) ++ tail) ++ more) content rest :=
    chunked_of_behindSize hline hmore
  rw [List.append_assoc] at hchunked
  exact ⟨rfl, hchunked⟩

/-- Within a size: the byte is one more digit, or begins the rest of the line. -/
theorem remains_size (h : (size n).next? b = some (c, isBody)) (hr : c.Remains bs content rest) :
    isBody = false ∧ (size n).Remains (b :: bs) content rest := by
  unfold next? at h
  dsimp only at h
  split at h
  · next d hd =>
    split at h
    · next hlt =>
      cases h
      obtain ⟨digits, tail, more, k, hk, hmax, ht, hmore, rfl⟩ := hr hlt
      exact ⟨rfl, fun _ => ⟨b :: digits, tail, more, k, (sizeBehind?_cons hd).trans hk, hmax, ht,
        hmore, rfl⟩⟩
    · cases h
  · obtain ⟨hbody, tail, more, ht, hmore, heq⟩ := remains_of_behindSize h hr
    exact ⟨hbody, fun hn => ⟨[], tail, more, n, rfl, hn, ht, hmore, heq⟩⟩

/-- Within remarks: the byte ends them, or is one of theirs. -/
theorem remains_remark (h : (remark n).next? b = some (c, isBody))
    (hr : c.Remains bs content rest) :
    isBody = false ∧ (remark n).Remains (b :: bs) content rest := by
  unfold next? at h
  dsimp only at h
  split at h
  · next hb =>
    cases h
    obtain ⟨more, hmore, rfl⟩ := hr
    exact ⟨rfl, [], more, List.not_mem_nil, List.not_mem_nil, hmore, by rw [hb]; rfl⟩
  · next hb =>
    split at h
    · cases h
    · next hb' =>
      cases h
      obtain ⟨words, more, hwr, hwf, hmore, rfl⟩ := hr
      exact ⟨rfl, b :: words, more, List.not_mem_cons_of_ne_of_not_mem (Ne.symm hb) hwr,
        List.not_mem_cons_of_ne_of_not_mem (Ne.symm hb') hwf, hmore, rfl⟩

/-- Before the last byte of the line of a size: a chunk follows it, or the trailer. -/
theorem remains_sizeEnd (h : (sizeEnd n).next? b = some (c, isBody))
    (hr : c.Remains bs content rest) :
    isBody = false ∧ (sizeEnd n).Remains (b :: bs) content rest := by
  unfold next? at h
  dsimp only at h
  split at h
  · cases h
  · next hb =>
    cases h
    have hb : b = 10 := Decidable.not_not.mp hb
    refine ⟨rfl, bs, ?_, by rw [hb]⟩
    by_cases hn : n = 0
    · rw [if_pos hn] at hr
      exact .inl ⟨hn, hr⟩
    · rw [if_neg hn] at hr
      exact .inr ⟨Nat.pos_of_ne_zero hn, hr (Nat.pos_of_ne_zero hn)⟩

/-- Within a chunk: the byte belongs to the body. -/
theorem remains_body (h : (body n).next? b = some (c, isBody)) (hr : c.Remains bs content rest) :
    isBody = true ∧ (body n).Remains (b :: bs) (b :: content) rest := by
  cases h
  refine ⟨rfl, fun hn => ?_⟩
  by_cases h1 : n ≤ 1
  · rw [if_pos h1] at hr
    obtain ⟨more, hmore, rfl⟩ := hr
    exact ⟨[b], more, content, by simp only [List.length_singleton]; omega, hmore, rfl, rfl⟩
  · rw [if_neg h1] at hr
    obtain ⟨data, more, others, hlen, hmore, rfl, rfl⟩ := hr (by omega)
    exact ⟨b :: data, more, others, by rw [List.length_cons]; omega, hmore, rfl, rfl⟩

/-- Before a line of the trailer: the byte begins the last one, or one that has words. -/
theorem remains_trailer (h : trailer.next? b = some (c, isBody)) (hr : c.Remains bs content rest) :
    isBody = false ∧ trailer.Remains (b :: bs) content rest := by
  unfold next? at h
  dsimp only at h
  split at h
  · next hb =>
    cases h
    obtain ⟨rfl, rfl⟩ := hr
    exact ⟨rfl, rfl, _, .ended, by rw [hb]; rfl⟩
  · next hb =>
    cases h
    obtain ⟨rfl, words, lines, hwr, hl, rfl⟩ := hr
    have hline : Trailers ((b :: words) ++ 13 :: 10 :: lines) :=
      .line (List.cons_ne_nil b words) (List.not_mem_cons_of_ne_of_not_mem (Ne.symm hb) hwr) hl
    exact ⟨rfl, rfl, _, hline, by simp⟩

/-- Within a line of the trailer: the byte ends it, or is one of its words. -/
theorem remains_inTrailer (h : inTrailer.next? b = some (c, isBody))
    (hr : c.Remains bs content rest) :
    isBody = false ∧ inTrailer.Remains (b :: bs) content rest := by
  unfold next? at h
  dsimp only at h
  split at h
  · next hb =>
    cases h
    obtain ⟨rfl, lines, hl, rfl⟩ := hr
    exact ⟨rfl, rfl, [], lines, List.not_mem_nil, hl, by rw [hb]; rfl⟩
  · next hb =>
    cases h
    obtain ⟨rfl, words, lines, hwr, hl, rfl⟩ := hr
    exact ⟨rfl, rfl, b :: words, lines, List.not_mem_cons_of_ne_of_not_mem (Ne.symm hb) hwr, hl,
      rfl⟩

/-- **One byte is the first of what was to come.** -/
theorem Remains.of_next? {before : Chunk} (h : before.next? b = some (c, isBody))
    (hr : c.Remains bs content rest) :
    before.Remains (b :: bs) (if isBody then b :: content else content) rest := by
  cases before with
  | start =>
    obtain ⟨rfl, hchunked⟩ := remains_start h hr
    exact hchunked
  | size n =>
    obtain ⟨rfl, hsize⟩ := remains_size h hr
    exact hsize
  | blank n =>
    obtain ⟨rfl, htail⟩ := remains_of_behindSize h hr
    exact htail
  | remark n =>
    obtain ⟨rfl, hremark⟩ := remains_remark h hr
    exact hremark
  | sizeEnd n =>
    obtain ⟨rfl, hend⟩ := remains_sizeEnd h hr
    exact hend
  | body n =>
    obtain ⟨rfl, hbody⟩ := remains_body h hr
    exact hbody
  | chunkEnd =>
    obtain ⟨rfl, rfl, rfl⟩ := next?_fixed h
    obtain ⟨more, hmore, rfl⟩ := hr
    exact ⟨more, hmore, rfl⟩
  | chunkFeed =>
    obtain ⟨rfl, rfl, rfl⟩ := next?_fixed h
    exact ⟨bs, hr, rfl⟩
  | trailer =>
    obtain ⟨rfl, htrailer⟩ := remains_trailer h hr
    exact htrailer
  | inTrailer =>
    obtain ⟨rfl, htrailer⟩ := remains_inTrailer h hr
    exact htrailer
  | trailerFeed =>
    obtain ⟨rfl, rfl, rfl⟩ := next?_fixed h
    obtain ⟨rfl, lines, hl, rfl⟩ := hr
    exact ⟨rfl, lines, hl, rfl⟩
  | lastFeed =>
    obtain ⟨rfl, rfl, rfl⟩ := next?_fixed h
    obtain ⟨rfl, rfl⟩ := hr
    exact ⟨rfl, rfl⟩
  | finished => cases h

/-- **What is read from a state on is what was to come.** -/
theorem remains_of_read (h : c.read bs = .done content rest) : c.Remains bs content rest := by
  -- On the bytes; what one byte leads to is `Remains.of_next?`.
  induction bs generalizing c content with
  | nil =>
    unfold read at h
    split at h
    · next hc =>
      cases h
      rw [hc]
      exact ⟨rfl, rfl⟩
    · cases h
  | cons b bs ih =>
    unfold read at h
    split at h
    · next hc =>
      cases h
      rw [hc]
      exact ⟨rfl, rfl⟩
    · split at h
      · cases h
      · next c' isBody hnext =>
        cases hread : c'.read bs with
        | short =>
          rw [hread] at h
          cases h
        | bad =>
          rw [hread] at h
          cases h
        | done others rest' =>
          rw [hread] at h
          cases h
          exact (ih hread).of_next? hnext

end

/-! ### From one state to another -/

/-- These bytes lead from one state to another; these of them belong to the body, and so many are
    remarks. -/
inductive Leads : Chunk → List UInt8 → List UInt8 → Nat → Chunk → Prop
  | here (c : Chunk) : Leads c [] [] 0 c
  | step {c next last : Chunk} {b : UInt8} {isBody : Bool} {w data : List UInt8} {n : Nat}
      (hb : c.next? b = some (next, isBody)) (h : Leads next w data n last) :
      Leads c (b :: w) (if isBody then b :: data else data)
        ((if c.isRemark && next.isRemark then 1 else 0) + n) last

namespace Leads

variable {c c' next last : Chunk} {b : UInt8} {w w' data data' bs content rest : List UInt8}
  {n n' : Nat}

/-- A byte that is neither of the body nor of remarks is left out. -/
theorem skip (hb : c.next? b = some (next, false)) (hc : (c.isRemark && next.isRemark) = false)
    (h : Leads next w data n last) : Leads c (b :: w) data n last := by
  have hstep := step hb h
  rwa [hc, if_neg Bool.false_ne_true, if_neg Bool.false_ne_true, Nat.zero_add] at hstep

/-- A byte of the body is in front of the others. -/
theorem take (hb : c.next? b = some (next, true)) (hc : c.isRemark = false)
    (h : Leads next w data n last) : Leads c (b :: w) (b :: data) n last := by
  have hstep := step hb h
  rwa [hc, Bool.false_and, if_pos rfl, if_neg Bool.false_ne_true, Nat.zero_add] at hstep

/-- A byte between remarks is one more of them. -/
theorem remark {k : Nat} (hb : (Chunk.remark k).next? b = some (.remark k, false))
    (h : Leads (.remark k) w data n last) : Leads (.remark k) (b :: w) data (n + 1) last := by
  have hstep := step hb h
  have hcounts : ((Chunk.remark k).isRemark && (Chunk.remark k).isRemark) = true := rfl
  rwa [if_neg Bool.false_ne_true, if_pos hcounts, Nat.add_comm] at hstep

/-- Two states from which the first byte leads on alike lead to the same. -/
theorem congr (h : Leads c (b :: w) data n last) (hnext : c'.next? b = c.next? b)
    (hr : c'.isRemark = c.isRemark) : Leads c' (b :: w) data n last := by
  cases h with
  | step hb h =>
    rw [← hr]
    exact step (hnext.trans hb) h

/-- One way leads on where another one ends. -/
theorem append (h : Leads c w data n next) (h' : Leads next w' data' n' last) :
    Leads c (w ++ w') (data ++ data') (n + n') last := by
  induction h with
  | here c => rwa [Nat.zero_add]
  | @step c next last b isBody w data n hb h ih =>
    have hstep := step hb (ih h')
    rw [← Nat.add_assoc] at hstep
    cases isBody <;> exact hstep

/-- What is read at the end of a way is read from its beginning, behind what is of the body. -/
theorem read (h : Leads c w data n last) (hr : last.read bs = .done content rest) :
    c.read (w ++ bs) = .done (data ++ content) rest := by
  induction h with
  | here => exact hr
  | @step c next last b isBody w data n hb h ih =>
    have hc : c ≠ finished := by
      rintro rfl
      cases hb
    show (if c = finished then _ else _) = _
    rw [if_neg hc, hb]
    show (next.read (w ++ bs)).andThen _ = _
    rw [ih hr]
    cases isBody <;> rfl

/-- The remarks of a way and those behind it are counted. -/
theorem remarks (h : Leads c w data n last) : c.remarks (w ++ bs) = n + last.remarks bs := by
  induction h with
  | here c => exact (Nat.zero_add _).symm
  | @step c next last b isBody w data n hb h ih =>
    rw [List.cons_append, Chunk.remarks, hb]
    show _ + next.remarks (w ++ bs) = _
    rw [ih, Nat.add_assoc]

end Leads

/-! ### Complete chunks are read -/

section

variable {n k : Nat} {b : UInt8} {c : Chunk} {bs content rest : List UInt8}

/-- Where the reading stands behind the line of a size. -/
def behind (n : Nat) : Chunk := if n = 0 then trailer else body n

/-- Where a line may end, its end leads behind it. -/
theorem leads_lineEnd (hc : c.next? 13 = some (sizeEnd n, false)) :
    Leads c [13, 10] [] 0 (behind n) :=
  .skip hc (Bool.and_false _) (.skip rfl rfl (.here _))

/-- Within remarks, every other byte is one more of theirs. -/
theorem next?_remark (h13 : b ≠ 13) (h10 : b ≠ 10) :
    (remark n).next? b = some (remark n, false) := by
  show (if b = 13 then _ else if b = 10 then _ else _) = _
  rw [if_neg h13, if_neg h10]

/-- Remarks lead to the end of their line, and all of them count. -/
theorem leads_remark {words : List UInt8} (hr : 13 ∉ words) (hf : 10 ∉ words) :
    Leads (remark n) (words ++ [13, 10]) [] words.length (behind n) := by
  induction words with
  | nil => exact leads_lineEnd rfl
  | cons b words ih =>
    have hnext := next?_remark (n := n) (List.ne_of_not_mem_cons hr).symm
      (List.ne_of_not_mem_cons hf).symm
    exact (ih (List.not_mem_of_not_mem_cons hr) (List.not_mem_of_not_mem_cons hf)).remark hnext

/-- No remark begins with this byte. -/
theorem remarkLength_cons (hb : b ≠ 59) (line : List UInt8) :
    remarkLength (b :: line) = remarkLength line := by
  rw [remarkLength, List.dropWhile_cons_of_pos (by simpa using hb)]
  rfl

/-- What follows the digits of a size leads to the end of the line, and holds its remarks. -/
theorem leads_blank {tail : List UInt8} (ht : SizeTail tail) :
    Leads (blank n) tail [] (remarkLength tail) (behind n) := by
  induction ht with
  | ended => exact leads_lineEnd rfl
  | @gap b tail hb ht ih =>
    have hsemicolon : b ≠ 59 := by
      rintro rfl
      exact absurd hb (by decide)
    rw [remarkLength_cons hsemicolon]
    exact ih.skip (if_pos hb) rfl
  | @remark words hr hf =>
    have hlength : remarkLength (59 :: (words ++ [13, 10])) = words.length := by
      simp [remarkLength]
    rw [hlength]
    exact (leads_remark hr hf).skip rfl rfl

/-- The rest of the line of a size begins with no digit. -/
theorem hexDigit?_of_sizeTail {tail : List UInt8} (ht : SizeTail (b :: tail)) :
    hexDigit? b = none := by
  cases ht with
  | ended => rfl
  | gap hb =>
    have hb : b = 32 ∨ b = 9 := by simpa [isGap] using hb
    rcases hb with rfl | rfl <;> rfl
  | remark => rfl

/-- Behind the digits of a size, the rest of its line begins as behind a blank. -/
theorem next?_size {tail : List UInt8} (ht : SizeTail (b :: tail)) :
    (size n).next? b = (blank n).next? b := by
  unfold next?
  rw [hexDigit?_of_sizeTail ht]

/-- Behind the digits of a size, the rest of its line leads on as behind a blank. -/
theorem leads_sizeTail {tail : List UInt8} (ht : SizeTail tail) :
    Leads (size n) tail [] (remarkLength tail) (behind n) := by
  cases tail with
  | nil => cases ht
  | cons b tail => exact (leads_blank ht).congr (next?_size ht) rfl

/-- Digits only add to a size. -/
theorem le_of_sizeBehind? {digits : List UInt8} (h : sizeBehind? n digits = some k) : n ≤ k := by
  induction digits generalizing n with
  | nil =>
    cases h
    exact Nat.le_refl _
  | cons b digits ih =>
    obtain ⟨d, -, h⟩ := exists_of_sizeBehind?_cons h
    have hle := ih h
    omega

/-- A digit is no semicolon. -/
theorem ne_of_hexDigit? {d : Nat} (h : hexDigit? b = some d) : b ≠ 59 := by
  rintro rfl
  cases h

/-- Digits lead to the size that they come to, and hold no remark. -/
theorem leads_digits {digits tail : List UInt8} (h : sizeBehind? n digits = some k)
    (hk : k < UInt64.size) (ht : SizeTail tail) :
    Leads (size n) (digits ++ tail) [] (remarkLength (digits ++ tail)) (behind k) := by
  induction digits generalizing n with
  | nil =>
    cases h
    exact leads_sizeTail ht
  | cons b digits ih =>
    obtain ⟨d, hd, h⟩ := exists_of_sizeBehind?_cons h
    -- The size so far is no greater than the whole, so the bound is not met on the way.
    have hlt : 16 * n + d < UInt64.size := Nat.lt_of_le_of_lt (le_of_sizeBehind? h) hk
    have hnext : (size n).next? b = some (size (16 * n + d), false) := by
      unfold next?
      simp only [hd]
      exact if_pos hlt
    rw [List.cons_append, remarkLength_cons (ne_of_hexDigit? hd)]
    exact (ih h).skip hnext rfl

/-- The line of a size leads behind it, and holds its own remarks. -/
theorem leads_sizeLine {line : List UInt8} (h : SizeLine n line) :
    Leads start line [] (remarkLength line) (behind n) := by
  cases h with
  | @mk digits tail hne hn hmax ht =>
    obtain ⟨b, digits, rfl⟩ := List.exists_cons_of_ne_nil hne
    obtain ⟨d, hd, hn⟩ := exists_of_sizeBehind?_cons hn
    rw [Nat.mul_zero, Nat.zero_add] at hn
    have hnext : start.next? b = some (size d, false) := by
      show (hexDigit? b).map _ = _
      rw [hd]
      rfl
    rw [List.cons_append, remarkLength_cons (ne_of_hexDigit? hd)]
    exact (leads_digits hn hmax ht).skip hnext rfl

/-- A byte of a chunk that is not the last one leaves the others. -/
theorem next?_body {data : List UInt8} (hne : data ≠ []) :
    (body (b :: data).length).next? b = some (body data.length, true) := by
  have hlen : ¬(b :: data).length ≤ 1 := by
    have := List.length_pos_iff.mpr hne
    rw [List.length_cons]
    omega
  show some (if (b :: data).length ≤ 1 then _ else _, true) = _
  rw [if_neg hlen]
  rfl

/-- The bytes of a chunk are those of the body. -/
theorem leads_data {data : List UInt8} (hne : data ≠ []) :
    Leads (body data.length) data data 0 chunkEnd := by
  induction data with
  | nil => exact absurd rfl hne
  | cons b data ih =>
    by_cases hd : data = []
    · rw [hd]
      exact .take rfl rfl (.here chunkEnd)
    · exact (ih hd).take (next?_body hd) rfl

/-- The words of a line of the trailer lead to its end. -/
theorem leads_inTrailer {words : List UInt8} (hr : 13 ∉ words) :
    Leads inTrailer (words ++ [13, 10]) [] 0 trailer := by
  induction words with
  | nil => exact .skip rfl rfl (.skip rfl rfl (.here trailer))
  | cons b words ih =>
    have hnext : inTrailer.next? b = some (inTrailer, false) :=
      if_neg (List.ne_of_not_mem_cons hr).symm
    exact (ih (List.not_mem_of_not_mem_cons hr)).skip hnext rfl

/-- A trailer leads behind everything, and holds no remark. -/
theorem leads_trailers {lines : List UInt8} (h : Trailers lines) :
    Leads trailer lines [] 0 finished := by
  induction h with
  | ended => exact .skip rfl rfl (.skip rfl rfl (.here finished))
  | @line words more hne hr h ih =>
    obtain ⟨b, words, rfl⟩ := List.exists_cons_of_ne_nil hne
    have hnext : trailer.next? b = some (inTrailer, false) :=
      if_neg (List.ne_of_not_mem_cons hr).symm
    have hline := (leads_inTrailer (List.not_mem_of_not_mem_cons hr)).append ih
    rw [List.append_assoc] at hline
    exact hline.skip hnext rfl

/-- **A complete body in chunks leads behind everything**, with the remarks of its lines. -/
theorem leads_of_remarked (h : Remarked n bs content rest) :
    ∃ w, bs = w ++ rest ∧ Leads start w content n finished := by
  induction h with
  | @last line trailers rest hl ht =>
    refine ⟨line ++ trailers, (List.append_assoc ..).symm, ?_⟩
    exact (leads_sizeLine hl).append (leads_trailers ht)
  | @chunk n line data more content rest hl hne h ih =>
    obtain ⟨w, rfl, hw⟩ := ih
    have hbehind : behind data.length = body data.length :=
      if_neg fun h => hne (List.eq_nil_of_length_eq_zero h)
    have hline := leads_sizeLine hl
    rw [hbehind] at hline
    -- The size is that of the data, so the end of the data is where the next line is due.
    have hend : Leads chunkEnd (13 :: 10 :: w) content n finished :=
      .skip rfl rfl (.skip rfl rfl hw)
    have hdata := (leads_data hne).append hend
    rw [Nat.zero_add] at hdata
    exact ⟨line ++ (data ++ 13 :: 10 :: w), by simp, hline.append hdata⟩

/-- Behind everything, nothing more is read. -/
theorem read_finished (bs : List UInt8) : finished.read bs = .done [] bs := by
  cases bs <;> rfl

/-- Behind everything, no remark is counted. -/
theorem remarks_finished (bs : List UInt8) : finished.remarks bs = 0 := by
  cases bs <;> rfl

/-- **A complete body in chunks is read.** -/
theorem read_of_chunked (h : Chunked bs content rest) : start.read bs = .done content rest := by
  obtain ⟨n, h⟩ := h
  obtain ⟨w, rfl, hw⟩ := leads_of_remarked h
  rw [hw.read (read_finished rest), List.append_nil]

/-- **The remarks that are counted are those of the lines.** -/
theorem remarks_of_remarked (h : Remarked n bs content rest) : start.remarks bs = n := by
  obtain ⟨w, rfl, hw⟩ := leads_of_remarked h
  rw [hw.remarks, remarks_finished, Nat.add_zero]

/-- **A body in chunks is read exactly if it is complete.** -/
theorem read_start_iff : start.read bs = .done content rest ↔ Chunked bs content rest :=
  ⟨remains_of_read, read_of_chunked⟩

end

end Chunk

/-! ### Bodies of all kinds -/

/-- The bytes behind a head, which end like this, begin with this body, it is complete, and this is
    left behind it.  Chunks may not have too many remarks. -/
inductive Framing.Completes (ending : Ending) (bs : List UInt8) :
    Framing → List UInt8 → List UInt8 → Prop
  | length {body rest : List UInt8} (h : bs = body ++ rest) :
      Completes ending bs (.length body.length) body rest
  | chunked {n : Nat} {body rest : List UInt8} (h : Remarked n bs body rest)
      (hn : n < remarkLimit) : Completes ending bs .chunked body rest
  | untilClosed (h : ending = .closed) : Completes ending bs .untilClosed bs []

namespace Framing

variable {framing : Framing} {ending : Ending} {bs body rest : List UInt8}

/-- **A body is read exactly if it is complete.** -/
theorem read_eq_done_iff :
    framing.read ending bs = .done body rest ↔ framing.Completes ending bs body rest := by
  constructor
  · intro h
    cases framing with
    | length n =>
      obtain ⟨rfl, hbs⟩ := length_of_read h
      exact .length hbs.symm
    | chunked =>
      unfold read at h
      dsimp only at h
      split at h
      · next hlt =>
        obtain ⟨n, hn⟩ := Chunk.read_start_iff.mp h
        rw [Chunk.remarks_of_remarked hn] at hlt
        exact .chunked hn hlt
      · cases h
    | untilClosed =>
      unfold read at h
      dsimp only at h
      split at h
      · next hc =>
        cases h
        exact .untilClosed hc
      · cases h
  · intro h
    cases h with
    | length h =>
      unfold read
      simp [h]
    | chunked h hn =>
      unfold read
      dsimp only
      rw [Chunk.remarks_of_remarked h, if_pos hn]
      exact Chunk.read_start_iff.mpr ⟨_, h⟩
    | untilClosed h => exact if_pos h

/-- **A complete body is no longer complete when its end is cut off**, unless nothing announces its
    end. -/
theorem not_completes_of_cut {more others rest' : List UInt8} {ending' : Ending}
    (hf : framing ≠ .untilClosed) (h : framing.Completes ending (bs ++ more) body [])
    (hm : more ≠ []) : ¬framing.Completes ending' bs others rest' := by
  intro hcut
  apply hm
  cases h with
  | length h =>
    generalize hn : body.length = n at hcut
    cases hcut with
    | length hbs =>
      have hlen := congrArg List.length h
      rw [hbs] at hlen
      simp only [List.length_append, List.length_nil] at hlen
      exact List.eq_nil_of_length_eq_zero (by omega)
  | chunked h =>
    cases hcut with
    | chunked hbs =>
      -- Both are read from the same bytes, so the same is left behind them.
      have hread := Chunk.read_start_iff.mpr (Chunked.append ⟨_, hbs⟩ more)
      rw [Chunk.read_start_iff.mpr ⟨_, h⟩] at hread
      injection hread with _ hrest
      exact (List.append_eq_nil_iff.mp hrest.symm).2
  | untilClosed => exact absurd rfl hf

end Framing

end Postbox.Http
