import Postbox.Proofs.Http.HeadForm

namespace Postbox.Http

/-!
# Final heads

The head of the final answer may stand behind any number of interim ones.  The reading of it counts
these, up to a limit that the number of bytes sets.  Each head takes bytes, so the limit is never
met, and what is read is the first head that is not an interim one.

* `FinalHead` — the final head, behind any number of others.
* `finalHead_eq_done_iff` — it is what is read, with any limit beyond the number of bytes.
-/

/-- The bytes begin with this final head, behind any number of interim ones, and this is left behind
    it.  No head is too long. -/
inductive FinalHead : List UInt8 → Head → List UInt8 → Prop
  | final {w rest : List UInt8} {head : Head} (h : IsHead w head) (hl : w.length ≤ Head.sizeLimit)
      (hf : isInterim head.status = false) : FinalHead (w ++ rest) head rest
  | interim {w more rest : List UInt8} {head interim : Head} (h : IsHead w interim)
      (hl : w.length ≤ Head.sizeLimit) (hi : isInterim interim.status = true)
      (hm : FinalHead more head rest) : FinalHead (w ++ more) head rest

/-- **A limit beyond the number of bytes is never met.** -/
theorem finalHead_eq_done_iff {limit : Nat} {bs rest : List UInt8} {head : Head}
    (hl : bs.length < limit) : finalHead limit bs = .done head rest ↔ FinalHead bs head rest := by
  constructor
  · intro h
    clear hl
    induction limit generalizing bs with
    | zero => cases h
    | succ limit ih =>
      -- The first head either is the final one, or the others are behind it.
      obtain ⟨first, more, hread, hmore⟩ := Read.exists_of_andThen h
      obtain ⟨w, hw, hle, rfl⟩ := Head.read_eq_done_iff.mp hread
      split at hmore
      · next hi => exact .interim hw hle hi (ih hmore)
      · next hi =>
        cases hmore
        exact .final hw hle (Bool.eq_false_iff.mpr hi)
  · intro h
    induction h generalizing limit with
    | final h hle hf =>
      cases limit with
      | zero => exact absurd hl (Nat.not_lt_zero _)
      | succ limit =>
        unfold finalHead
        rw [Head.read_eq_done_iff.mpr ⟨_, h, hle, rfl⟩]
        exact if_neg (Bool.eq_false_iff.mp hf)
    | interim h hle hi hm ih =>
      -- The head takes bytes, so the rest stays below the limit when that is lowered by one.
      cases limit with
      | zero => exact absurd hl (Nat.not_lt_zero _)
      | succ limit =>
        have hpos := h.length_pos
        rw [List.length_append] at hl
        unfold finalHead
        rw [Head.read_eq_done_iff.mpr ⟨_, h, hle, rfl⟩]
        exact (if_pos hi).trans (ih (by omega))

/-- A final head is read with the limit that the bytes set. -/
theorem FinalHead.eq_done {bs rest : List UInt8} {head : Head} (h : FinalHead bs head rest) :
    finalHead (bs.length + 1) bs = .done head rest :=
  (finalHead_eq_done_iff (Nat.lt_succ_self bs.length)).mpr h

end Postbox.Http
