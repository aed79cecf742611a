import Mathlib.Data.List.DropRight
import Postbox.Text.Blank

namespace Postbox.Text

/-!
# Trimmed texts

What is trimmed does not begin with a blank, and it does not depend on the blanks around a text.

* `isBlank_head_trim` — the first character of a trimmed text.
* `trim_append_append` — blanks in front of a text and behind it do not count.
-/

/-- Nothing is left of blanks. -/
theorem trimLeft_eq_nil {cs : List Char} (h : ∀ c ∈ cs, isBlank c) : trimLeft cs = [] :=
  List.dropWhile_eq_nil_iff.mpr h

/-- Trailing blanks do not count. -/
theorem trimRight_append {v : List Char} (h : ∀ c ∈ v, isBlank c) (cs : List Char) :
    trimRight (cs ++ v) = trimRight cs := by
  have hreverse : ∀ c ∈ v.reverse, isBlank c := fun c hc => h c (List.mem_reverse.mp hc)
  rw [trimRight, trimRight, List.reverse_append, trimLeft_append hreverse]

/-- Taking the trailing blanks away leaves the front. -/
theorem trimRight_prefix (cs : List Char) : trimRight cs <+: cs :=
  List.rdropWhile_prefix isBlank cs

/-- **A trimmed text does not begin with a blank.** -/
theorem isBlank_head_trim {cs : List Char} {c : Char} (h : (trim cs).head? = some c) :
    isBlank c = false := by
  obtain ⟨rest, hrest⟩ := trimRight_prefix (trimLeft cs)
  have hfront : (trimLeft cs).head? = some c := by
    rw [← hrest]
    show (trim cs ++ rest).head? = some c
    rw [List.head?_append, h]
    rfl
  -- The first character that is left is the one that stopped the trimming.
  have hstop := List.head?_dropWhile_not isBlank cs
  rw [trimLeft] at hfront
  rw [hfront] at hstop
  exact hstop

/-- **Blanks around a text do not count.** -/
theorem trim_append_append {u v : List Char} (hu : ∀ c ∈ u, isBlank c) (hv : ∀ c ∈ v, isBlank c)
    (cs : List Char) : trim (u ++ cs ++ v) = trim cs := by
  have hleft : trimLeft (u ++ cs ++ v) = trimLeft (cs ++ v) := by
    rw [List.append_assoc, trimLeft_append hu]
  have hsplit : trimLeft (cs ++ v)
      = if (trimLeft cs).isEmpty then trimLeft v else trimLeft cs ++ v := List.dropWhile_append
  rw [trim, trim, hleft, hsplit]
  by_cases hcs : (trimLeft cs).isEmpty = true
  · -- There is nothing but blanks, on both sides.
    rw [if_pos hcs, trimLeft_eq_nil hv, List.isEmpty_iff.mp hcs]
  · rw [if_neg hcs, trimRight_append hv]

end Postbox.Text
