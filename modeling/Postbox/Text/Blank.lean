namespace Postbox.Text

/-!
# Blank characters

The characters with the Unicode property `White_Space`, and texts without the blanks at their
two ends.

* `isBlank` — the property.
* `trim` — a text without leading and trailing blanks.
-/

/-- The Unicode property `White_Space`. -/
def isBlank (c : Char) : Bool :=
  let n := c.toNat
  (0x09 ≤ n && n ≤ 0x0d) || n == 0x20 || n == 0x85 || n == 0xa0 || n == 0x1680
    || (0x2000 ≤ n && n ≤ 0x200a) || n == 0x2028 || n == 0x2029 || n == 0x202f || n == 0x205f
    || n == 0x3000

/-- The text without its leading blanks. -/
def trimLeft (cs : List Char) : List Char := cs.dropWhile isBlank

/-- The text without its trailing blanks. -/
def trimRight (cs : List Char) : List Char := (trimLeft cs.reverse).reverse

/-- The text without its leading and trailing blanks. -/
def trim (cs : List Char) : List Char := trimRight (trimLeft cs)

@[simp] theorem trimLeft_nil : trimLeft [] = [] := rfl

@[simp] theorem trim_nil : trim [] = [] := rfl

/-- Leading blanks do not count. -/
theorem trimLeft_append {u : List Char} (h : ∀ c ∈ u, isBlank c) (cs : List Char) :
    trimLeft (u ++ cs) = trimLeft cs := by
  induction u with
  | nil => rfl
  | cons c u ih =>
    have hc : isBlank c = true := h c List.mem_cons_self
    rw [List.cons_append, trimLeft, List.dropWhile_cons_of_pos hc]
    exact ih fun d hd => h d (List.mem_cons_of_mem _ hd)

end Postbox.Text
