namespace Postbox.Text

/-!
# Pieces of a text

Texts joined by a separating character, and texts taken apart at one.

* `join` — pieces with a separator between neighbours.
* `split` — the pieces between the occurrences of a separator, at least one.
* `cut?` — the parts before and after the first occurrence of a separator.
* `split_join` — joining is undone by splitting when no piece holds the separator.
* `join_split` — splitting is undone by joining.
* `eq_append_of_cut?` — the two parts with the separator between them are the text.
-/

/-- The pieces with `separator` between neighbours. -/
def join (separator : Char) : List (List Char) → List Char
  | [] => []
  | [p] => p
  | p :: q :: ps => p ++ separator :: join separator (q :: ps)

/-- The pieces between the occurrences of `separator`. -/
def split (separator : Char) : List Char → List (List Char)
  | [] => [[]]
  | c :: cs =>
    if c = separator then [] :: split separator cs
    else match split separator cs with
      | [] => [[c]]
      | p :: ps => (c :: p) :: ps

/-- The parts before and after the first occurrence of `separator`, if it occurs. -/
def cut? (separator : Char) : List Char → Option (List Char × List Char)
  | [] => none
  | c :: cs =>
    if c = separator then some ([], cs)
    else (cut? separator cs).map fun (before, after) => (c :: before, after)

@[simp] theorem join_nil (sep : Char) : join sep [] = [] := rfl

@[simp] theorem join_singleton (sep : Char) (p : List Char) : join sep [p] = p := rfl

@[simp] theorem join_cons_cons (sep : Char) (p q : List Char) (ps : List (List Char)) :
    join sep (p :: q :: ps) = p ++ sep :: join sep (q :: ps) := rfl

@[simp] theorem split_nil (sep : Char) : split sep [] = [[]] := rfl

@[simp] theorem split_cons_self (sep : Char) (cs : List Char) :
    split sep (sep :: cs) = [] :: split sep cs := by simp [split]

/-- A piece that does not hold the separator ends where the separator follows. -/
theorem split_append_cons {sep : Char} {p : List Char} (h : sep ∉ p) (cs : List Char) :
    split sep (p ++ sep :: cs) = p :: split sep cs := by
  induction p with
  | nil => simp
  | cons c p ih =>
    rw [List.mem_cons, not_or] at h
    have hc : ¬c = sep := fun e => h.1 e.symm
    simp [split, hc, ih h.2]

/-- A text that does not hold the separator is one piece. -/
theorem split_of_not_mem {sep : Char} {p : List Char} (h : sep ∉ p) : split sep p = [p] := by
  induction p with
  | nil => rfl
  | cons c p ih =>
    rw [List.mem_cons, not_or] at h
    have hc : ¬c = sep := fun e => h.1 e.symm
    simp [split, hc, ih h.2]

/-- Joining is undone by splitting. -/
theorem split_join {sep : Char} {p : List Char} {ps : List (List Char)}
    (h : ∀ q ∈ p :: ps, sep ∉ q) : split sep (join sep (p :: ps)) = p :: ps := by
  induction ps generalizing p with
  | nil => simpa using split_of_not_mem (h p (by simp))
  | cons q ps ih =>
    rw [join_cons_cons, split_append_cons (h p (by simp)),
      ih fun r hr => h r (List.mem_cons_of_mem _ hr)]

/-- Splitting leaves one piece at least. -/
theorem split_ne_nil (sep : Char) (cs : List Char) : split sep cs ≠ [] := by
  cases cs with
  | nil => exact List.cons_ne_nil _ _
  | cons c cs =>
    unfold split
    split
    · exact List.cons_ne_nil _ _
    · split <;> exact List.cons_ne_nil _ _

/-- No piece holds the separator. -/
theorem not_mem_of_mem_split {sep : Char} {cs piece : List Char} (h : piece ∈ split sep cs) :
    sep ∉ piece := by
  induction cs generalizing piece with
  | nil =>
    rw [List.mem_singleton.mp h]
    exact List.not_mem_nil
  | cons c cs ih =>
    unfold split at h
    split at h
    · rcases List.mem_cons.mp h with rfl | h
      · exact List.not_mem_nil
      · exact ih h
    · next hc =>
      split at h
      · next hs => exact absurd hs (split_ne_nil sep cs)
      · next first others hs =>
        -- The character goes to the first piece.
        rw [hs] at ih
        rcases List.mem_cons.mp h with rfl | h
        · exact List.not_mem_cons_of_ne_of_not_mem (Ne.symm hc) (ih List.mem_cons_self)
        · exact ih (List.mem_cons_of_mem _ h)

/-- Splitting is undone by joining. -/
theorem join_split (sep : Char) (cs : List Char) : join sep (split sep cs) = cs := by
  induction cs with
  | nil => rfl
  | cons c cs ih =>
    obtain ⟨first, others, hs⟩ := List.exists_cons_of_ne_nil (split_ne_nil sep cs)
    rw [hs] at ih
    unfold split
    split
    · next hc => rw [hs, join_cons_cons, ih, hc, List.nil_append]
    · rw [hs]
      cases others with
      | nil =>
        rw [join_singleton] at ih ⊢
        rw [ih]
      | cons second others =>
        rw [join_cons_cons] at ih ⊢
        rw [List.cons_append, ih]

/-- A cut keeps every character, and the separator does not occur before it. -/
theorem eq_append_of_cut? {sep : Char} {cs before after : List Char}
    (h : cut? sep cs = some (before, after)) : cs = before ++ sep :: after ∧ sep ∉ before := by
  induction cs generalizing before after with
  | nil => simp [cut?] at h
  | cons c cs ih =>
    by_cases hc : c = sep
    · simp only [cut?, hc, if_true, Option.some.injEq, Prod.mk.injEq] at h
      obtain ⟨rfl, rfl⟩ := h
      simp [hc]
    · simp only [cut?, hc, if_false, Option.map_eq_some_iff, Prod.mk.injEq, Prod.exists] at h
      obtain ⟨b, a, hba, rfl, rfl⟩ := h
      obtain ⟨rfl, hb⟩ := ih hba
      exact ⟨rfl, by simp [hb, Ne.symm hc]⟩

/-- A cut is found where the separator occurs. -/
theorem cut?_eq_none_iff {sep : Char} {cs : List Char} : cut? sep cs = none ↔ sep ∉ cs := by
  induction cs with
  | nil => simp [cut?]
  | cons c cs ih =>
    by_cases hc : c = sep
    · simp [cut?, hc]
    · simp [cut?, hc, ih, Ne.symm hc]

/-- The first separator is where a cut is made. -/
theorem cut?_append_cons {sep : Char} {p : List Char} (h : sep ∉ p) (cs : List Char) :
    cut? sep (p ++ sep :: cs) = some (p, cs) := by
  induction p with
  | nil => simp [cut?]
  | cons c p ih =>
    rw [List.mem_cons, not_or] at h
    have hc : ¬c = sep := fun e => h.1 e.symm
    simp [cut?, hc, ih h.2]

end Postbox.Text
