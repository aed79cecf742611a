import Postbox.Proofs.Json.Leaves

namespace Postbox.Json

/-!
# The reader reads the grammar

The reader against the grammar, in both directions.  Soundness is by induction on the fuel; for
completeness the fuel has to be enough, and twice the length of the text always is, since an item
takes two steps of the reader and has at least one character.

* `Reader.Sound`, `Reader.sound` — what is read was written there.
* `Reader.Complete`, `Reader.complete` — what was written there is read.
* `read?_eq_some_iff` — `read?` gives a value exactly if the text is one of its texts.
-/

namespace Reader

open Text.Decimal (ne_of_isDigit)

/-! ### Blanks -/

/-- What is skipped are blanks. -/
theorem skip_spec (cs : List Char) : ∃ b, Blanks b ∧ cs = b ++ skip cs :=
  ⟨cs.takeWhile isBlank, fun c hc => List.all_eq_true.mp List.all_takeWhile c hc,
    List.takeWhile_append_dropWhile.symm⟩

/-- All blanks in front are skipped. -/
theorem skip_append {b : List Char} (hb : Blanks b) (cs : List Char) : skip (b ++ cs) = skip cs :=
  List.dropWhile_append_of_pos hb

theorem skip_cons {c : Char} (hc : isBlank c = false) (cs : List Char) :
    skip (c :: cs) = c :: cs := by
  rw [skip, List.dropWhile_cons, hc]
  rfl

/-- Nothing is skipped in front of a value. -/
theorem skip_writes {v : Value} {w : List Char} (h : Writes v w) (rest : List Char) :
    skip (w ++ rest) = w ++ rest := by
  obtain ⟨c, cs, rfl, hc⟩ := h.eq_cons
  exact skip_cons (isBlank_of_isFirst hc) _

/-! ### What is read was written -/

/-- What the reader gives with this much fuel was written where it read. -/
structure Sound (fuel : Nat) : Prop where
  value : ∀ {cs v rest}, value fuel cs = some (v, rest) →
    ∃ b w, Blanks b ∧ Writes v w ∧ cs = b ++ (w ++ rest)
  items : ∀ {cs vs rest}, items fuel cs = some (vs, rest) → ∃ w, Items vs w ∧ cs = w ++ ']' :: rest
  members : ∀ {cs ms rest}, members fuel cs = some (ms, rest) →
    ∃ w, Members ms w ∧ cs = w ++ '\x7d' :: rest

/-- What was read behind blanks, with the blanks that follow it. -/
theorem Sound.spaced {fuel : Nat} (ih : Sound fuel) {cs rest : List Char} {v : Value}
    (h : Reader.value fuel cs = some (v, rest)) : ∃ w, Spaced v w ∧ cs = w ++ skip rest := by
  obtain ⟨b, w, hb, hw, rfl⟩ := ih.value h
  obtain ⟨b', hb', hrest⟩ := skip_spec rest
  refine ⟨b ++ (w ++ b'), .mk hb hw hb', ?_⟩
  rw [List.append_assoc, List.append_assoc, ← hrest]

/-- What is read behind a bracket is an array. -/
theorem Sound.array {fuel : Nat} (ih : Sound fuel) {cs rest : List Char} {v : Value}
    (h : (match skip cs with
      | ']' :: rest => some (.array [], rest)
      | rest => (Reader.items fuel rest).map fun (vs, rest) => (.array vs, rest))
        = some (v, rest)) : ∃ w, Writes v w ∧ '[' :: cs = w ++ rest := by
  obtain ⟨b, hb, hcs⟩ := skip_spec cs
  split at h
  · next rest' heq =>
    cases h
    refine ⟨_, .emptyArray hb, ?_⟩
    rw [hcs, heq, List.cons_append, List.append_assoc]
    rfl
  · rw [Option.map_eq_some_iff] at h
    obtain ⟨⟨vs, rest'⟩, h, he⟩ := h
    cases he
    obtain ⟨w, hw, hskip⟩ := ih.items h
    refine ⟨_, .array (hw.blanks hb), ?_⟩
    rw [hcs, hskip, List.cons_append, List.append_assoc, List.append_assoc]
    rfl

/-- What is read behind a brace is an object. -/
theorem Sound.object {fuel : Nat} (ih : Sound fuel) {cs rest : List Char} {v : Value}
    (h : (match skip cs with
      | '\x7d' :: rest => some (.object [], rest)
      | rest => (Reader.members fuel rest).map fun (ms, rest) => (.object ms, rest))
        = some (v, rest)) : ∃ w, Writes v w ∧ '\x7b' :: cs = w ++ rest := by
  obtain ⟨b, hb, hcs⟩ := skip_spec cs
  split at h
  · next rest' heq =>
    cases h
    refine ⟨_, .emptyObject hb, ?_⟩
    rw [hcs, heq, List.cons_append, List.append_assoc]
    rfl
  · rw [Option.map_eq_some_iff] at h
    obtain ⟨⟨ms, rest'⟩, h, he⟩ := h
    cases he
    obtain ⟨w, hw, hskip⟩ := ih.members h
    refine ⟨_, .object (hw.blanks hb), ?_⟩
    rw [hcs, hskip, List.cons_append, List.append_assoc, List.append_assoc]
    rfl

/-- What is read as a value is one, if that holds of what is in it. -/
theorem Sound.value_succ {fuel : Nat} (ih : Sound fuel) {cs rest : List Char} {v : Value}
    (h : Reader.value (fuel + 1) cs = some (v, rest)) :
    ∃ b w, Blanks b ∧ Writes v w ∧ cs = b ++ (w ++ rest) := by
  obtain ⟨b, hb, hcs⟩ := skip_spec cs
  suffices hw : ∃ w, Writes v w ∧ skip cs = w ++ rest by
    obtain ⟨w, hw, hskip⟩ := hw
    exact ⟨b, w, hb, hw, hcs.trans (by rw [hskip])⟩
  rw [Reader.value] at h
  -- The cases are the first characters that the reader distinguishes.
  split at h
  · next heq => cases h; exact ⟨_, .null, heq⟩
  · next heq => cases h; exact ⟨_, .boolTrue, heq⟩
  · next heq => cases h; exact ⟨_, .boolFalse, heq⟩
  · next heq =>
    rw [Option.map_eq_some_iff] at h
    obtain ⟨⟨us, rest'⟩, h, he⟩ := h
    cases he
    obtain ⟨w, hw, rfl⟩ := string_sound h
    refine ⟨_, .string hw, ?_⟩
    rw [heq, List.cons_append, List.append_assoc]
    rfl
  · next heq =>
    rw [heq]
    exact ih.array h
  · next heq =>
    rw [heq]
    exact ih.object h
  · rw [Option.map_eq_some_iff] at h
    obtain ⟨⟨n, rest'⟩, h, he⟩ := h
    cases he
    obtain ⟨w, hw, hskip⟩ := numeral_sound h
    exact ⟨w, .number hw, hskip⟩

/-- What is read as items are items, if that holds of what is in them. -/
theorem Sound.items_succ {fuel : Nat} (ih : Sound fuel) {cs rest : List Char} {vs : List Value}
    (h : Reader.items (fuel + 1) cs = some (vs, rest)) :
    ∃ w, Items vs w ∧ cs = w ++ ']' :: rest := by
  rw [Reader.items] at h
  split at h
  · cases h
  · next v rest' hv =>
    obtain ⟨w, hw, rfl⟩ := ih.spaced hv
    split at h
    · next rest₂ heq =>
      rw [Option.map_eq_some_iff] at h
      obtain ⟨⟨vs', rest₃⟩, h, he⟩ := h
      cases he
      obtain ⟨ws, hws, rfl⟩ := ih.items h
      refine ⟨_, .cons hw hws, ?_⟩
      rw [heq, List.append_assoc]
      rfl
    · next heq =>
      cases h
      exact ⟨w, .last hw, by rw [heq]⟩
    · cases h

/-- What is read as members are members, if that holds of what is in them. -/
theorem Sound.members_succ {fuel : Nat} (ih : Sound fuel) {cs rest : List Char}
    {ms : List (Units × Value)} (h : Reader.members (fuel + 1) cs = some (ms, rest)) :
    ∃ w, Members ms w ∧ cs = w ++ '\x7d' :: rest := by
  -- A name, a colon and a value; then a comma with more members, or the end.
  obtain ⟨b, hb, hcs⟩ := skip_spec cs
  rw [Reader.members] at h
  split at h
  · next rest₁ hquote =>
    split at h
    · cases h
    · next name rest₂ hname =>
      obtain ⟨k, hk, rfl⟩ := string_sound hname
      obtain ⟨b', hb', hrest₂⟩ := skip_spec rest₂
      split at h
      · next rest₃ hcolon =>
        split at h
        · cases h
        · next v rest₄ hv =>
          obtain ⟨w, hw, rfl⟩ := ih.spaced hv
          have hm := Member.mk hb hk hb' hw
          rw [hquote, hrest₂, hcolon] at hcs
          split at h
          · next rest₅ hcomma =>
            rw [Option.map_eq_some_iff] at h
            obtain ⟨⟨ms', rest₆⟩, h, he⟩ := h
            cases he
            obtain ⟨ws, hws, rfl⟩ := ih.members h
            refine ⟨_, .cons hm hws, ?_⟩
            rw [hcs, hcomma]
            simp only [List.append_assoc, List.cons_append]
          · next hbrace =>
            cases h
            refine ⟨_, .last hm, ?_⟩
            rw [hcs, hbrace]
            simp only [List.append_assoc, List.cons_append]
          · cases h
      · cases h
  · cases h

/-- **What is read was written there.** -/
theorem sound (fuel : Nat) : Sound fuel := by
  induction fuel with
  | zero => exact ⟨nofun, nofun, nofun⟩
  | succ fuel ih => exact ⟨ih.value_succ, ih.items_succ, ih.members_succ⟩

/-! ### What was written is read -/

theorem skip_skip (cs : List Char) : skip (skip cs) = skip cs := by
  obtain ⟨b, hb, hcs⟩ := skip_spec cs
  have h := skip_append hb (skip cs)
  rw [← hcs] at h
  exact h.symm

/-- Blanks in front of a value do not matter. -/
theorem value_skip (fuel : Nat) (cs : List Char) : value fuel (skip cs) = value fuel cs := by
  cases fuel with
  | zero => rfl
  | succ fuel => rw [value, value, skip_skip]

theorem items_skip (fuel : Nat) (cs : List Char) : items fuel (skip cs) = items fuel cs := by
  cases fuel with
  | zero => rfl
  | succ fuel => rw [items, items, value_skip]

theorem members_skip (fuel : Nat) (cs : List Char) : members fuel (skip cs) = members fuel cs := by
  cases fuel with
  | zero => rfl
  | succ fuel => rw [members, members, skip_skip]

/-- After blanks, items begin as a value does. -/
theorem skip_items {vs : List Value} {w : List Char} (h : Items vs w) (rest : List Char) :
    ∃ c cs, skip (w ++ rest) = c :: cs ∧ isFirst c = true := by
  have hspaced {v : Value} {w : List Char} (h : Spaced v w) (rest : List Char) :
      ∃ c cs, skip (w ++ rest) = c :: cs ∧ isFirst c = true := by
    cases h with
    | mk hb h hb' =>
      rw [List.append_assoc, List.append_assoc, skip_append hb, skip_writes h]
      obtain ⟨c, cs, rfl, hc⟩ := h.eq_cons
      exact ⟨c, _, rfl, hc⟩
  cases h with
  | last h => exact hspaced h rest
  | cons h _ =>
    rw [List.append_assoc]
    exact hspaced h _

/-- After blanks, members begin with a quote. -/
theorem skip_members {ms : List (Units × Value)} {w : List Char} (h : Members ms w)
    (rest : List Char) : ∃ cs, skip (w ++ rest) = '"' :: cs := by
  have hmember {m : Units × Value} {w : List Char} (h : Member m w) (rest : List Char) :
      ∃ cs, skip (w ++ rest) = '"' :: cs := by
    cases h with
    | mk hb _ _ _ =>
      rw [List.append_assoc, skip_append hb, List.cons_append, skip_cons rfl]
      exact ⟨_, rfl⟩
  cases h with
  | last h => exact hmember h rest
  | cons h _ =>
    rw [List.append_assoc]
    exact hmember h _

/-- What is written somewhere is read there, if the fuel is enough for its length. -/
structure Complete (fuel : Nat) : Prop where
  value : ∀ {v b w rest}, Blanks b → Writes v w → Ends rest → 2 * w.length ≤ fuel + 1 →
    value fuel (b ++ (w ++ rest)) = some (v, rest)
  items : ∀ {vs w rest}, Items vs w → 2 * w.length ≤ fuel →
    items fuel (w ++ ']' :: rest) = some (vs, rest)
  members : ∀ {ms w rest}, Members ms w → 2 * w.length ≤ fuel →
    members fuel (w ++ '\x7d' :: rest) = some (ms, rest)

/-- A number ends at blanks. -/
theorem ends_blanks {b rest : List Char} (hb : Blanks b) (hr : Ends rest) : Ends (b ++ rest) := by
  cases b with
  | nil => exact hr
  | cons d b =>
    have hd := hb d List.mem_cons_self
    rw [isBlank, Bool.or_eq_true, Bool.or_eq_true, Bool.or_eq_true, beq_iff_eq, beq_iff_eq,
      beq_iff_eq, beq_iff_eq] at hd
    refine .cons ?_ _
    rcases hd with ((rfl | rfl) | rfl) | rfl <;> decide

/-- A value with blanks around it is read, up to the blanks after it. -/
theorem Complete.spaced {fuel : Nat} (ih : Complete fuel) {v : Value} {w : List Char}
    (h : Spaced v w) {c : Char} (hc : c.isDigit = false ∧ c ≠ '.' ∧ c ≠ 'e' ∧ c ≠ 'E')
    (hblank : isBlank c = false) (cs : List Char) (hfuel : 2 * w.length ≤ fuel + 1) :
    ∃ rest, Reader.value fuel (w ++ c :: cs) = some (v, rest) ∧ skip rest = c :: cs := by
  cases h with
  | @mk _ b w b' hb h hb' =>
    rw [List.length_append, List.length_append] at hfuel
    refine ⟨b' ++ c :: cs, ?_, ?_⟩
    · rw [List.append_assoc, List.append_assoc]
      exact ih.value hb h (ends_blanks hb' (.cons hc cs)) (by omega)
    · rw [skip_append hb', skip_cons hblank]

/-- Items are read, if what is in them is. -/
theorem Complete.items_succ {fuel : Nat} (ih : Complete fuel) {vs : List Value}
    {w rest : List Char} (h : Items vs w) (hfuel : 2 * w.length ≤ fuel + 1) :
    Reader.items (fuel + 1) (w ++ ']' :: rest) = some (vs, rest) := by
  cases h with
  | last h =>
    obtain ⟨rest', hv, hskip⟩ := ih.spaced h (c := ']') (by decide) rfl rest hfuel
    rw [Reader.items, hv]
    simp only [hskip]
  | cons h hs =>
    rw [List.length_append, List.length_cons] at hfuel
    rw [List.append_assoc]
    obtain ⟨rest', hv, hskip⟩ := ih.spaced h (c := ',') (by decide) rfl _ (by omega)
    rw [Reader.items, List.cons_append, hv]
    simp only [hskip, ih.items hs (by omega)]
    rfl

/-- A name and a value are read as a member, up to the comma or the brace that follows. -/
theorem Complete.member {fuel : Nat} (ih : Complete fuel) {m : Units × Value} {w : List Char}
    (h : Member m w) {c : Char} (hc : c.isDigit = false ∧ c ≠ '.' ∧ c ≠ 'e' ∧ c ≠ 'E')
    (hblank : isBlank c = false) (cs : List Char) (hfuel : 2 * w.length ≤ fuel + 1) :
    ∃ rest₁ rest₂ rest₃ rest₄, skip (w ++ c :: cs) = '"' :: rest₁
      ∧ string rest₁ = some (m.1, rest₂) ∧ skip rest₂ = ':' :: rest₃
      ∧ Reader.value fuel rest₃ = some (m.2, rest₄) ∧ skip rest₄ = c :: cs := by
  cases h with
  | @mk us v b k b' w hb hk hb' h =>
    simp only [List.length_append, List.length_cons] at hfuel
    obtain ⟨rest₄, hv, hrest₄⟩ := ih.spaced h hc hblank cs (by omega)
    refine ⟨k ++ '"' :: (b' ++ ':' :: (w ++ c :: cs)), b' ++ ':' :: (w ++ c :: cs), w ++ c :: cs,
      rest₄, ?_, string_complete hk _, ?_, hv, hrest₄⟩
    · rw [List.append_assoc, skip_append hb, List.cons_append, skip_cons rfl]
      simp only [List.append_assoc, List.cons_append]
    · rw [skip_append hb', skip_cons rfl]

/-- Members are read, if what is in them is. -/
theorem Complete.members_succ {fuel : Nat} (ih : Complete fuel) {ms : List (Units × Value)}
    {w rest : List Char} (h : Members ms w) (hfuel : 2 * w.length ≤ fuel + 1) :
    Reader.members (fuel + 1) (w ++ '\x7d' :: rest) = some (ms, rest) := by
  cases h with
  | last h =>
    obtain ⟨rest₁, rest₂, rest₃, rest₄, hquote, hname, hcolon, hv, hend⟩ :=
      ih.member h (c := '\x7d') (by decide) rfl rest hfuel
    rw [Reader.members]
    simp only [hquote, hname, hcolon, hv, hend]
  | @cons m ms w ws h hs =>
    rw [List.length_append, List.length_cons] at hfuel
    obtain ⟨rest₁, rest₂, rest₃, rest₄, hquote, hname, hcolon, hv, hend⟩ :=
      ih.member h (c := ',') (by decide) rfl (ws ++ '\x7d' :: rest) (by omega)
    rw [Reader.members, List.append_assoc, List.cons_append]
    simp only [hquote, hname, hcolon, hv, hend, ih.members hs (by omega)]
    rfl

/-- A number is what remains when no other value begins so. -/
theorem value_number (fuel : Nat) {c : Char} (hc : c.isDigit = true ∨ c = '-') (cs : List Char) :
    Reader.value (fuel + 1) (c :: cs)
      = (numeral (c :: cs)).map fun (n, rest) => (.number n, rest) := by
  have hne {d : Char} (hd : d.isDigit = false ∧ d ≠ '-') : c ≠ d := by
    rcases hc with hc | rfl
    · exact ne_of_isDigit hc hd.1
    · exact hd.2.symm
  have hskip : skip (c :: cs) = c :: cs := by
    refine skip_cons ?_ cs
    simp only [isBlank, Bool.or_eq_false_iff, beq_eq_false_iff_ne]
    exact ⟨⟨⟨hne (by decide), hne (by decide)⟩, hne (by decide)⟩, hne (by decide)⟩
  rw [Reader.value, hskip]
  split <;> first | rfl | next heq => exact absurd (List.cons.inj heq).1 (hne (by decide))

/-- A value is read, if what is in it is. -/
theorem Complete.value_succ {fuel : Nat} (ih : Complete fuel) {v : Value}
    {b w rest : List Char} (hb : Blanks b) (h : Writes v w) (hr : Ends rest)
    (hfuel : 2 * w.length ≤ fuel + 1 + 1) :
    Reader.value (fuel + 1) (b ++ (w ++ rest)) = some (v, rest) := by
  rw [← value_skip, skip_append hb, value_skip]
  cases h with
  | null | boolTrue | boolFalse => rfl
  | number h =>
    have hread := numeral_complete h hr
    obtain ⟨c, cs, rfl, hc⟩ := h.eq_cons
    rw [List.cons_append, value_number fuel hc, ← List.cons_append, hread]
    rfl
  | string h =>
    have hread := string_complete h rest
    rw [List.cons_append, List.append_assoc]
    show (string _).map _ = _
    rw [List.cons_append, List.nil_append, hread]
    rfl
  | emptyArray hb' =>
    rw [List.cons_append, List.append_assoc, Reader.value, skip_cons rfl]
    simp only [skip_append hb', List.cons_append, List.nil_append, skip_cons (c := ']') rfl]
  | @array vs w h =>
    rw [List.length_cons, List.length_append, List.length_singleton] at hfuel
    have hread : Reader.items fuel (w ++ ']' :: rest) = some (vs, rest) := ih.items h (by omega)
    rw [← items_skip] at hread
    -- The items do not begin with a bracket, so the array is not taken for an empty one.
    obtain ⟨c, cs, hskip, hc⟩ := skip_items h (']' :: rest)
    rw [List.cons_append, List.append_assoc, Reader.value, skip_cons rfl]
    simp only [List.cons_append, List.nil_append]
    rw [hskip] at hread ⊢
    split
    · next heq => exact absurd (List.cons.inj heq).1 (isFirst_ne hc rfl)
    · rw [hread]
      rfl
  | emptyObject hb' =>
    rw [List.cons_append, List.append_assoc, Reader.value, skip_cons rfl]
    simp only [skip_append hb', List.cons_append, List.nil_append, skip_cons (c := '\x7d') rfl]
  | @object ms w h =>
    rw [List.length_cons, List.length_append, List.length_singleton] at hfuel
    have hread : Reader.members fuel (w ++ '\x7d' :: rest) = some (ms, rest) :=
      ih.members h (by omega)
    rw [← members_skip] at hread
    obtain ⟨cs, hskip⟩ := skip_members h ('\x7d' :: rest)
    rw [List.cons_append, List.append_assoc, Reader.value, skip_cons rfl]
    simp only [List.cons_append, List.nil_append]
    rw [hskip] at hread ⊢
    show (Reader.members fuel ('"' :: cs)).map _ = _
    rw [hread]
    rfl

/-- Without fuel there is nothing to read: no text is empty. -/
theorem Complete.zero : Complete 0 := by
  refine ⟨fun _ h _ hfuel => ?_, fun {_ w _} h hfuel => ?_, fun {_ w _} h hfuel => ?_⟩
  · obtain ⟨c, cs, rfl, -⟩ := h.eq_cons
    rw [List.length_cons] at hfuel
    omega
  · obtain ⟨c, cs, hskip, -⟩ := skip_items h []
    have hw : w = [] := List.length_eq_zero_iff.mp (by omega)
    rw [hw] at hskip
    cases hskip
  · obtain ⟨cs, hskip⟩ := skip_members h []
    have hw : w = [] := List.length_eq_zero_iff.mp (by omega)
    rw [hw] at hskip
    cases hskip

/-- **What was written is read.** -/
theorem complete (fuel : Nat) : Complete fuel := by
  induction fuel with
  | zero => exact .zero
  | succ fuel ih => exact ⟨ih.value_succ, ih.items_succ, ih.members_succ⟩

end Reader

/-! ### Complete texts -/

/-- **A text is read as a value exactly if it is a text of that value**, with blanks around it and
    nothing else. -/
theorem read?_eq_some_iff {cs : List Char} {v : Value} : read? cs = some v ↔ Spaced v cs := by
  constructor
  · intro h
    rw [read?] at h
    split at h
    · next v' rest hv =>
      split at h
      · next hrest =>
        cases h
        obtain ⟨w, hw, rfl⟩ := (Reader.sound _).spaced hv
        rw [List.isEmpty_iff.mp hrest, List.append_nil]
        exact hw
      · cases h
    · cases h
  · intro h
    cases h with
    | @mk _ b w b' hb h hb' =>
      -- A number at the end of a text ends at the blanks there, or with the text.
      have hends : Reader.Ends b' := by
        rw [← List.append_nil b']
        exact Reader.ends_blanks hb' .nil
      have hlen : 2 * w.length ≤ 2 * (b ++ (w ++ b')).length + 2 + 1 := by
        rw [List.length_append, List.length_append]
        omega
      have hskip : Reader.skip b' = [] := by
        rw [← List.append_nil b', Reader.skip_append hb']
        rfl
      rw [read?, (Reader.complete _).value hb h hends hlen]
      simp only [hskip, List.isEmpty_nil, if_true]

/-- A text stands for at most one value. -/
theorem Spaced.unique {cs : List Char} {v v' : Value} (h : Spaced v cs) (h' : Spaced v' cs) :
    v = v' :=
  Option.some.inj ((read?_eq_some_iff.mpr h).symm.trans (read?_eq_some_iff.mpr h'))

end Postbox.Json
