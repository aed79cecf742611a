import Postbox.Proofs.Toml.Alteration
import Postbox.Toml.Reader

namespace Postbox.Toml

/-!
# Integers of documents have 64 bits

The reader of numbers refuses an integer of more than 64 bits, and what a statement sets at the top
of a document is the value of a pair or a table.  So the integers at the top of a document that was
read are in range.

* `Node.InRange`, `Entries.InRange` — a value, and the values at the top of a table.
* `Reader.inRange_of_value` — every value that is read is in range.
* `Builder.inRange_apply`, `Entries.inRange_ofStatements?` — one statement keeps the top of the
  document in range, and so do all of them.
* `inRange_of_read?` — a document that is read is in range.
-/

/-- An integer has 64 bits; anything else is in range. -/
def Node.InRange : Node → Prop
  | .integer n => -9223372036854775808 ≤ n ∧ n ≤ 9223372036854775807
  | _ => True

/-- The values at the top of a table are in range. -/
def Entries.InRange (es : Entries) : Prop := ∀ e ∈ es, e.2.2.InRange

/-- The value that the statement sets, if it sets one, is in range. -/
def Statement.InRange : Statement → Prop
  | .pair _ _ value _ => value.InRange
  | _ => True

/-! ### Values -/

/-- An integer of 64 bits is in range. -/
theorem inRange_of_isInt64 {n : Int} (h : isInt64 n = true) : (Node.integer n).InRange := by
  rw [isInt64, Bool.and_eq_true, decide_eq_true_eq, decide_eq_true_eq] at h
  exact h

/-- A number in another base is in range if it is read. -/
theorem inRange_of_radix? {base : Nat} {isDigit : Char → Bool} {cs rest : List Char} {node : Node}
    (h : radix? base isDigit cs = some (node, rest)) : node.InRange := by
  obtain ⟨r, -, h⟩ := Option.bind_eq_some_iff.mp h
  dsimp only at h
  split at h
  · next h64 =>
    cases h
    exact inRange_of_isInt64 h64
  · cases h

/-- A decimal number is in range if it is read. -/
theorem inRange_of_decimal? {negative : Bool} {cs rest : List Char} {node : Node}
    (h : decimal? negative cs = some (node, rest)) : node.InRange := by
  obtain ⟨⟨whole, tail⟩, -, h⟩ := Option.bind_eq_some_iff.mp h
  dsimp only at h
  by_cases hmark : isFloatMark tail = true
  · rw [if_pos hmark] at h
    obtain ⟨f, -, h⟩ := Option.bind_eq_some_iff.mp h
    obtain ⟨e, -, h⟩ := Option.bind_eq_some_iff.mp h
    split at h
    · cases h
    · cases h
      trivial
  · rw [if_neg hmark] at h
    generalize (if negative = true then -(valueIn 10 whole : Int) else valueIn 10 whole) = n at h
    split at h
    · next h64 =>
      cases h
      exact inRange_of_isInt64 h64
    · cases h

/-- **A number that is read is in range**, in every base. -/
theorem inRange_of_number? {cs rest : List Char} {node : Node}
    (h : number? cs = some (node, rest)) : node.InRange := by
  rw [number?.eq_def] at h
  split at h
  · exact inRange_of_radix? h
  · exact inRange_of_radix? h
  · exact inRange_of_radix? h
  · rw [signed?.eq_def] at h
    split at h
    · cases h
      trivial
    · cases h
      trivial
    · exact inRange_of_decimal? h

namespace Reader

/-- What is made of a result is in range if it always is. -/
theorem inRange_of_map {α : Type} {o : Option α} {f : α → Node × List Char} {node : Node}
    {rest : List Char} (h : o.map f = some (node, rest)) (hf : ∀ a, (f a).1.InRange) :
    node.InRange := by
  obtain ⟨a, -, he⟩ := Option.map_eq_some_iff.mp h
  have hnode : (f a).1 = node := congrArg Prod.fst he
  exact hnode ▸ hf a

/-- **A value that is read is in range.**  Only a number can be an integer. -/
theorem inRange_of_value {fuel depth : Nat} {cs rest : List Char} {node : Node}
    (h : value fuel depth cs = some (node, rest)) : node.InRange := by
  cases fuel with
  | zero => cases h
  | succ fuel =>
    rw [value.eq_def] at h
    dsimp only at h
    split at h
    -- The cases: two quotes, two truth values, a bracket, a brace, and anything else.
    · exact inRange_of_map h fun _ => trivial
    · exact inRange_of_map h fun _ => trivial
    · cases h
      trivial
    · cases h
      trivial
    · split at h
      · cases h
      · split at h
        · cases h
          trivial
        · exact inRange_of_map h fun _ => trivial
    · split at h
      · cases h
      · split at h
        · cases h
          trivial
        · exact inRange_of_map h fun _ => trivial
    · split at h
      · cases h
        trivial
      · exact inRange_of_number? h

/-- A statement that is read has its integers in range. -/
theorem inRange_of_statement? {cs rest : List Char} {st : Statement}
    (h : statement? cs = some (st, rest)) : st.InRange := by
  rw [statement?.eq_def] at h
  split at h
  · obtain ⟨r, -, h⟩ := Option.bind_eq_some_iff.mp h
    obtain ⟨after, -, he⟩ := Option.map_eq_some_iff.mp h
    cases he
    trivial
  · obtain ⟨r, -, h⟩ := Option.bind_eq_some_iff.mp h
    obtain ⟨after, -, he⟩ := Option.map_eq_some_iff.mp h
    cases he
    trivial
  · split at h
    · obtain ⟨r, hv, h⟩ := Option.bind_eq_some_iff.mp h
      obtain ⟨after, -, he⟩ := Option.map_eq_some_iff.mp h
      cases he
      exact inRange_of_value hv
    · cases h

/-- The statements of a text have their integers in range. -/
theorem inRange_of_statements {fuel : Nat} {cs : List Char} {sts : List Statement}
    (h : statements fuel cs = some sts) : ∀ st ∈ sts, st.InRange := by
  induction fuel generalizing cs sts with
  | zero => cases h
  | succ fuel ih =>
    rw [statements.eq_def] at h
    dsimp only at h
    split at h
    · cases h
      exact fun _ hm => absurd hm List.not_mem_nil
    · exact ih h
    · obtain ⟨rest, -, h⟩ := Option.bind_eq_some_iff.mp h
      exact ih h
    · obtain ⟨r, hr, h⟩ := Option.bind_eq_some_iff.mp h
      obtain ⟨tail, ht, he⟩ := Option.map_eq_some_iff.mp h
      cases he
      exact List.forall_mem_cons.mpr ⟨inRange_of_statement? hr, ih ht⟩

end Reader

/-! ### The top of a document -/

/-- Only a number can be out of range, so what is like a value in range is in range. -/
theorem Node.Like.inRange {a b : Node} (h : a.Like b) (hb : b.InRange) : a.InRange := by
  rcases h with rfl | ⟨ha, -⟩
  · exact hb
  · cases a with
    | table _ _ | tables _ => trivial
    | string _ | integer _ | float _ | boolean _ | datetime | array _ | inline _ => cases ha

namespace Entries

theorem InRange.append {es : Entries} (h : es.InRange) {k : Key} {span : Option Span} {node : Node}
    (hn : node.InRange) : InRange (es ++ [(k, span, node)]) := by
  intro e he
  rcases List.mem_append.mp he with he | he
  · exact h e he
  · rw [List.mem_singleton.mp he]
    exact hn

theorem InRange.set {es : Entries} (h : es.InRange) {name : List Char} {span : Option Span}
    {node : Node} (hn : node.InRange) : (es.set name (span, node)).InRange := by
  induction es with
  | nil => exact h
  | cons e es ih =>
    obtain ⟨he, hes⟩ := List.forall_mem_cons.mp h
    rw [Entries.set]
    split
    · exact List.forall_mem_cons.mpr ⟨hn, hes⟩
    · exact List.forall_mem_cons.mpr ⟨he, ih hes⟩

theorem InRange.erase {es : Entries} (h : es.InRange) (name : List Char) :
    (es.erase name).InRange :=
  fun e he => h e (List.mem_filter.mp he).1

/-- What is found there is in range. -/
theorem InRange.of_find? {es : Entries} (h : es.InRange) {name : List Char} {span : Option Span}
    {node : Node} (hf : es.find? name = some (span, node)) : node.InRange := by
  induction es with
  | nil => cases hf
  | cons e es ih =>
    obtain ⟨he, hes⟩ := List.forall_mem_cons.mp h
    rw [find?] at hf
    split at hf
    · rw [Option.some.inj hf] at he
      exact he
    · exact ih hes hf

/-- **An alteration keeps the entries in range**, if what it sets is in range. -/
theorem Alters.inRange {es es' : Entries} {k : Key} {node : Node} (h : es.Alters k node es')
    (hnode : node.InRange) (hes : es.InRange) : InRange es' := by
  cases h with
  | added hk hn => exact hes.append (hn.inRange hnode)
  | changed hk hn => exact hes.set (hn.inRange (hes.of_find? hk))
  | moved hk hn => exact (hes.erase k.name).append (hn.inRange (hes.of_find? hk))
  | stayed hk => exact hes

end Entries

/-- What a statement in range sets at the top is in range. -/
theorem Statement.InRange.topNode {st : Statement} (h : st.InRange) (current : List Key) :
    (st.topNode current).InRange := by
  cases st with
  | header path last span => trivial
  | element path last span => trivial
  | pair path last value span =>
    show Node.InRange (if (current ++ path).isEmpty then value else .tables [])
    split
    · exact h
    · trivial

namespace Builder

/-- **A statement in range keeps the top of the document in range.** -/
theorem inRange_apply {b b' : Builder} {st : Statement} (hst : st.InRange) (h : b.root.InRange)
    (ha : b.apply st = some b') : b'.root.InRange :=
  keeps_apply (fun halters hes => halters.inRange (hst.topNode b.current) hes) h ha

/-- Statements one after another keep the range. -/
theorem inRange_foldlM {sts : List Statement} (hsts : ∀ st ∈ sts, st.InRange) {b b' : Builder}
    (h : b.root.InRange) (hf : sts.foldlM apply b = some b') : b'.root.InRange := by
  induction sts generalizing b with
  | nil =>
    cases hf
    exact h
  | cons st sts ih =>
    obtain ⟨hst, hsts⟩ := List.forall_mem_cons.mp hsts
    rw [List.foldlM_cons] at hf
    obtain ⟨next, ha, hf⟩ := Option.bind_eq_some_iff.mp hf
    exact ih hsts (inRange_apply hst h ha) hf

end Builder

/-- Statements in range make a document in range. -/
theorem Entries.inRange_ofStatements? {sts : List Statement} (hsts : ∀ st ∈ sts, st.InRange)
    {es : Entries} (h : ofStatements? sts = some es) : es.InRange := by
  obtain ⟨b, hb, rfl⟩ := Option.map_eq_some_iff.mp h
  exact Builder.inRange_foldlM hsts (fun e he => absurd he List.not_mem_nil) hb

/-- **The integers at the top of a document that is read have 64 bits.** -/
theorem inRange_of_read? {cs : List Char} {es : Entries} (h : read? cs = some es) : es.InRange := by
  obtain ⟨unified, -, h⟩ := Option.bind_eq_some_iff.mp h
  obtain ⟨sts, hsts, hes⟩ := Option.bind_eq_some_iff.mp h
  exact Entries.inRange_ofStatements? (Reader.inRange_of_statements hsts) hes

end Postbox.Toml
