import Postbox.Proofs.Toml.Range

namespace Postbox.Toml

/-!
# The keys at the top of a document

What a key at the top of a document is set to can be told from the statements alone, without
building the document: it is what the first statement says that speaks of the key.  Only a pair that
stands before all headers, under a key of one part, gives it a value; everything else makes it a
table.

* `Scalar`, `Node.scalar?` — strings, integers and truth values; nothing else is one.
* `mentions` — what the statements of a document say of the keys at its top, one after the other.
* `TopKeys`, `topKeys` — what a text sets the keys at its top to.
* `top_foldlM` — the tree that the statements build holds at its top what they say.
* `topKeys_of_read?`, `nodup_of_read?` — the tree of a text that is read.
-/

/-- A string, an integer or a truth value. -/
inductive Scalar where
  | text (value : List Char)
  | integer (value : Int)
  | truth (value : Bool)
  deriving Repr, DecidableEq

/-- The scalar that a value is, if it is one. -/
def Node.scalar? : Node → Option Scalar
  | .string text => some (.text text)
  | .integer n => some (.integer n)
  | .boolean b => some (.truth b)
  | _ => none

/-- A table holds no value of its own. -/
theorem Node.IsTable.scalar?_eq {node : Node} (h : node.IsTable) : node.scalar? = none := by
  cases node with
  | table _ _ | tables _ => rfl
  | string _ | integer _ | float _ | boolean _ | datetime | array _ | inline _ => cases h

/-- Nodes that are alike hold the same value. -/
theorem Node.Like.scalar?_eq {a b : Node} (h : a.Like b) : a.scalar? = b.scalar? := by
  rcases h with rfl | ⟨ha, hb⟩
  · rfl
  · rw [ha.scalar?_eq, hb.scalar?_eq]

/-! ### In the tree -/

namespace Entries

/-- What the key `name` is set to, as far as it is a scalar. -/
def top (es : Entries) (name : List Char) : Option (Option Scalar) :=
  (es.find? name).map fun e => e.2.scalar?

theorem top_cons (e : Entry) (es : Entries) (name : List Char) :
    top (e :: es) name = if e.1.name = name then some e.2.2.scalar? else top es name := by
  rw [top, find?]
  split <;> rfl

/-- Of different keys, the top holds what the entries say. -/
theorem top_eq_some_iff {es : Entries} (h : es.names.Nodup) {name : List Char}
    {value : Option Scalar} :
    es.top name = some value ↔ ∃ e ∈ es, e.1.name = name ∧ e.2.2.scalar? = value := by
  induction es with
  | nil => exact ⟨fun h => (by cases h), fun ⟨_, he, _⟩ => absurd he List.not_mem_nil⟩
  | cons e es ih =>
    obtain ⟨hnew, hes⟩ := List.nodup_cons.mp h
    rw [top_cons]
    by_cases hname : e.1.name = name
    · rw [if_pos hname]
      constructor
      · intro hvalue
        exact ⟨e, List.mem_cons_self, hname, Option.some.inj hvalue⟩
      · rintro ⟨d, hd, hdname, hvalue⟩
        rcases List.mem_cons.mp hd with rfl | hd
        · rw [hvalue]
        · -- The name of the first entry does not come again.
          have hmem : d.1.name ∈ names es := List.mem_map.mpr ⟨d, hd, rfl⟩
          rw [hdname.trans hname.symm] at hmem
          exact absurd hmem hnew
    · rw [if_neg hname, ih hes]
      constructor
      · rintro ⟨d, hd, hvalue⟩
        exact ⟨d, List.mem_cons_of_mem e hd, hvalue⟩
      · rintro ⟨d, hd, hdname, hvalue⟩
        rcases List.mem_cons.mp hd with rfl | hd
        · exact absurd hdname hname
        · exact ⟨d, hd, hdname, hvalue⟩

/-- Nothing is at the top where the name is none of the names. -/
theorem top_eq_none_iff {es : Entries} {name : List Char} :
    es.top name = none ↔ name ∉ es.names := by
  rw [top, Option.map_eq_none_iff, find?_eq_none_iff_names]

/-- **An alteration speaks of its key if that is new, and of nothing else.** -/
theorem Alters.top_eq {es es' : Entries} {k : Key} {node : Node} (h : es.Alters k node es')
    (name : List Char) :
    top es' name = (es.top name).or (if k.name = name then some node.scalar? else none) := by
  -- A key that is there keeps its scalar, whatever happens to it.
  have hkept {span : Option Span} {old : Node} (hk : es.find? k.name = some (span, old)) :
      es.top k.name = some old.scalar? := by
    rw [top, hk]
    rfl
  by_cases hname : k.name = name
  · subst hname
    rw [if_pos rfl]
    cases h with
    | added hk hn =>
      rw [top, top, find?_append_singleton, hk, if_pos rfl]
      exact congrArg some hn.scalar?_eq
    | changed hk hn =>
      rw [hkept hk, top, find?_set, if_pos rfl, hk]
      exact congrArg some hn.scalar?_eq
    | moved hk hn =>
      rw [hkept hk, top, find?_append_singleton, find?_erase, if_pos rfl, if_pos rfl]
      exact congrArg some hn.scalar?_eq
    | stayed hk =>
      rw [hkept hk]
      rfl
  · rw [if_neg hname, Option.or_none, top, top]
    cases h with
    | added hk hn => rw [find?_append_singleton, if_neg hname, Option.or_none]
    | changed hk hn => rw [find?_set, if_neg hname]
    | moved hk hn =>
      rw [find?_append_singleton, find?_erase, if_neg hname, if_neg hname, Option.or_none]
    | stayed hk => rfl

end Entries

/-! ### In the statements -/

/-- What the statements say of the keys at the top, one after the other, where `current` is the path
    of the table that is open: each speaks of one key, and makes it a scalar or something else. -/
def mentions (current : List Key) : List Statement → List (List Char × Option Scalar)
  | [] => []
  | st :: sts =>
    ((st.topKey current).name, (st.topNode current).scalar?) :: mentions (st.opened current) sts

/-- A statement adds what it says to the top, if nothing was said of its key before. -/
theorem top_apply {b b' : Builder} {st : Statement} (h : b.apply st = some b') (name : List Char) :
    b'.root.top name = (b.root.top name).or
      (if (st.topKey b.current).name = name then some (st.topNode b.current).scalar?
        else none) := by
  obtain ⟨mid, hfirst, hsecond⟩ := Builder.alters_apply h
  rw [hsecond.top_eq, hfirst.top_eq, Option.or_assoc, Option.or_self]

/-- **The tree holds at its top what the statements say**, the first one that speaks of a key. -/
theorem top_foldlM {sts : List Statement} {b b' : Builder}
    (h : sts.foldlM Builder.apply b = some b') (name : List Char) :
    b'.root.top name = (b.root.top name).or ((mentions b.current sts).lookup name) := by
  induction sts generalizing b with
  | nil =>
    cases h
    exact (Option.or_none).symm
  | cons st sts ih =>
    rw [List.foldlM_cons] at h
    obtain ⟨next, hnext, h⟩ := Option.bind_eq_some_iff.mp h
    rw [ih h, top_apply hnext, Builder.current_apply hnext, mentions, List.lookup_cons,
      Option.or_assoc]
    congr 1
    by_cases hname : (st.topKey b.current).name = name
    · have heq : (name == (st.topKey b.current).name) = true := beq_iff_eq.mpr hname.symm
      rw [if_pos hname, heq]
      rfl
    · have hne : (name == (st.topKey b.current).name) = false :=
        beq_eq_false_iff_ne.mpr fun heq => hname heq.symm
      rw [if_neg hname, hne]
      rfl

/-- The keys at the top stay different. -/
theorem nodup_foldlM {sts : List Statement} {b b' : Builder}
    (h : sts.foldlM Builder.apply b = some b') (hb : b.root.names.Nodup) : b'.root.names.Nodup := by
  induction sts generalizing b with
  | nil =>
    cases h
    exact hb
  | cons st sts ih =>
    rw [List.foldlM_cons] at h
    obtain ⟨next, hnext, h⟩ := Option.bind_eq_some_iff.mp h
    have hnodup : next.root.names.Nodup :=
      Builder.keeps_apply (fun halters hes => halters.nodup hes) hb hnext
    exact ih h hnodup

/-! ### In the text -/

/-- What keys at the top of a document are set to: nothing, or a value that is a scalar or is
    none. -/
abbrev TopKeys := String → Option (Option Scalar)

/-- The statements of a text. -/
def statementsOf? (cs : List Char) : Option (List Statement) :=
  (unifyLines? cs).bind fun cs => Reader.statements? (Reader.dropMark cs)

/-- What a text sets the keys at its top to: for each of them the first that its statements say. -/
def topKeys (cs : List Char) : TopKeys := fun name =>
  (statementsOf? cs).bind fun sts => (mentions [] sts).lookup name.toList

/-- A document is read statement by statement, and then built. -/
theorem exists_statements_of_read? {cs : List Char} {es : Entries} (h : read? cs = some es) :
    ∃ sts b, statementsOf? cs = some sts ∧ sts.foldlM Builder.apply {} = some b ∧ b.root = es := by
  obtain ⟨unified, hunified, h⟩ := Option.bind_eq_some_iff.mp h
  obtain ⟨sts, hsts, h⟩ := Option.bind_eq_some_iff.mp h
  obtain ⟨b, hb, rfl⟩ := Option.map_eq_some_iff.mp h
  exact ⟨sts, b, by rw [statementsOf?, hunified, Option.bind_some, hsts], hb, rfl⟩

/-- **The tree of a text that is read holds at its top what the text says there.** -/
theorem topKeys_of_read? {cs : List Char} {es : Entries} (h : read? cs = some es) (name : String) :
    topKeys cs name = es.top name.toList := by
  obtain ⟨sts, b, hsts, hb, rfl⟩ := exists_statements_of_read? h
  rw [topKeys, hsts, Option.bind_some, top_foldlM hb]
  rfl

/-- The names of a document that is read are different. -/
theorem nodup_of_read? {cs : List Char} {es : Entries} (h : read? cs = some es) :
    es.names.Nodup := by
  obtain ⟨sts, b, -, hb, rfl⟩ := exists_statements_of_read? h
  exact nodup_foldlM hb List.nodup_nil

/-- A key under a header, in a dotted key or in an inline table is not at the top. -/
example : let keys := topKeys "b = \x7b a = 1 \x7d\nc.a = 2\n[d]\na = 3".toList
    keys "a" = none ∧ keys "b" = some none ∧ keys "c" = some none ∧ keys "d" = some none := by
  decide +kernel

end Postbox.Toml
