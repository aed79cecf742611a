import Mathlib.Data.Finset.Card
import Postbox.Form.Encoding
import Postbox.Proofs.Form.Insertion

namespace Postbox

/-!
# What a form keeps of its history

A form is built by setting fields one after the other and by collecting lists of fields, which
begins anew.  Of the fields that were set it keeps each name once, in the place of the first time
and with the value of the last time, and nothing else: forms are equal exactly if their histories
agree on that.

* `Form.Edit`, `Form.edited` — the operations, and the form that a sequence of them builds.
* `Form.insertions` — the fields that were set, in order.
* `Form.firstNames`, `Form.IsLast` — the first and the last times in a history.
* `Form.edited_eq_ofList` — a form is the list of its insertions, collected.
* `Form.Recalls` — the readings of a form, said of a history; `Form.recalls_ofList` that they hold.
* `Form.edited_recalls` — all sequences of operations: what the form reads as, what an insertion
  gives back, and when two sequences build equal forms.
-/

namespace Form

/-! ### Operations and their history -/

/-- An operation that builds a form. -/
inductive Edit where
  /-- Sets a field, with or without a value. -/
  | insert (key : String) (value : Option String)
  /-- Sets a field to a value. -/
  | withValue (key value : String)
  /-- Begins anew with the fields of a list. -/
  | collect (fields : List Field)

/-- The form after an operation. -/
def Edit.apply (form : Form) : Edit → Form
  | insert key value => form.insert key value
  | withValue key value => form.withValue key value
  | collect fields => ofList fields

/-- The form that a sequence of operations builds; before the first there is no field. -/
def edited (edits : List Edit) : Form := edits.foldl Edit.apply empty

/-- The fields that were set after an operation, where `before` were set before it. -/
def Edit.record (before : List Field) : Edit → List Field
  | insert key value => before ++ [(key, value)]
  | withValue key value => before ++ [(key, some value)]
  | collect fields => fields

/-- The fields that a sequence of operations sets, in order, since it began anew. -/
def insertions (edits : List Edit) : List Field := edits.foldl Edit.record []

/-- The names in the order of their first insertion. -/
def firstNames (fs : List Field) : List String := (fs.map Prod.fst).eraseDups

/-- The last insertion of this name has this value. -/
def IsLast (fs : List Field) (key : String) (value : Option String) : Prop :=
  ∃ before after, fs = before ++ (key, value) :: after ∧ ∀ f ∈ after, f.1 ≠ key

/-- Inserting one list behind another is inserting both one after the other. -/
theorem insertMany_append (form : Form) (fs gs : List Field) :
    form.insertMany (fs ++ gs) = (form.insertMany fs).insertMany gs :=
  List.foldl_append

/-- One operation does to a form what its record does to the history. -/
theorem apply_ofList (fs : List Field) (e : Edit) : e.apply (ofList fs) = ofList (e.record fs) := by
  cases e with
  | insert key value =>
    show (ofList fs).insert key value = empty.insertMany (fs ++ [(key, value)])
    rw [insertMany_append]
    rfl
  | withValue key value =>
    show (ofList fs).insert key (some value) = empty.insertMany (fs ++ [(key, some value)])
    rw [insertMany_append]
    rfl
  | collect fields => rfl

/-- **A form is the list of its insertions, collected.** -/
theorem edited_eq_ofList (edits : List Edit) : edited edits = ofList (insertions edits) := by
  show edits.foldl Edit.apply (ofList []) = ofList (edits.foldl Edit.record [])
  exact List.foldl_hom ofList apply_ofList

/-! ### First and last times -/

/-- The last insertion for a key is the newest one, if that has the key. -/
theorem isLast_append_singleton {fs : List Field} {f : Field} {key : String}
    {value : Option String} :
    IsLast (fs ++ [f]) key value ↔ f = (key, value) ∨ f.1 ≠ key ∧ IsLast fs key value := by
  constructor
  · rintro ⟨before, after, heq, hafter⟩
    -- The insertion is the new one, or one of those before it.
    rcases List.eq_nil_or_concat' after with rfl | ⟨after, g, rfl⟩
    · left
      have hlast : [f] = [(key, value)] := (List.append_inj' heq rfl).2
      exact List.singleton_inj.mp hlast
    · right
      rw [← List.cons_append, ← List.append_assoc] at heq
      obtain ⟨hfs, hlast⟩ := List.append_inj' heq rfl
      have hfg : f = g := List.singleton_inj.mp hlast
      refine ⟨hfg ▸ hafter g (by simp), before, after, hfs, fun h hh => ?_⟩
      exact hafter h (List.mem_append_left _ hh)
  · rintro (rfl | ⟨hne, before, after, rfl, hafter⟩)
    · exact ⟨fs, [], rfl, fun _ h => absurd h List.not_mem_nil⟩
    · refine ⟨before, after ++ [f], by simp, fun g hg => ?_⟩
      rcases List.mem_append.mp hg with hg | hg
      · exact hafter g hg
      · rw [List.mem_singleton.mp hg]
        exact hne

/-- Looking a name up from the end finds its last insertion. -/
theorem lookup_reverse_eq_some_iff {fs : List Field} {key : String} {value : Option String} :
    Field.lookup key fs.reverse = some value ↔ IsLast fs key value := by
  induction fs using List.reverseRecOn with
  | nil =>
    constructor
    · intro h
      cases h
    · rintro ⟨before, after, heq, -⟩
      exact absurd heq.symm (by simp)
  | append_singleton fs f ih =>
    obtain ⟨name, v⟩ := f
    rw [List.reverse_append, List.reverse_singleton, List.singleton_append, Field.lookup_cons,
      isLast_append_singleton, ← ih]
    by_cases h : name = key
    · simp [h]
    · simp [h]

/-- The names in their first places are all the names. -/
theorem mem_firstNames {fs : List Field} {key : String} :
    key ∈ firstNames fs ↔ key ∈ fs.map Prod.fst :=
  List.mem_eraseDups

/-- The names come in the order of their first places in the history. -/
theorem pairwise_firstNames (fs : List Field) :
    (firstNames fs).Pairwise fun a b => (fs.map Prod.fst).idxOf a < (fs.map Prod.fst).idxOf b := by
  induction fs using List.reverseRecOn with
  | nil => exact List.Pairwise.nil
  | append_singleton fs f ih =>
    -- The names that were there have the places that they had.
    have hplace : ∀ key ∈ firstNames fs,
        (fs.map Prod.fst ++ [f.1]).idxOf key = (fs.map Prod.fst).idxOf key := by
      intro key hkey
      exact List.idxOf_append_of_mem (mem_firstNames.mp hkey)
    have hold : (firstNames fs).Pairwise fun a b =>
        (fs.map Prod.fst ++ [f.1]).idxOf a < (fs.map Prod.fst ++ [f.1]).idxOf b := by
      refine ih.imp_of_mem fun ha hb hab => ?_
      rw [hplace _ ha, hplace _ hb]
      exact hab
    have hnames : firstNames (fs ++ [f])
        = firstNames fs ++ ([f.1].removeAll (fs.map Prod.fst)).eraseDups := by
      rw [firstNames, List.map_append, List.eraseDups_append]
      rfl
    rw [hnames, List.map_append]
    by_cases hf : f.1 ∈ fs.map Prod.fst
    · have hnone : [f.1].removeAll (fs.map Prod.fst) = [] := by simp [List.removeAll, hf]
      rw [hnone, List.eraseDups_nil, List.append_nil]
      exact hold
    · have hone : [f.1].removeAll (fs.map Prod.fst) = [f.1] := by simp [List.removeAll, hf]
      rw [hone]
      refine List.pairwise_append.mpr ⟨hold, List.pairwise_singleton _ _, fun a ha b hb => ?_⟩
      have hlt : (fs.map Prod.fst).idxOf a < (fs.map Prod.fst).length :=
        List.idxOf_lt_length_of_mem (mem_firstNames.mp ha)
      have hb : b = f.1 := by simpa using hb
      show (fs.map Prod.fst ++ [f.1]).idxOf a < (fs.map Prod.fst ++ [f.1]).idxOf b
      rw [hplace a ha, hb, List.idxOf_append_of_notMem hf]
      omega

/-! ### The readings of a form -/

/-- The readings of the form are those of this history: its names are the ones that were inserted,
    once each and in the order of the first time, and each has the value of the last time. -/
structure Recalls (form : Form) (inserted : List Field) : Prop where
  nodup : form.keys.Nodup
  keys : form.keys = firstNames inserted
  order : form.keys.Pairwise fun a b =>
    (inserted.map Prod.fst).idxOf a < (inserted.map Prod.fst).idxOf b
  value : ∀ key value, form.get? key = some value ↔ IsLast inserted key value
  absent : ∀ key, form.get? key = none ↔ key ∉ inserted.map Prod.fst
  contains : ∀ key, form.contains key = true ↔ key ∈ inserted.map Prod.fst
  size : form.size = (inserted.map Prod.fst).toFinset.card
  isEmpty : form.isEmpty = true ↔ form.size = 0

/-- The keys of a form that is made of insertions are their names, in their first places. -/
theorem keys_ofList (fs : List Field) : (ofList fs).keys = firstNames fs := by
  have hskip : (fs.map Prod.fst).removeAll empty.keys = fs.map Prod.fst :=
    List.filter_eq_self.mpr fun key _ => rfl
  rw [ofList, keys_insertMany, hskip]
  rfl

/-- A form that is made of insertions holds the last value for each key. -/
theorem get?_ofList_eq_some_iff {fs : List Field} {key : String} {value : Option String} :
    (ofList fs).get? key = some value ↔ IsLast fs key value := by
  rw [ofList, get?_insertMany, get?_empty, Option.or_none, lookup_reverse_eq_some_iff]

/-- **Collected fields are read as their history says.** -/
theorem recalls_ofList (fs : List Field) : (ofList fs).Recalls fs := by
  -- Everything follows from the names in their order and from what they are set to.
  have hkeys : (ofList fs).keys = firstNames fs := keys_ofList fs
  have habsent : ∀ key, (ofList fs).get? key = none ↔ key ∉ fs.map Prod.fst := by
    intro key
    rw [get?_eq_none_iff, hkeys, mem_firstNames]
  have horder : (ofList fs).keys.Pairwise fun a b =>
      (fs.map Prod.fst).idxOf a < (fs.map Prod.fst).idxOf b := by
    rw [hkeys]
    exact pairwise_firstNames fs
  refine ⟨(ofList fs).nodup, hkeys, horder, fun key value => get?_ofList_eq_some_iff, habsent, ?_,
    ?_, ?_⟩
  · intro key
    rw [contains, ← Option.ne_none_iff_isSome, ne_eq, habsent, not_not]
  · -- The names are different, so there are as many fields as there are names in the history.
    have hset : (ofList fs).keys.toFinset = (fs.map Prod.fst).toFinset := by
      ext key
      rw [List.mem_toFinset, List.mem_toFinset, hkeys, mem_firstNames]
    have hcard : (ofList fs).keys.toFinset.card = (ofList fs).keys.length :=
      List.toFinset_card_of_nodup (ofList fs).nodup
    rw [← hset, hcard]
    exact (List.length_map Prod.fst).symm
  · rw [isEmpty, List.isEmpty_iff]
    exact List.length_eq_zero_iff.symm

/-- A form is determined by its names in order and by what they are set to. -/
theorem eq_of_keys_of_get? {a b : Form} (hkeys : a.keys = b.keys)
    (hget : ∀ key, a.get? key = b.get? key) : a = b := by
  apply ext
  rw [toList_eq_map_keys, toList_eq_map_keys, hkeys]
  exact List.map_congr_left fun key _ => by rw [hget]

/-- Histories are collected to equal forms exactly if they agree on the first times and on the last
    times. -/
theorem ofList_eq_ofList_iff {fs gs : List Field} :
    ofList fs = ofList gs
      ↔ firstNames fs = firstNames gs ∧ ∀ key value, IsLast fs key value ↔ IsLast gs key value := by
  constructor
  · intro h
    refine ⟨?_, fun key value => ?_⟩
    · rw [← keys_ofList, ← keys_ofList, h]
    · rw [← get?_ofList_eq_some_iff, ← get?_ofList_eq_some_iff, h]
  · rintro ⟨hnames, hlast⟩
    refine eq_of_keys_of_get? ?_ fun key => Option.ext fun value => ?_
    · rw [keys_ofList, keys_ofList, hnames]
    · rw [get?_ofList_eq_some_iff, get?_ofList_eq_some_iff, hlast]

/-- **A form keeps the first and the last times of its history, and nothing else.**  After any
    sequence of operations its names are the inserted ones, each once and in the order in which they
    came first, and each has the value that it was given last.  One more insertion gives back what
    its name was set to before.

    Two sequences build equal forms exactly if their histories agree on the order of the names and
    on the last values; such forms have the same body, and nothing else tells them apart either. -/
theorem edited_recalls (edits : List Edit) :
    (edited edits).Recalls (insertions edits)
      ∧ (∀ key value, (edited edits).replace key value
        = ((edited edits).get? key, edited (edits ++ [.insert key value])))
      ∧ ∀ others : List Edit,
        ((edited edits == edited others) = true
            ↔ firstNames (insertions edits) = firstNames (insertions others)
              ∧ ∀ key value, IsLast (insertions edits) key value
                ↔ IsLast (insertions others) key value)
          ∧ ((edited edits == edited others) = true →
            (edited edits).body = (edited others).body
              ∧ ∀ {α : Type} (observe : Form → α),
                observe (edited edits) = observe (edited others)) := by
  refine ⟨?_, fun key value => ?_, fun others => ⟨?_, fun h => ?_⟩⟩
  · rw [edited_eq_ofList]
    exact recalls_ofList (insertions edits)
  · have hnext : edited (edits ++ [.insert key value]) = (edited edits).insert key value := by
      rw [edited, List.foldl_append]
      rfl
    rw [hnext]
    exact Prod.ext (replace_fst (edited edits) key value) rfl
  · rw [beq_iff_eq, edited_eq_ofList, edited_eq_ofList]
    exact ofList_eq_ofList_iff
  · have heq : edited edits = edited others := beq_iff_eq.mp h
    exact ⟨by rw [heq], fun observe => by rw [heq]⟩

/-- A name that is inserted again keeps its place and gets the new value, missing or not. -/
example : (edited [.collect [("a", some "1"), ("b", none), ("a", some "3")], .withValue "c" "4",
    .insert "a" none]).toList = [("a", none), ("b", none), ("c", some "4")] := by
  decide

end Form

end Postbox
