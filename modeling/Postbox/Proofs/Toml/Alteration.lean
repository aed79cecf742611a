import Postbox.Toml.Document

namespace Postbox.Toml

/-!
# What a statement does to the top of a document

Every statement speaks of one key at the top of the document: the first part of its header, or of
its dotted key in the table that is open.  If that key is not there it is put at the end.  If it is
there it holds a table or a list of tables, and does so afterwards; all other keys stay as they are.

* `Node.Like` — the same value, or tables on both sides.
* `Entries.Alters` — all that may happen to a table at one of its keys.
* `Statement.topKey`, `Statement.topNode` — the key at the top, and what it is set to if it is new.
* `Builder.alters_apply` — a statement alters the top of the document at its key, and nothing else.
* `Entries.Alters.nodup` — the keys of a table stay different.
-/

/-- A table that a header or a dotted key leads to, or a list of such tables. -/
def Node.IsTable : Node → Prop
  | .table _ _ | .tables _ => True
  | _ => False

/-- The same value, or a table in the place of a table. -/
def Node.Like (a b : Node) : Prop := a = b ∨ a.IsTable ∧ b.IsTable

theorem Node.Like.refl (a : Node) : a.Like a := .inl rfl

namespace Entries

/-! ### Looking keys up -/

theorem find?_eq_none_iff {name : List Char} {es : Entries} :
    find? name es = none ↔ ∀ e ∈ es, e.1.name ≠ name := by
  induction es with
  | nil => simp [find?]
  | cons e es ih =>
    rw [find?, List.forall_mem_cons, ← ih]
    split <;> simp_all

/-- A name is looked up in the entries, and then in the one behind them. -/
theorem find?_append_singleton (name : List Char) (es : Entries) (e : Entry) :
    find? name (es ++ [e]) = (find? name es).or (if e.1.name = name then some e.2 else none) := by
  induction es with
  | nil => rfl
  | cons d es ih =>
    rw [List.cons_append, find?, find?, ih]
    split <;> rfl

/-- Setting a key changes what is found there, if anything is. -/
theorem find?_set (name key : List Char) (value : Option Span × Node) (es : Entries) :
    find? name (set key value es)
      = if key = name then (find? name es).map fun _ => value else find? name es := by
  induction es with
  | nil => simp [set, find?]
  | cons e es ih =>
    by_cases he : e.1.name = key
    · subst he
      rw [set, if_pos rfl, find?, find?]
      split <;> rfl
    · rw [set, if_neg he, find?, find?, ih]
      by_cases hname : e.1.name = name
      · have hkey : key ≠ name := fun hk => he (hname.trans hk.symm)
        rw [if_pos hname, if_pos hname, if_neg hkey]
      · rw [if_neg hname, if_neg hname]

/-- Erasing a key leaves nothing to be found there. -/
theorem find?_erase (name key : List Char) (es : Entries) :
    find? name (erase key es) = if key = name then none else find? name es := by
  induction es with
  | nil => simp [erase, find?]
  | cons e es ih =>
    by_cases he : e.1.name = key
    · have hskip : erase key (e :: es) = erase key es := by simp [erase, he]
      rw [hskip, ih, find?]
      by_cases hkey : key = name
      · rw [if_pos hkey, if_pos hkey]
      · rw [if_neg hkey, if_neg hkey, if_neg fun h => hkey (he.symm.trans h)]
    · have hkeep : erase key (e :: es) = e :: erase key es := by simp [erase, he]
      rw [hkeep, find?, find?, ih]
      by_cases hname : e.1.name = name
      · have hkey : key ≠ name := fun hk => he (hname.trans hk.symm)
        rw [if_pos hname, if_pos hname, if_neg hkey]
      · rw [if_neg hname, if_neg hname]

/-- The names of the keys, in order. -/
def names (es : Entries) : List (List Char) := es.map fun e => e.1.name

/-- A name is not found where it is none of the names. -/
theorem find?_eq_none_iff_names {name : List Char} {es : Entries} :
    find? name es = none ↔ name ∉ es.names := by
  rw [find?_eq_none_iff, names, List.mem_map]
  exact ⟨fun h ⟨e, he, hname⟩ => h e he hname, fun h e he hname => h ⟨e, he, hname⟩⟩

theorem names_set (key : List Char) (value : Option Span × Node) (es : Entries) :
    (set key value es).names = es.names := by
  induction es with
  | nil => rfl
  | cons e es ih =>
    rw [set]
    split
    · rfl
    · show e.1.name :: names (set key value es) = e.1.name :: names es
      rw [ih]

theorem names_erase (key : List Char) (es : Entries) :
    (erase key es).names = es.names.filter fun name => name ≠ key := by
  rw [names, names, erase, List.filter_map]
  rfl

/-! ### Alterations -/

/-- The entries are altered at the key `k`: it is new and set to something like `node`, or it is
    there and holds something like what it held before. -/
inductive Alters (es : Entries) (k : Key) (node : Node) : Entries → Prop
  | added {span : Option Span} {new : Node} (hk : es.find? k.name = none) (hn : new.Like node) :
      Alters es k node (es ++ [(k, span, new)])
  | changed {span span' : Option Span} {old new : Node} (hk : es.find? k.name = some (span, old))
      (hn : new.Like old) : Alters es k node (es.set k.name (span', new))
  /-- The key goes to the end. -/
  | moved {span span' : Option Span} {old new : Node} (hk : es.find? k.name = some (span, old))
      (hn : new.Like old) : Alters es k node (es.erase k.name ++ [(k, span', new)])
  | stayed {e : Option Span × Node} (hk : es.find? k.name = some e) : Alters es k node es

section

variable {es es' : Entries} {k : Key} {node : Node}

/-- The key is there afterwards. -/
theorem Alters.exists_find? (h : Alters es k node es') : ∃ e, es'.find? k.name = some e := by
  cases h with
  | added hk hn => exact ⟨_, by rw [find?_append_singleton, hk, if_pos rfl]; rfl⟩
  | changed hk hn => exact ⟨_, by rw [find?_set, if_pos rfl, hk]; rfl⟩
  | moved hk hn =>
    exact ⟨_, by rw [find?_append_singleton, find?_erase, if_pos rfl, if_pos rfl]; rfl⟩
  | stayed hk => exact ⟨_, hk⟩

/-- **The keys stay different.** -/
theorem Alters.nodup (h : Alters es k node es') (hes : es.names.Nodup) : es'.names.Nodup := by
  have hend {ds : Entries} {span : Option Span} {new : Node} (hds : ds.names.Nodup)
      (hk : k.name ∉ ds.names) : Entries.names (ds ++ [(k, span, new)]) |>.Nodup := by
    have hnames : Entries.names (ds ++ [(k, span, new)]) = ds.names ++ [k.name] := List.map_append
    rw [hnames]
    refine List.nodup_append.mpr ⟨hds, List.pairwise_singleton _ _, fun a ha b hb => ?_⟩
    rw [List.mem_singleton.mp hb]
    exact fun hab => hk (hab ▸ ha)
  cases h with
  | added hk hn => exact hend hes (find?_eq_none_iff_names.mp hk)
  | changed hk hn =>
    rw [names_set]
    exact hes
  | moved hk hn =>
    refine hend ?_ ?_
    · rw [names_erase]
      exact hes.filter _
    · rw [names_erase, List.mem_filter]
      exact fun hmem => of_decide_eq_true hmem.2 rfl
  | stayed hk => exact hes

end

/-! ### What the operations on tables do -/

section

variable {es es' : Entries} {k last : Key} {path : List Key} {span : Span} {value : Node}

/-- A change further down puts a table in the place of a table, or adds one. -/
theorem alters_update_cons {f : Entries → Option Entries}
    (h : update f (k :: path) es = some es') : Alters es k (.tables []) es' := by
  rw [update] at h
  split at h
  · next hk =>
    obtain ⟨inner, -, rfl⟩ := Option.map_eq_some_iff.mp h
    exact .added hk (.inr ⟨trivial, trivial⟩)
  · next hk =>
    obtain ⟨inner, -, rfl⟩ := Option.map_eq_some_iff.mp h
    exact .changed hk (.inr ⟨trivial, trivial⟩)
  · next hk =>
    obtain ⟨elements, -, rfl⟩ := Option.map_eq_some_iff.mp h
    exact .changed hk (.inr ⟨trivial, trivial⟩)
  · cases h

/-- A header alters the first part of its path, or its last part if it is the only one. -/
theorem alters_update {f : Entries → Option Entries}
    (hf : ∀ {es es'}, f es = some es' → Alters es last (.tables []) es')
    (h : update f path es = some es') : Alters es (path.headD last) (.tables []) es' := by
  cases path with
  | nil => exact hf h
  | cons k path => exact alters_update_cons h

/-- What a dotted key sets at the top is a value only if it has one part. -/
theorem alters_addDotted (h : addDotted last span value path es = some es') :
    Alters es (path.headD last) (if path.isEmpty then value else .tables []) es' := by
  cases path with
  | nil =>
    rw [addDotted, add] at h
    split at h
    · next hk =>
      cases h
      exact .added hk (.refl value)
    · cases h
  | cons k path =>
    rw [addDotted] at h
    split at h
    · next hk =>
      obtain ⟨inner, -, rfl⟩ := Option.map_eq_some_iff.mp h
      exact .added hk (.inr ⟨trivial, trivial⟩)
    · next hk =>
      split at h
      · cases h
      · obtain ⟨inner, -, rfl⟩ := Option.map_eq_some_iff.mp h
        exact .changed hk (.inr ⟨trivial, trivial⟩)
    · next hk =>
      split at h
      · cases h
      · obtain ⟨elements, -, rfl⟩ := Option.map_eq_some_iff.mp h
        exact .changed hk (.inr ⟨trivial, trivial⟩)
    · cases h

/-- Opening a table alters its key. -/
theorem alters_openTable (h : openTable last span es = some es') :
    Alters es last (.tables []) es' := by
  rw [openTable] at h
  split at h
  · next hk =>
    cases h
    exact .added hk (.inr ⟨trivial, trivial⟩)
  · next hk =>
    cases h
    exact .moved hk (.inr ⟨trivial, trivial⟩)
  · cases h

/-- Adding a table to a list alters the key of the list. -/
theorem alters_addElement (h : addElement last span es = some es') :
    Alters es last (.tables []) es' := by
  rw [addElement] at h
  split at h
  · next hk =>
    cases h
    exact .added hk (.inr ⟨trivial, trivial⟩)
  · next hk =>
    cases h
    exact .changed hk (.inr ⟨trivial, trivial⟩)
  · cases h

/-- A stretch that becomes longer leaves the value as it is. -/
theorem alters_stretch {e : Option Span × Node} (h : es.find? last.name = some e) (stop : Nat)
    (node : Node) : Alters es last node (stretch last stop es) := by
  rw [stretch]
  split
  · next hk => exact .changed hk (.refl _)
  · exact .stayed h

end

end Entries

/-! ### What a statement does -/

namespace Statement

/-- The key at the top of the document that a statement speaks of, where `current` is the path of
    the table that is open. -/
def topKey (current : List Key) : Statement → Key
  | .header path last _ | .element path last _ => path.headD last
  | .pair path last _ _ => (current ++ path).headD last

/-- What that key is set to if it is new: the value of a pair that stands at the top under a key of
    one part, and otherwise some table. -/
def topNode (current : List Key) : Statement → Node
  | .header _ _ _ | .element _ _ _ => .tables []
  | .pair path _ value _ => if (current ++ path).isEmpty then value else .tables []

/-- The path of the table that is open after a statement. -/
def opened (current : List Key) : Statement → List Key
  | .header path last _ | .element path last _ => path ++ [last]
  | .pair _ _ _ _ => current

end Statement

namespace Builder

variable {b b' : Builder} {st : Statement}

/-- A statement leaves open what its header opens. -/
theorem current_apply (h : b.apply st = some b') : b'.current = st.opened b.current := by
  cases st with
  | header path last span | element path last span | pair path last value span =>
    obtain ⟨root, -, rfl⟩ := Option.map_eq_some_iff.mp h
    rfl

/-- Stretching the open table alters its first key, if that is there. -/
theorem alters_stretchCurrent {k : Key} {current : List Key} (hb : b.current = k :: current)
    {stop : Nat} {root root' : Entries} {e : Option Span × Node} (hk : root.find? k.name = some e)
    (h : b.stretchCurrent stop root = some root') : Entries.Alters root k (.tables []) root' := by
  cases current with
  | nil =>
    rw [stretchCurrent, hb] at h
    cases h
    exact Entries.alters_stretch hk stop _
  | cons k' current =>
    rw [stretchCurrent, hb, List.getLast?_cons_cons] at h
    split at h
    · next hlast => exact absurd hlast (by simp)
    · exact Entries.alters_update_cons h

/-- **A statement alters the top of the document at its key**, first for what it says and then for
    the stretch of the table that is open. -/
theorem alters_apply (h : b.apply st = some b') :
    ∃ mid, Entries.Alters b.root (st.topKey b.current) (st.topNode b.current) mid
      ∧ Entries.Alters mid (st.topKey b.current) (st.topNode b.current) b'.root := by
  cases st with
  | header path last span =>
    obtain ⟨root, hr, rfl⟩ := Option.map_eq_some_iff.mp h
    have hroot := Entries.alters_update Entries.alters_openTable hr
    obtain ⟨e, he⟩ := hroot.exists_find?
    exact ⟨root, hroot, .stayed he⟩
  | element path last span =>
    obtain ⟨root, hr, rfl⟩ := Option.map_eq_some_iff.mp h
    have hroot := Entries.alters_update Entries.alters_addElement hr
    obtain ⟨e, he⟩ := hroot.exists_find?
    exact ⟨root, hroot, .stayed he⟩
  | pair path last value span =>
    obtain ⟨root, hr, rfl⟩ := Option.map_eq_some_iff.mp h
    obtain ⟨mid, hadd, hstretch⟩ := Option.bind_eq_some_iff.mp hr
    cases hb : b.current with
    | nil =>
      -- At the top the key is set itself, and there is no table to be stretched.
      rw [hb] at hadd
      have hmid : Entries.Alters b.root (path.headD last)
          (if path.isEmpty then value else .tables []) mid := Entries.alters_addDotted hadd
      obtain ⟨e, he⟩ := hmid.exists_find?
      have hroot : mid = root := by
        rw [stretchCurrent, hb] at hstretch
        exact Option.some.inj hstretch
      exact ⟨mid, hmid, hroot ▸ .stayed he⟩
    | cons k current =>
      rw [hb] at hadd
      have hmid : Entries.Alters b.root k (.tables []) mid := Entries.alters_update_cons hadd
      obtain ⟨e, he⟩ := hmid.exists_find?
      exact ⟨mid, hmid, alters_stretchCurrent hb he hstretch⟩

/-- What every alteration of a key keeps is kept by a statement. -/
theorem keeps_apply {P : Entries → Prop}
    (hP : ∀ {es es'}, Entries.Alters es (st.topKey b.current) (st.topNode b.current) es' →
      P es → P es')
    (hb : P b.root) (h : b.apply st = some b') : P b'.root := by
  obtain ⟨mid, hfirst, hsecond⟩ := alters_apply h
  exact hP hsecond (hP hfirst hb)

end Builder

end Postbox.Toml
