import Mathlib.Data.List.Nodup
import Postbox.Proofs.Toml.Alteration
import Postbox.Proofs.Toml.Values

namespace Postbox.Toml

/-!
# Written lines are read

A document that consists of lines, each of which sets a key without quotes to a value, is read as
these keys with these values in the order of the lines, if no key is set twice.

* `Setting` — a line; `Setting.Reads` says that its key and its value are read as they are meant.
* `Reader.statement?_line` — a line is one statement.
* `Entries.ofStatements?_settings` — statements that set different keys make a table of them.
* `read?_settings` — the document of the lines.
-/

/-- A key, the text it is set to, and the value that text is meant for. -/
structure Setting where
  key : List Char
  text : List Char
  node : Node

/-- The line of a setting. -/
def Setting.line (s : Setting) : List Char := s.key ++ [' ', '=', ' '] ++ s.text ++ ['\n']

/-- There are not more settings than characters in their lines. -/
theorem Setting.length_le_flatMap_line (ss : List Setting) :
    ss.length ≤ (ss.flatMap Setting.line).length := by
  induction ss with
  | nil => exact Nat.le_refl 0
  | cons s ss ih =>
    have hs : 0 < s.line.length := by
      simp only [Setting.line, List.length_append, List.length_cons]
      omega
    rw [List.flatMap_cons, List.length_append, List.length_cons]
    omega

/-- The key needs no quotes, and the text is read as the value. -/
structure Setting.Reads (s : Setting) : Prop where
  key : s.key ≠ []
  isBare : ∀ c ∈ s.key, Reader.isBare c = true
  value : ReadsAs s.text s.node

/-- A line begins with a character of its key. -/
theorem Setting.Reads.line_eq_cons {s : Setting} (h : s.Reads) (rest : List Char) :
    ∃ c cs, s.line ++ rest = c :: cs ∧ Reader.isBare c = true := by
  obtain ⟨c, cs, hcs⟩ := List.exists_cons_of_ne_nil h.key
  rw [line, hcs]
  exact ⟨c, _, rfl, h.isBare c (hcs ▸ List.mem_cons_self)⟩

/-- A key with what it is set to, without the places where they stand. -/
def Entries.settings (es : Entries) : List (List Char × Node) := es.map fun e => (e.1.name, e.2.2)

namespace Reader

/-! ### Keys -/

/-- No bare character is a blank. -/
theorem isBlank_of_isBare {c : Char} (h : isBare c = true) : isBlank c = false := by
  have h1 : c ≠ ' ' := ne_of_holds h rfl
  have h2 : c ≠ '\t' := ne_of_holds h rfl
  simp [isBlank, h1, h2]

/-- A text that is not blank at its front keeps its front. -/
theorem skip_cons {c : Char} (h : isBlank c = false) (cs : List Char) :
    skip (c :: cs) = c :: cs := by
  simp [skip, h]

section

variable {key : List Char}

/-- A key without quotes reaches to the blank behind it. -/
theorem part?_bare (hne : key ≠ []) (hk : ∀ c ∈ key, isBare c = true) (tail : List Char) :
    part? (key ++ ' ' :: tail)
      = some (⟨key, .between (key ++ ' ' :: tail) (' ' :: tail)⟩, ' ' :: tail) := by
  have htake : (key ++ ' ' :: tail).takeWhile isBare = key := by
    rw [List.takeWhile_append_of_pos hk, List.takeWhile_cons_of_neg (by decide), List.append_nil]
  have hdrop : (key ++ ' ' :: tail).dropWhile isBare = ' ' :: tail := by
    rw [List.dropWhile_append_of_pos hk, List.dropWhile_cons_of_neg (by decide)]
  have hempty : key.isEmpty = false := List.isEmpty_eq_false_iff.mpr hne
  obtain ⟨c, cs, rfl⟩ := List.exists_cons_of_ne_nil hne
  have hc := hk c List.mem_cons_self
  rw [part?.eq_def]
  split
  · next he => exact absurd he (cons_ne_cons hc (by decide) _ _)
  · next he => exact absurd he (cons_ne_cons hc (by decide) _ _)
  · simp only [htake, hdrop, hempty, Bool.false_eq_true, if_false]

/-- **A key without quotes in front of an equals sign** has one part. -/
theorem key?_bare (hne : key ≠ []) (hk : ∀ c ∈ key, isBare c = true) (tail : List Char) :
    ∃ k, k.name = key ∧ key? (key ++ ' ' :: '=' :: tail) = some ([], k, '=' :: tail) := by
  refine ⟨⟨key, .between (key ++ ' ' :: '=' :: tail) (' ' :: '=' :: tail)⟩, rfl, ?_⟩
  have hskip : skip (key ++ ' ' :: '=' :: tail) = key ++ ' ' :: '=' :: tail := by
    obtain ⟨c, cs, rfl⟩ := List.exists_cons_of_ne_nil hne
    exact skip_cons (isBlank_of_isBare (hk c List.mem_cons_self)) _
  have hmark : skip (' ' :: '=' :: tail) = '=' :: tail := rfl
  rw [key?, parts?, hskip, part?_bare hne hk, Option.bind_some]
  simp only [hmark]
  rfl

end

/-! ### Statements -/

/-- **A line is one statement**, which sets its key to its value. -/
theorem statement?_line {s : Setting} (h : s.Reads) (rest : List Char) :
    ∃ k span, k.name = s.key
      ∧ statement? (s.line ++ rest) = some (.pair [] k s.node span, rest) := by
  have hline : s.line ++ rest = s.key ++ ' ' :: '=' :: ' ' :: (s.text ++ '\n' :: rest) := by
    simp [Setting.line]
  obtain ⟨k, hname, hkey⟩ := key?_bare h.key h.isBare (' ' :: (s.text ++ '\n' :: rest))
  refine ⟨k, .between (s.text ++ '\n' :: rest) ('\n' :: rest), hname, ?_⟩
  have hstart : skip (' ' :: (s.text ++ '\n' :: rest)) = s.text ++ '\n' :: rest := by
    obtain ⟨c, cs, ht, hc⟩ := h.value.front
    rw [ht]
    exact skip_cons hc _
  have hend : lineEnd? ('\n' :: rest) = some rest := rfl
  obtain ⟨c, cs, hfront, hc⟩ := h.line_eq_cons rest
  rw [statement?.eq_def]
  split
  · next he => exact absurd (hfront.symm.trans he) (cons_ne_cons hc (by decide) _ _)
  · next he => exact absurd (hfront.symm.trans he) (cons_ne_cons hc (by decide) _ _)
  · rw [hline]
    simp only [hkey, hstart, h.value.read, hend, Option.bind_some, Option.map_some]

/-- The statement sets this key to this value. -/
def Sets (s : Setting) (statement : Statement) : Prop :=
  ∃ k span, k.name = s.key ∧ statement = .pair [] k s.node span

/-- The lines of a document are statements, one for each of them. -/
theorem statements_lines {ss : List Setting} (h : ∀ s ∈ ss, s.Reads) {fuel : Nat}
    (hfuel : ss.length < fuel) :
    ∃ sts, statements fuel (ss.flatMap Setting.line) = some sts ∧ List.Forall₂ Sets ss sts := by
  -- One line takes one step, and one more finds the end of the text.
  induction ss generalizing fuel with
  | nil =>
    obtain ⟨n, rfl⟩ := Nat.exists_eq_add_of_lt hfuel
    exact ⟨[], rfl, .nil⟩
  | cons s ss ih =>
    obtain ⟨hs, hss⟩ := List.forall_mem_cons.mp h
    cases fuel with
    | zero => cases hfuel
    | succ fuel =>
      obtain ⟨sts, hread, hsets⟩ := ih hss (Nat.lt_of_succ_lt_succ hfuel)
      obtain ⟨k, span, hname, hline⟩ := statement?_line hs (ss.flatMap Setting.line)
      refine ⟨.pair [] k s.node span :: sts, ?_, .cons ⟨k, span, hname, rfl⟩ hsets⟩
      rw [List.flatMap_cons]
      obtain ⟨c, tail, htail, hc⟩ := hs.line_eq_cons (ss.flatMap Setting.line)
      rw [htail] at hline ⊢
      rw [statements, skip_cons (isBlank_of_isBare hc)]
      split
      · next he => cases he
      · next he => exact absurd he (cons_ne_cons hc (by decide) _ _)
      · next he => exact absurd he (cons_ne_cons hc (by decide) _ _)
      · rw [hline, Option.bind_some]
        simp only [hread, Option.map_some]

end Reader

/-! ### Tables -/

namespace Entries

/-- A pair at the top of a document sets its key behind those that are set. -/
theorem apply_pair {es : Entries} {k : Key} (h : ∀ e ∈ es, e.1.name ≠ k.name) (node : Node)
    (span : Span) :
    Builder.apply { root := es, current := [] } (.pair [] k node span)
      = some { root := es ++ [(k, some span, node)], current := [] } := by
  have hfind := find?_eq_none_iff.mpr h
  simp only [Builder.apply, update, addDotted, add, hfind, Option.bind_some]
  rfl

/-- Statements that set different new keys put them behind those that are set. -/
theorem foldlM_apply {ss : List Setting} {sts : List Statement}
    (h : List.Forall₂ Reader.Sets ss sts) {es : Entries}
    (hnew : (es.map fun e => e.1.name).Disjoint (ss.map Setting.key))
    (hdistinct : (ss.map Setting.key).Nodup) :
    ∃ es', sts.foldlM Builder.apply { root := es, current := [] }
        = some { root := es', current := [] }
      ∧ es'.settings = es.settings ++ ss.map fun s => (s.key, s.node) := by
  -- On the statements; the key of the first one is new, and none of the others is the same.
  induction h generalizing es with
  | nil => exact ⟨es, rfl, by simp⟩
  | @cons s st ss sts hs _ ih =>
    obtain ⟨k, span, hname, rfl⟩ := hs
    rw [List.map_cons, List.nodup_cons] at hdistinct
    obtain ⟨hk, hdistinct⟩ := hdistinct
    rw [List.map_cons, List.disjoint_cons_right] at hnew
    have hfresh : ∀ e ∈ es, e.1.name ≠ k.name := by
      intro e he heq
      exact hnew.1 (List.mem_map.mpr ⟨e, he, heq.trans hname⟩)
    have hnew' : ((es ++ [(k, some span, s.node)]).map fun e => e.1.name).Disjoint
        (ss.map Setting.key) := by
      rw [List.map_append, List.disjoint_append_left]
      refine ⟨hnew.2, ?_⟩
      simpa [hname] using hk
    obtain ⟨es', hes, hset⟩ := ih hnew' hdistinct
    refine ⟨es', ?_, ?_⟩
    · rw [List.foldlM_cons, apply_pair hfresh]
      exact hes
    · rw [hset, settings, settings, List.map_append, List.map_cons, hname, List.map_cons]
      simp

/-- **Statements that set different keys make a table of these keys**, in their order. -/
theorem ofStatements?_settings {ss : List Setting} {sts : List Statement}
    (h : List.Forall₂ Reader.Sets ss sts) (hdistinct : (ss.map Setting.key).Nodup) :
    ∃ es, ofStatements? sts = some es ∧ es.settings = ss.map fun s => (s.key, s.node) := by
  have hnew : (([] : Entries).map fun e => e.1.name).Disjoint (ss.map Setting.key) :=
    List.disjoint_nil_left _
  obtain ⟨es, hes, hset⟩ := foldlM_apply h hnew hdistinct
  refine ⟨es, ?_, hset⟩
  have hfold : sts.foldlM Builder.apply {} = some { root := es, current := [] } := hes
  rw [ofStatements?, hfold, Option.map_some]

end Entries

/-! ### Documents -/

/-- A text without carriage returns has its line ends in the form that is read. -/
theorem unifyLines?_of_not_mem {cs : List Char} (h : '\r' ∉ cs) : unifyLines? cs = some cs := by
  induction cs with
  | nil => rfl
  | cons c cs ih =>
    rw [List.mem_cons, not_or] at h
    have hc : c ≠ '\r' := Ne.symm h.1
    rw [unifyLines?.eq_def]
    split
    · next he => cases he
    · next he => exact absurd (List.cons.inj he).1 hc
    · next he =>
      cases he
      rw [if_neg hc, ih h.2, Option.map_some]

/-- **A document of lines is read as their settings**, if no key is set twice and there is no
    carriage return in the texts. -/
theorem read?_settings {ss : List Setting} (h : ∀ s ∈ ss, s.Reads)
    (hdistinct : (ss.map Setting.key).Nodup) (hreturn : ∀ s ∈ ss, '\r' ∉ s.text) :
    ∃ es, read? (ss.flatMap Setting.line) = some es
      ∧ es.settings = ss.map fun s => (s.key, s.node) := by
  -- There is no return to unify and no mark to drop, so the lines are read one by one.
  have hlines : '\r' ∉ ss.flatMap Setting.line := by
    intro hmem
    obtain ⟨s, hs, hr⟩ := List.mem_flatMap.mp hmem
    have hbare : '\r' ∉ s.key := fun hk => absurd ((h s hs).isBare _ hk) (by decide)
    have htext := hreturn s hs
    simp [Setting.line, hbare, htext] at hr
  have hmark : Reader.dropMark (ss.flatMap Setting.line) = ss.flatMap Setting.line := by
    cases ss with
    | nil => rfl
    | cons s ss =>
      obtain ⟨c, cs, hfront, hc⟩ := (h s List.mem_cons_self).line_eq_cons (ss.flatMap Setting.line)
      rw [List.flatMap_cons, hfront, Reader.dropMark.eq_def]
      split
      · next he => exact absurd he (cons_ne_cons hc (by decide) _ _)
      · rfl
  have hlength := Setting.length_le_flatMap_line ss
  obtain ⟨sts, hread, hsets⟩ := Reader.statements_lines h (Nat.lt_succ_of_le hlength)
  obtain ⟨es, hes, hset⟩ := Entries.ofStatements?_settings hsets hdistinct
  refine ⟨es, ?_, hset⟩
  rw [read?, unifyLines?_of_not_mem hlines, Option.bind_some, hmark, Reader.statements?, hread,
    Option.bind_some, hes]

end Postbox.Toml
