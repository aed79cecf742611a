import Mathlib.Data.List.Forall2
import Postbox.Proofs.Report.Causes
import Postbox.Proofs.Text.Decimal
import Postbox.Session

namespace Postbox.SessionFault

/-!
# What is printed of a fault

The text that is printed of a fault begins with its message.  Its causes follow in their order, each
line of them behind a margin; if there are several, the first line of each bears its number.  Only
one text is of this form, and it is the one that is printed.

* `Shows`, `Numbers`, `Reports` — the form.
* `block_eq_iff`, `eq_numberMark_iff` — the text of one cause, and the mark of its number.
* `report_eq_iff` — what is printed of a fault.
-/

/-! ### The form -/

/-- The lines of this text are those of the cause, the first behind a mark and the others behind a
    margin. -/
inductive Shows (mark margin cause text : String) : Prop
  | mk {first : String} {others : List String} (hc : Text.lines cause = first :: others)
      (ht : Text.lines text = (mark ++ first) :: others.map (margin ++ ·)) :
      Shows mark margin cause text

/-- The mark is this number with a colon behind it, and with as many blanks before it as five places
    take. -/
inductive Numbers (i : Nat) : String → Prop
  | mk {blanks : String} (hb : ∀ c ∈ blanks.toList, c = ' ')
      (hl : blanks.length = 5 - (Nat.repr i).length) : Numbers i (blanks ++ Nat.repr i ++ ": ")

/-- The text shows a cause behind its number. -/
inductive ShowsNumbered (entry : String × Nat) (text : String) : Prop
  | mk {mark : String} (hm : Numbers entry.2 mark) (hs : Shows mark "       " entry.1 text) :
      ShowsNumbered entry text

/-- The text tells of this error: its message, and then its causes, in their order. -/
inductive Reports (e : Captured) : String → Prop
  | alone (h : e.causes = []) : Reports e ("Error: " ++ e.message)
  | one {cause text : String} (h : e.causes = [cause]) (hs : Shows "    " "    " cause text) :
      Reports e ("Error: " ++ e.message ++ "\n\nCaused by:\n" ++ text)
  /-- Several causes are numbered, from zero on. -/
  | several {texts : List String} (h : 2 ≤ e.causes.length)
      (hs : List.Forall₂ ShowsNumbered e.causes.zipIdx texts) :
      Reports e ("Error: " ++ e.message ++ "\n\nCaused by:\n" ++ "\n".intercalate texts)

/-! ### Lines -/

/-- A text is determined by its lines. -/
theorem eq_of_lines_eq {a b : String} (h : Text.lines a = Text.lines b) : a = b := by
  have hinj : Function.Injective String.ofList := fun cs ds hcd => by
    rw [← String.toList_ofList (l := cs), hcd, String.toList_ofList]
  have hsplit : Text.split '\n' a.toList = Text.split '\n' b.toList :=
    List.map_injective_iff.mpr hinj h
  rw [← String.toList_inj, ← Text.join_split '\n' a.toList, hsplit, Text.join_split]

section

variable {mark margin cause text : String}

/-- The lines of a cause as it is printed. -/
theorem lines_block {first : String} {others : List String}
    (hmark : '\n' ∉ mark.toList) (hmargin : '\n' ∉ margin.toList)
    (h : Text.lines cause = first :: others) :
    Text.lines (block mark margin cause) = (mark ++ first) :: others.map (margin ++ ·) := by
  obtain ⟨line, lines, hsplit⟩ :=
    List.exists_cons_of_ne_nil (Text.split_ne_nil '\n' cause.toList)
  rw [Text.lines, hsplit] at h
  cases h
  -- Neither the marks nor the pieces of the cause hold a line feed.
  have hpiece : ∀ piece ∈ line :: lines, '\n' ∉ piece := by
    rw [← hsplit]
    exact fun piece => Text.not_mem_of_mem_split
  have hlines : ∀ l ∈ (mark.toList ++ line) :: lines.map (margin.toList ++ ·), '\n' ∉ l := by
    intro l hl
    rcases List.mem_cons.mp hl with rfl | hl
    · exact List.not_mem_append hmark (hpiece line List.mem_cons_self)
    · obtain ⟨piece, hmem, rfl⟩ := List.mem_map.mp hl
      exact List.not_mem_append hmargin (hpiece piece (List.mem_cons_of_mem _ hmem))
  rw [Text.lines, block, String.toList_ofList, hsplit, markedLines, Text.split_join hlines,
    List.map_cons, List.map_map, List.map_map]
  simp [Function.comp_def]

/-- **What is printed of a cause is the only text that shows it.** -/
theorem block_eq_iff (hmark : '\n' ∉ mark.toList) (hmargin : '\n' ∉ margin.toList) :
    block mark margin cause = text ↔ Shows mark margin cause text := by
  constructor
  · rintro rfl
    obtain ⟨first, others, h⟩ : ∃ first others, Text.lines cause = first :: others :=
      List.exists_cons_of_ne_nil fun h =>
        Text.split_ne_nil '\n' cause.toList (List.map_eq_nil_iff.mp h)
    exact .mk h (lines_block hmark hmargin h)
  · intro h
    cases h with
    | mk hc ht => exact eq_of_lines_eq ((lines_block hmark hmargin hc).trans ht.symm)

/-- The mark of a number is the only one. -/
theorem eq_numberMark_iff {i : Nat} : mark = numberMark i ↔ Numbers i mark := by
  have hrepr : Text.Decimal.text i = Nat.repr i := rfl
  constructor
  · rintro rfl
    rw [numberMark, hrepr]
    refine .mk (fun c hc => ?_) ?_
    · rw [String.toList_ofList] at hc
      exact List.eq_of_mem_replicate hc
    · rw [String.length_ofList, List.length_replicate]
  · intro h
    cases h with
    | @mk blanks hb hl =>
      have hblanks : blanks.toList = List.replicate (5 - (Nat.repr i).length) ' ' :=
        List.eq_replicate_iff.mpr ⟨hl, hb⟩
      rw [numberMark, hrepr, ← hblanks, String.ofList_toList]

/-- A mark holds blanks, digits and a colon. -/
theorem feed_not_mem_numberMark (i : Nat) : '\n' ∉ (numberMark i).toList := by
  have hdigits : '\n' ∉ Nat.toDigits 10 i := fun h =>
    absurd ((Text.Decimal.digits_written i).isDigit _ h) (by decide)
  have hblanks : '\n' ∉ List.replicate (5 - (Text.Decimal.text i).length) ' ' := fun h =>
    absurd (List.eq_of_mem_replicate h) (by decide)
  rw [numberMark, String.toList_append, String.toList_append, String.toList_ofList,
    Text.Decimal.text, String.toList_ofList]
  exact List.not_mem_append (List.not_mem_append hblanks hdigits) (by decide)

/-- A numbered cause is shown by one text. -/
theorem block_numberMark_iff {i : Nat} :
    block (numberMark i) "       " cause = text ↔ ShowsNumbered (cause, i) text := by
  rw [block_eq_iff (feed_not_mem_numberMark i) (by decide)]
  constructor
  · exact fun h => .mk (eq_numberMark_iff.mp rfl) h
  · intro h
    cases h with
    | mk hm hs => rwa [← eq_numberMark_iff.mpr hm]

end

/-! ### The whole text -/

/-- Several causes are shown one by one. -/
theorem blocks_eq_iff {causes texts : List String} (h : 2 ≤ causes.length) :
    blocks causes = texts ↔ List.Forall₂ ShowsNumbered causes.zipIdx texts := by
  have hblocks : blocks causes
      = causes.zipIdx.map fun entry => block (numberMark entry.2) "       " entry.1 := by
    cases causes with
    | nil => exact absurd h (by simp)
    | cons first causes =>
      cases causes with
      | nil => exact absurd h (by simp)
      | cons second causes => rfl
  have hshows : ShowsNumbered
      = fun entry text => block (numberMark entry.2) "       " entry.1 = text :=
    funext fun _ => funext fun _ => propext block_numberMark_iff.symm
  rw [hblocks, hshows, ← List.forall₂_eq_eq_eq, List.forall₂_map_left_iff]

/-- What is printed of a fault with causes. -/
theorem report_of_causes {fault : SessionFault} (h : fault.captured.causes ≠ []) :
    fault.report = "Error: " ++ fault.captured.message ++ "\n\nCaused by:\n"
      ++ "\n".intercalate (blocks fault.captured.causes) := by
  rw [report, if_neg (by simpa using h)]
  simp only [String.append_assoc]

/-- **What is printed of a fault is the only text that tells of its message and its causes.** -/
theorem report_eq_iff {fault : SessionFault} {text : String} :
    fault.report = text ↔ Reports fault.captured text := by
  constructor
  · -- One form for each number of causes: none, one, or several.
    rintro rfl
    match hcauses : fault.captured.causes with
    | [] =>
      have halone : fault.report = "Error: " ++ fault.captured.message := by
        rw [report, if_pos (by rw [hcauses]; rfl), String.append_empty]
      rw [halone]
      exact .alone hcauses
    | [cause] =>
      rw [report_of_causes (by rw [hcauses]; exact List.cons_ne_nil _ _), hcauses]
      exact .one hcauses ((block_eq_iff (by decide) (by decide)).mp rfl)
    | first :: second :: others =>
      have hlength : 2 ≤ fault.captured.causes.length := by
        rw [hcauses]
        simp
      rw [report_of_causes (by rw [hcauses]; exact List.cons_ne_nil _ _)]
      exact .several hlength ((blocks_eq_iff hlength).mp rfl)
  · intro h
    cases h with
    | alone h => rw [report, if_pos (by rw [h]; rfl), String.append_empty]
    | @one cause text h hs =>
      rw [report_of_causes (by rw [h]; exact List.cons_ne_nil _ _), h, blocks,
        (block_eq_iff (by decide) (by decide)).mpr hs]
      rfl
    | several h hs =>
      rw [report_of_causes (List.ne_nil_of_length_pos (by omega)), (blocks_eq_iff h).mpr hs]

end Postbox.SessionFault
