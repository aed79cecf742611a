import Postbox.Proofs.Form.Insertion
import Postbox.Proofs.Form.RoundTrip
import Postbox.Report

namespace Postbox

/-!
# What a receiver learns of an error

The report of an error names its causes in one field, a line for each.  As long as no cause has a
line feed of its own, the lines are as many as the causes, and each of them is one cause behind the
same words; so whoever reads the body of the report finds the text of the error and of each cause,
in their order.

* `Text.lines` — the lines of a text.
* `Report.lines_trace` — the lines of a trace are the causes.
* `Report.Conveys` — the fields that a reader of a report finds, and what they say of the error.
* `Report.body_conveys` — the body of the report of any error, and of any failure, conveys it.
-/

/-- The lines of a text, which line feeds separate. -/
def Text.lines (text : String) : List String := (Text.split '\n' text.toList).map String.ofList

namespace Report

/-! ### The trace -/

/-- A cause is named behind these words. -/
theorem ofList_causeLine (cause : String) :
    String.ofList (causeLine cause) = "Caused by: " ++ cause := by
  rw [← String.toList_inj, String.toList_ofList, String.toList_append]
  rfl

/-- The line of a cause has no line feed if the cause has none. -/
theorem feed_not_mem_causeLine {cause : String} (h : '\n' ∉ cause.toList) :
    '\n' ∉ causeLine cause := by
  unfold causeLine
  simp [h]

theorem causeLine_ne_nil (cause : String) : causeLine cause ≠ [] := by
  unfold causeLine
  simp

/-- **The lines of a trace are the causes**, each behind the same words. -/
theorem lines_trace {causes : List String} (hne : causes ≠ [])
    (h : ∀ c ∈ causes, '\n' ∉ c.toList) :
    Text.lines ((trace causes).getD "") = causes.map ("Caused by: " ++ ·) := by
  obtain ⟨c, cs, rfl⟩ := List.exists_cons_of_ne_nil hne
  have hline : ∀ line ∈ (c :: cs).map causeLine, '\n' ∉ line := by
    intro line hmem
    obtain ⟨d, hd, rfl⟩ := List.mem_map.mp hmem
    exact feed_not_mem_causeLine (h d hd)
  -- The trace is joined at line feeds, so it comes apart where it was put together.
  have hsplit : Text.split '\n' (Text.join '\n' ((c :: cs).map causeLine))
      = (c :: cs).map causeLine := Text.split_join hline
  rw [trace_cons, Option.getD_some, Text.lines, String.toList_ofList, hsplit, List.map_map]
  exact List.map_congr_left fun d _ => ofList_causeLine d

/-- A cause leaves a trace, even one without a text. -/
theorem trace_getD_eq_empty_iff {causes : List String} :
    (trace causes).getD "" = "" ↔ causes = [] := by
  constructor
  · intro h
    cases causes with
    | nil => rfl
    | cons c cs =>
      have hnil : Text.join '\n' ((c :: cs).map causeLine) = [] := by
        rw [← String.toList_inj, trace_cons, Option.getD_some, String.toList_ofList] at h
        exact h
      -- The first line alone has the words in front of its cause.
      cases cs with
      | nil => exact absurd hnil (causeLine_ne_nil c)
      | cons d ds =>
        rw [List.map_cons, List.map_cons, Text.join_cons_cons] at hnil
        exact absurd (List.append_eq_nil_iff.mp hnil).1 (causeLine_ne_nil c)
  · rintro rfl
    rfl

/-! ### The body -/

/-- What a reader finds in the body of a report is its fields, a missing value as the empty one. -/
theorem decode_body (report : Report) :
    Encoding.decode report.form.body.toList = report.fields.map Field.pair := by
  have hfields : report.form.toList = report.fields := Form.toList_ofList report.nodup_fields
  rw [Form.toList_body, hfields, Encoding.decode_encode]

/-- The pairs that a reader finds tell of this error: they are the eight fields in their order, with
    its text in the first; its trace is empty exactly if it has no causes, and has one line for each
    of them otherwise, in their order. -/
structure Conveys (error : Captured) (pairs : List (String × String)) : Prop where
  fields : ∃ trace, pairs
    = [("error.message", error.message), ("error.stacktrace", trace), ("error.description", ""),
      ("plugin.version", ""), ("os.name", origin.osName), ("os.arch", origin.osArch),
      ("reporter.version", origin.reporterVersion), ("last.action", "")]
    ∧ (trace = "" ↔ error.causes = [])
    ∧ (error.causes ≠ [] → Text.lines trace = error.causes.map ("Caused by: " ++ ·))

/-- No other error is conveyed by the same pairs. -/
theorem Conveys.unique {a b : Captured} {pairs : List (String × String)} (ha : Conveys a pairs)
    (hb : Conveys b pairs) : a = b := by
  obtain ⟨trace, hpairs, hempty, hlines⟩ := ha.fields
  obtain ⟨trace', hpairs', hempty', hlines'⟩ := hb.fields
  have heq := hpairs.symm.trans hpairs'
  simp only [List.cons.injEq, Prod.mk.injEq, true_and, and_true] at heq
  obtain ⟨hmessage, rfl⟩ := heq
  have hcauses : a.causes = b.causes := by
    by_cases hnone : a.causes = []
    · rw [hnone, hempty'.mp (hempty.mpr hnone)]
    · have hsome : b.causes ≠ [] := fun h => hnone (hempty.mp (hempty'.mpr h))
      -- The words in front are the same in every line, so the lines tell the causes apart.
      have hmark : Function.Injective ("Caused by: " ++ · : String → String) := by
        intro c d hcd
        have hlist := congrArg String.toList hcd
        simp only [String.toList_append, List.append_cancel_left_eq, String.toList_inj] at hlist
        exact hlist
      exact List.map_injective_iff.mpr hmark ((hlines hnone).symm.trans (hlines' hsome))
  cases a
  cases b
  simp only at hmessage hcauses
  rw [hmessage, hcauses]

/-- The body of the report of an error conveys it. -/
theorem conveys_ofCaptured {error : Captured} (h : ∀ c ∈ error.causes, '\n' ∉ c.toList) :
    Conveys error (Encoding.decode (ofCaptured error).form.body.toList) where
  fields := by
    refine ⟨(trace error.causes).getD "", ?_, trace_getD_eq_empty_iff, fun hne => lines_trace hne h⟩
    rw [decode_body]
    rfl

/-- Only an unforeseen failure has causes. -/
theorem causes_eq_nil_of_ne_unknown {failure : Failure}
    (h : ∀ outermost inner, failure ≠ .unknown outermost inner) : failure.causes = [] := by
  cases failure with
  | unknown outermost inner => exact absurd rfl (h outermost inner)
  | transport | protocol | malformedResponse | config => rfl

/-- **The receiver of a report recovers the chain of causes.**  If no cause of an error has a line
    feed in its text, then what a reader finds in the body of its report are the eight fields in
    their order, the text of the error in the first; and in the second a line for each cause, in
    the order of the chain, or nothing if there is none.  So two such errors whose reports have the
    same body are the same.

    An unforeseen failure is told by its outermost text, and its chain begins with that text again;
    every other failure has no trace. -/
theorem body_conveys :
    (∀ error : Captured, (∀ c ∈ error.causes, '\n' ∉ c.toList) →
      Conveys error (Encoding.decode (ofCaptured error).form.body.toList)
      ∧ ∀ other : Captured, (∀ c ∈ other.causes, '\n' ∉ c.toList) →
        (ofCaptured error).form.body = (ofCaptured other).form.body → error = other)
    ∧ (∀ outermost inner, (∀ c ∈ outermost :: inner, '\n' ∉ c.toList) →
      Conveys ⟨"Unknown error: " ++ outermost, outermost :: inner⟩
        (Encoding.decode
          (ofCaptured (Failure.unknown outermost inner).captured).form.body.toList))
    ∧ ∀ failure : Failure, (∀ outermost inner, failure ≠ .unknown outermost inner) →
      (ofCaptured failure.captured).stackTrace = none
      ∧ Conveys ⟨failure.message, []⟩
        (Encoding.decode (ofCaptured failure.captured).form.body.toList) := by
  -- A failure conveys what is captured of it; only an unforeseen one has causes.
  refine ⟨fun error h => ⟨conveys_ofCaptured h, fun other hother hbody => ?_⟩, ?_, ?_⟩
  · have hconveys : Conveys error (Encoding.decode (ofCaptured other).form.body.toList) :=
      hbody ▸ conveys_ofCaptured h
    exact hconveys.unique (conveys_ofCaptured hother)
  · intro outermost inner h
    have hcauses : ∀ c ∈ (Failure.unknown outermost inner).captured.causes, '\n' ∉ c.toList := h
    exact conveys_ofCaptured hcauses
  · intro failure h
    have hcaptured : failure.captured = ⟨failure.message, []⟩ := by
      rw [Failure.captured, causes_eq_nil_of_ne_unknown h]
    rw [hcaptured]
    exact ⟨rfl, conveys_ofCaptured (by simp)⟩

/-- An unforeseen failure whose second cause has no text. -/
theorem body_conveys_boom :
    (∀ c ∈ ["boom", "", "disk full"], '\n' ∉ c.toList)
      ∧ Conveys ⟨"Unknown error: boom", ["boom", "", "disk full"]⟩
        (Encoding.decode
          (ofCaptured (Failure.unknown "boom" ["", "disk full"]).captured).form.body.toList) := by
  have h : ∀ c ∈ ["boom", "", "disk full"], '\n' ∉ c.toList := by decide
  exact ⟨h, body_conveys.2.1 "boom" ["", "disk full"] h⟩

end Report

end Postbox
