import Postbox.Proofs.Form.Insertion
import Postbox.Proofs.Form.RoundTrip
import Postbox.Proofs.Session.Outcome

namespace Postbox

/-!
# From the entries of a command line to the body of a request

A submission takes its form from the text of the command line, as a report, and from the entries
`name=value` that go over it.  All entries are taken, or none.  An entry with the name of a field of
the report gives that field its value where it stands; the others follow in the order in which their
names come first, each with the value that comes last.

* `Layers.IsEntry`, `Layers.Splits` — an entry with a name, and its two parts.
* `Layers.fields_of_isEntry`, `Layers.fields_of_firstOffending` — all entries are taken, or the
  first that is none is named.
* `Layers.formNames`, `Layers.formValue` — what the form of a submission holds, and
  `Layers.toList_form` that it does.
* `Session.entries_sent` — the whole way, up to what a reader of the request makes of it.
-/

namespace Layers

/-! ### One entry -/

/-- The entry has a `=`, and something before it. -/
def IsEntry (entry : String) : Prop := '=' ∈ entry.toList ∧ entry.toList.head? ≠ some '='

/-- The entry is this name and this value, and the first `=` of it stands between them. -/
structure Splits (entry : String) (f : String × String) : Prop where
  whole : entry = f.1 ++ "=" ++ f.2
  first : '=' ∉ f.1.toList
  named : f.1 ≠ ""

/-- A field is read where the entry is cut. -/
theorem splits_of_field? {entry : String} {f : String × String} (h : field? entry = some f) :
    Splits entry f := by
  rw [field?] at h
  split at h
  · next c cs value hcut =>
    obtain ⟨happend, hfirst⟩ := Text.eq_append_of_cut? hcut
    cases h
    refine ⟨?_, by rwa [String.toList_ofList], fun hnil => ?_⟩
    · rw [← String.toList_inj, happend]
      simp
    · have hlist := congrArg String.toList hnil
      rw [String.toList_ofList] at hlist
      exact List.cons_ne_nil c cs hlist
  · cases h

/-- No field is read exactly where there is no name or no `=`. -/
theorem field?_eq_none_iff {entry : String} : field? entry = none ↔ ¬IsEntry entry := by
  rw [field?, IsEntry]
  cases hcut : Text.cut? '=' entry.toList with
  | none => simp [Text.cut?_eq_none_iff.mp hcut]
  | some parts =>
    obtain ⟨name, value⟩ := parts
    obtain ⟨happend, hfirst⟩ := Text.eq_append_of_cut? hcut
    rw [happend]
    cases name with
    | nil => simp
    | cons c cs =>
      rw [List.mem_cons, not_or] at hfirst
      simp [Ne.symm hfirst.1]

/-! ### All entries -/

/-- The entry is the first of these that is none. -/
def FirstOffending (entries : List String) (entry : String) : Prop :=
  ∃ before after, entries = before ++ entry :: after
    ∧ (∀ e ∈ before, IsEntry e) ∧ ¬IsEntry entry

/-- If not all are entries, there is a first one that is none. -/
theorem exists_firstOffending {entries : List String} (h : ¬∀ e ∈ entries, IsEntry e) :
    ∃ entry, FirstOffending entries entry := by
  induction entries with
  | nil => exact absurd (fun _ he => absurd he List.not_mem_nil) h
  | cons e entries ih =>
    by_cases he : IsEntry e
    · obtain ⟨entry, before, after, rfl, hbefore, hentry⟩ :=
        ih fun hall => h (List.forall_mem_cons.mpr ⟨he, hall⟩)
      exact ⟨entry, e :: before, after, rfl, List.forall_mem_cons.mpr ⟨he, hbefore⟩, hentry⟩
    · exact ⟨e, [], entries, rfl, fun _ hmem => absurd hmem List.not_mem_nil, he⟩

theorem fields_cons {entry : String} {f : String × String} (h : field? entry = some f)
    (entries : List String) : fields (entry :: entries) = (fields entries).map (f :: ·) := by
  rw [fields, h]

theorem exists_field? {entry : String} (h : IsEntry entry) : ∃ f, field? entry = some f :=
  Option.ne_none_iff_exists'.mp fun hnone => field?_eq_none_iff.mp hnone h

/-- If all are entries, all are taken, each split at its first `=`. -/
theorem fields_of_isEntry {entries : List String} (h : ∀ e ∈ entries, IsEntry e) :
    ∃ fs, fields entries = .ok fs ∧ List.Forall₂ Splits entries fs := by
  induction entries with
  | nil => exact ⟨[], rfl, .nil⟩
  | cons e entries ih =>
    rw [List.forall_mem_cons] at h
    obtain ⟨f, hf⟩ := exists_field? h.1
    obtain ⟨fs, hfs, hsplits⟩ := ih h.2
    exact ⟨f :: fs, by rw [fields_cons hf, hfs]; rfl, .cons (splits_of_field? hf) hsplits⟩

/-- If one is none, the first such is named, whatever follows it. -/
theorem fields_of_firstOffending {entries : List String} {entry : String}
    (h : FirstOffending entries entry) : fields entries = .error (.badField entry) := by
  obtain ⟨before, after, rfl, hbefore, hentry⟩ := h
  induction before with
  | nil => rw [List.nil_append, fields, field?_eq_none_iff.mpr hentry]
  | cons e before ih =>
    rw [List.forall_mem_cons] at hbefore
    obtain ⟨f, hf⟩ := exists_field? hbefore.1
    rw [List.cons_append, fields_cons hf, ih hbefore.2]
    rfl

/-! ### The form -/

/-- The names in the form: those of a report in their order, and then the other names of the entries
    in the order in which they come first. -/
def formNames (reported : List Field) (fs : List (String × String)) : List String :=
  let fixed := reported.map Prod.fst
  fixed ++ ((fs.map Prod.fst).removeAll fixed).eraseDups

/-- The value of a name in the form: that of the last entry for it, or else that of the report. -/
def formValue (reported : List Field) (fs : List (String × String)) (key : String) :
    Option String :=
  (fs.reverse.lookup key).or (Field.lookup key reported).join

/-- The fields of the report that a text makes; without a text there are none. -/
def reported (message : Option String) : List Field :=
  (message.map fun m => (Report.ofMessage m).fields).getD []

/-- The names of a report are different. -/
theorem nodup_reported (message : Option String) : ((reported message).map Prod.fst).Nodup := by
  cases message with
  | none => exact List.nodup_nil
  | some m => exact (Report.ofMessage m).nodup_fields

/-- The entries go over the form of the report, if there is one. -/
theorem form_eq (message : Option String) (fs : List (String × String)) :
    form message fs
      = (Form.ofList (reported message)).insertMany (fs.map fun f => (f.1, some f.2)) := by
  cases message <;> rfl

/-- **The form of a submission** holds each name once, with its value. -/
theorem toList_form (message : Option String) (fs : List (String × String)) :
    (form message fs).toList
      = (formNames (reported message) fs).map fun key =>
        (key, formValue (reported message) fs key) := by
  have hreport := Form.toList_ofList (nodup_reported message)
  have hkeys : (form message fs).keys = formNames (reported message) fs := by
    rw [form_eq, Form.keys_insertMany, List.map_map, Form.keys]
    show (List.map Prod.fst (Form.ofList (reported message)).toList)
      ++ ((fs.map Prod.fst).removeAll (List.map Prod.fst (Form.ofList _).toList)).eraseDups = _
    rw [hreport]
    rfl
  have hvalue (key : String) :
      ((form message fs).get? key).join = formValue (reported message) fs key := by
    rw [form_eq, Form.get?_insertMany, ← List.map_reverse, Field.lookup_map_some]
    show (Option.or _ (Field.lookup key (Form.ofList _).toList)).join = _
    rw [hreport, formValue]
    cases fs.reverse.lookup key <;> rfl
  rw [Form.toList_eq_map_keys, hkeys]
  exact List.map_congr_left fun key _ => by rw [hvalue]

/-- An entry for a field of the report takes its place, and the last one for a name counts. -/
example : (form (some "boom") [("note", "1"), ("error.stacktrace", "at x"), ("note", "2")]).toList
    = [("error.message", some "boom"), ("error.stacktrace", some "at x"),
      ("error.description", none), ("plugin.version", none), ("os.name", some "linux"),
      ("os.arch", some "x86_64"), ("reporter.version", some "0.1.0"), ("last.action", none),
      ("note", some "2")] := by
  decide

/-! ### Resolving -/

section

variable {files : Config.Files} {env : Config.Environment} {level : String} {path : Option String}
  {o : SubmitOptions} {c : Config}

/-- A fault of the file comes first, whatever the environment and the command are. -/
theorem resolve_of_base_error (line : CommandLine) {fault : ConfigFault}
    (h : base files line.configPath = .error fault) : resolve files env line = .error fault := by
  rw [resolve, h]

/-- If all are entries, the submission gets the fields that they split into. -/
theorem resolve_of_isEntry (hc : base files path = .ok c) (h : ∀ e ∈ o.fields, IsEntry e) :
    ∃ fs, List.Forall₂ Splits o.fields fs
      ∧ resolve files env ⟨level, path, .submit o⟩
        = .ok (override (c.applyEnvironment env) o, .submit o.title o.message fs) := by
  obtain ⟨fs, hfs, hsplits⟩ := fields_of_isEntry h
  exact ⟨fs, hsplits, by simp only [resolve, hc, hfs]⟩

/-- If one is none, nothing is resolved. -/
theorem resolve_of_firstOffending (hc : base files path = .ok c) {entry : String}
    (h : FirstOffending o.fields entry) :
    resolve files env ⟨level, path, .submit o⟩ = .error (.badField entry) := by
  simp only [resolve, hc, fields_of_firstOffending h]

/-- A submission is resolved exactly if its base is and all its entries have a name. -/
theorem resolves_iff :
    (∃ r, resolve files env ⟨level, path, .submit o⟩ = .ok r)
      ↔ (∃ c, base files path = .ok c) ∧ ∀ e ∈ o.fields, IsEntry e := by
  constructor
  · rintro ⟨r, hr⟩
    cases hc : base files path with
    | error fault =>
      rw [resolve_of_base_error ⟨level, path, .submit o⟩ hc] at hr
      cases hr
    | ok c =>
      refine ⟨⟨c, rfl⟩, ?_⟩
      by_contra hall
      obtain ⟨entry, hentry⟩ := exists_firstOffending hall
      rw [resolve_of_firstOffending hc hentry] at hr
      cases hr
  · rintro ⟨⟨c, hc⟩, hall⟩
    obtain ⟨fs, -, hr⟩ := resolve_of_isEntry hc hall
    exact ⟨_, hr⟩

end

end Layers

namespace Session

/-! ### The request -/

/-- The task of a submission hands this request to its transport. -/
def Hands (s : Submission) (transport : Transport) (request : Request) : Prop :=
  (taskId, .sending request) ∈ Scheduler.log {} (steps s transport)

/-- One request is handed over if a connection is opened, and it carries the form. -/
theorem hands_iff {s : Submission} {transport : Transport} {request : Request} :
    Hands s transport request
      ↔ transport.opens s.endpoint = .gives () ∧ request = s.request := by
  rw [Hands, log_steps, Submission.logged]
  by_cases h : transport.opens s.endpoint = .gives ()
  · rw [if_pos h]
    cases s.outcome transport <;> simp [h, Submission.continuation]
  · rw [if_neg h]
    cases s.outcome transport <;> simp [h, Submission.continuation]

/-- What a reader of the request makes of its body are the fields of the form. -/
theorem decode_request (s : Submission) :
    (Text.Utf8.decode? s.request.body).map Encoding.decode
      = some (s.form.toList.map Field.pair) := by
  show (Text.Utf8.decode? (Text.Utf8.encode s.form.body.toList)).map _ = _
  rw [Text.Utf8.decode?_encode, Option.map_some, Form.toList_body, Encoding.decode_encode]

/-- **The entries of a command line reach the endpoint as they were meant.**  Once the base of the
    configuration is there, a submission is resolved exactly if each of its entries has a `=` and a
    name before it; otherwise the fault names the first entry that has not.

    Each entry is then split at its first `=`.  The form holds the eight fields of a report if there
    is a text, each in its place, and behind them the other names in the order in which they come
    first; each has the value of the last entry for it, or else that of the report.  The task hands
    a request over if its transport opens a connection, and what a reader makes of the body of any
    request that is handed over are these names and values, a missing value as the empty one. -/
theorem entries_sent (files : Config.Files) (env : Config.Environment) (level : String)
    (path : Option String) (o : SubmitOptions) :
    ((∃ r, Layers.resolve files env ⟨level, path, .submit o⟩ = .ok r)
        ↔ (∃ c, Layers.base files path = .ok c) ∧ ∀ e ∈ o.fields, Layers.IsEntry e)
      ∧ (∀ c fault, Layers.base files path = .ok c →
        Layers.resolve files env ⟨level, path, .submit o⟩ = .error fault →
        ∃ entry, Layers.FirstOffending o.fields entry
          ∧ fault.failure = .config ("Invalid field '" ++ entry ++ "', expected key=value"))
      ∧ ∀ c mode, Layers.resolve files env ⟨level, path, .submit o⟩ = .ok (c, mode) →
        ∃ fs reported, mode = .submit o.title o.message fs
          ∧ List.Forall₂ Layers.Splits o.fields fs
          ∧ (o.message = none → reported = [])
          ∧ (∀ m, o.message = some m → reported
            = [("error.message", some m), ("error.stacktrace", none), ("error.description", none),
              ("plugin.version", none), ("os.name", some origin.osName),
              ("os.arch", some origin.osArch), ("reporter.version", some origin.reporterVersion),
              ("last.action", none)])
          ∧ (Layers.form o.message fs).toList
            = (Layers.formNames reported fs).map
              (fun key => (key, Layers.formValue reported fs key))
          ∧ ∀ transport : Transport,
            (transport.opens c.endpoint = .gives () → ∃ request,
              Hands (submission c o.title (Layers.form o.message fs)) transport request)
            ∧ ∀ request,
              Hands (submission c o.title (Layers.form o.message fs)) transport request →
              (Text.Utf8.decode? request.body).map Encoding.decode
                = some ((Layers.formNames reported fs).map
                  fun key => (key, (Layers.formValue reported fs key).getD "")) := by
  refine ⟨Layers.resolves_iff, fun c fault hc hr => ?_, fun c mode hr => ?_⟩
  · -- Behind a file that can be read, only an entry can be at fault.
    have hall : ¬∀ e ∈ o.fields, Layers.IsEntry e := by
      intro hall
      obtain ⟨r, hok⟩ := Layers.resolves_iff.mpr ⟨⟨c, hc⟩, hall⟩
      cases hok.symm.trans hr
    obtain ⟨entry, hentry⟩ := Layers.exists_firstOffending hall
    cases (Layers.resolve_of_firstOffending hc hentry).symm.trans hr
    exact ⟨entry, hentry, rfl⟩
  · -- What was resolved is what the entries split into.
    obtain ⟨⟨b, hb⟩, hall⟩ := Layers.resolves_iff.mp ⟨_, hr⟩
    obtain ⟨fs, hsplits, hok⟩ := Layers.resolve_of_isEntry hb hall
    cases hok.symm.trans hr
    refine ⟨fs, Layers.reported o.message, rfl, hsplits, ?_, ?_, Layers.toList_form _ _,
      fun transport => ⟨fun hopens => ?_, ?_⟩⟩
    · intro hnone
      rw [hnone]
      rfl
    · intro m hsome
      rw [hsome]
      rfl
    · exact ⟨_, hands_iff.mpr ⟨hopens, rfl⟩⟩
    · intro request hhands
      rw [(hands_iff.mp hhands).2, decode_request]
      show some ((Layers.form o.message fs).toList.map Field.pair) = _
      rw [Layers.toList_form, List.map_map]
      rfl

end Session

end Postbox
