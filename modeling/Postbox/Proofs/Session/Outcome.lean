import Postbox.Proofs.Scheduler.Joining
import Postbox.Proofs.Session.Printed
import Postbox.Proofs.Session.ShowConfig

namespace Postbox.Session

/-!
# How a submission ends

A run of the command that submits ends in one of two ways: with the token that the endpoint gave,
or with a fault.  The one who waits for the task in the background is told which, and is never left
without an answer.

* `submitted_eq`, `hears` — what the one who waits for the task is told, and that it is told.
* `Returned` — the token that the submission of a run gives.
* `Tells` — the faults of the command, and what each of them tells.
* `Succeeds`, `Fails` — the two ways in which a run ends, and what is printed then.
* `submit_outcome` — every run of the command ends in one of them.
-/

/-! ### Waiting for the task -/

/-- What a continuation is told of an outcome. -/
def verdict : Turn Token → Except Failure Token
  | .gives token => .ok token
  | .fails failure => .error failure
  | .crashes payload => .error (Submission.crashed payload)

/-- If only one task shows anything, a log is what this task shows. -/
theorem log_eq_of_only {log : Log} {id : String} (h : ∀ i e, (i, e) ∈ log → i = id) :
    log = (shownBy id log).map (id, ·) := by
  induction log with
  | nil => rfl
  | cons entry log ih =>
    obtain ⟨i, e⟩ := entry
    obtain rfl : i = id := h i e List.mem_cons_self
    have hs : shownBy i ((i, e) :: log) = e :: shownBy i log := by
      rw [shownBy, List.filterMap_cons, if_pos rfl]
      rfl
    rw [hs, List.map_cons, ← ih fun j f hf => h j f (List.mem_cons_of_mem _ hf)]

/-- What a submission logs tells its verdict, and nothing else. -/
theorem told?_logged (id : String) (s : Submission) (transport : Transport) :
    told? ((s.logged transport).map (id, ·)) = some (verdict (s.outcome transport)) := by
  rw [Submission.logged]
  cases s.outcome transport <;> split <;> rfl

section

variable (s : Submission) (transport : Transport)

/-- The steps of one who schedules the task and yields so many times. -/
def scheduling (yields : Nat) : List Step :=
  .schedule taskId s.descriptor (s.body transport false false) false
    :: List.replicate yields .settle

/-- Joining the task tells how it ended, and it has shown everything then, however often its owner
    has yielded before. -/
theorem join_scheduling (yields : Nat) :
    ((Scheduler.after {} (scheduling s transport yields)).step (.join taskId)).1
        = .state (Submission.finalState (s.outcome transport))
      ∧ shownBy taskId (Scheduler.log {} (scheduling s transport yields ++ [.join taskId]))
        = s.logged transport := by
  have hreturns : (s.body transport false false).returns
      = Submission.finalState (s.outcome transport) := by
    rw [Submission.body, Submission.execute_eq]
    rfl
  -- The task is scheduled once, and yielding spares it.
  have hsteps : ∀ x ∈ scheduling s transport yields,
      x.spares taskId = true ∧ x.RunsThrough taskId
        (Submission.finalState (s.outcome transport)) (s.logged transport) := by
    intro x hx
    rcases List.mem_cons.mp hx with rfl | hx
    · exact ⟨rfl, fun _ => ⟨rfl, hreturns, s.runsThrough transport⟩⟩
    · rw [List.eq_of_mem_replicate hx]
      exact ⟨rfl, trivial⟩
  exact Scheduler.join_of_spares (fun x hx => (hsteps x hx).1) (fun x hx => (hsteps x hx).2)
    List.mem_cons_self

/-- What the task shows until it is joined is all that is shown. -/
theorem log_steps :
    Scheduler.log {} (steps s transport) = (s.logged transport).map (taskId, ·) := by
  have hshown : shownBy taskId (Scheduler.log {} (steps s transport)) = s.logged transport :=
    (join_scheduling s transport 0).2
  rw [← hshown]
  refine log_eq_of_only fun i e he => ?_
  obtain ⟨d, b, gated, hmem⟩ := Scheduler.scheduled_of_mem_log he
  rcases List.mem_cons.mp hmem with hmem | hmem
  · exact (Step.schedule.inj hmem).1
  · cases List.mem_singleton.mp hmem

/-- **The one who waits for a submission is told its verdict**, whatever the transport does. -/
theorem submitted_eq :
    submitted s transport
      = match verdict (s.outcome transport) with
        | .ok token => .ok token
        | .error failure => .error (.notSubmitted failure) := by
  have hreply : lastReply (Scheduler.run {} (steps s transport))
      = some (.state (Submission.finalState (s.outcome transport))) := by
    rw [← (join_scheduling s transport 0).1]
    rfl
  have hstate : Submission.finalState (s.outcome transport) ≠ .cancelled := by
    cases s.outcome transport <;> exact nofun
  have hlog : (Scheduler.run {} (steps s transport)).flatMap (fun a => a.2.1)
      = (s.logged transport).map (taskId, ·) := log_steps s transport
  rw [submitted, hreply, if_neg (by simpa using hstate), hlog, told?_logged]
  cases verdict (s.outcome transport) <;> rfl

/-- The one who waits for a task hears how it ended: it is not told that the task was stopped, and
    not left without a result.  However often it yields first, joining the task answers with a state
    that the body has returned, and one continuation has been called by then. -/
structure Hears : Prop where
  stopped : submitted s transport ≠ .error .cancelled
  result : submitted s transport ≠ .error .noResult
  joined : ∀ yields, ∃ state, (state = .succeeded ∨ state = .failed)
    ∧ ((Scheduler.after {} (scheduling s transport yields)).step (.join taskId)).1 = .state state
  called : ∀ yields, (shownBy taskId (Scheduler.log {} (scheduling s transport yields
    ++ [.join taskId]))).countP Event.isContinuation = 1

/-- **Whoever waits for a submission hears how it ended**, whatever the transport does. -/
theorem hears : Hears s transport where
  stopped := by
    rw [submitted_eq]
    cases verdict (s.outcome transport) <;> exact nofun
  result := by
    rw [submitted_eq]
    cases verdict (s.outcome transport) <;> exact nofun
  joined yields := by
    refine ⟨_, ?_, (join_scheduling s transport yields).1⟩
    cases s.outcome transport with
    | gives token => exact .inl rfl
    | fails failure => exact .inr rfl
    | crashes payload => exact .inr rfl
  called yields := by
    rw [(join_scheduling s transport yields).2, Submission.logged]
    cases s.outcome transport <;> split <;> rfl

end

/-! ### Runs of the command -/

/-- The run resolves to a submission that gives this token. -/
def Returned (s : Surroundings) (line : CommandLine) (token : Token) : Prop :=
  ∃ (c : Config) (title : String) (message : Option String) (fields : List (String × String)),
    Layers.resolve s.files s.environment line = .ok (c, .submit title message fields)
      ∧ (Http.submit s.network c.settings c.endpoint (Layers.form message fields)).2
        = some (.gives token)

/-- What a fault of this command tells: its message and its causes. -/
inductive Tells : SessionFault → Captured → Prop
  | notLoaded (fault : ConfigFault) :
      Tells (.notLoaded fault) ⟨"Failed to load configuration", [fault.failure.message]⟩
  | notSubmitted (failure : Failure) :
      Tells (.notSubmitted failure)
        ⟨"Failed to submit feedback", failure.message :: failure.causes⟩

/-- The session ends well, prints this token on a line, and reports no fault. -/
structure Succeeds (session : Session) (token : Token) : Prop where
  exitCode : session.exitCode = 0
  output : session.output = Text.Decimal.textInt token.val ++ "\n"
  fault : session.fault = none
  errors : session.errors = ""

/-- The session ends badly and prints nothing but the report of a fault: the message and the causes
    that the fault tells. -/
structure Fails (session : Session) : Prop where
  exitCode : session.exitCode = 1
  output : session.output = ""
  errors : ∃ fault told text, session.fault = some fault ∧ Tells fault told
    ∧ SessionFault.Reports told text ∧ session.errors = text ++ "\n"

/-- A session does not end in both ways. -/
theorem Succeeds.not_fails {session : Session} {token : Token} (h : session.Succeeds token) :
    ¬session.Fails := by
  intro hf
  have hcode : (0 : Nat) = 1 := h.exitCode.symm.trans hf.exitCode
  exact absurd hcode (by decide)

/-- A session that ends well does so whatever is left of its log. -/
theorem Succeeds.filtered {session : Session} {token : Token} (h : session.Succeeds token)
    (filter : LogFilter) : (session.filtered filter).Succeeds token :=
  ⟨h.exitCode, h.output, h.fault, h.errors⟩

/-- A session that ends badly does so whatever is left of its log. -/
theorem Fails.filtered {session : Session} (h : session.Fails) (filter : LogFilter) :
    (session.filtered filter).Fails :=
  ⟨h.exitCode, h.output, h.errors⟩

/-- What a fault tells is what is known of it. -/
theorem Tells.eq_captured {fault : SessionFault} {told : Captured} (h : Tells fault told) :
    told = fault.captured := by
  cases h <;> rfl

/-- A session that ends badly reports what its fault tells. -/
theorem fails_of_tells {session : Session} {fault : SessionFault} {told : Captured}
    (hexit : session.exitCode = 1) (houtput : session.output = "")
    (hfault : session.fault = some fault) (ht : Tells fault told) : session.Fails where
  exitCode := hexit
  output := houtput
  errors := by
    have hreports : SessionFault.Reports told fault.report := by
      rw [ht.eq_captured]
      exact SessionFault.report_eq_iff.mp rfl
    have herrors : session.errors = fault.report ++ "\n" := by rw [errors, hfault]
    exact ⟨fault, told, fault.report, hfault, ht, hreports, herrors⟩

/-- **A submission ends as its exchange does.** -/
theorem submit_ends {network : Http.Network} {c : Config} {title : String} {form : Form}
    {session : Session} (h : submit network c title form = some session) :
    ∃ outcome, (Http.submit network c.settings c.endpoint form).2 = some outcome
      ∧ match verdict outcome with
        | .ok token => session.Succeeds token
        | .error failure => session.Fails ∧ session.fault = some (.notSubmitted failure) := by
  rw [submit] at h
  obtain ⟨transport, htransport, rfl⟩ := Option.map_eq_some_iff.mp h
  -- Sending the form is what the task does between marking its progress and its continuation.
  refine ⟨(submission c title form).outcome transport, ?_, ?_⟩
  · rw [Http.submit, htransport]
    rfl
  · rw [submitted_eq]
    cases verdict ((submission c title form).outcome transport) with
    | ok token => exact ⟨rfl, rfl, rfl, rfl⟩
    | error failure => exact ⟨fails_of_tells rfl rfl rfl (.notSubmitted failure), rfl⟩

/-- The command that submits resolves to a submission, if to anything. -/
theorem exists_submit_of_resolve {files : Config.Files} {env : Config.Environment}
    {line : CommandLine} {o : SubmitOptions} {c : Config} {mode : Mode}
    (hline : line.command = .submit o) (h : Layers.resolve files env line = .ok (c, mode)) :
    ∃ fields, mode = .submit o.title o.message fields := by
  rw [Layers.resolve, hline] at h
  split at h
  · cases h
  · dsimp only at h
    split at h
    · cases h
    · next fields _ =>
      cases h
      exact ⟨fields, rfl⟩

section

variable {s : Surroundings} {line : CommandLine}

/-- Whether a run returns a token is a matter of the verdict on what its submission comes to. -/
theorem returned_iff {c : Config} {title : String} {message : Option String}
    {fields : List (String × String)} {outcome : Turn Token} {token : Token}
    (hresolve : Layers.resolve s.files s.environment line = .ok (c, .submit title message fields))
    (h : (Http.submit s.network c.settings c.endpoint (Layers.form message fields)).2
      = some outcome) :
    Returned s line token ↔ verdict outcome = .ok token := by
  constructor
  · rintro ⟨c', title', message', fields', hresolve', hgives⟩
    rw [hresolve] at hresolve'
    cases hresolve'
    rw [h] at hgives
    cases hgives
    rfl
  · intro hv
    refine ⟨c, title, message, fields, hresolve, ?_⟩
    cases outcome with
    | gives token' =>
      cases hv
      exact h
    | fails failure => cases hv
    | crashes payload => cases hv

/-- A run that resolves to nothing returns no token. -/
theorem not_returned_of_error {fault : ConfigFault} {token : Token}
    (hresolve : Layers.resolve s.files s.environment line = .error fault) :
    ¬Returned s line token := by
  rintro ⟨c, title, message, fields, h, -⟩
  rw [hresolve] at h
  cases h

/-- What holds of every session of the command: it ends with a token or with a fault, the fault is
    not that the task was stopped or left no result, and if nothing was resolved no request is
    sent. -/
structure Ends (s : Surroundings) (line : CommandLine) (session : Session) : Prop where
  way : (∃ token, Returned s line token ∧ session.Succeeds token)
    ∨ session.Fails ∧ ∀ token, ¬Returned s line token
  stopped : session.fault ≠ some .cancelled
  result : session.fault ≠ some .noResult
  unresolved : ∀ fault, Layers.resolve s.files s.environment line = .error fault →
    session.requests = [] ∧ session.fault = some (.notLoaded fault)

/-- A session that resolves to nothing ends with the fault. -/
theorem ends_of_error {fault : ConfigFault}
    (hresolve : Layers.resolve s.files s.environment line = .error fault) :
    Ends s line (failed (.notLoaded fault)) where
  way := .inr ⟨fails_of_tells rfl rfl rfl (.notLoaded fault),
    fun _ => not_returned_of_error hresolve⟩
  stopped h := by cases h
  result h := by cases h
  unresolved fault' h := by
    cases hresolve.symm.trans h
    exact ⟨rfl, rfl⟩

/-- A session that resolves to a submission ends as that does. -/
theorem ends_of_ok {c : Config} {title : String} {message : Option String}
    {fields : List (String × String)} {session : Session}
    (hresolve : Layers.resolve s.files s.environment line = .ok (c, .submit title message fields))
    (h : submit s.network c title (Layers.form message fields) = some session) :
    Ends s line session := by
  obtain ⟨outcome, houtcome, hends⟩ := submit_ends h
  have hreturned : ∀ token, Returned s line token ↔ verdict outcome = .ok token :=
    fun _ => returned_iff hresolve houtcome
  have hunresolved : ∀ fault, Layers.resolve s.files s.environment line = .error fault →
      session.requests = [] ∧ session.fault = some (.notLoaded fault) := by
    intro fault h
    cases hresolve.symm.trans h
  cases hv : verdict outcome with
  | ok token =>
    rw [hv] at hends
    refine ⟨.inl ⟨token, (hreturned token).mpr hv, hends⟩, ?_, ?_, hunresolved⟩
    · intro h
      cases hends.fault.symm.trans h
    · intro h
      cases hends.fault.symm.trans h
  | error failure =>
    rw [hv] at hends
    obtain ⟨hfails, hfault⟩ := hends
    refine ⟨.inr ⟨hfails, ?_⟩, ?_, ?_, hunresolved⟩
    · intro token h
      cases hv.symm.trans ((hreturned token).mp h)
    · intro h
      cases hfault.symm.trans h
    · intro h
      cases hfault.symm.trans h

/-- Every session of the command ends, however it is resolved. -/
theorem ends_of_ofCommandLine {o : SubmitOptions} {session : Session}
    (hline : line.command = .submit o) (h : ofCommandLine s line = some session) :
    Ends s line session := by
  rw [ofCommandLine] at h
  cases hresolve : Layers.resolve s.files s.environment line with
  | error fault =>
    rw [hresolve] at h
    cases h
    exact ends_of_error hresolve
  | ok resolved =>
    obtain ⟨c, mode⟩ := resolved
    obtain ⟨fields, rfl⟩ := exists_submit_of_resolve hline hresolve
    rw [hresolve] at h
    exact ends_of_ok hresolve h

end

/-- **A submission ends with its token or with a fault.**  Every run of the command that ends does
    so in exactly one of two ways: it prints the token that the submission gave, on a line, and
    reports no fault, or the submission gave none, and the message and the causes of a fault are
    reported and nothing else is printed.  The fault is never that the task was stopped or left no
    result: whoever waits for a submission hears how it ended, whatever its transport does.  If the
    configuration cannot be resolved, no request is sent. -/
theorem submit_outcome {s : Surroundings} {args : List String} {line : CommandLine}
    {o : SubmitOptions} {session : Session} (hargs : CommandLine.parse args = .ok line)
    (hline : line.command = .submit o) (hrun : run s args = some session) :
    ((∃ token, Returned s line token ∧ session.Succeeds token) ∧ ¬session.Fails
        ∨ session.Fails ∧ ∀ token, ¬Returned s line token ∧ ¬session.Succeeds token)
      ∧ session.fault ≠ some .cancelled ∧ session.fault ≠ some .noResult
      ∧ (∀ (task : Submission) (transport : Transport), Hears task transport)
      ∧ ∀ fault, Layers.resolve s.files s.environment line = .error fault →
        session.requests = [] ∧ session.fault = some (.notLoaded fault) := by
  rw [run_eq hargs] at hrun
  obtain ⟨unfiltered, hsession, rfl⟩ := Option.map_eq_some_iff.mp hrun
  have hends := ends_of_ofCommandLine hline hsession
  refine ⟨?_, hends.stopped, hends.result, hears, hends.unresolved⟩
  -- The filter only takes lines out of the log.
  rcases hends.way with ⟨token, hreturned, hsucceeds⟩ | ⟨hfails, hnone⟩
  · exact .inl ⟨⟨token, hreturned, hsucceeds.filtered _⟩, (hsucceeds.filtered _).not_fails⟩
  · refine .inr ⟨hfails.filtered _, fun token => ⟨hnone token, fun hsucceeds => ?_⟩⟩
    exact hsucceeds.not_fails (hfails.filtered _)

/-- Everything that arrives on this network is the token 42, and nothing else is configured. -/
def answered : Surroundings where
  environment _ := none
  files _ := .error .missing
  network :=
    { systemProxy := fun _ => none
      arrival := fun _ _ =>
        .stream (Text.Utf8.encode "HTTP/1.1 200 OK\r\nContent-Length: 2\r\n\r\n42".toList)
          .closed }

/-- One submission gets through there; another one has a field without a value. -/
theorem submit_outcome_answered :
    (∃ session, run answered ["submit", "--endpoint", "http://[::1]/"] = some session
        ∧ session.exitCode = 0 ∧ session.output = "42\n" ∧ session.errors = "")
      ∧ ∃ session, run answered ["submit", "--field", "note"] = some session
        ∧ session.requests = [] ∧ session.fault = some (.notLoaded (.badField "note"))
        ∧ session.exitCode = 1 ∧ session.output = ""
        ∧ session.errors = "Error: Failed to load configuration\n\nCaused by:\n"
          ++ "    Invalid feedback configuration: Invalid field 'note', expected key=value\n" := by
  have hargs : CommandLine.parse ["submit", "--endpoint", "http://[::1]/"]
      = .ok ⟨"info", none, .submit { endpoint := some "http://[::1]/" }⟩ := by decide +kernel
  have hargs' : CommandLine.parse ["submit", "--field", "note"]
      = .ok ⟨"info", none, .submit { fields := ["note"] }⟩ := by decide +kernel
  obtain ⟨session, hrun⟩ : ∃ session,
      run answered ["submit", "--endpoint", "http://[::1]/"] = some session :=
    Option.isSome_iff_exists.mp (by decide +kernel)
  obtain ⟨session', hrun'⟩ : ∃ session, run answered ["submit", "--field", "note"] = some session :=
    Option.isSome_iff_exists.mp (by decide +kernel)
  have hreturned : ∀ token, Returned answered
      ⟨"info", none, .submit { endpoint := some "http://[::1]/" }⟩ token
        ↔ verdict (.gives ⟨42, by decide⟩) = .ok token :=
    fun _ => returned_iff rfl (by decide +kernel)
  obtain ⟨hends, -⟩ := submit_outcome hargs rfl hrun
  obtain ⟨hends', -, -, -, hnothing⟩ := submit_outcome hargs' rfl hrun'
  refine ⟨⟨session, hrun, ?_⟩, session', hrun', ?_⟩
  · rcases hends with ⟨⟨token, htoken, hs⟩, -⟩ | ⟨-, hnone⟩
    · cases (hreturned token).mp htoken
      exact ⟨hs.exitCode, hs.output, hs.errors⟩
    · exact absurd ((hreturned _).mpr rfl) (hnone _).1
  · obtain ⟨hrequests, hfault⟩ := hnothing (.badField "note") rfl
    refine ⟨hrequests, hfault, ?_⟩
    rcases hends' with ⟨⟨token, htoken, -⟩, -⟩ | ⟨hf, -⟩
    · exact absurd htoken (not_returned_of_error rfl)
    · refine ⟨hf.exitCode, hf.output, ?_⟩
      rw [errors, hfault]
      decide +kernel

end Postbox.Session
