import Postbox.Body
import Postbox.Proofs.Token.Answer

namespace Postbox

/-!
# What a submission does

The trace of a submission, whatever its transport does: the progress is marked, the connection is
asked for, the request is handed over if there is a connection, and one continuation is called.
Which one, and with what, is a matter of the two turns of the transport and of the answer.

* `Submission.request` — the one request that a submission may send.
* `Accepts`, `Refuses` — the transport and the answer lead to a token, or to a failure.
* `Submission.trace` — all that a submission does, up to the call of its continuation.
* `Submission.execute_exactly` — a submission follows this trace, and succeeds or fails
  accordingly.
-/

/-- What a crash says of itself. -/
def Payload.described : Payload → String
  | .text said => said
  | .other => "non-string panic payload"

/-! ### Kinds of events -/

/-- Whether a connection is asked for. -/
def Event.isOpening : Event → Bool
  | .opening _ => true
  | _ => false

/-- Whether a request is handed over. -/
def Event.isSending : Event → Bool
  | .sending _ => true
  | _ => false

/-- Whether a continuation is called. -/
def Event.isContinuation : Event → Bool
  | .success _ | .failure _ => true
  | _ => false

/-! ### What the transport and the answer amount to -/

/-- The request is answered with a status of success and a token. -/
inductive Accepts (transport : Transport) (endpoint : String) (request : Request) : Token → Prop
  | answered {r : Response} {t : Token} (opened : transport.opens endpoint = .gives ())
      (sent : transport.sends endpoint request = .gives r)
      (status : 200 ≤ r.status ∧ r.status ≤ 299) (token : Token.read? r.body = some t) :
      Accepts transport endpoint request t

/-- The request comes to one of the failures: the transport's own, its crash, an answer with
    another status, or an answer without a token. -/
inductive Refuses (transport : Transport) (endpoint : String) (request : Request) :
    Failure → Prop
  | unopened {f : Failure} (h : transport.opens endpoint = .fails f) :
      Refuses transport endpoint request f
  | crashedOpening {p : Payload} (h : transport.opens endpoint = .crashes p) :
      Refuses transport endpoint request
        (.unknown ("feedback submission panicked: " ++ p.described) [])
  | unsent {f : Failure} (opened : transport.opens endpoint = .gives ())
      (h : transport.sends endpoint request = .fails f) : Refuses transport endpoint request f
  | crashedSending {p : Payload} (opened : transport.opens endpoint = .gives ())
      (h : transport.sends endpoint request = .crashes p) :
      Refuses transport endpoint request
        (.unknown ("feedback submission panicked: " ++ p.described) [])
  | status {r : Response} (opened : transport.opens endpoint = .gives ())
      (sent : transport.sends endpoint request = .gives r)
      (status : r.status < 200 ∨ 299 < r.status) :
      Refuses transport endpoint request (.protocol r.status r.body)
  | malformed {r : Response} (opened : transport.opens endpoint = .gives ())
      (sent : transport.sends endpoint request = .gives r)
      (status : 200 ≤ r.status ∧ r.status ≤ 299) (token : Token.read? r.body = none) :
      Refuses transport endpoint request
        (.malformedResponse ("expected an integer token in response body, got "
          ++ String.ofList (Text.quote (Text.trim r.body.toList))))

namespace Submission

/-- The failure that stands for a crash says what the crash said. -/
theorem crashed_eq (p : Payload) :
    crashed p = .unknown ("feedback submission panicked: " ++ p.described) [] := by
  cases p <;> rfl

/-- The request that carries the form. -/
def request (s : Submission) : Request :=
  { method := "POST", contentType := "application/x-www-form-urlencoded",
    body := Text.Utf8.encode s.form.body.toList }

/-- All that a submission does, in order, when `last` is the call of its continuation. -/
def trace (s : Submission) (transport : Transport) (last : Event) : List Event :=
  [.indeterminate true, .opening s.endpoint]
    ++ (if transport.opens s.endpoint = .gives () then [.sending s.request] else []) ++ [last]

/-- A trace tells which continuation was called. -/
theorem trace_inj {s : Submission} {transport : Transport} {last last' : Event} :
    s.trace transport last = s.trace transport last' ↔ last = last' := by
  rw [trace, trace, List.append_right_inj, List.singleton_inj]

/-- What the turns of the transport and the answer amount to, crashes included. -/
def outcome (s : Submission) (transport : Transport) : Turn Token :=
  (run transport s.endpoint s.form).2

/-- **A submission follows its trace**, and ends as its outcome tells unless the continuation
    crashes. -/
theorem execute_eq (s : Submission) (transport : Transport) (continuationCrashes : Bool) :
    s.execute transport continuationCrashes
      = (s.trace transport (continuation (s.outcome transport)),
        if continuationCrashes then .crashes else .returns (finalState (s.outcome transport))) := by
  have he : (run transport s.endpoint s.form).1 = .indeterminate true :: .opening s.endpoint ::
      (if transport.opens s.endpoint = .gives () then [.sending s.request] else []) := by
    rw [run, send]
    cases h : transport.opens s.endpoint with
    | gives u => rfl
    | fails f => rfl
    | crashes p => rfl
  -- What was done before the continuation does not depend on whether that crashes.
  show ((run transport s.endpoint s.form).1 ++ [continuation (s.outcome transport)], _) = _
  rw [he]
  rfl

/-! ### Which outcome it is -/

section

variable {s : Submission} {transport : Transport}

/-- A connection that is not opened is the outcome. -/
theorem outcome_of_fails {f : Failure} (h : transport.opens s.endpoint = .fails f) :
    s.outcome transport = .fails f := by
  simp only [outcome, run, send, h]

/-- A crash in opening the connection is the outcome. -/
theorem outcome_of_crashes {p : Payload} (h : transport.opens s.endpoint = .crashes p) :
    s.outcome transport = .crashes p := by
  simp only [outcome, run, send, h]

/-- Once the connection is open, the outcome is that of handing the request over. -/
theorem outcome_of_gives (h : transport.opens s.endpoint = .gives ()) :
    s.outcome transport = (sendOpened transport s.endpoint s.request).2 := by
  simp only [outcome, run, send, h]
  rfl

/-- Once the request is answered, the outcome is what the answer says. -/
theorem outcome_of_answer {r : Response} (h : transport.opens s.endpoint = .gives ())
    (hr : transport.sends s.endpoint s.request = .gives r) :
    s.outcome transport = .ofExcept (Token.ofResponse r) := by
  rw [outcome_of_gives h]
  simp only [sendOpened, hr]

/-- A token that is given is the outcome. -/
theorem outcome_of_accepts {t : Token} (h : Accepts transport s.endpoint s.request t) :
    s.outcome transport = .gives t := by
  obtain ⟨ho, hs, hst, ht⟩ := h
  rw [outcome_of_answer ho hs, Token.ofResponse_of_some (Response.isSuccess_iff.mpr hst) ht]
  rfl

/-- A refusal calls the continuation for failure, and the task fails. -/
theorem continuation_of_refuses {f : Failure} (h : Refuses transport s.endpoint s.request f) :
    continuation (s.outcome transport) = .failure f
      ∧ finalState (s.outcome transport) = .failed := by
  -- A failure or a crash of one of the two calls, or an answer that gives no token.
  cases h with
  | unopened h =>
    rw [outcome_of_fails h]
    exact ⟨rfl, rfl⟩
  | crashedOpening h =>
    rw [outcome_of_crashes h, ← crashed_eq]
    exact ⟨rfl, rfl⟩
  | unsent ho h =>
    rw [outcome_of_gives ho, sendOpened, h]
    exact ⟨rfl, rfl⟩
  | crashedSending ho h =>
    rw [outcome_of_gives ho, sendOpened, h, ← crashed_eq]
    exact ⟨rfl, rfl⟩
  | @status r ho hs hst =>
    have hno : ¬r.isSuccess = true := by
      rw [Response.isSuccess_iff]
      omega
    rw [outcome_of_answer ho hs, Token.ofResponse_of_status hno]
    exact ⟨rfl, rfl⟩
  | malformed ho hs hst ht =>
    rw [outcome_of_answer ho hs, Token.ofResponse_of_none (Response.isSuccess_iff.mpr hst) ht]
    exact ⟨rfl, rfl⟩

/-- **Every submission is accepted or refused.** -/
theorem accepts_or_refuses (s : Submission) (transport : Transport) :
    (∃ t, Accepts transport s.endpoint s.request t)
      ∨ ∃ f, Refuses transport s.endpoint s.request f := by
  cases ho : transport.opens s.endpoint with
  | fails f => exact .inr ⟨_, .unopened ho⟩
  | crashes p => exact .inr ⟨_, .crashedOpening ho⟩
  | gives u =>
    cases hs : transport.sends s.endpoint s.request with
    | fails f => exact .inr ⟨_, .unsent ho hs⟩
    | crashes p => exact .inr ⟨_, .crashedSending ho hs⟩
    | gives r =>
      by_cases hst : 200 ≤ r.status ∧ r.status ≤ 299
      · cases ht : Token.read? r.body with
        | some t => exact .inl ⟨t, .answered ho hs hst ht⟩
        | none => exact .inr ⟨_, .malformed ho hs hst ht⟩
      · exact .inr ⟨_, .status ho hs (by omega)⟩

/-- The continuation for success is called with a token exactly if that token was given. -/
theorem continuation_eq_success_iff {t : Token} :
    continuation (s.outcome transport) = .success t ↔ Accepts transport s.endpoint s.request t := by
  constructor
  · intro h
    rcases accepts_or_refuses s transport with ⟨t', ht⟩ | ⟨f, hf⟩
    · rw [outcome_of_accepts ht] at h
      cases h
      exact ht
    · rw [(continuation_of_refuses hf).1] at h
      cases h
  · intro h
    rw [outcome_of_accepts h]
    rfl

/-- The continuation for failure is called with a failure exactly if it came to that. -/
theorem continuation_eq_failure_iff {f : Failure} :
    continuation (s.outcome transport) = .failure f ↔ Refuses transport s.endpoint s.request f := by
  constructor
  · intro h
    rcases accepts_or_refuses s transport with ⟨t, ht⟩ | ⟨f', hf⟩
    · rw [outcome_of_accepts ht] at h
      cases h
    · rw [(continuation_of_refuses hf).1] at h
      cases h
      exact hf
  · intro h
    exact (continuation_of_refuses h).1

end

/-! ### The whole of an execution -/

theorem finalState_of_success {o : Turn Token} {t : Token} (h : continuation o = .success t) :
    finalState o = .succeeded := by
  cases o with
  | gives t' => rfl
  | fails f => cases h
  | crashes p => cases h

theorem finalState_of_failure {o : Turn Token} {f : Failure} (h : continuation o = .failure f) :
    finalState o = .failed := by
  cases o with
  | gives t => cases h
  | fails f' => rfl
  | crashes p => rfl

/-- A submission follows the trace with a certain call at its end, and ends as that call tells,
    exactly if that is the call of its continuation. -/
theorem execute_eq_trace_iff {s : Submission} {transport : Transport} {continuationCrashes : Bool}
    {last : Event} {state : State}
    (hf : continuation (s.outcome transport) = last → finalState (s.outcome transport) = state) :
    s.execute transport continuationCrashes
        = (s.trace transport last, if continuationCrashes then .crashes else .returns state)
      ↔ continuation (s.outcome transport) = last := by
  rw [execute_eq]
  constructor
  · intro h
    exact trace_inj.mp (congrArg Prod.fst h)
  · intro h
    rw [hf h, h]

/-- A submission asks for one connection, hands over one request if it gets the connection, and
    calls one continuation. -/
theorem countP_execute (s : Submission) (transport : Transport) (continuationCrashes : Bool) :
    (s.execute transport continuationCrashes).1.countP Event.isOpening = 1
      ∧ (s.execute transport continuationCrashes).1.countP Event.isSending
        = (if transport.opens s.endpoint = .gives () then 1 else 0)
      ∧ (s.execute transport continuationCrashes).1.countP Event.isContinuation = 1 := by
  rw [execute_eq]
  show (s.trace transport _).countP _ = _ ∧ (s.trace transport _).countP _ = _
    ∧ (s.trace transport _).countP _ = _
  rw [trace]
  cases s.outcome transport <;> split <;> exact ⟨rfl, rfl, rfl⟩

/-- **Every submission does exactly this.**  The progress is marked, the connection to its endpoint
    is asked for, the one request is handed over if there is a connection, and one continuation is
    called, which is last.  It is called with a token, and the submission succeeds, exactly if the
    endpoint accepts the request with that token; it is called with a failure, and the submission
    fails, exactly if the request comes to that failure; and one of the two is the case.  If the
    continuation crashes, so does the submission. -/
theorem execute_exactly (s : Submission) (transport : Transport) (continuationCrashes : Bool) :
    (∀ t, s.execute transport continuationCrashes
        = ([.indeterminate true, .opening s.endpoint]
            ++ (if transport.opens s.endpoint = .gives () then [.sending s.request] else [])
            ++ [.success t],
          if continuationCrashes then .crashes else .returns .succeeded)
        ↔ Accepts transport s.endpoint s.request t)
      ∧ (∀ f, s.execute transport continuationCrashes
        = ([.indeterminate true, .opening s.endpoint]
            ++ (if transport.opens s.endpoint = .gives () then [.sending s.request] else [])
            ++ [.failure f],
          if continuationCrashes then .crashes else .returns .failed)
        ↔ Refuses transport s.endpoint s.request f)
      ∧ ((∃ t, Accepts transport s.endpoint s.request t)
        ∨ ∃ f, Refuses transport s.endpoint s.request f)
      ∧ (s.execute transport continuationCrashes).1.countP Event.isContinuation = 1 := by
  refine ⟨fun t => ?_, fun f => ?_, accepts_or_refuses s transport,
    (countP_execute s transport continuationCrashes).2.2⟩
  · rw [← continuation_eq_success_iff]
    exact execute_eq_trace_iff finalState_of_success
  · rw [← continuation_eq_failure_iff]
    exact execute_eq_trace_iff finalState_of_failure

end Submission

end Postbox
