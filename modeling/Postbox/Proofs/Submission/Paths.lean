import Postbox.Proofs.Scheduler.Ending
import Postbox.Proofs.Scheduler.Lifecycle

namespace Postbox

/-!
# The ways to submit

One form can be sent in four ways: just so, with the progress marked, as a task with its
continuations, and as a task in the background.  They come to the same.  Sending alone and with the
progress marked differ by that mark; a task calls the continuation that the result is handed to; and
joining a task that ran in the background tells how its execution ends, and it has shown by then
what its execution shows.

* `Ending.state` — the state that an ending amounts to for those who wait for it.
* `Submission.success_mem_iff`, `Submission.failure_mem_iff` — which continuation is called, and
  with what.
* `Stage.eq_execute` — what a submission in the background has done when it has ended.
* `Scheduler.JoinsAs`, `Scheduler.joinsAs_execute` — joining it.
* `Submission.ways_agree` — the four ways.
-/

/-- The state that an ending amounts to.  A crash is a failure. -/
def Ending.state : Ending → State
  | .returns state => state
  | .crashes => .failed

namespace Submission

variable {s : Submission} {transport : Transport} {gated continuationCrashes : Bool}

/-! ### The continuation and the result -/

/-- An execution does what sending with the progress marked does, and then calls the continuation
    that the result is handed to. -/
theorem execute_fst :
    (s.execute transport continuationCrashes).1
      = (run transport s.endpoint s.form).1
        ++ [continuation (run transport s.endpoint s.form).2] := rfl

/-- Sending calls no continuation. -/
theorem isContinuation_of_mem_run {endpoint : String} {form : Form} {e : Event}
    (h : e ∈ (run transport endpoint form).1) : e.isContinuation = false := by
  rw [run, send] at h
  have hcases : e = .indeterminate true ∨ e = .opening endpoint
      ∨ e = .sending (.ofForm form.body) := by
    cases ho : transport.opens endpoint with
    | gives u => simpa [ho, sendOpened] using h
    | fails f | crashes p =>
      rw [ho] at h
      simp only [List.mem_cons, List.not_mem_nil, or_false] at h
      exact h.imp_right .inl
  rcases hcases with rfl | rfl | rfl <;> rfl

/-- A continuation is called exactly if the result is handed to it. -/
theorem mem_execute_iff {e : Event} (he : e.isContinuation = true) :
    e ∈ (s.execute transport continuationCrashes).1
      ↔ continuation (run transport s.endpoint s.form).2 = e := by
  rw [execute_fst, List.mem_append, List.mem_singleton]
  constructor
  · rintro (h | rfl)
    · rw [isContinuation_of_mem_run h] at he
      cases he
    · rfl
  · rintro rfl
    exact .inr rfl

/-- The continuation for success is called with the token that the submission gives. -/
theorem success_mem_iff {token : Token} :
    .success token ∈ (s.execute transport continuationCrashes).1
      ↔ (run transport s.endpoint s.form).2 = .gives token := by
  rw [mem_execute_iff rfl]
  cases (run transport s.endpoint s.form).2 <;> simp [continuation]

/-- Unless sending crashes, the continuation for failure is called with the failure of the
    result. -/
theorem failure_mem_iff (h : ∀ p, (run transport s.endpoint s.form).2 ≠ .crashes p) {f : Failure} :
    .failure f ∈ (s.execute transport continuationCrashes).1
      ↔ (run transport s.endpoint s.form).2 = .fails f := by
  rw [mem_execute_iff rfl]
  cases hr : (run transport s.endpoint s.form).2 with
  | gives token => simp [continuation]
  | fails failure => simp [continuation]
  | crashes p => exact absurd hr (h p)

/-- Sending does not crash over a transport that does not. -/
theorem run_ne_crashes {endpoint : String} {form : Form}
    (ho : ∀ p, transport.opens endpoint ≠ .crashes p)
    (hs : ∀ p, transport.sends endpoint (.ofForm form.body) ≠ .crashes p) (p : Payload) :
    (run transport endpoint form).2 ≠ .crashes p := by
  intro hc
  rw [run, send] at hc
  cases h : transport.opens endpoint with
  | crashes q => exact ho q h
  | fails f => rw [h] at hc; cases hc
  | gives u =>
    simp only [h, sendOpened] at hc
    cases h' : transport.sends endpoint (.ofForm form.body) with
    | crashes q => exact hs q h'
    | fails f => rw [h'] at hc; cases hc
    | gives r =>
      simp only [h'] at hc
      cases ht : Token.ofResponse r with
      | ok t => rw [ht] at hc; cases hc
      | error f => rw [ht] at hc; cases hc

/-! ### The task in the background -/

section

variable (s transport gated continuationCrashes)

/-- The actions of a submission show its events, but for the notes on its progress. -/
theorem filterMap_body :
    (s.body transport gated continuationCrashes).actions.filterMap Action.event?
      = (s.execute transport continuationCrashes).1.filter (fun e => !e.isProgress) := by
  have hcrash : (if continuationCrashes then [Action.crashes] else []).filterMap Action.event?
      = [] := by
    cases continuationCrashes <;> rfl
  rw [actions_body, List.filterMap_append, hcrash, List.append_nil]
  induction (s.execute transport continuationCrashes).1 with
  | nil => rfl
  | cons e es ih =>
    have hone : (actionsOf gated e).filterMap Action.event?
        = [e].filter (fun e => !e.isProgress) := by
      cases e with
      | sending request => cases gated <;> rfl
      | _ => rfl
    rw [List.flatMap_cons, List.filterMap_append, ih, hone, ← List.filter_append]
    rfl

/-- A submission returns the state in which its execution ends, unless that crashes. -/
theorem execute_snd :
    (s.execute transport continuationCrashes).2
      = if continuationCrashes then .crashes
        else .returns (s.body transport gated continuationCrashes).returns := by
  rw [body, execute_eq]
  cases continuationCrashes <;> rfl

end

end Submission

section

variable {s : Submission} {transport : Transport} {gated continuationCrashes : Bool}
  {text : String} {es : List Event} {l : Lane}

/-- **A submission that has ended has been executed**, if it was not stopped. -/
theorem Stage.eq_execute (h : Stage text 0 es l)
    (hb : l.job.body = s.body transport gated continuationCrashes) {ending : Ending}
    (hw : l.job.worker = .ended ending) :
    es = (s.execute transport continuationCrashes).1.filter (fun e => !e.isProgress)
      ∧ ending = (s.execute transport continuationCrashes).2 := by
  obtain ⟨b, hp⟩ := h.phase
  generalize hn : 0 = n at hp
  cases hp with
  | waiting _ hf => rw [hf] at hw; cases hw
  | stopped | recalled => cases hn
  | @begun _ past future _ ha hs hl =>
    have hlooks : .looks ∉ past := fun hm =>
      s.looks_not_mem_body transport gated continuationCrashes
        (hb ▸ ha ▸ List.mem_append_left future hm)
    rw [hw] at hl
    rw [hb] at ha hl
    rw [← s.filterMap_body transport gated continuationCrashes,
      s.execute_snd transport gated continuationCrashes, ha, List.filterMap_append,
      ← hs.eq_filterMap hlooks]
    cases ending with
    | returns state =>
      obtain ⟨rfl, rfl⟩ := hl
      rw [List.append_nil] at ha
      -- It got to its end, so there is no crash among its actions.
      have hc : continuationCrashes = false := by
        cases continuationCrashes with
        | false => rfl
        | true =>
          refine absurd ?_ hs.crashes_not_mem
          rw [← ha, Submission.actions_body]
          exact List.mem_append_right _ (List.mem_singleton.mpr rfl)
      rw [hc]
      exact ⟨(List.append_nil es).symm, rfl⟩
    | crashes =>
      obtain ⟨more, rfl⟩ := hl
      obtain rfl := s.eq_nil_of_crashes transport gated continuationCrashes ha
      have hc : continuationCrashes = true := by
        have hm : .crashes ∈ (s.body transport gated continuationCrashes).actions := by
          rw [ha]
          exact List.mem_append_right _ List.mem_cons_self
        obtain ⟨e, he⟩ | ⟨he, -⟩ | ⟨-, hc⟩ := Submission.mem_actions_body _ _ _ _ hm
        · cases he
        · cases he
        · exact hc
      rw [hc]
      exact ⟨(List.append_nil es).symm, rfl⟩

end

namespace Scheduler

/-- After these steps, joining the task `id` comes to the same as an execution with these events and
    this ending. -/
structure JoinsAs (id : String) (steps : List Step) (job : Job) (execution : List Event × Ending) :
    Prop where
  /-- The answer is how the execution ends, unless the handle was given up before or the task waits
      at a gate that nobody has opened. -/
  reply : ((after {} steps).step (.join id)).1
    = if job.joined then .joined
      else if job.gated && !job.released then .wouldBlock
      else .state execution.2.state
  /-- If the handle is given up now, the task has shown all events of the execution in their order,
      but for the notes on its progress. -/
  shown : ∀ state, ((after {} steps).step (.join id)).1 = .state state →
    shownBy id (log {} (steps ++ [.join id])) = execution.1.filter fun e => !e.isProgress

/-- A submission whose gate is open, or that has none, has ended once its worker went on. -/
theorem ended_of_open {steps : List Step} {id : String} {l : Lane}
    (hl : (after {} steps).lane id = some l) {s : Submission} {transport : Transport}
    {continuationCrashes : Bool}
    (hb : l.job.body = s.body transport l.job.gated continuationCrashes)
    (hopen : l.job.gated = true → l.job.released = true) :
    ∃ ending, l.settle.2.job.worker = .ended ending := by
  have hproper : l.job.body.IsProper := hb ▸ s.isProper_body transport _ _
  obtain ⟨text, -, hs⟩ := stage_of_isProper hl hproper
  rcases hs.settle.paused_or_ended l.due_settle with hp | hw
  · -- Were it waiting, it would be gated, and due to go on behind the open gate.
    have hwaits := waitsAtGate_of_lane (lane_after_settle hl)
    have hgate : .waits ∈ (s.body transport l.job.gated continuationCrashes).actions := by
      rw [← hb, ← Job.body_of_scheduling (scheduling_settle l)]
      exact hwaits.gate hp
    obtain ⟨e, he⟩ | ⟨-, hg⟩ | ⟨he, -⟩ := Submission.mem_actions_body _ _ _ _ hgate
    · cases he
    · have hdue := hwaits.due hp (l.settle_keeps.1.trans (hopen hg))
      rw [l.due_settle] at hdue
      cases hdue
    · cases he
  · exact hw

/-- **Joining a submission tells how its execution ends**, if no request to stop it took effect. -/
theorem joinsAs_execute {steps : List Step} {id : String} {job : Job}
    (hjob : (after {} steps).find? id = some job) {s : Submission} {transport : Transport}
    {continuationCrashes : Bool}
    (hb : job.body = s.body transport job.gated continuationCrashes)
    (hn : stops {} id steps = 0) :
    JoinsAs id steps job (s.execute transport continuationCrashes) := by
  have hl := lane_of_find? hjob
  generalize decide (id ∈ (after {} steps).queue) = due at hl
  have hproper : job.body.IsProper := hb ▸ s.isProper_body transport _ _
  obtain ⟨text, -, hs⟩ := stage_of_isProper hl hproper
  rw [hn] at hs
  have hcancelled : job.state ≠ .cancelled := fun hc =>
    absurd ((hs.state_eq_cancelled_iff hproper).mp hc) (by decide)
  have hblocked : job.isBlocked = (job.gated && !job.released) := by
    rw [Job.isBlocked, bne_iff_ne.mpr hcancelled, Bool.and_true]
  have hreply := reply_join hl
  -- Once it went on behind its open gate it has ended, and its worker keeps the ending.
  have hended : job.isBlocked = false → (Lane.join ⟨job, due⟩).1
      = .state (s.execute transport continuationCrashes).2.state
        ∧ shownBy id (log {} steps) ++ (Lane.join ⟨job, due⟩).2.1
          = (s.execute transport continuationCrashes).1.filter fun e => !e.isProgress := by
    intro hfree
    have hopen : job.gated = true → job.released = true := by
      intro hg
      rw [hblocked, hg, Bool.true_and, Bool.not_eq_false'] at hfree
      exact hfree
    obtain ⟨ending, hw⟩ := ended_of_open hl hb hopen
    obtain ⟨hshown, rfl⟩ := hs.settle.eq_execute
      ((Job.body_of_scheduling (scheduling_settle ⟨job, due⟩)).trans hb) hw
    rw [← hshown]
    cases he : (s.execute transport continuationCrashes).2 with
    | returns state =>
      rw [he] at hw
      simp only [Lane.join, Job.finish, hw]
      exact ⟨rfl, trivial⟩
    | crashes =>
      rw [he] at hw
      simp only [Lane.join, Job.finish, hw]
      exact ⟨rfl, trivial⟩
  refine ⟨?_, fun state hstate => ?_⟩
  · rw [hreply, ← hblocked]
    cases hfree : job.isBlocked with
    | true => rfl
    | false =>
      rw [(hended hfree).1]
  · rw [hreply] at hstate
    have hc : (Step.join id).concerns id = true := by simp [Step.concerns]
    obtain ⟨-, hshown, -⟩ := step_of_concerns hl hc
    rw [log_append_singleton, shownBy_append, hshown, Lane.step, Lane.withHandle]
    split at hstate
    · cases hstate
    · next hj =>
      split at hstate
      · cases hstate
      · next hfree =>
        rw [if_neg hj, if_neg hfree]
        exact (hended (Bool.eq_false_iff.mpr hfree)).2

end Scheduler

namespace Submission

/-- **The ways to submit agree**, whatever the submission is, and whatever its transport does.
    Sending with the progress marked is sending alone behind that mark, with the same result.  Over
    a transport that does not crash, the continuation for success is called with a token exactly if
    that is the result, and the one for failure exactly if the failure is.  And joining the task in
    the background, on whatever scheduler and however it came to that point, if no request to stop
    it took effect, answers with the state in which its execution ends, failed if that crashes, and
    the task has shown the events of the execution in their order. -/
theorem ways_agree (s : Submission) (transport : Transport) (continuationCrashes : Bool) :
    run transport s.endpoint s.form
        = (.indeterminate true :: (send transport s.endpoint s.form).1,
          (send transport s.endpoint s.form).2)
      ∧ ((∀ p, transport.opens s.endpoint ≠ .crashes p) →
        (∀ p, transport.sends s.endpoint s.request ≠ .crashes p) →
          (∀ t, .success t ∈ (s.execute transport continuationCrashes).1
            ↔ (run transport s.endpoint s.form).2 = .gives t)
          ∧ ∀ f, .failure f ∈ (s.execute transport continuationCrashes).1
            ↔ (run transport s.endpoint s.form).2 = .fails f)
      ∧ ∀ (steps : List Step) (id : String) (job : Job),
        (Scheduler.after {} steps).find? id = some job →
        job.body = s.body transport job.gated continuationCrashes →
        Scheduler.stops {} id steps = 0 →
          Scheduler.JoinsAs id steps job (s.execute transport continuationCrashes) := by
  refine ⟨rfl, fun ho hs => ⟨fun t => success_mem_iff, fun f => ?_⟩,
    fun steps id job hjob hb hn => ?_⟩
  · exact failure_mem_iff (run_ne_crashes ho hs)
  · exact Scheduler.joinsAs_execute hjob hb hn

/-- A submission with a continuation that crashes. -/
def report : Submission := { descriptor := ⟨"report", true, none⟩, form := .empty }

/-- It waits at its gate, is asked to stop there, and goes on when the gate is opened. -/
def reporting : List Step :=
  [.schedule "report" report.descriptor
      (report.body ⟨fun _ => .gives (), fun _ _ => .gives ⟨201, "7"⟩⟩ true true) true,
    .settle, .cancel "report", .release "report"]

/-- Joining it tells that it failed, and its continuation was called with the token. -/
theorem ways_agree_reporting :
    ((Scheduler.after {} reporting).step (.join "report")).1 = .state .failed
      ∧ shownBy "report" (Scheduler.log {} (reporting ++ [.join "report"]))
        = [.opening defaultEndpoint, .sending report.request, .success ⟨7, by decide⟩] := by
  obtain ⟨-, -, hjoins⟩ :=
    ways_agree report ⟨fun _ => .gives (), fun _ _ => .gives ⟨201, "7"⟩⟩ true
  obtain ⟨job, hjob, hb, hj, hr⟩ : ∃ job, (Scheduler.after {} reporting).find? "report" = some job
      ∧ job.body = report.body ⟨fun _ => .gives (), fun _ _ => .gives ⟨201, "7"⟩⟩ job.gated true
      ∧ job.joined = false ∧ job.released = true := ⟨_, rfl, rfl, rfl, rfl⟩
  obtain ⟨hreply, hshown⟩ := hjoins reporting "report" job hjob hb (by decide)
  rw [hj, hr, Bool.not_true, Bool.and_false, execute_eq] at hreply
  refine ⟨hreply, ?_⟩
  rw [hshown _ hreply]
  decide

end Submission

end Postbox
