import Postbox.Proofs.Scheduler.Life
import Postbox.Proofs.Submission.Trace

namespace Postbox

/-!
# Stopping a submission

A scheduled submission is stopped before it does anything, or it is not stopped and submits once.

* `Step.OfSubmission` — every task that the step schedules is a submission.
* `Submission.countP_body`, `Submission.eq_nil_of_crashes` — the actions of a submission are its
  events, and nothing is left after a crash of its continuation.
* `Stage.countP_submission`, `Stage.countP_continuation` — what a submission has shown in each
  stage of its life.
* `Scheduler.stopped_or_submitted` — the statement on whole runs.
-/

/-- A task that the step schedules is a submission, over any transport, with or without a gate, with
    a continuation that crashes or not. -/
def Step.OfSubmission : Step → Prop
  | .schedule _ descriptor body gated =>
    ∃ (s : Submission) (transport : Transport) (continuationCrashes : Bool),
      descriptor = s.descriptor ∧ body = s.body transport gated continuationCrashes
  | _ => True

/-- A submission returns success or failure. -/
theorem Submission.isProper_body (s : Submission) (transport : Transport)
    (gated continuationCrashes : Bool) :
    (s.body transport gated continuationCrashes).IsProper := by
  intro _
  rw [body, execute_eq]
  cases continuationCrashes with
  | true => exact .inr rfl
  | false =>
    show finalState _ = .succeeded ∨ finalState _ = .failed
    cases s.outcome transport with
    | gives t => exact .inl rfl
    | fails f => exact .inr rfl
    | crashes p => exact .inr rfl

/-- The steps of submissions are proper ones. -/
theorem Step.OfSubmission.isProper {x : Step} (h : x.OfSubmission) : x.IsProper := by
  cases x with
  | schedule id d body gated =>
    obtain ⟨s, transport, continuationCrashes, -, rfl⟩ := h
    exact s.isProper_body transport gated continuationCrashes
  | settle | release | cancel | isFinished | join | cancelProgress | setText => exact trivial

/-! ### The actions of a submission -/

namespace Submission

variable (s : Submission) (transport : Transport) (gated continuationCrashes : Bool)

/-- The actions of a submission are those for its events, and the crash of its continuation. -/
theorem actions_body :
    (s.body transport gated continuationCrashes).actions
      = (s.execute transport continuationCrashes).1.flatMap (actionsOf gated)
        ++ if continuationCrashes then [.crashes] else [] := by
  rw [execute_eq, body, execute_eq]
  cases continuationCrashes with
  | true => rfl
  | false => exact (List.append_nil _).symm

/-- An action for an event shows it, or waits behind it if the submission is gated. -/
theorem mem_actionsOf {gated : Bool} {e : Event} {a : Action} (h : a ∈ actionsOf gated e) :
    a = .shows e ∨ a = .waits ∧ gated = true := by
  cases e with
  | sending request => cases gated <;> simpa [actionsOf] using h
  | _ => exact .inl (by simpa [actionsOf] using h)

/-- What a submission does: it shows events, waits if it is gated, and crashes if its continuation
    does. -/
theorem mem_actions_body {a : Action}
    (h : a ∈ (s.body transport gated continuationCrashes).actions) :
    (∃ e, a = .shows e) ∨ a = .waits ∧ gated = true
      ∨ a = .crashes ∧ continuationCrashes = true := by
  rw [actions_body, List.mem_append, List.mem_flatMap] at h
  rcases h with ⟨e, -, he⟩ | h
  · exact (mem_actionsOf he).imp (fun h => ⟨e, h⟩) .inl
  · cases continuationCrashes with
    | true => exact .inr (.inr ⟨List.mem_singleton.mp h, rfl⟩)
    | false => cases h

/-- A submission does not look at its progress. -/
theorem looks_not_mem_body : .looks ∉ (s.body transport gated continuationCrashes).actions := by
  intro h
  obtain ⟨e, he⟩ | ⟨he, -⟩ | ⟨he, -⟩ := mem_actions_body s transport gated continuationCrashes h <;>
    cases he

/-- The actions for one event show that event and no other. -/
theorem countP_actionsOf (kind : Event → Bool) (e : Event) :
    (actionsOf gated e).countP (Action.isShowing kind) = [e].countP kind := by
  cases e with
  | sending request => cases gated <;> rfl
  | _ => rfl

/-- The actions of a submission show its events. -/
theorem countP_body (kind : Event → Bool) :
    (s.body transport gated continuationCrashes).actions.countP (Action.isShowing kind)
      = (s.execute transport continuationCrashes).1.countP kind := by
  have hc : (if continuationCrashes then [Action.crashes] else []).countP (Action.isShowing kind)
      = 0 := by
    cases continuationCrashes <;> rfl
  rw [actions_body, List.countP_append, hc, Nat.add_zero]
  induction (s.execute transport continuationCrashes).1 with
  | nil => rfl
  | cons e es ih =>
    have hs : (e :: es).countP kind = [e].countP kind + es.countP kind := by
      rw [← List.countP_append]
      rfl
    rw [List.flatMap_cons, List.countP_append, ih, countP_actionsOf, hs]

/-- A submission crashes after all its events only. -/
theorem eq_nil_of_crashes {past more : List Action}
    (h : (s.body transport gated continuationCrashes).actions = past ++ .crashes :: more) :
    more = [] := by
  have hn : Action.crashes
      ∉ (s.execute transport continuationCrashes).1.flatMap (actionsOf gated) := by
    rw [List.mem_flatMap]
    rintro ⟨e, -, he⟩
    obtain he | ⟨he, -⟩ := mem_actionsOf he <;> cases he
  rw [actions_body] at h
  rcases List.append_eq_append_iff.mp h with ⟨as, hp, ht⟩ | ⟨bs, he, ht⟩
  · -- The crash lies behind the events, where there is room for one action only.
    cases continuationCrashes with
    | false => simp at ht
    | true =>
      cases as with
      | nil => simpa using ht.symm
      | cons a as => simp at ht
  · -- The crash lies among the actions for the events, or right behind them.
    cases bs with
    | nil =>
      cases continuationCrashes with
      | false => simp at ht
      | true => simpa using ht
    | cons b bs =>
      rw [List.cons_append, List.cons.injEq] at ht
      rw [he, ← ht.1] at hn
      simp at hn

end Submission

/-! ### What a submission has shown -/

section

variable {text : String} {n : Nat} {es : List Event} {l : Lane} {kind : Event → Bool}

/-- A task never shows more than its actions do. -/
theorem Stage.countP_le (h : Stage text n es l) (hp : ∀ e, kind e = true → e.isProgress = false)
    (ho : ∀ i c, kind (.observed i c) = false) :
    es.countP kind ≤ l.job.body.actions.countP (Action.isShowing kind) := by
  obtain ⟨s, h⟩ := h.phase
  cases h with
  | waiting => exact Nat.zero_le _
  | stopped => exact Nat.zero_le _
  | begun ha hs =>
    rw [ha, List.countP_append, hs.countP_eq hp ho]
    exact Nat.le_add_right _ _
  | recalled hs => exact Nat.le_of_eq (hs.countP_eq hp ho)

/-- A task that has ended without being stopped has shown all that its actions do, if none of them
    stands behind a crash. -/
theorem Stage.countP_of_ended (h : Stage text 0 es l)
    (hp : ∀ e, kind e = true → e.isProgress = false) (ho : ∀ i c, kind (.observed i c) = false)
    (hc : ∀ past more, l.job.body.actions = past ++ .crashes :: more → more = [])
    {ending : Ending} (hw : l.job.worker = .ended ending) :
    es.countP kind = l.job.body.actions.countP (Action.isShowing kind) := by
  obtain ⟨s, h⟩ := h.phase
  generalize hn : 0 = n at h
  cases h with
  | waiting _ hf => rw [hf] at hw; cases hw
  | stopped | recalled => cases hn
  | begun ha hs hl =>
    rw [hw] at hl
    rw [hs.countP_eq hp ho]
    cases ending with
    | returns state => rw [ha, hl.1, List.append_nil]
    | crashes =>
      obtain ⟨more, rfl⟩ := hl
      rw [ha, hc _ _ ha, List.countP_append, List.countP_singleton]
      rfl

/-- A task is in the cancelled state exactly if it was stopped. -/
theorem Stage.state_eq_cancelled_iff (h : Stage text n es l) (hb : l.job.body.IsProper) :
    l.job.state = .cancelled ↔ n = 1 := by
  obtain ⟨s, h⟩ := h.phase
  cases h with
  | waiting hs => rw [hs]; exact ⟨nofun, nofun⟩
  | stopped hs => exact ⟨fun _ => rfl, fun _ => hs⟩
  | begun ha hs hl hst =>
    exact ⟨fun hc => absurd hc (Job.state_of_begun hb ha hs hl hst).2, nofun⟩
  | recalled _ _ _ hst => exact ⟨fun _ => rfl, fun _ => hst⟩

/-- A task is stopped at most once. -/
theorem Stage.stops_le (h : Stage text n es l) : n ≤ 1 := by
  obtain ⟨s, h⟩ := h.phase
  cases h with
  | waiting | begun => exact Nat.zero_le 1
  | stopped | recalled => exact Nat.le_refl 1

/-- A task that was stopped with a proper body has never begun. -/
theorem Stage.phase_of_stopped (h : Stage text 1 es l) : Phase text false 1 es l := by
  obtain ⟨⟨s, h⟩, hb⟩ := h
  cases s with
  | false => exact h
  | true =>
    cases h with
    | recalled hs hr => exact absurd hr (hb.returns_ne_created hs)

/-- A stopped task has shown nothing, and its progress is what its owner made it. -/
theorem Stage.eq_of_stopped (h : Stage text 1 es l) :
    es = [] ∧ l.job.progress = ⟨false, true, text⟩ := by
  cases h.phase_of_stopped with
  | stopped _ _ hp => exact ⟨rfl, hp⟩

/-- Joining a stopped task does not wait, and tells that it was stopped. -/
theorem Stage.join_of_stopped (h : Stage text 1 es l) :
    l.job.isBlocked = false ∧ l.join.1 = .state .cancelled := by
  cases h.phase_of_stopped with
  | stopped hs hc hp hw =>
    have hb : l.job.isBlocked = false := by
      rw [Job.isBlocked, hs]
      exact Bool.and_false _
    refine ⟨hb, ?_⟩
    -- If its worker has not yet seen that it was stopped, it sees that now.
    have hw' : l.settle.2.job.worker = .ended (.returns .cancelled) := by
      rw [Lane.settle]
      rcases hw with ⟨hw, hd, -⟩ | hw
      · rw [if_pos hd, Job.poll_of_ne_created hw (by simp [hs]), hs]
      · split
        · rw [Job.poll_of_ended hw]
          exact hw
        · exact hw
    simp only [Lane.join, Job.finish, hw']

section

variable {s : Submission} {transport : Transport} {gated continuationCrashes : Bool}

/-- A submission asks for at most one connection, hands over at most one request and calls at most
    one continuation. -/
theorem Stage.countP_submission (h : Stage text n es l)
    (hb : l.job.body = s.body transport gated continuationCrashes) :
    es.countP Event.isOpening ≤ 1 ∧ es.countP Event.isSending ≤ 1
      ∧ es.countP Event.isContinuation ≤ 1 := by
  obtain ⟨ho, hs, hc⟩ := s.countP_execute transport continuationCrashes
  have hle : ∀ kind : Event → Bool, (∀ e, kind e = true → e.isProgress = false) →
      (∀ i c, kind (.observed i c) = false) →
      es.countP kind ≤ (s.execute transport continuationCrashes).1.countP kind := by
    intro kind hp hk
    rw [← s.countP_body transport gated continuationCrashes, ← hb]
    exact h.countP_le hp hk
  refine ⟨?_, ?_, ?_⟩
  · rw [← ho]
    exact hle _ (fun e => by cases e <;> simp [Event.isOpening, Event.isProgress]) (fun _ _ => rfl)
  · have hs' : (if transport.opens s.endpoint = .gives () then 1 else 0) ≤ 1 := by
      split <;> omega
    refine Nat.le_trans ?_ hs'
    rw [← hs]
    exact hle _ (fun e => by cases e <;> simp [Event.isSending, Event.isProgress]) (fun _ _ => rfl)
  · rw [← hc]
    exact hle _ (fun e => by cases e <;> simp [Event.isContinuation, Event.isProgress])
      (fun _ _ => rfl)

/-- A submission that has ended without being stopped has called its continuation. -/
theorem Stage.countP_continuation (h : Stage text 0 es l)
    (hb : l.job.body = s.body transport gated continuationCrashes) {ending : Ending}
    (hw : l.job.worker = .ended ending) : es.countP Event.isContinuation = 1 := by
  have hc : ∀ past more, l.job.body.actions = past ++ .crashes :: more → more = [] := by
    intro past more ha
    rw [hb] at ha
    exact s.eq_nil_of_crashes transport gated continuationCrashes ha
  have hk : ∀ e : Event, e.isContinuation = true → e.isProgress = false := by
    intro e
    cases e <;> simp [Event.isContinuation, Event.isProgress]
  rw [h.countP_of_ended hk (fun _ _ => rfl) hc hw, hb, s.countP_body]
  exact (s.countP_execute transport continuationCrashes).2.2

end

end

namespace Scheduler

/-- The answer to a request to join a task. -/
theorem reply_join {s : Scheduler} {id : String} {l : Lane} (h : s.lane id = some l) :
    (s.step (.join id)).1
      = if l.job.joined then .joined else if l.job.isBlocked then .wouldBlock else l.join.1 := by
  have hc : (Step.join id).concerns id = true := by simp [Step.concerns]
  rw [(step_of_concerns h hc).1, Lane.step, Lane.withHandle]
  split
  · rfl
  · split <;> rfl

/-- **A submission is stopped, or it submits.**  After any sequence of steps on a scheduler without
    tasks, among them any number of submissions, every task of them was stopped at most once.

    If it was stopped, it has shown nothing, its state is cancelled, its worker has not touched its
    progress, and joining it tells that it was cancelled.  If not, it has asked for at most one
    connection, handed over at most one request and called at most one continuation, and exactly
    one as soon as its body has ended.  It is in the cancelled state, and joining it tells so, only
    if it was stopped.

    The beginning of a sequence is a sequence, so this speaks of every point of a run. -/
theorem stopped_or_submitted {steps : List Step} (h : ∀ x ∈ steps, x.OfSubmission) {id : String}
    {job : Job} (hjob : (after {} steps).find? id = some job) :
    stops {} id steps ≤ 1
      ∧ (stops {} id steps = 1 →
        shownBy id (log {} steps) = [] ∧ job.state = .cancelled
          ∧ some job.progress = (directText id steps).map (fun text => ⟨false, true, text⟩)
          ∧ ((after {} steps).step (.join id)).1
            = if job.joined then .joined else .state .cancelled)
      ∧ (stops {} id steps = 0 →
        (shownBy id (log {} steps)).countP Event.isOpening ≤ 1
          ∧ (shownBy id (log {} steps)).countP Event.isSending ≤ 1
          ∧ (shownBy id (log {} steps)).countP Event.isContinuation ≤ 1
          ∧ ∀ ending, job.worker = .ended ending →
            (shownBy id (log {} steps)).countP Event.isContinuation = 1)
      ∧ (job.state = .cancelled ↔ stops {} id steps = 1)
      ∧ ∀ state, ((after {} steps).step (.join id)).1 = .state state →
        (state = .cancelled ↔ stops {} id steps = 1) := by
  have hl : (after {} steps).lane id = some ⟨job, decide (id ∈ (after {} steps).queue)⟩ := by
    rw [lane, hjob, Option.map_some]
  generalize decide (id ∈ (after {} steps).queue) = due at hl
  -- The stage of the task says how often it was stopped, and what it has shown.
  obtain ⟨text, ht, hb, hs⟩ := stage_of_lane (fun x hx => (h x hx).isProper) hl
  obtain ⟨s, transport, continuationCrashes, -, hbody⟩ := h _ (scheduling_mem hl)
  have hj := reply_join hl
  refine ⟨hs.stops_le, ?_, ?_, hs.state_eq_cancelled_iff hb, ?_⟩
  · intro hn
    rw [hn] at hs
    obtain ⟨he, hp⟩ := hs.eq_of_stopped
    obtain ⟨hblocked, hjoin⟩ := hs.join_of_stopped
    refine ⟨he, (hs.state_eq_cancelled_iff hb).mpr rfl, ?_, ?_⟩
    · rw [ht]
      exact congrArg some hp
    · rw [hj, hblocked, hjoin]
      rfl
  · intro hn
    rw [hn] at hs
    obtain ⟨ho, hse, hco⟩ := hs.countP_submission hbody
    exact ⟨ho, hse, hco, fun ending hw => hs.countP_continuation hbody hw⟩
  · intro state hst
    rw [hj] at hst
    split at hst
    · cases hst
    · split at hst
      · cases hst
      · -- The task keeps the state that it answers with, which tells whether it was stopped.
        obtain ⟨hs', hstate⟩ := hs.join
        have hb' := Job.body_of_scheduling (scheduling_join ⟨job, due⟩)
        rw [← hstate state hst]
        exact hs'.state_eq_cancelled_iff (hb' ▸ hb)

/-- A run of two submissions, one of them behind a gate and with a continuation that crashes.  The
    first is stopped before its worker starts; a request to stop the second comes while it waits. -/
def twoSubmissions : List Step :=
  let s : Submission := { descriptor := ⟨"report", true, none⟩, form := .empty }
  let transport : Transport := ⟨fun _ => .gives (), fun _ _ => .gives ⟨200, "7"⟩⟩
  [.schedule "first" s.descriptor (s.body transport false false) false,
    .schedule "second" s.descriptor (s.body transport true true) true,
    .cancel "first", .settle, .cancel "second", .release "second", .settle, .join "first"]

theorem stopped_or_submitted_twoSubmissions :
    (∀ x ∈ twoSubmissions, x.OfSubmission)
      ∧ (∃ job, (after {} twoSubmissions).find? "first" = some job
        ∧ stops {} "first" twoSubmissions = 1
        ∧ shownBy "first" (log {} twoSubmissions) = [] ∧ job.state = .cancelled)
      ∧ ∃ job, (after {} twoSubmissions).find? "second" = some job
        ∧ stops {} "second" twoSubmissions = 0 ∧ job.worker = .ended .crashes
        ∧ (shownBy "second" (log {} twoSubmissions)).countP Event.isContinuation = 1 := by
  have h : ∀ x ∈ twoSubmissions, x.OfSubmission := by
    intro x hx
    simp only [twoSubmissions, List.mem_cons, List.not_mem_nil, or_false] at hx
    rcases hx with rfl | rfl | rfl | rfl | rfl | rfl | rfl | rfl
    · exact ⟨_, _, _, rfl, rfl⟩
    · exact ⟨_, _, _, rfl, rfl⟩
    all_goals exact trivial
  have hn : stops {} "first" twoSubmissions = 1 := by decide
  have hn' : stops {} "second" twoSubmissions = 0 := by decide
  obtain ⟨job, hj⟩ : ∃ job, (after {} twoSubmissions).find? "first" = some job :=
    Option.isSome_iff_exists.mp (by decide)
  obtain ⟨job', hj', hw⟩ : ∃ job, (after {} twoSubmissions).find? "second" = some job
      ∧ job.worker = .ended .crashes := ⟨_, rfl, rfl⟩
  obtain ⟨-, hs, -⟩ := stopped_or_submitted h hj
  obtain ⟨-, -, hs', -⟩ := stopped_or_submitted h hj'
  refine ⟨h, ⟨job, hj, hn, (hs hn).1, (hs hn).2.1⟩, ⟨job', hj', hn', hw, ?_⟩⟩
  exact (hs' hn').2.2.2 _ hw

end Scheduler

end Postbox
