import Postbox.Proofs.Scheduler.Cancellation

namespace Postbox

/-!
# Waiting for a task

Joining a task waits for all that its body does.  A task without a gate that nobody stops and
nobody has joined yet answers with the state that its body returns, and has by then shown all that
its body shows, whatever else was done with the scheduler in between.

* `Body.RunsThrough` — the body ends by itself, and what it shows until then.
* `LeftAlone` — such a task has not started, or it has ended and shown everything.
* `LeftAlone.step`, `Scheduler.leftAlone_of_spares` — every step that spares the task, and every run
  of such steps, keeps it so.
* `Scheduler.join_of_spares` — what joining it answers, and what it has shown then.
* `Scheduler.scheduled_of_mem_log` — only tasks that were scheduled show anything.
* `Submission.runsThrough` — the body of a submission runs through.
-/

/-- Whatever the progress is, the body does all its actions without waiting or crashing, and shows
    these events. -/
def Body.RunsThrough (body : Body) (shown : List Event) : Prop :=
  ∀ (isOpen : Bool) (p : Progress),
    (Job.perform body.returns isOpen p body.actions).events = shown
      ∧ (Job.perform body.returns isOpen p body.actions).worker = .ended (.returns body.returns)

/-- The step neither stops the task nor takes its handle away. -/
def Step.spares (id : String) : Step → Bool
  | .cancel i | .join i => decide (i ≠ id)
  | _ => true

/-- The task, as far as this step schedules it, has no gate, and its body runs through. -/
def Step.RunsThrough (id : String) (ends : State) (shown : List Event) : Step → Prop
  | .schedule i _ body gated =>
    i = id → gated = false ∧ body.returns = ends ∧ body.RunsThrough shown
  | _ => True

/-- A task that was left alone has not started, or it has ended and shown everything. -/
inductive LeftAlone (ends : State) (shown : List Event) : List Event → Lane → Prop
  | waiting {l : Lane} (ungated : l.job.gated = false) (joined : l.job.joined = false)
      (due : l.due = true) (state : l.job.state = .created) (worker : l.job.worker = .fresh)
      (returns : l.job.body.returns = ends) (body : l.job.body.RunsThrough shown) :
      LeftAlone ends shown [] l
  | ended {l : Lane} (ungated : l.job.gated = false) (joined : l.job.joined = false)
      (worker : l.job.worker = .ended (.returns ends)) : LeftAlone ends shown shown l

namespace LeftAlone

variable {ends : State} {shown es : List Event} {l : Lane}

/-- A task that is left alone may become due. -/
theorem due (h : LeftAlone ends shown es l) : LeftAlone ends shown es { l with due := true } := by
  cases h with
  | waiting hg hj hd hs hw hr hb => exact .waiting hg hj rfl hs hw hr hb
  | ended hg hj hw => exact .ended hg hj hw

/-- Its gate may be opened. -/
theorem release (h : LeftAlone ends shown es l) : LeftAlone ends shown es l.release := by
  cases h with
  | waiting hg hj hd hs hw hr hb =>
    have hd' : l.release.due = true := by rw [Lane.release, hd, Bool.true_or]
    exact .waiting hg hj hd' hs hw hr hb
  | ended hg hj hw => exact .ended hg hj hw

theorem withProgress (h : LeftAlone ends shown es l) (f : Progress → Progress) :
    LeftAlone ends shown es (l.modify fun job => { job with progress := f job.progress }) := by
  cases h with
  | waiting hg hj hd hs hw hr hb => exact .waiting hg hj hd hs hw hr hb
  | ended hg hj hw => exact .ended hg hj hw

/-- A task that was left alone can be joined, and joining it never waits for a gate. -/
theorem joinable (h : LeftAlone ends shown es l) :
    l.job.joined = false ∧ l.job.isBlocked = false := by
  cases h with
  | waiting hg hj | ended hg hj =>
    refine ⟨hj, ?_⟩
    rw [Job.isBlocked, hg]
    rfl

/-- **Once the workers went on, the task has ended and shown everything.** -/
theorem settle (h : LeftAlone ends shown es l) :
    es ++ l.settle.1 = shown ∧ LeftAlone ends shown shown l.settle.2
      ∧ l.settle.2.job.worker = .ended (.returns ends) := by
  cases h with
  | waiting hg hj hd hs hw hr hb =>
    -- It is due, so its worker starts now, and neither a gate nor a crash keeps it from the end.
    obtain ⟨he, hw'⟩ := hb l.job.released { l.job.progress with text := l.job.descriptor.title }
    rw [Lane.settle, if_pos hd, Job.poll_of_created hw hs]
    exact ⟨he, .ended hg hj (hr ▸ hw'), hr ▸ hw'⟩
  | ended hg hj hw =>
    rw [Lane.settle]
    split
    · rw [Job.poll_of_ended hw]
      exact ⟨List.append_nil _, .ended hg hj hw, hw⟩
    · exact ⟨List.append_nil _, .ended hg hj hw, hw⟩

/-- **A step that spares a task leaves it alone.** -/
theorem step (h : LeftAlone ends shown es l) {id : String} {x : Step} (hx : x.concerns id = true)
    (hs : x.spares id = true) : LeftAlone ends shown (es ++ (l.step x).2.1) (l.step x).2.2 := by
  have quiet : LeftAlone ends shown (es ++ []) l := (List.append_nil es).symm ▸ h
  cases x with
  | schedule => exact quiet.due
  | settle =>
    obtain ⟨he, hl, -⟩ := h.settle
    exact he.symm ▸ hl
  | release => exact quiet.release
  | isFinished =>
    rw [Lane.step, Lane.withHandle]
    split <;> exact quiet
  | cancelProgress => exact quiet.withProgress fun p => { p with canceled := true }
  | setText i text => exact quiet.withProgress fun p => { p with text }
  | cancel i | join i => exact absurd (of_decide_eq_true hx) (of_decide_eq_true hs)

/-- Joining the task answers with the state it ends in, and nothing is left to show then. -/
theorem join (h : LeftAlone ends shown es l) :
    l.join.1 = .state ends ∧ es ++ l.join.2.1 = shown := by
  obtain ⟨he, -, hw⟩ := h.settle
  simp only [Lane.join, Job.finish, hw]
  exact ⟨trivial, he⟩

end LeftAlone

namespace Scheduler

/-- The task was left alone, or it was not scheduled yet. -/
def Spared (id : String) (ends : State) (shown : List Event) (steps : List Step)
    (es : List Event) : Option Lane → Prop
  | none => es = [] ∧ ∀ d b gated, .schedule id d b gated ∉ steps
  | some l => LeftAlone ends shown es l

section

variable {id : String} {ends : State} {shown : List Event} {steps : List Step}

/-- One step that spares a task, and schedules it only with a body that runs through. -/
theorem Spared.follows {xs : List Step} {x : Step} {es fs : List Event} {b : Bool}
    {o o' : Option Lane} (h : Spared id ends shown xs es o) (hs : x.spares id = true)
    (hr : x.RunsThrough id ends shown) (hf : Follows id x o b fs o') :
    Spared id ends shown (xs ++ [x]) (es ++ fs) o' := by
  cases hf with
  | absent hn =>
    obtain ⟨rfl, hm⟩ := h
    refine ⟨rfl, fun d b gated hmem => ?_⟩
    rcases List.mem_append.mp hmem with hmem | hmem
    · exact hm d b gated hmem
    · exact hn d b gated (List.mem_singleton.mp hmem).symm
  | scheduled hx =>
    subst hx
    obtain ⟨rfl, -⟩ := h
    obtain ⟨hg, he, hb⟩ := hr rfl
    exact LeftAlone.waiting hg rfl rfl rfl rfl he hb
  | concerned hx => exact LeftAlone.step h hx hs
  | settled hx =>
    obtain ⟨he, hl, -⟩ := LeftAlone.settle h
    exact he.symm ▸ hl
  | passed hx =>
    rw [List.append_nil]
    exact h

/-- **A run that spares a task leaves it alone.** -/
theorem leftAlone_of_spares (hs : ∀ x ∈ steps, x.spares id = true)
    (hr : ∀ x ∈ steps, x.RunsThrough id ends shown) {d : Descriptor} {b : Body} {gated : Bool}
    (hm : .schedule id d b gated ∈ steps) :
    ∃ l, (after {} steps).lane id = some l
      ∧ LeftAlone ends shown (shownBy id (log {} steps)) l := by
  -- The induction is on the end of the run, so both conditions are asked of its steps so far.
  have key : (∀ x ∈ steps, x.spares id = true ∧ x.RunsThrough id ends shown) →
      Spared id ends shown steps (shownBy id (log {} steps)) ((after {} steps).lane id) := by
    apply history_induction id (P := fun xs _ es o =>
      (∀ x ∈ xs, x.spares id = true ∧ x.RunsThrough id ends shown) → Spared id ends shown xs es o)
    · exact fun _ => ⟨rfl, fun _ _ _ => List.not_mem_nil⟩
    · intro xs x n es o b fs o' ih hf hp
      obtain ⟨hs, hr⟩ := hp x (List.mem_append_right _ (List.mem_singleton.mpr rfl))
      exact (ih fun y hy => hp y (List.mem_append_left _ hy)).follows hs hr hf
  have hk := key fun x hx => ⟨hs x hx, hr x hx⟩
  cases hl : (after {} steps).lane id with
  | none =>
    rw [hl] at hk
    exact absurd hm (hk.2 d b gated)
  | some l =>
    rw [hl] at hk
    exact ⟨l, rfl, hk⟩

/-- **Joining a task waits for all of it.**  After any run that spared the task, joining it answers
    with the state that its body returns, and by then the task has shown all that its body
    shows. -/
theorem join_of_spares (hs : ∀ x ∈ steps, x.spares id = true)
    (hr : ∀ x ∈ steps, x.RunsThrough id ends shown) {d : Descriptor} {b : Body} {gated : Bool}
    (hm : .schedule id d b gated ∈ steps) :
    ((after {} steps).step (.join id)).1 = .state ends
      ∧ shownBy id (log {} (steps ++ [.join id])) = shown := by
  obtain ⟨l, hl, h⟩ := leftAlone_of_spares hs hr hm
  obtain ⟨hj, hk⟩ := h.joinable
  have hc : (Step.join id).concerns id = true := by simp [Step.concerns]
  have hstep : l.step (.join id) = l.join := by
    rw [Lane.step, Lane.withHandle, hj, hk]
    rfl
  obtain ⟨hreply, hshown, -⟩ := step_of_concerns hl hc
  rw [hstep] at hreply hshown
  rw [log_append_singleton, shownBy_append, hreply, hshown]
  exact h.join

/-- **Only tasks that were scheduled show anything.** -/
theorem scheduled_of_mem_log {i : String} {e : Event} (h : (i, e) ∈ log {} steps) :
    ∃ d b gated, .schedule i d b gated ∈ steps := by
  have hmem : e ∈ shownBy i (log {} steps) :=
    List.mem_filterMap.mpr ⟨(i, e), h, if_pos rfl⟩
  -- A task that shows something has a lane, and a lane comes from a step of the run.
  have key : (after {} steps).lane i = none → shownBy i (log {} steps) = [] := by
    apply history_induction i (P := fun _ _ es o => o = none → es = [])
    · exact fun _ => rfl
    · intro xs x n es o b fs o' ih hf ho
      cases hf with
      | absent => rw [ih rfl, List.append_nil]
      | scheduled | concerned | settled | passed => cases ho
  cases hl : (after {} steps).lane i with
  | none =>
    rw [key hl] at hmem
    exact absurd hmem List.not_mem_nil
  | some l =>
    obtain rfl : l.job.id = i := id_of_find? (lane_eq_some_iff.mp hl).1
    exact ⟨_, _, _, scheduling_mem hl⟩

end

end Scheduler

/-! ### Submissions -/

namespace Submission

/-- What a submission shows, but for the notes on its progress. -/
def logged (s : Submission) (transport : Transport) : List Event :=
  .opening s.endpoint
    :: (if transport.opens s.endpoint = .gives () then [.sending s.request] else [])
      ++ [continuation (s.outcome transport)]

/-- Without a gate, the actions for events are done to the end and show these events. -/
theorem perform_actionsOf (returns : State) (isOpen : Bool) (p : Progress) (es : List Event) :
    (Job.perform returns isOpen p (es.flatMap (actionsOf false))).events
        = es.filter (fun e => !e.isProgress)
      ∧ (Job.perform returns isOpen p (es.flatMap (actionsOf false))).worker
        = .ended (.returns returns) := by
  -- Each event may change the progress that the next one finds.
  induction es generalizing p with
  | nil => exact ⟨rfl, rfl⟩
  | cons e es ih =>
    obtain ⟨he, hw⟩ := ih (p.after e)
    have ha : actionsOf false e = [.shows e] := by cases e <;> rfl
    rw [List.flatMap_cons, ha, List.singleton_append, Job.perform]
    cases hp : e.isProgress with
    | true =>
      rw [List.filter_cons_of_neg (by simp [hp])]
      exact ⟨he, hw⟩
    | false =>
      rw [List.filter_cons_of_pos (by simp [hp])]
      exact ⟨congrArg (e :: ·) he, hw⟩

/-- The notes on the progress left out, a trace is what is logged. -/
theorem filter_trace (s : Submission) (transport : Transport) :
    (s.trace transport (continuation (s.outcome transport))).filter (fun e => !e.isProgress)
      = s.logged transport := by
  rw [trace, logged]
  cases s.outcome transport <;> split <;> rfl

/-- **A submission runs through**, and logs its trace. -/
theorem runsThrough (s : Submission) (transport : Transport) :
    (s.body transport false false).RunsThrough (s.logged transport) := by
  intro isOpen p
  rw [body, execute_eq, ← filter_trace]
  exact perform_actionsOf _ isOpen p _

end Submission

end Postbox
