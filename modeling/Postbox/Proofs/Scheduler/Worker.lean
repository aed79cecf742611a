import Postbox.Scheduler

namespace Postbox

/-!
# What a worker has done

A worker does the actions of its task in order, and stops at the end, at a crash, or at a closed
gate.  So at any time the actions are those done, with what they showed, followed by those to come.

* `Shows` — actions that were done, with the events they showed.
* `Worker.Leaves` — what the place of a worker says about the actions to come.
* `Job.perform_splits` — a stretch does a first part of its actions and leaves the rest.
* `Job.scheduling` — the step that a job comes from, which nothing that happens to it changes.
* `Job.poll_poll` — a worker that was let go on cannot go on again until its gate is opened.
-/

/-! ### Actions and the events they show -/

/-- The actions were done, and showed these events.  A look shows whatever the progress was. -/
inductive Shows : List Action → List Event → Prop
  | nil : Shows [] []
  | event {e : Event} {as : List Action} {es : List Event} (he : e.isProgress = false)
      (rest : Shows as es) : Shows (.shows e :: as) (e :: es)
  | progress {e : Event} {as : List Action} {es : List Event} (he : e.isProgress = true)
      (rest : Shows as es) : Shows (.shows e :: as) es
  | look {as : List Action} {es : List Event} (indeterminate canceled : Bool)
      (rest : Shows as es) : Shows (.looks :: as) (.observed indeterminate canceled :: es)
  | gate {as : List Action} {es : List Event} (rest : Shows as es) : Shows (.waits :: as) es

/-- Stretches of actions show their events one after the other. -/
theorem Shows.append {as bs : List Action} {es fs : List Event} (h : Shows as es)
    (h' : Shows bs fs) : Shows (as ++ bs) (es ++ fs) := by
  induction h with
  | nil => exact h'
  | event he _ ih => exact .event he ih
  | progress he _ ih => exact .progress he ih
  | look i c _ ih => exact .look i c ih
  | gate _ ih => exact .gate ih

/-- A crash is never behind what was done. -/
theorem Shows.crashes_not_mem {as : List Action} {es : List Event} (h : Shows as es) :
    .crashes ∉ as := by
  induction h with
  | nil => exact List.not_mem_nil
  | event _ _ ih | progress _ _ ih | look _ _ _ ih | gate _ ih =>
    rw [List.mem_cons, not_or]
    exact ⟨nofun, ih⟩

/-- Whether an action shows an event of the given kind. -/
def Action.isShowing (kind : Event → Bool) : Action → Bool
  | .shows event => kind event
  | _ => false

/-- Events of a kind that is neither a note on the progress nor a look at it are shown exactly by
    the actions for them. -/
theorem Shows.countP_eq {kind : Event → Bool} {as : List Action} {es : List Event}
    (h : Shows as es) (hp : ∀ e, kind e = true → e.isProgress = false)
    (ho : ∀ i c, kind (.observed i c) = false) :
    es.countP kind = as.countP (Action.isShowing kind) := by
  induction h with
  | nil => rfl
  | event _ _ ih => rw [List.countP_cons, List.countP_cons, ih]; rfl
  | @progress e as es he _ ih =>
    have hk : ¬kind e = true := by
      intro hk
      rw [hp e hk] at he
      cases he
    rw [List.countP_cons_of_neg (by simp [Action.isShowing, hk]), ih]
  | look i c _ ih =>
    rw [List.countP_cons_of_neg (by simp [ho i c]),
      List.countP_cons_of_neg (by simp [Action.isShowing]), ih]
  | gate _ ih => rw [List.countP_cons_of_neg (by simp [Action.isShowing]), ih]

/-- The event that an action shows in any case, if there is one that is not a note on the
    progress. -/
def Action.event? : Action → Option Event
  | .shows event => if event.isProgress then none else some event
  | _ => none

/-- Without looks at the progress, the actions alone say what they show. -/
theorem Shows.eq_filterMap {as : List Action} {es : List Event} (h : Shows as es)
    (hn : .looks ∉ as) : es = as.filterMap Action.event? := by
  induction h with
  | nil => rfl
  | event he _ ih =>
    rw [List.mem_cons, not_or] at hn
    rw [List.filterMap_cons_some (by rw [Action.event?, he]; rfl), ← ih hn.2]
  | progress he _ ih =>
    rw [List.mem_cons, not_or] at hn
    rw [List.filterMap_cons_none (by rw [Action.event?, he]; rfl), ← ih hn.2]
  | look => exact absurd List.mem_cons_self hn
  | gate _ ih =>
    rw [List.mem_cons, not_or] at hn
    rw [List.filterMap_cons_none rfl, ← ih hn.2]

/-! ### Where a worker stands -/

/-- What a worker that has begun leaves to do: what it waits with, nothing once it has returned,
    and a crash with all after it if it has crashed. -/
def Worker.Leaves (returns : State) : Worker → List Action → Prop
  | .fresh, _ => False
  | .paused rest, future => future = rest
  | .ended (.returns state), future => future = [] ∧ state = returns
  | .ended .crashes, future => ∃ more, future = .crashes :: more

namespace Job

/-- **A stretch splits its actions.**  Those before the worker's place were done and showed the
    events of the stretch; the others are left. -/
theorem perform_splits (returns : State) (isOpen : Bool) (p : Progress) (actions : List Action) :
    ∃ past future, actions = past ++ future
      ∧ Shows past (perform returns isOpen p actions).events
      ∧ (perform returns isOpen p actions).worker.Leaves returns future := by
  -- Each action that does not end the stretch is put in front of what the rest of it does.
  induction actions generalizing p with
  | nil => exact ⟨[], [], rfl, .nil, rfl, rfl⟩
  | cons a as ih =>
    cases a with
    | crashes => exact ⟨[], .crashes :: as, rfl, .nil, as, rfl⟩
    | waits =>
      rw [perform]
      split
      · obtain ⟨past, future, rfl, hs, hl⟩ := ih p
        exact ⟨.waits :: past, future, rfl, .gate hs, hl⟩
      · exact ⟨[.waits], as, rfl, .gate .nil, rfl⟩
    | looks =>
      obtain ⟨past, future, rfl, hs, hl⟩ := ih p
      exact ⟨.looks :: past, future, rfl, .look _ _ hs, hl⟩
    | shows e =>
      obtain ⟨past, future, rfl, hs, hl⟩ := ih (p.after e)
      refine ⟨.shows e :: past, future, rfl, ?_, ?_⟩
      · rw [perform]
        split
        · next he => exact .progress he hs
        · next he => exact .event (by simpa using he) hs
      · rw [perform]
        split <;> exact hl

/-- A worker stops at a closed gate only, and only if there is a gate among its actions. -/
theorem perform_paused {returns : State} {isOpen : Bool} {p : Progress}
    {actions rest : List Action} (h : (perform returns isOpen p actions).worker = .paused rest) :
    isOpen = false ∧ .waits ∈ actions := by
  induction actions generalizing p with
  | nil => cases h
  | cons a as ih =>
    cases a with
    | crashes => cases h
    | waits =>
      cases isOpen with
      | true => exact ⟨(ih h).1, List.mem_cons_self⟩
      | false => exact ⟨rfl, List.mem_cons_self⟩
    | looks =>
      obtain ⟨ho, hm⟩ := ih (p := p) h
      exact ⟨ho, List.mem_cons_of_mem _ hm⟩
    | shows e =>
      have h' : (perform returns isOpen (p.after e) as).worker = .paused rest := by
        rw [perform] at h
        split at h <;> exact h
      obtain ⟨ho, hm⟩ := ih h'
      exact ⟨ho, List.mem_cons_of_mem _ hm⟩

/-- Behind an open gate, a worker gets to the end of its actions, or to a crash among them. -/
theorem perform_open (returns : State) (p : Progress) (actions : List Action) :
    (perform returns true p actions).worker
      = .ended (if .crashes ∈ actions then .crashes else .returns returns) := by
  induction actions generalizing p with
  | nil => rfl
  | cons a as ih =>
    cases a with
    | crashes => rfl
    | waits => rw [perform, if_pos rfl, ih]; simp
    | looks => show (perform returns true p as).worker = _; rw [ih]; simp
    | shows e =>
      have hp : (perform returns true p (.shows e :: as)).worker
          = (perform returns true (p.after e) as).worker := by
        rw [perform]
        split <;> rfl
      rw [hp, ih]
      simp

/-! ### Letting a worker go on -/

theorem isPaused_iff {job : Job} : job.isPaused = true ↔ ∃ rest, job.worker = .paused rest := by
  rw [isPaused]
  cases job.worker with
  | fresh | ended => exact ⟨nofun, nofun⟩
  | paused rest => exact ⟨fun _ => ⟨rest, rfl⟩, fun _ => rfl⟩

/-- The step that schedules the task of a job. -/
def scheduling (job : Job) : Step := .schedule job.id job.descriptor job.body job.gated

theorem id_of_scheduling {a b : Job} (h : a.scheduling = b.scheduling) : a.id = b.id :=
  (Step.schedule.inj h).1

theorem descriptor_of_scheduling {a b : Job} (h : a.scheduling = b.scheduling) :
    a.descriptor = b.descriptor :=
  (Step.schedule.inj h).2.1

theorem body_of_scheduling {a b : Job} (h : a.scheduling = b.scheduling) : a.body = b.body :=
  (Step.schedule.inj h).2.2.1

/-- A job stays the job of its task when its worker goes on. -/
@[simp] theorem scheduling_poll (job : Job) : job.poll.2.scheduling = job.scheduling := by
  unfold poll
  split
  · split <;> rfl
  · split <;> rfl
  · rfl

/-- It does not open its gate or give its handle up by itself. -/
theorem poll_keeps (job : Job) :
    job.poll.2.released = job.released ∧ job.poll.2.joined = job.joined := by
  unfold poll
  split
  · split <;> exact ⟨rfl, rfl⟩
  · split <;> exact ⟨rfl, rfl⟩
  · exact ⟨rfl, rfl⟩

@[simp] theorem scheduling_cancel (job : Job) : job.cancel.2.scheduling = job.scheduling := by
  unfold cancel
  split
  · dsimp only
    split <;> rfl
  · rfl

/-- Finishing keeps what was scheduled. -/
theorem scheduling_finish {job job' : Job} {state : State} (h : job.finish = some (state, job')) :
    job'.scheduling = job.scheduling := by
  unfold finish at h
  split at h
  · cases h; rfl
  · cases h; rfl
  · cases h

/-- Neither a request to stop a task nor taking its handle away moves its worker. -/
@[simp] theorem worker_cancel (job : Job) : job.cancel.2.worker = job.worker := by
  unfold cancel
  split
  · dsimp only
    split <;> rfl
  · rfl

/-- A request to stop opens no gate. -/
theorem released_cancel (job : Job) : job.cancel.2.released = job.released := by
  unfold cancel
  split
  · dsimp only
    split <;> rfl
  · rfl

/-- Finishing does not touch the worker. -/
theorem worker_finish {job job' : Job} {state : State} (h : job.finish = some (state, job')) :
    job'.worker = job.worker := by
  unfold finish at h
  split at h <;> cases h <;> rfl

section

variable {job : Job}

/-- A worker that starts a task takes its title and does its actions. -/
theorem poll_of_created (hw : job.worker = .fresh) (hs : job.state = .created) :
    job.poll = job.advance { job.progress with text := job.descriptor.title } job.body.actions := by
  simp only [poll, hw, hs, if_true]

/-- A worker that finds its task stopped is done with it. -/
theorem poll_of_ne_created (hw : job.worker = .fresh) (hs : job.state ≠ .created) :
    job.poll = ([], { job with worker := .ended (.returns job.state) }) := by
  simp only [poll, hw, hs, if_false]

/-- A paused worker goes on once the gate is open. -/
theorem poll_of_released {rest : List Action} (hw : job.worker = .paused rest)
    (hr : job.released = true) : job.poll = job.advance job.progress rest := by
  simp only [poll, hw, hr, if_true]

/-- A paused worker waits while the gate is shut. -/
theorem poll_of_not_released {rest : List Action} (hw : job.worker = .paused rest)
    (hr : ¬job.released = true) : job.poll = ([], job) := by
  simp only [poll, hw, hr, Bool.false_eq_true, if_false]

/-- A worker that has ended does nothing. -/
theorem poll_of_ended {e : Ending} (hw : job.worker = .ended e) : job.poll = ([], job) := by
  simp only [poll, hw]

end

/-- After a stretch there is nothing to go on with: the task has ended, or its gate is closed. -/
theorem poll_advance (job : Job) (p : Progress) (as : List Action) :
    (job.advance p as).2.poll = ([], (job.advance p as).2) := by
  obtain ⟨_, future, _, _, hl⟩ := perform_splits job.body.returns job.released p as
  rw [poll]
  split
  · next h =>
    -- A worker that has done anything is not fresh.
    have h' : (perform job.body.returns job.released p as).worker = .fresh := h
    rw [h'] at hl
    exact hl.elim
  · next rest h =>
    -- It cannot have stopped at an open gate, and a stretch does not open or close one.
    have h' : (perform job.body.returns job.released p as).worker = .paused rest := h
    have hr : ¬(job.advance p as).2.released = true :=
      Bool.eq_false_iff.mp (perform_paused h').1
    rw [if_neg hr]
  · rfl

/-- **Letting a worker go on twice is letting it go on once.** -/
theorem poll_poll (job : Job) : job.poll.2.poll = ([], job.poll.2) := by
  cases hw : job.worker with
  | fresh =>
    by_cases hs : job.state = .created
    · rw [poll_of_created hw hs, poll_advance]
    · rw [poll_of_ne_created hw hs]
      rfl
  | paused rest =>
    by_cases hr : job.released = true
    · rw [poll_of_released hw hr, poll_advance]
    · have h := poll_of_not_released hw hr
      rw [h]
      exact h
  | ended e =>
    have h := poll_of_ended hw
    rw [h]
    exact h

end Job

end Postbox
