import Mathlib.Logic.Relation
import Postbox.Proofs.Scheduler.Life

namespace Postbox

/-!
# How the state of a task changes

A task is created, running, and then succeeded or failed; or it is created, and then cancelled.  One
step of a scheduler may lead over several of these: a worker that is let go on takes its task, does
the actions, and notes what the body returned.  So a step is taken apart into single changes of a
job, each made by the worker or by the owner of the task.

* `State.Edge` — the edges along which the state may change.
* `Job.Alters`, `Job.Moves` — a single change of a job, and one that keeps to the edges.
* `Job.Course` — single changes one after the other, each of them along the edges.
* `Stage.course_step`, `Scheduler.course_of_step` — what a step does to a task with a proper body is
  such a course.
* `Job.Course.state_eq`, `Scheduler.state_of_isFinished` — a last state is never left.
-/

/-- The lifecycle of a task: `created → running → {succeeded, failed}`, or `created → cancelled`. -/
inductive State.Edge : State → State → Prop
  | start : Edge .created .running
  | succeed : Edge .running .succeeded
  | fail : Edge .running .failed
  | cancel : Edge .created .cancelled

/-- No edge leaves a last state. -/
theorem State.Edge.not_isFinished {a b : State} (h : a.Edge b) : a.isFinished = false := by
  cases h <;> rfl

/-- A single change of a job. -/
inductive Job.Alters (job : Job) : Job → Prop
  /-- The worker takes a new task, and has all its actions to do. -/
  | takes (worker : job.worker = .fresh) (state : job.state = .created) :
      Alters job { job with
        state := .running
        progress := { job.progress with text := job.descriptor.title }
        worker := .paused job.body.actions }
  /-- The worker does the actions it has left, up to the end, a crash, or a closed gate. -/
  | does {rest : List Action} (worker : job.worker = .paused rest) :
      Alters job (job.advance job.progress rest).2
  /-- The worker finds the task stopped, and leaves it. -/
  | leaves (worker : job.worker = .fresh) (state : job.state ≠ .created) :
      Alters job { job with worker := .ended (.returns job.state) }
  /-- The owner asks the task to stop. -/
  | stops : Alters job job.cancel.2
  /-- The owner gives the handle up for the final state. -/
  | joins {state : State} {job' : Job} (ends : job.finish = some (state, job')) : Alters job job'
  /-- The owner opens the gate. -/
  | opens : Alters job { job with released := true }
  /-- The owner changes the progress. -/
  | reports (p : Progress) : Alters job { job with progress := p }

namespace Job

/-- A single change that leaves the state alone or changes it along an edge. -/
structure Moves (a b : Job) : Prop where
  alters : a.Alters b
  state : b.state = a.state ∨ a.state.Edge b.state

/-- Single changes one after the other, each of which keeps to the edges. -/
def Course (a b : Job) : Prop := Relation.ReflTransGen Moves a b

/-- A change that leaves the state alone keeps to the edges. -/
theorem Course.of_alters {a b : Job} (h : a.Alters b) (hs : b.state = a.state) : a.Course b :=
  .single ⟨h, .inl hs⟩

/-- **A last state is never left**, whatever happens along the edges. -/
theorem Course.state_eq {a b : Job} (h : a.Course b) (ha : a.state.isFinished = true) :
    b.state = a.state := by
  induction h with
  | refl => rfl
  | tail _ hm ih =>
    rcases hm.state with hs | he
    · exact hs.trans ih
    · -- An edge would leave the last state that was reached so far.
      have hn := he.not_isFinished
      rw [ih, ha] at hn
      cases hn

/-- A worker that does what it has left finds the task running, and notes success or failure if it
    gets to the end. -/
theorem moves_advance {job : Job} {past rest : List Action} {es : List Event}
    (hw : job.worker = .paused rest) (hst : job.state = .running) (hb : job.body.IsProper)
    (ha : job.body.actions = past ++ rest) (hs : Shows past es) :
    job.Moves (job.advance job.progress rest).2 := by
  -- The worker stops on its way, or has done all actions and returns as a proper body does.
  refine ⟨.does hw, ?_⟩
  obtain ⟨done, future, hd, hs', hl⟩ :=
    perform_splits job.body.returns job.released job.progress rest
  show stateAfter .running _ = job.state ∨ job.state.Edge (stateAfter .running _)
  rw [hst]
  generalize (perform job.body.returns job.released job.progress rest).worker = w at hl ⊢
  cases w with
  | fresh | paused => exact .inl rfl
  | ended ending =>
    cases ending with
    | crashes => exact .inl rfl
    | returns state =>
      obtain ⟨rfl, rfl⟩ := hl
      rw [hd, List.append_nil] at ha
      show job.body.returns = .running ∨ _
      rcases hb.returns (ha ▸ hs.append hs') with hr | hr <;> simp only [stateAfter, hr]
      · exact .inr .succeed
      · exact .inr .fail

end Job

section

variable {text : String} {n : Nat} {es : List Event} {l : Lane}

/-- Letting the worker go on: it takes a task that waits and does its actions, it does what it has
    left, or it leaves a stopped task. -/
theorem Stage.course_settle (h : Stage text n es l) : l.job.Course l.settle.2.job := by
  rw [Lane.settle]
  split
  · obtain ⟨⟨s, hp⟩, hb⟩ := h
    cases hp with
    | waiting hs hw =>
      -- Two changes: the worker takes the task, and then it does what there is to do.
      rw [Job.poll_of_created hw hs]
      have htake : l.job.Moves _ := ⟨.takes hw hs, .inr (hs ▸ .start)⟩
      exact .head htake (.single (Job.moves_advance rfl rfl hb (List.nil_append _).symm .nil))
    | stopped hs _ _ hw =>
      rcases hw with ⟨hw, -, -⟩ | hw
      · have hn : l.job.state ≠ .created := by simp [hs]
        rw [Job.poll_of_ne_created hw hn]
        exact .of_alters (.leaves hw hn) rfl
      · rw [Job.poll_of_ended hw]
        exact .refl
    | @begun _ past future _ ha hs hw hst =>
      cases hwk : l.job.worker with
      | fresh => rw [hwk] at hw; exact hw.elim
      | paused rest =>
        by_cases hr : l.job.released = true
        · -- Whoever waits at a gate has neither returned nor crashed.
          have hrunning : l.job.state = .running := by
            rcases Job.state_of_not_returned (by simp [hwk]) hw hst with h | ⟨hc, -⟩
            · exact h
            · rw [hwk] at hc; cases hc
          rw [hwk] at hw
          have hf : future = rest := hw
          rw [Job.poll_of_released hwk hr]
          exact .single (Job.moves_advance hwk hrunning hb (hf ▸ ha) hs)
        · rw [Job.poll_of_not_released hwk hr]
          exact .refl
      | ended ending =>
        rw [Job.poll_of_ended hwk]
        exact .refl
    | recalled _ _ hw =>
      rw [Job.poll_of_ended hw]
      exact .refl
  · exact .refl

/-- A request to stop changes the state of a task that is created, to cancelled, and no other. -/
theorem Job.moves_cancel (job : Job) : job.Moves job.cancel.2 := by
  refine ⟨.stops, ?_⟩
  by_cases hc : job.descriptor.cancellable = true
  · by_cases hnew : job.state = .created
    · rw [cancel_of_created hc hnew, hnew]
      exact .inr .cancel
    · rw [cancel_of_ne_created hc hnew]
      exact .inl rfl
  · rw [cancel_of_not_cancellable hc]
    exact .inl rfl

/-- Giving the handle up changes the state of a task that crashed, to failed, and no other. -/
theorem Stage.moves_finish (h : Stage text n es l) {state : State} {job : Job}
    (hf : l.job.finish = some (state, job)) : l.job.Moves job := by
  refine ⟨.joins hf, ?_⟩
  obtain ⟨⟨s, hp⟩, hb⟩ := h
  unfold Job.finish at hf
  split at hf
  · cases hf
    exact .inl rfl
  · next hw =>
    cases hf
    cases hp with
    | waiting _ hw' => rw [hw'] at hw; cases hw
    | stopped _ _ _ hw' => rcases hw' with ⟨hw', -, -⟩ | hw' <;> rw [hw'] at hw <;> cases hw
    | begun _ _ place hst =>
      rcases Job.state_of_not_returned (by simp [hw]) place hst with h | ⟨-, h⟩ <;> rw [h]
      · exact .inr .fail
      · exact .inl rfl
    | recalled _ _ hw' => rw [hw'] at hw; cases hw
  · cases hf

/-- Joining a task: its worker goes on, and then the handle is given up if the task has ended. -/
theorem Stage.course_join (h : Stage text n es l) : l.job.Course l.join.2.2.job := by
  rw [Lane.join]
  cases hf : l.settle.2.job.finish with
  | none => exact h.course_settle
  | some r => exact h.course_settle.tail (h.settle.moves_finish hf)

/-- **A step that concerns a task with a proper body changes its state along the edges.** -/
theorem Stage.course_step (h : Stage text n es l) (x : Step) :
    l.job.Course (l.step x).2.2.job := by
  cases x with
  | schedule => exact .refl
  | settle => exact h.course_settle
  | release => exact .of_alters .opens rfl
  | cancel i =>
    rw [Lane.step, Lane.withHandle]
    split
    · exact .refl
    · exact .single l.job.moves_cancel
  | isFinished i =>
    rw [Lane.step, Lane.withHandle]
    split <;> exact .refl
  | join i =>
    rw [Lane.step, Lane.withHandle]
    split
    · exact .refl
    · split
      · exact .refl
      · exact h.course_join
  | cancelProgress => exact .of_alters (.reports _) rfl
  | setText => exact .of_alters (.reports _) rfl

end

namespace Scheduler

variable {steps : List Step} {id : String} {l : Lane}

/-- **Every step of a run changes the state of a task with a proper body along the edges**, one
    change at a time. -/
theorem course_of_step (hl : (after {} steps).lane id = some l) (hb : l.job.body.IsProper)
    (x : Step) : ∃ l', (after {} (steps ++ [x])).lane id = some l' ∧ l.job.Course l'.job := by
  obtain ⟨text, -, hs⟩ := stage_of_isProper hl hb
  obtain ⟨l', hl', h⟩ := exists_lane_step hl x
  rw [after_append_singleton]
  refine ⟨l', hl', ?_⟩
  rcases h with rfl | rfl | rfl
  · exact hs.course_step x
  · exact hs.course_settle
  · exact .refl

/-- **A task with a proper body never leaves a last state**, whatever steps come after it. -/
theorem state_of_isFinished (hl : (after {} steps).lane id = some l) (hb : l.job.body.IsProper)
    (hf : l.job.state.isFinished = true) (ys : List Step) :
    ∃ l', (after {} (steps ++ ys)).lane id = some l' ∧ l'.job.body = l.job.body
      ∧ l'.job.state = l.job.state := by
  induction ys using List.reverseRecOn with
  | nil =>
    rw [List.append_nil]
    exact ⟨l, hl, rfl, rfl⟩
  | append_singleton ys y ih =>
    obtain ⟨l₁, h₁, hb₁, hs₁⟩ := ih
    obtain ⟨l₂, h₂, hc⟩ := course_of_step h₁ (hb₁ ▸ hb) y
    obtain ⟨l₃, h₃, hsame⟩ := exists_lane_after h₁ [y]
    rw [← after_append, h₂] at h₃
    cases h₃
    rw [← List.append_assoc]
    refine ⟨l₂, h₂, (Job.body_of_scheduling hsame).trans hb₁, ?_⟩
    rw [hc.state_eq (by rw [hs₁, hf]), hs₁]

end Scheduler

end Postbox
