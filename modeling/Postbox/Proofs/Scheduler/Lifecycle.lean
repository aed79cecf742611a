import Postbox.Proofs.Scheduler.Cancellation
import Postbox.Proofs.Scheduler.Edges
import Postbox.Proofs.Scheduler.Flag

namespace Postbox

/-!
# The lifecycle of a task

The state of a task, its progress and the place of its worker are written by the worker, by the body
and by the owner, in any order.  For a task whose body returns success or failure, as far as it does
not crash, they fit together at every point of every run.  A submission is such a task.

* `Stage.of_not_begun` — what is known of a task that is created or cancelled.
* `Stage.join_eq`, `Stage.isFinished_of_join` — what is answered to the owner who joins a task.
* `Scheduler.Lifecycle` — how the cells of a task fit together at a point of a run.
* `Scheduler.lifecycle_of_isProper` — they do so for all tasks with a proper body.
-/

section

variable {text : String} {n : Nat} {es : List Event} {l : Lane}

/-- The worker has not touched the progress of a task that is created or cancelled, and a cancelled
    task was cancellable and has its flag set. -/
theorem Stage.of_not_begun (h : Stage text n es l)
    (hs : l.job.state = .created ∨ l.job.state = .cancelled) :
    l.job.progress.indeterminate = false ∧ l.job.progress.text = text
      ∧ (l.job.state = .cancelled →
        l.job.descriptor.cancellable = true ∧ l.job.progress.canceled = true) := by
  obtain ⟨⟨s, hp⟩, hb⟩ := h
  cases hp with
  | waiting hst _ _ _ hi ht => exact ⟨hi, ht, fun hc => by rw [hst] at hc; cases hc⟩
  | stopped _ hc hprogress =>
    rw [hprogress]
    exact ⟨rfl, rfl, fun _ => ⟨hc, rfl⟩⟩
  | begun ha hsh hw hst =>
    obtain ⟨hn, hn'⟩ := Job.state_of_begun hb ha hsh hw hst
    exact absurd hs (not_or.mpr ⟨hn, hn'⟩)
  | recalled hsh hr => exact absurd hr (hb.returns_ne_created hsh)

/-- A task that is not due to run waits at its gate, or it has ended. -/
theorem Stage.paused_or_ended (h : Stage text n es l) (hd : l.due = false) :
    l.job.isPaused = true ∨ ∃ ending, l.job.worker = .ended ending := by
  obtain ⟨⟨s, hp⟩, -⟩ := h
  cases hp with
  | waiting _ _ hdue => rw [hdue] at hd; cases hd
  | stopped _ _ _ hw =>
    rcases hw with ⟨-, hdue, -⟩ | hw
    · rw [hdue] at hd; cases hd
    · exact .inr ⟨_, hw⟩
  | begun _ _ hw =>
    cases hwk : l.job.worker with
    | fresh => rw [hwk] at hw; exact hw.elim
    | paused rest => exact .inl (Job.isPaused_iff.mpr ⟨rest, hwk⟩)
    | ended ending => exact .inr ⟨ending, rfl⟩
  | recalled _ _ hw => exact .inr ⟨_, hw⟩

/-- **What joining a task answers**: that it would wait, if the task waits once its worker went on;
    that it failed, if it crashed; and otherwise its state. -/
theorem Stage.join_eq (h : Stage text n es l) :
    l.join.1 = if l.settle.2.job.isPaused then .wouldBlock
      else .state (if l.settle.2.job.worker = .ended .crashes then .failed
        else l.settle.2.job.state) := by
  rw [Lane.join]
  rcases h.settle.paused_or_ended l.due_settle with hp | ⟨ending, hw⟩
  · obtain ⟨rest, hw⟩ := Job.isPaused_iff.mp hp
    have hf : l.settle.2.job.finish = none := by simp only [Job.finish, hw]
    rw [hf, if_pos hp]
  · have hp : ¬l.settle.2.job.isPaused = true := by simp [Job.isPaused, hw]
    rw [if_neg hp]
    cases ending with
    | crashes =>
      rw [if_pos hw]
      simp only [Job.finish, hw]
    | returns state =>
      -- The worker keeps what the body returned, and that is still the state of the task.
      have hf : l.settle.2.job.finish = some (state, { l.settle.2.job with joined := true }) := by
        simp only [Job.finish, hw]
      have hst := h.settle.state_of_finish hf
      rw [hf, if_neg (by simp [hw]), ← hst]

/-- The state that a task is given up for is a last one. -/
theorem Stage.isFinished_of_finish (h : Stage text n es l) {state : State} {job : Job}
    (hf : l.job.finish = some (state, job)) : state.isFinished = true := by
  have hst := h.state_of_finish hf
  obtain ⟨⟨s, hp⟩, hb⟩ := h
  unfold Job.finish at hf
  split at hf
  · next hw =>
    cases hf
    have hst' : l.job.state = state := hst
    cases hp with
    | waiting _ hw' => rw [hw'] at hw; cases hw
    | stopped hs => rw [← hst', hs]; rfl
    | begun ha hsh place hstate =>
      -- It has returned, so all its actions are done.
      obtain ⟨rfl, hr, -⟩ := Job.state_of_returned hw place hstate
      rw [List.append_nil] at ha
      rw [hr]
      rcases hb.returns (ha ▸ hsh) with h | h <;> rw [h] <;> rfl
    | recalled _ _ _ hs => rw [← hst', hs]; rfl
  · cases hf; rfl
  · cases hf

/-- Joining tells of a state in which the task has finished. -/
theorem Stage.isFinished_of_join (h : Stage text n es l) {state : State}
    (hj : l.join.1 = .state state) : state.isFinished = true := by
  rw [Lane.join] at hj
  cases hf : l.settle.2.job.finish with
  | none => rw [hf] at hj; cases hj
  | some r =>
    rw [hf] at hj
    cases hj
    exact h.settle.isFinished_of_finish hf

end

namespace Scheduler

/-- How the cells of the task `id` fit together after these steps. -/
structure Lifecycle (id : String) (steps : List Step) (job : Job) : Prop where
  /-- Whatever step comes next, it consists of single changes, each of which leaves the state alone
      or changes it along an edge. -/
  course : ∀ x, ∃ job', (after {} (steps ++ [x])).find? id = some job' ∧ job.Course job'
  /-- A last state is never left. -/
  last : job.state.isFinished = true →
    ∀ ys, ((after {} (steps ++ ys)).find? id).map Job.state = some job.state
  /-- The flag is set exactly if an earlier step asked the task to stop. -/
  flag : job.progress.canceled = true ↔ Asked {} id job.descriptor.cancellable steps
  /-- The flag is never reset. -/
  flagKept : job.progress.canceled = true →
    ∀ ys, ((after {} (steps ++ ys)).find? id).map (fun job' => job'.progress.canceled) = some true
  /-- A cancelled task was cancellable, and its flag is set. -/
  cancelled : job.state = .cancelled →
    job.descriptor.cancellable = true ∧ job.progress.canceled = true
  /-- The worker has not touched the progress of a task that is created or cancelled: its duration
      is known, and its text is the one that the owner gave it. -/
  untouched : job.state = .created ∨ job.state = .cancelled →
    job.progress.indeterminate = false ∧ directText id steps = some job.progress.text
  /-- Joining a task whose handle is there waits if the gate is closed.  Otherwise it answers that
      the task failed, if it crashed, and the state that the task has come to, if not. -/
  join : ∀ job', (after {} (steps ++ [.settle])).find? id = some job' →
    ((after {} steps).step (.join id)).1
      = if job.joined then .joined
        else if job.isBlocked || job'.isPaused then .wouldBlock
        else .state (if job'.worker = .ended .crashes then .failed else job'.state)
  /-- That is a last state, and the state of the task from then on. -/
  joined : ∀ state, ((after {} steps).step (.join id)).1 = .state state →
    state.isFinished = true
      ∧ ∀ ys, ((after {} (steps ++ .join id :: ys)).find? id).map Job.state = some state

section

variable {steps : List Step} {id : String} {l : Lane}

/-- The flag of a task is never reset. -/
theorem canceled_kept (hl : (after {} steps).lane id = some l)
    (hc : l.job.progress.canceled = true) (ys : List Step) :
    ∃ l', (after {} (steps ++ ys)).lane id = some l' ∧ l'.job.progress.canceled = true := by
  obtain ⟨l', hl', hsame⟩ := exists_lane_after hl ys
  rw [← after_append] at hl'
  refine ⟨l', hl', (canceled_iff_asked hl').mpr ?_⟩
  -- The step that asked the task is among the earlier ones.
  rw [Job.descriptor_of_scheduling hsame, asked_append]
  exact .inl ((canceled_iff_asked hl).mp hc)

/-- The answer to the owner who joins a task. -/
theorem reply_join_of_isProper (hl : (after {} steps).lane id = some l)
    (hb : l.job.body.IsProper) {job' : Job}
    (hjob' : (after {} (steps ++ [.settle])).find? id = some job') :
    ((after {} steps).step (.join id)).1
      = if l.job.joined then .joined
        else if l.job.isBlocked || job'.isPaused then .wouldBlock
        else .state (if job'.worker = .ended .crashes then .failed else job'.state) := by
  obtain ⟨text, -, hs⟩ := stage_of_isProper hl hb
  have hsettled := (lane_eq_some_iff.mp (lane_after_settle hl)).1
  obtain rfl : l.settle.2.job = job' := Option.some.inj (hsettled.symm.trans hjob')
  -- A task that is blocked now and one that waits later are answered alike.
  rw [reply_join hl, hs.join_eq]
  cases l.job.isBlocked <;> simp

/-- The answer to the owner who joins a task is a last state, and the task stays in it. -/
theorem state_of_reply_join (hl : (after {} steps).lane id = some l) (hb : l.job.body.IsProper)
    {state : State} (hr : ((after {} steps).step (.join id)).1 = .state state) (ys : List Step) :
    state.isFinished = true
      ∧ ∃ l', (after {} (steps ++ .join id :: ys)).lane id = some l' ∧ l'.job.state = state := by
  obtain ⟨text, -, hs⟩ := stage_of_isProper hl hb
  have hc : (Step.join id).concerns id = true := by simp [Step.concerns]
  obtain ⟨-, -, hl'⟩ := step_of_concerns hl hc
  rw [reply_join hl] at hr
  rw [Lane.step, Lane.withHandle] at hl'
  -- Only a task whose handle is there, and which is not blocked, answers with a state.
  split at hr
  · cases hr
  · next hj =>
    rw [if_neg hj] at hl'
    split at hr
    · cases hr
    · next hk =>
      rw [if_neg hk, ← after_append_singleton] at hl'
      obtain ⟨-, hstate⟩ := hs.join
      have hst := hstate state hr
      have hfinished := hs.isFinished_of_join hr
      have hbody := Job.body_of_scheduling (scheduling_join l)
      obtain ⟨l₂, h₂, -, hst₂⟩ :=
        state_of_isFinished hl' (hbody ▸ hb) (by rw [hst, hfinished]) ys
      rw [List.append_assoc] at h₂
      exact ⟨hfinished, l₂, h₂, hst₂.trans hst⟩

end

/-- **The lifecycle of a task.**  At every point of every run, over any number of tasks, the state,
    the progress and the worker of every task with a proper body fit together: every change of the
    state is along one of the four edges, so that the last states are never left; the flag of the
    progress is set exactly if the owner asked the task to stop, and is never reset; a cancelled
    task was cancellable and has its flag set; a task that is created or cancelled was not touched
    by the worker; and joining a task answers that it failed, if it crashed, and otherwise its final
    state. -/
theorem lifecycle_of_isProper {steps : List Step} {id : String} {job : Job}
    (hjob : (after {} steps).find? id = some job) (hb : job.body.IsProper) :
    Lifecycle id steps job := by
  have hl := lane_of_find? hjob
  generalize decide (id ∈ (after {} steps).queue) = due at hl
  -- Each part is read off the stage that the run has left the task in.
  obtain ⟨text, ht, hs⟩ := stage_of_isProper hl hb
  constructor
  case course =>
    intro x
    obtain ⟨l', hl', hc⟩ := course_of_step hl hb x
    exact ⟨l'.job, (lane_eq_some_iff.mp hl').1, hc⟩
  case last =>
    intro hf ys
    obtain ⟨l', hl', -, hst⟩ := state_of_isFinished hl hb hf ys
    rw [(lane_eq_some_iff.mp hl').1]
    exact congrArg some hst
  case flag => exact canceled_iff_asked hl
  case flagKept =>
    intro hc ys
    obtain ⟨l', hl', hc'⟩ := canceled_kept hl hc ys
    rw [(lane_eq_some_iff.mp hl').1]
    exact congrArg some hc'
  case cancelled => exact fun hc => (hs.of_not_begun (.inr hc)).2.2 hc
  case untouched =>
    intro hst
    obtain ⟨hi, htext, -⟩ := hs.of_not_begun hst
    exact ⟨hi, ht.trans (congrArg some htext.symm)⟩
  case join => exact fun job' hjob' => reply_join_of_isProper hl hb hjob'
  case joined =>
    intro state hr
    refine ⟨(state_of_reply_join hl hb hr []).1, fun ys => ?_⟩
    obtain ⟨-, l', hl', hst⟩ := state_of_reply_join hl hb hr ys
    rw [(lane_eq_some_iff.mp hl').1]
    exact congrArg some hst

/-- A run of a submission whose continuation crashes, and of another task, which is stopped before
    it begins. -/
def submissionAndCount : List Step :=
  let s : Submission := { descriptor := ⟨"report", true, none⟩, form := .empty }
  let transport : Transport := ⟨fun _ => .gives (), fun _ _ => .gives ⟨201, "7"⟩⟩
  [.schedule "report" s.descriptor (s.body transport false true) false,
    .schedule "count" ⟨"count", true, none⟩ ⟨[.looks], .succeeded⟩ false,
    .cancel "count", .settle]

/-- Joining the first tells that it failed; the other is cancelled, and its flag is set for good. -/
theorem lifecycle_submissionAndCount :
    (∃ job, (after {} submissionAndCount).find? "report" = some job ∧ job.body.IsProper
      ∧ job.state = .running ∧ Lifecycle "report" submissionAndCount job
      ∧ ((after {} submissionAndCount).step (.join "report")).1 = .state .failed)
    ∧ ∃ job, (after {} submissionAndCount).find? "count" = some job ∧ job.body.IsProper
      ∧ job.state = .cancelled ∧ Lifecycle "count" submissionAndCount job
      ∧ job.progress.canceled = true := by
  obtain ⟨job, hjob, hb, hst⟩ : ∃ job, (after {} submissionAndCount).find? "report" = some job
      ∧ job.body.IsProper ∧ job.state = .running :=
    ⟨_, rfl, Submission.isProper_body _ _ _ _, rfl⟩
  obtain ⟨job', hjob', hb', hst'⟩ : ∃ job, (after {} submissionAndCount).find? "count" = some job
      ∧ job.body.IsProper ∧ job.state = .cancelled := ⟨_, rfl, fun _ => .inl rfl, rfl⟩
  have h := lifecycle_of_isProper hjob hb
  have h' := lifecycle_of_isProper hjob' hb'
  exact ⟨⟨job, hjob, hb, hst, h, by decide⟩, ⟨job', hjob', hb', hst', h', (h'.cancelled hst').2⟩⟩

end Scheduler

end Postbox
