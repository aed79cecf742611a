import Postbox.Proofs.Scheduler.History

namespace Postbox

/-!
# The flag of a task

The progress of a task has a flag that tells whether its owner asked the task to stop.  Two things
set it: a request to stop a cancellable task, made by its handle, and a request made to the progress
directly.  Nothing else sets it, and nothing resets it.

* `Asks`, `Scheduler.Asked` — whether a step, or one of the steps of a run, sets the flag.
* `Lane.canceled_step` — the flag after a step is the flag before it, or the step sets it.
* `Scheduler.canceled_iff_asked` — the flag of a task is set exactly if an earlier step set it.
-/

/-- The step, with this answer, asks the task `id` to stop: its handle, if the task is cancellable,
    or its progress. -/
def Asks (id : String) (cancellable : Bool) (x : Step) (r : Reply) : Prop :=
  x = .cancel id ∧ (∃ b, r = .flag b) ∧ cancellable = true ∨ x = .cancelProgress id ∧ r = .done

/-- Only a request to stop a task asks the task to stop. -/
theorem not_asks {id : String} {x : Step} (hx : x ≠ .cancel id) (hx' : x ≠ .cancelProgress id)
    (c : Bool) (r : Reply) : ¬Asks id c x r := by
  rintro (⟨h, -⟩ | ⟨h, -⟩)
  · exact hx h
  · exact hx' h

/-! ### What leaves the flag alone -/

/-- A body cannot reach the flag. -/
theorem Job.canceled_perform (returns : State) (isOpen : Bool) (p : Progress)
    (actions : List Action) :
    (perform returns isOpen p actions).progress.canceled = p.canceled := by
  induction actions generalizing p with
  | nil => rfl
  | cons a as ih =>
    cases a with
    | crashes => rfl
    | waits =>
      rw [perform]
      split
      · exact ih p
      · rfl
    | looks => exact ih p
    | shows e =>
      have hp : (p.after e).canceled = p.canceled := by cases e <;> rfl
      rw [perform]
      split <;> exact (ih (p.after e)).trans hp

/-- Going on does not touch the flag. -/
theorem Lane.canceled_settle (l : Lane) :
    l.settle.2.job.progress.canceled = l.job.progress.canceled := by
  have hpoll : l.job.poll.2.progress.canceled = l.job.progress.canceled := by
    rw [Job.poll]
    split
    · split
      · exact Job.canceled_perform _ _ _ _
      · rfl
    · split
      · exact Job.canceled_perform _ _ _ _
      · rfl
    · rfl
  rw [settle]
  split
  · exact hpoll
  · rfl

/-- Joining does not touch the flag. -/
theorem Lane.canceled_join (l : Lane) :
    l.join.2.2.job.progress.canceled = l.job.progress.canceled := by
  rw [join]
  split
  · exact canceled_settle l
  · next hf =>
    rw [← canceled_settle l]
    unfold Job.finish at hf
    split at hf <;> cases hf <;> rfl

/-- A step that is no request to stop leaves the flag alone. -/
theorem Lane.canceled_step_of_ne (l : Lane) {x : Step} (hx : ∀ i, x ≠ .cancel i)
    (hx' : ∀ i, x ≠ .cancelProgress i) :
    (l.step x).2.2.job.progress.canceled = l.job.progress.canceled := by
  cases x with
  | schedule | release | setText => rfl
  | settle => exact canceled_settle l
  | cancel i => exact absurd rfl (hx i)
  | isFinished i =>
    rw [step, withHandle]
    split <;> rfl
  | join i =>
    rw [step, withHandle]
    split
    · rfl
    · split
      · rfl
      · exact canceled_join l
  | cancelProgress i => exact absurd rfl (hx' i)

/-! ### What sets the flag -/

/-- A request to stop sets the flag if the task is cancellable. -/
theorem Job.canceled_cancel (job : Job) :
    job.cancel.2.progress.canceled = true
      ↔ job.progress.canceled = true ∨ job.descriptor.cancellable = true := by
  unfold cancel
  split
  · next hc =>
    dsimp only
    split <;> simp [hc]
  · next hc => simp [hc]

/-- **The flag after a step** is set if it was set before, or if the step asks the task to stop. -/
theorem Lane.canceled_step (l : Lane) {id : String} {x : Step} (hx : x.concerns id = true) :
    (l.step x).2.2.job.progress.canceled = true
      ↔ l.job.progress.canceled = true
        ∨ Asks id l.job.descriptor.cancellable x (l.step x).1 := by
  cases x with
  | cancel i =>
    obtain rfl : i = id := of_decide_eq_true hx
    rw [step, withHandle]
    split
    · -- The handle is gone, and nobody hears of the request.
      simp [Asks]
    · show l.job.cancel.2.progress.canceled = true ↔ _
      rw [Job.canceled_cancel]
      simp [Asks]
  | cancelProgress i =>
    obtain rfl : i = id := of_decide_eq_true hx
    simp [step, modify, Asks]
  | schedule | settle | release | isFinished | join | setText =>
    rw [canceled_step_of_ne l (by simp) (by simp), or_iff_left (not_asks (by simp) (by simp) _ _)]

namespace Scheduler

/-- One of the steps asked the task `id` to stop, at a time when it was there. -/
def Asked (s : Scheduler) (id : String) (cancellable : Bool) (steps : List Step) : Prop :=
  ∃ m ∈ steps.zip (s.run steps), Asks id cancellable m.1 m.2.1

/-- A task is asked to stop in one part of a run or in the other. -/
theorem asked_append (s : Scheduler) (id : String) (c : Bool) (xs ys : List Step) :
    s.Asked id c (xs ++ ys) ↔ s.Asked id c xs ∨ (s.after xs).Asked id c ys := by
  rw [Asked, run_append, List.zip_append (length_run s xs).symm]
  simp only [List.mem_append, or_and_right, exists_or]
  rfl

theorem asked_singleton (s : Scheduler) (id : String) (c : Bool) (x : Step) :
    s.Asked id c [x] ↔ Asks id c x (s.step x).1 := by
  rw [Asked]
  show (∃ m ∈ [(x, s.step x)], _) ↔ _
  simp

/-- A task that there is not cannot be asked. -/
theorem not_asks_of_none {s : Scheduler} {id : String} (h : s.lane id = none) (c : Bool)
    (x : Step) : ¬Asks id c x (s.step x).1 := by
  rintro (⟨rfl, ⟨b, hb⟩, -⟩ | ⟨rfl, hd⟩)
  · rw [step, withHandle_of_none h] at hb
    cases hb
  · rw [step, withProgress_of_none h] at hd
    cases hd

/-- A step that is addressed to another task does not ask this one. -/
theorem not_asks_of_not_concerns {id : String} {x : Step} (hx : x.concerns id = false) (c : Bool)
    (r : Reply) : ¬Asks id c x r := by
  refine not_asks ?_ ?_ c r <;> rintro rfl <;> simp [Step.concerns] at hx

/-- The flag of a task is set exactly if one of the steps asked; of a task that there is not, no
    step asked it. -/
def Flagged (id : String) (steps : List Step) : Option Lane → Prop
  | none => ∀ c, ¬Asked {} id c steps
  | some l => l.job.progress.canceled = true ↔ Asked {} id l.job.descriptor.cancellable steps

/-- One more step. -/
theorem Flagged.step {id : String} {xs : List Step} (h : Flagged id xs ((after {} xs).lane id))
    (x : Step) : Flagged id (xs ++ [x]) (((after {} xs).step x).2.2.lane id) := by
  -- This step adds to what was asked before at most what it asks itself.
  have hasked : ∀ c, Asked {} id c (xs ++ [x])
      ↔ Asked {} id c xs ∨ Asks id c x ((after {} xs).step x).1 := by
    intro c
    rw [asked_append, asked_singleton]
  generalize after {} xs = s at h hasked ⊢
  cases hl : s.lane id with
  | none =>
    rw [hl] at h
    have hn : ∀ c, ¬Asked {} id c (xs ++ [x]) := by
      intro c ha
      exact ((hasked c).mp ha).elim (h c) (not_asks_of_none hl c x)
    have hf := step_of_none hl x
    generalize isStop id x (s.step x).1 = b, shownBy id (s.step x).2.1 = es,
      (s.step x).2.2.lane id = o' at hf ⊢
    cases hf with
    | absent => exact hn
    | scheduled => exact ⟨nofun, fun ha => absurd ha (hn _)⟩
  | some l =>
    rw [hl] at h
    have h' : l.job.progress.canceled = true ↔ Asked {} id l.job.descriptor.cancellable xs := h
    by_cases hx : x.concerns id = true
    · obtain ⟨hr, -, hl'⟩ := step_of_concerns hl hx
      have hd : (l.step x).2.2.job.descriptor = l.job.descriptor :=
        Job.descriptor_of_scheduling (scheduling_step l x)
      rw [hl']
      show (l.step x).2.2.job.progress.canceled = true ↔ Asked {} id _ _
      rw [hd, hasked, l.canceled_step hx, h', hr]
    · rw [Bool.not_eq_true] at hx
      have hn := not_asks_of_not_concerns hx l.job.descriptor.cancellable (s.step x).1
      rw [(step_of_not_concerns s hx).2, hl]
      split
      · have hd : l.settle.2.job.descriptor = l.job.descriptor :=
          Job.descriptor_of_scheduling (scheduling_settle l)
        show l.settle.2.job.progress.canceled = true ↔ Asked {} id _ _
        rw [hd, hasked, or_iff_left hn, l.canceled_settle, h']
      · show l.job.progress.canceled = true ↔ Asked {} id _ _
        rw [hasked, or_iff_left hn, h']

/-- Every run. -/
theorem flagged (id : String) (steps : List Step) :
    Flagged id steps ((after {} steps).lane id) := by
  induction steps using List.reverseRecOn with
  | nil => exact fun c h => by simp [Asked] at h
  | append_singleton xs x ih =>
    rw [after_append_singleton]
    exact ih.step x

/-- **The flag of a task is set exactly if an earlier step asked it to stop**: a request to its
    handle, if the task is cancellable, or one to its progress. -/
theorem canceled_iff_asked {steps : List Step} {id : String} {l : Lane}
    (hl : (after {} steps).lane id = some l) :
    l.job.progress.canceled = true ↔ Asked {} id l.job.descriptor.cancellable steps := by
  have key := flagged id steps
  rw [hl] at key
  exact key

end Scheduler

end Postbox
