import Mathlib.Data.List.Induction
import Postbox.Proofs.Scheduler.Lane

namespace Postbox

/-!
# The history of a task

What a run of a scheduler shows of one task: the events of the task in their order, the requests to
stop it that took effect, and whether its body was started.  A run grows at its end by one step at a
time, and each step does one of few things to the task.

* `Scheduler.log`, `Scheduler.stops`, `Scheduler.started` — what a run shows, how often it stops a
  task, and whether it starts the body of one.
* `Follows` — what one step may do to one task.
* `Scheduler.step_follows` — every step of a scheduler does one of these things.
* `Scheduler.history_induction`, `Scheduler.life_induction` — what each of these things keeps, every
  run keeps; the latter also speaks of whether the body was started.
-/

/-- Whether a step with this answer stopped the task `id`. -/
def isStop (id : String) (x : Step) (r : Reply) : Bool :=
  decide (x = .cancel id ∧ r = .flag true)

/-- What a step may do to the task `id`: the lane before it, whether the step stopped the task,
    what the task showed, and the lane after it. -/
inductive Follows (id : String) (x : Step) :
    Option Lane → Bool → List Event → Option Lane → Prop
  /-- There is no such task. -/
  | absent (hx : ∀ d b gated, x ≠ .schedule id d b gated) : Follows id x none false [] none
  /-- The task is scheduled. -/
  | scheduled {d : Descriptor} {b : Body} {gated : Bool} (hx : x = .schedule id d b gated) :
    Follows id x none false [] (some (.new id d b gated))
  /-- The step is addressed to the task, or to all tasks. -/
  | concerned {l : Lane} (hx : x.concerns id = true) :
    Follows id x (some l) (isStop id x (l.step x).1) (l.step x).2.1 (some (l.step x).2.2)
  /-- The step is addressed to another task, and lets the workers go on. -/
  | settled {l : Lane} (hx : x.concerns id = false) :
    Follows id x (some l) false l.settle.1 (some l.settle.2)
  /-- The step is addressed to another task. -/
  | passed {l : Lane} (hx : x.concerns id = false) : Follows id x (some l) false [] (some l)

/-- From `before` to `after`, the worker has started the body: it has left its first place, and the
    task was not stopped before. -/
def Job.starts (before after : Job) : Bool :=
  decide (before.state = .created ∧ before.worker = .fresh ∧ after.worker ≠ .fresh)

/-- The same for the lanes of a task that may not be there. -/
def startsBetween (o o' : Option Lane) : Bool := o.any fun l => o'.any fun l' => l.job.starts l'.job

/-- A body is not started while its worker stays where it is. -/
theorem Job.starts_of_worker_eq {before after : Job} (h : after.worker = before.worker) :
    before.starts after = false := by
  rw [starts, decide_eq_false_iff_not, h]
  exact fun hs => hs.2.2 hs.2.1

/-- A body is not started twice, and not once the task was stopped. -/
theorem Job.starts_of_ne {before : Job} (after : Job)
    (h : before.state ≠ .created ∨ before.worker ≠ .fresh) : before.starts after = false := by
  rw [starts, decide_eq_false_iff_not]
  rintro ⟨hs, hw, -⟩
  exact h.elim (· hs) (· hw)

/-- Only a request to stop a task can stop it. -/
theorem isStop_of_ne_cancel {id : String} {x : Step} (hx : x ≠ .cancel id) (r : Reply) :
    isStop id x r = false := by
  rw [isStop, decide_eq_false_iff_not]
  exact fun h => hx h.1

namespace Scheduler

/-- What the tasks showed in a sequence of steps. -/
def log (s : Scheduler) (steps : List Step) : Log := (s.run steps).flatMap fun m => m.2.1

/-- How many of the steps are requests to stop the task `id` that took effect. -/
def stops (s : Scheduler) (id : String) (steps : List Step) : Nat :=
  (steps.zip (s.run steps)).countP fun m => isStop id m.1 m.2.1

/-- Whether a step starts the body of the task `id`. -/
def starts (s : Scheduler) (id : String) (x : Step) : Bool :=
  (s.find? id).any fun before => ((s.step x).2.2.find? id).any fun after => before.starts after

/-- Whether one of the steps starts the body of the task `id`. -/
def started (s : Scheduler) (id : String) : List Step → Bool
  | [] => false
  | x :: xs => s.starts id x || (s.step x).2.2.started id xs

/-! ### Runs that grow at the end -/

theorem after_append_singleton (s : Scheduler) (xs : List Step) (x : Step) :
    s.after (xs ++ [x]) = ((s.after xs).step x).2.2 := by
  rw [after, List.foldl_append]
  rfl

theorem run_append (s : Scheduler) (xs ys : List Step) :
    s.run (xs ++ ys) = s.run xs ++ (s.after xs).run ys := by
  induction xs generalizing s with
  | nil => rfl
  | cons x xs ih =>
    show s.step x :: (s.step x).2.2.run (xs ++ ys) = s.step x :: _
    rw [ih]
    rfl

@[simp] theorem length_run (s : Scheduler) (xs : List Step) : (s.run xs).length = xs.length := by
  induction xs generalizing s with
  | nil => rfl
  | cons x xs ih =>
    show ((s.step x).2.2.run xs).length + 1 = xs.length + 1
    rw [ih]

theorem log_append_singleton (s : Scheduler) (xs : List Step) (x : Step) :
    s.log (xs ++ [x]) = s.log xs ++ ((s.after xs).step x).2.1 := by
  rw [log, run_append, List.flatMap_append]
  show _ ++ (_ ++ []) = _
  rw [List.append_nil]
  rfl

theorem after_append (s : Scheduler) (xs ys : List Step) :
    s.after (xs ++ ys) = (s.after xs).after ys := List.foldl_append

/-- Yielding lets the worker of a task go on. -/
theorem lane_after_settle {s : Scheduler} {steps : List Step} {id : String} {l : Lane}
    (h : (s.after steps).lane id = some l) :
    (s.after (steps ++ [.settle])).lane id = some l.settle.2 := by
  rw [after_append_singleton]
  show (s.after steps).settle.2.lane id = _
  rw [lane_settle, h]
  rfl

/-- Stops are counted in the first part of a run and in the second. -/
theorem stops_append (s : Scheduler) (id : String) (xs ys : List Step) :
    s.stops id (xs ++ ys) = s.stops id xs + (s.after xs).stops id ys := by
  rw [stops, run_append, List.zip_append (length_run s xs).symm, List.countP_append]
  rfl

/-- The last step may be one more stop. -/
theorem stops_append_singleton (s : Scheduler) (id : String) (xs : List Step) (x : Step) :
    s.stops id (xs ++ [x])
      = s.stops id xs + if isStop id x ((s.after xs).step x).1 then 1 else 0 := by
  rw [stops_append]
  congr 1
  show List.countP _ [(x, (s.after xs).step x)] = _
  rw [List.countP_singleton]

/-- A request to stop the task that takes effect is counted, whatever follows it. -/
theorem stops_pos {s : Scheduler} {id : String} {xs : List Step}
    (h : ((s.after xs).step (.cancel id)).1 = .flag true) (ys : List Step) :
    0 < s.stops id (xs ++ .cancel id :: ys) := by
  have hone : s.stops id (xs ++ [.cancel id]) = s.stops id xs + 1 := by
    rw [stops_append_singleton, h]
    simp [isStop]
  rw [List.append_cons, stops_append, hone]
  omega

/-- A task is started in the first part of a run or in the second. -/
theorem started_append (s : Scheduler) (id : String) (xs ys : List Step) :
    s.started id (xs ++ ys) = (s.started id xs || (s.after xs).started id ys) := by
  induction xs generalizing s with
  | nil => rfl
  | cons x xs ih =>
    show (s.starts id x || (s.step x).2.2.started id (xs ++ ys)) = _
    rw [ih, ← Bool.or_assoc]
    rfl

/-- Whether a step starts a task shows in its lane. -/
theorem starts_eq (s : Scheduler) (id : String) (x : Step) :
    s.starts id x = startsBetween (s.lane id) ((s.step x).2.2.lane id) := by
  simp only [starts, startsBetween, lane, Option.any_map]

/-! ### What a step does to one task -/

/-- A step never stops a task that it is not addressed to. -/
theorem isStop_of_not_concerns {id : String} {x : Step} (hx : x.concerns id = false) (r : Reply) :
    isStop id x r = false := by
  refine isStop_of_ne_cancel ?_ r
  rintro rfl
  simp [Step.concerns] at hx

/-- A step that is addressed to a task that there is not changes nothing. -/
theorem step_eq_noTask {s : Scheduler} {id : String} (h : s.lane id = none) {x : Step}
    (hx : x.concerns id = true) (hs : x ≠ .settle) (hn : ∀ d b g, x ≠ .schedule id d b g) :
    s.step x = (.noTask, [], s) := by
  cases x with
  | settle => exact absurd rfl hs
  | schedule i d b g =>
    obtain rfl : i = id := of_decide_eq_true hx
    exact absurd rfl (hn d b g)
  | release i =>
    obtain rfl : i = id := of_decide_eq_true hx
    exact step_release_of_none h
  | cancel i | isFinished i | join i =>
    obtain rfl : i = id := of_decide_eq_true hx
    rw [step]
    exact withHandle_of_none h _
  | cancelProgress i | setText i text =>
    obtain rfl : i = id := of_decide_eq_true hx
    rw [step]
    exact withProgress_of_none h _

/-- A task that there is not yet comes into being by being scheduled, and in no other way. -/
theorem step_of_none {s : Scheduler} {id : String} (h : s.lane id = none) (x : Step) :
    Follows id x none (isStop id x (s.step x).1) (shownBy id (s.step x).2.1)
      ((s.step x).2.2.lane id) := by
  -- Scheduling is the only step addressed to a task that does not need the task to be there.
  by_cases hx : x.concerns id = true
  · by_cases hs : x = .settle
    · subst hs
      show Follows id _ none false (shownBy id s.settle.1) (s.settle.2.lane id)
      rw [shownBy_settle, lane_settle, h]
      exact .absent nofun
    · by_cases hn : ∀ d b g, x ≠ .schedule id d b g
      · rw [step_eq_noTask h hx hs hn, h]
        have hb : isStop id x .noTask = false := by simp [isStop]
        show Follows id x none (isStop id x .noTask) [] none
        rw [hb]
        exact .absent hn
      · simp only [ne_eq, not_forall, not_not] at hn
        obtain ⟨d, b, gated, rfl⟩ := hn
        have hl : (s.schedule id d b gated).lane id = some (.new id d b gated) := by
          rw [lane_schedule, if_pos rfl, h]
          rfl
        show Follows id _ none false [] ((s.schedule id d b gated).lane id)
        rw [hl]
        exact .scheduled rfl
  · rw [Bool.not_eq_true] at hx
    obtain ⟨hs, hl⟩ := step_of_not_concerns s hx
    rw [isStop_of_not_concerns hx, hs, hl, h]
    simp only [Option.map_none, Option.getD_none, ite_self]
    refine .absent ?_
    rintro d b gated rfl
    simp [Step.concerns] at hx

/-- **What a step does to one task.** -/
theorem step_follows (s : Scheduler) (x : Step) (id : String) :
    Follows id x (s.lane id) (isStop id x (s.step x).1) (shownBy id (s.step x).2.1)
      ((s.step x).2.2.lane id) := by
  -- A task that there is sees a step that concerns it by itself; any other lets it go on at most.
  cases h : s.lane id with
  | none => exact step_of_none h x
  | some l =>
    by_cases hx : x.concerns id = true
    · obtain ⟨hr, hs, hl⟩ := step_of_concerns h hx
      rw [hr, hs, hl]
      exact .concerned hx
    · rw [Bool.not_eq_true] at hx
      obtain ⟨hs, hl⟩ := step_of_not_concerns s hx
      rw [isStop_of_not_concerns hx, hs, hl, h]
      split
      · exact .settled hx
      · exact .passed hx

/-- **What each step keeps, every run keeps.**  The induction is on the end of the run; `P` speaks
    of the steps so far, whether they started the body, how often they stopped the task, what the
    task showed, and its lane. -/
theorem life_induction (id : String)
    {P : List Step → Bool → Nat → List Event → Option Lane → Prop} (start : P [] false 0 [] none)
    (next : ∀ xs x s n es o b fs o', P xs s n es o → Follows id x o b fs o' →
      P (xs ++ [x]) (s || startsBetween o o') (n + if b then 1 else 0) (es ++ fs) o')
    (steps : List Step) :
    P steps (started {} id steps) (stops {} id steps) (shownBy id (log {} steps))
      ((after {} steps).lane id) := by
  induction steps using List.reverseRecOn with
  | nil => exact start
  | append_singleton xs x ih =>
    have hs : started {} id (xs ++ [x]) = (started {} id xs
        || startsBetween ((after {} xs).lane id) (((after {} xs).step x).2.2.lane id)) := by
      rw [started_append, ← starts_eq]
      exact congrArg _ (Bool.or_false _)
    rw [hs, stops_append_singleton, log_append_singleton, shownBy_append, after_append_singleton]
    exact next xs x _ _ _ _ _ _ _ ih (step_follows _ x id)

/-- The same where it does not matter whether the body was started. -/
theorem history_induction (id : String)
    {P : List Step → Nat → List Event → Option Lane → Prop} (start : P [] 0 [] none)
    (next : ∀ xs x n es o b fs o', P xs n es o → Follows id x o b fs o' →
      P (xs ++ [x]) (n + if b then 1 else 0) (es ++ fs) o') (steps : List Step) :
    P steps (stops {} id steps) (shownBy id (log {} steps)) ((after {} steps).lane id) := by
  apply life_induction id (P := fun xs _ n es o => P xs n es o) start
  intro xs x _ n es o b fs o' h hf
  exact next xs x n es o b fs o' h hf

/-! ### Where a task comes from -/

/-- A task stays what it is when its worker goes on. -/
theorem scheduling_settle (l : Lane) : l.settle.2.job.scheduling = l.job.scheduling := by
  rw [Lane.settle]
  split
  · exact Job.scheduling_poll l.job
  · rfl

/-- Joining keeps what was scheduled. -/
theorem scheduling_join (l : Lane) : l.join.2.2.job.scheduling = l.job.scheduling := by
  rw [Lane.join]
  split
  · exact scheduling_settle l
  · next hf => exact (Job.scheduling_finish hf).trans (scheduling_settle l)

/-- A task stays what it is under every step. -/
theorem scheduling_step (l : Lane) (x : Step) :
    (l.step x).2.2.job.scheduling = l.job.scheduling := by
  cases x with
  | schedule | release | cancelProgress | setText => rfl
  | settle => exact scheduling_settle l
  | cancel i =>
    rw [Lane.step, Lane.withHandle]
    split
    · rfl
    · exact Job.scheduling_cancel l.job
  | isFinished i =>
    rw [Lane.step, Lane.withHandle]
    split <;> rfl
  | join i =>
    rw [Lane.step, Lane.withHandle]
    split
    · rfl
    · split
      · rfl
      · exact scheduling_join l

/-- A step does to a task that there is what `Lane.step` says, or lets it go on, or leaves it. -/
theorem exists_lane_step {s : Scheduler} {id : String} {l : Lane} (h : s.lane id = some l)
    (x : Step) :
    ∃ l', (s.step x).2.2.lane id = some l'
      ∧ (l' = (l.step x).2.2 ∨ l' = l.settle.2 ∨ l' = l) := by
  have hf := step_follows s x id
  rw [h] at hf
  generalize isStop id x (s.step x).1 = b, shownBy id (s.step x).2.1 = es,
    (s.step x).2.2.lane id = o' at hf ⊢
  cases hf with
  | concerned => exact ⟨_, rfl, .inl rfl⟩
  | settled => exact ⟨_, rfl, .inr (.inl rfl)⟩
  | passed => exact ⟨_, rfl, .inr (.inr rfl)⟩

/-- A task that there is stays there, and stays what it is. -/
theorem exists_lane_after {s : Scheduler} {id : String} {l : Lane} (h : s.lane id = some l)
    (xs : List Step) :
    ∃ l', (s.after xs).lane id = some l' ∧ l'.job.scheduling = l.job.scheduling := by
  induction xs generalizing s l with
  | nil => exact ⟨l, h, rfl⟩
  | cons x xs ih =>
    obtain ⟨l₁, h₁, hl₁⟩ := exists_lane_step h x
    obtain ⟨l₂, h₂, hs₂⟩ := ih h₁
    have hs₁ : l₁.job.scheduling = l.job.scheduling := by
      rcases hl₁ with rfl | rfl | rfl
      · exact scheduling_step l x
      · exact scheduling_settle l
      · rfl
    exact ⟨l₂, h₂, hs₂.trans hs₁⟩

/-- **Every task of a run is one that a step of the run has scheduled.** -/
theorem scheduling_mem {steps : List Step} {id : String} {l : Lane}
    (hl : (after {} steps).lane id = some l) : l.job.scheduling ∈ steps := by
  -- A lane comes from the step that scheduled it, and no other step changes its scheduling.
  have key : ∀ l, (after {} steps).lane id = some l → l.job.scheduling ∈ steps := by
    apply history_induction id (P := fun xs _ _ o => ∀ l, o = some l → l.job.scheduling ∈ xs)
    · intro l h
      cases h
    intro xs x n es o b fs o' ih hf l' hl'
    rw [List.mem_append]
    cases hf with
    | absent => cases hl'
    | scheduled hx =>
      cases hl'
      rw [hx]
      exact .inr (List.mem_singleton.mpr rfl)
    | concerned hx =>
      cases hl'
      rw [scheduling_step]
      exact .inl (ih _ rfl)
    | settled hx =>
      cases hl'
      rw [scheduling_settle]
      exact .inl (ih _ rfl)
    | passed hx =>
      cases hl'
      exact .inl (ih _ rfl)
  exact key l hl

/-! ### A task that gets to its end -/

/-- A task is scheduled, its gate is opened, and its worker goes on. -/
def opening (id : String) (d : Descriptor) (b : Body) (gated : Bool) : List Step :=
  [.schedule id d b gated, .release id, .settle]

/-- Such a task has returned or crashed. -/
theorem exists_lane_opening (id : String) (d : Descriptor) (b : Body) (gated : Bool) :
    ∃ l, (after {} (opening id d b gated)).lane id = some l
      ∧ l.job.descriptor = d ∧ l.job.body = b ∧ l.job.joined = false ∧ l.due = false
      ∧ l.job.worker = .ended (if .crashes ∈ b.actions then .crashes else .returns b.returns)
      ∧ l.job.state = if .crashes ∈ b.actions then .running else b.returns := by
  have hnew : (schedule {} id d b gated).lane id = some (.new id d b gated) := by
    rw [lane_schedule, if_pos rfl]
    rfl
  have hopen : (((schedule {} id d b gated).step (.release id)).2.2).lane id
      = some (Lane.new id d b gated).release := by
    rw [step_release_of_lane hnew]
    exact (lane_release hnew id).trans (if_pos rfl)
  refine ⟨(Lane.new id d b gated).release.settle.2, ?_, rfl, rfl, rfl, rfl, ?_⟩
  · show (((schedule {} id d b gated).step (.release id)).2.2.settle.2).lane id = _
    rw [lane_settle, hopen]
    rfl
  · -- It goes on as a new task behind an open gate.
    have hw := Job.perform_open b.returns ⟨false, false, d.title⟩ b.actions
    have hstate : (Lane.new id d b gated).release.settle.2.job.state
        = Job.stateAfter .running
          (Job.perform b.returns true ⟨false, false, d.title⟩ b.actions).worker := rfl
    refine ⟨hw, ?_⟩
    rw [hstate, hw]
    split <;> rfl

end Scheduler

end Postbox
