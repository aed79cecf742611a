import Postbox.Proofs.Scheduler.Worker

namespace Postbox

/-!
# One task by itself

A scheduler holds many tasks, but a task only sees the steps addressed to it, and those that let
the workers go on.  A *lane* is what is left of a scheduler when one looks at a single task: its
job, and whether it is due to run.  Every step of the scheduler moves a lane in a way that depends
on the lane alone.

* `Lane`, `Lane.step` — a task by itself, and what a step that concerns it does to it.
* `Step.concerns`, `Scheduler.yields` — whether a step is addressed to a task or to all of them,
  and whether it lets the workers go on.
* `Scheduler.lane`, `shownBy` — the lane of a task, and what the task showed in a log.
* `Scheduler.step_of_concerns` — a step that concerns a task does to it what `Lane.step` says, and
  gives the same answer.
* `Scheduler.step_of_not_concerns` — any other step leaves the task as it is, or lets it go on.
-/

/-- A task by itself: its job, and whether it is due to run. -/
structure Lane where
  job : Job
  due : Bool

namespace Lane

/-- The lane of a task that was just scheduled. -/
def new (id : String) (descriptor : Descriptor) (body : Body) (gated : Bool) : Lane :=
  ⟨{ id, descriptor, body, gated }, true⟩

/-- Changes the job. -/
def modify (l : Lane) (f : Job → Job) : Lane := { l with job := f l.job }

/-- Lets the worker go on if it is due. -/
def settle (l : Lane) : List Event × Lane :=
  if l.due then (l.job.poll.1, ⟨l.job.poll.2, false⟩) else ([], l)

/-- Opens the gate.  A task that waits there becomes due. -/
def release (l : Lane) : Lane :=
  ⟨{ l.job with released := true }, l.due || (l.job.isPaused && !l.job.released)⟩

/-- Lets the worker go on, then takes the handle away if the task has ended. -/
def join (l : Lane) : Reply × List Event × Lane :=
  match l.settle.2.job.finish with
  | none => (.wouldBlock, l.settle.1, l.settle.2)
  | some (state, job) => (.state state, l.settle.1, l.settle.2.modify fun _ => job)

/-- Does a step that needs the handle. -/
def withHandle (l : Lane) (f : Reply × List Event × Lane) : Reply × List Event × Lane :=
  if l.job.joined then (.joined, [], l) else f

/-- One step that concerns the task: the answer, what the task showed, and the lane after it. -/
def step (l : Lane) : Step → Reply × List Event × Lane
  | .schedule _ descriptor _ _ => (.scheduled descriptor, [], { l with due := true })
  | .settle => (.done, l.settle.1, l.settle.2)
  | .release _ => (.done, [], l.release)
  | .cancel _ => l.withHandle (.flag l.job.cancel.1, [], l.modify fun job => job.cancel.2)
  | .isFinished _ => l.withHandle (.flag l.job.state.isFinished, [], l)
  | .join _ => l.withHandle (if l.job.isBlocked then (.wouldBlock, [], l) else l.join)
  | .cancelProgress _ =>
    (.done, [], l.modify fun job => { job with progress := { job.progress with canceled := true } })
  | .setText _ text =>
    (.done, [], l.modify fun job => { job with progress := { job.progress with text } })

/-- Once the worker went on, the task is not due until its gate is opened. -/
theorem due_settle (l : Lane) : l.settle.2.due = false := by
  rw [settle]
  split
  · rfl
  · next hd => exact Bool.eq_false_iff.mpr hd

/-- Going on opens no gate and joins nothing. -/
theorem settle_keeps (l : Lane) :
    l.settle.2.job.released = l.job.released ∧ l.settle.2.job.joined = l.job.joined := by
  rw [settle]
  split
  · exact Job.poll_keeps l.job
  · exact ⟨rfl, rfl⟩

end Lane

/-- Whether a step is addressed to the task `id`, or to all tasks. -/
def Step.concerns (id : String) : Step → Bool
  | .settle => true
  | .schedule i _ _ _ | .release i | .cancel i | .isFinished i | .join i | .cancelProgress i
  | .setText i _ => i = id

/-- What the task `id` showed in a log. -/
def shownBy (id : String) (log : Log) : List Event :=
  log.filterMap fun entry => if entry.1 = id then some entry.2 else none

@[simp] theorem shownBy_nil (id : String) : shownBy id [] = [] := rfl

/-- What a task shows in two logs it shows in the first and then in the second. -/
@[simp] theorem shownBy_append (id : String) (a b : Log) :
    shownBy id (a ++ b) = shownBy id a ++ shownBy id b := List.filterMap_append

/-- What one task showed is shown by that task and by no other. -/
theorem shownBy_map_mk (id i : String) (es : List Event) :
    shownBy id (es.map (i, ·)) = if i = id then es else [] := by
  induction es with
  | nil => simp
  | cons e es ih =>
    rw [shownBy, List.map_cons, List.filterMap_cons]
    rw [shownBy] at ih
    by_cases h : i = id
    · simp only [h, if_true] at ih ⊢
      rw [ih]
    · simp only [h, if_false] at ih ⊢
      exact ih

namespace Scheduler

/-- The lane of a task. -/
def lane (s : Scheduler) (id : String) : Option Lane :=
  (s.find? id).map fun job => ⟨job, decide (id ∈ s.queue)⟩

/-- Whether a step lets the workers go on. -/
def yields (s : Scheduler) : Step → Bool
  | .settle => true
  | .join id => (s.find? id).any fun job => !job.joined && !job.isBlocked
  | _ => false

/-! ### The job of a task after each operation -/

/-- A job is found under its own name. -/
theorem id_of_find? {s : Scheduler} {id : String} {job : Job} (h : s.find? id = some job) :
    job.id = id := by
  have h' := List.find?_some h
  simpa using h'

/-- A change of one job that keeps its name changes that job only. -/
theorem find?_modify (s : Scheduler) (i : String) (f : Job → Job)
    (hf : ∀ job, (f job).id = job.id) (id : String) :
    (s.modify i f).find? id = if id = i then (s.find? i).map f else s.find? id := by
  have hp : (fun job : Job => decide (job.id = id)) ∘ (fun job => if job.id = i then f job else job)
      = fun job => decide (job.id = id) := by
    funext job
    show decide ((if job.id = i then f job else job).id = id) = decide (job.id = id)
    split
    · rw [hf]
    · rfl
  rw [modify, find?, List.find?_map, hp]
  show (s.find? id).map _ = _
  cases h : s.find? id with
  | none =>
    split
    · next hi => rw [← hi, h]; rfl
    · rfl
  | some job =>
    have hid := id_of_find? h
    split
    · next hi => rw [← hi, h, Option.map_some, Option.map_some, if_pos hid]
    · next hi => rw [Option.map_some, if_neg (fun e => hi (hid.symm.trans e))]

/-- Putting another job of the same name in the place of a job changes that job only. -/
theorem find?_modify_const (s : Scheduler) {i : String} {job job' : Job} (h : s.find? i = some job)
    (hf : job'.id = job.id) (id : String) :
    (s.modify i fun _ => job').find? id = if id = i then some job' else s.find? id := by
  -- Every job that is replaced has the name `i`, so the replacement keeps its name.
  have hm : s.modify i (fun _ => job') = s.modify i fun j => if j.id = i then job' else j := by
    rw [modify, modify]
    congr 1
    apply List.map_congr_left
    intro j _
    split <;> simp_all
  have hi := id_of_find? h
  rw [hm, find?_modify]
  · split
    · rw [h, Option.map_some, if_pos hi]
    · rfl
  · intro j
    split
    · next hj => rw [hf, hi, hj]
    · rfl

/-- Only the task that goes on changes. -/
theorem find?_poll (s : Scheduler) (i id : String) :
    (s.poll i).2.find? id
      = if id = i then (s.find? id).map fun job => job.poll.2 else s.find? id := by
  rw [poll]
  split
  · next h =>
    split
    · next hi => rw [hi, h]; rfl
    · rfl
  · next job h =>
    show (s.modify i fun _ => job.poll.2).find? id = _
    rw [find?_modify_const s h (Job.id_of_scheduling (Job.scheduling_poll job))]
    split
    · next hi => rw [hi, h]; rfl
    · rfl

/-- Only the task that goes on shows something. -/
theorem shownBy_poll (s : Scheduler) (i id : String) :
    shownBy id (s.poll i).1
      = if id = i then ((s.find? id).map fun job => job.poll.1).getD [] else [] := by
  rw [poll]
  split
  · next h =>
    split
    · next hi => rw [hi, h]; rfl
    · rfl
  · next job h =>
    rw [shownBy_map_mk]
    by_cases hi : i = id
    · rw [if_pos hi, if_pos hi.symm, ← hi, h]; rfl
    · rw [if_neg hi, if_neg (Ne.symm hi)]

@[simp] theorem queue_poll (s : Scheduler) (i : String) : (s.poll i).2.queue = s.queue := by
  rw [poll]
  split <;> rfl

@[simp] theorem queue_pollAll (ids : List String) (s : Scheduler) :
    (s.pollAll ids).2.queue = s.queue := by
  induction ids generalizing s with
  | nil => rfl
  | cons i ids ih =>
    show ((s.poll i).2.pollAll ids).2.queue = s.queue
    rw [ih, queue_poll]

/-- Letting workers go on reaches the named tasks.  A name that comes twice makes no difference,
    since a worker stops only where it cannot go on. -/
theorem pollAll_eq (ids : List String) (s : Scheduler) (id : String) :
    (s.pollAll ids).2.find? id
        = (if id ∈ ids then (s.find? id).map fun job => job.poll.2 else s.find? id)
      ∧ shownBy id (s.pollAll ids).1
        = if id ∈ ids then ((s.find? id).map fun job => job.poll.1).getD [] else [] := by
  induction ids generalizing s with
  | nil => exact ⟨by simp [pollAll], by simp [pollAll]⟩
  | cons i ids ih =>
    obtain ⟨hf, hs⟩ := ih (s.poll i).2
    have e1 : (s.pollAll (i :: ids)).2 = ((s.poll i).2.pollAll ids).2 := rfl
    have e2 : (s.pollAll (i :: ids)).1 = (s.poll i).1 ++ ((s.poll i).2.pollAll ids).1 := rfl
    rw [e1, e2, shownBy_append, hf, hs, find?_poll, shownBy_poll]
    -- If the first name is the one looked for, it may still be among the others.
    by_cases hi : id = i
    · subst hi
      cases s.find? id with
      | none => simp
      | some job => simp [Job.poll_poll]
    · simp [hi]

/-! ### The lane of a task after each operation -/

/-- A lane is a job with its place in the queue. -/
theorem lane_eq_some_iff {s : Scheduler} {id : String} {l : Lane} :
    s.lane id = some l ↔ s.find? id = some l.job ∧ l.due = decide (id ∈ s.queue) := by
  rw [lane, Option.map_eq_some_iff]
  constructor
  · rintro ⟨job, h, rfl⟩
    exact ⟨h, rfl⟩
  · rintro ⟨h, hd⟩
    exact ⟨l.job, h, by rw [← hd]⟩

theorem lane_of_find? {s : Scheduler} {id : String} {job : Job} (h : s.find? id = some job) :
    s.lane id = some ⟨job, decide (id ∈ s.queue)⟩ :=
  lane_eq_some_iff.mpr ⟨h, rfl⟩

theorem lane_eq_none_iff {s : Scheduler} {id : String} :
    s.lane id = none ↔ s.find? id = none := by
  rw [lane, Option.map_eq_none_iff]

/-- Changing a job moves the lane of that task only. -/
theorem lane_modify {s : Scheduler} {i : String} {l : Lane} (h : s.lane i = some l)
    (f : Job → Job) (hf : ∀ job, (f job).id = job.id) (id : String) :
    (s.modify i f).lane id = if id = i then some (l.modify f) else s.lane id := by
  obtain ⟨hj, hd⟩ := lane_eq_some_iff.mp h
  rw [lane, find?_modify s i f hf]
  split
  · next hi => rw [hi, hj, Option.map_some, Option.map_some, Lane.modify, hd]; rfl
  · rfl

/-- Putting another job in the place of one moves the lane of that task only. -/
theorem lane_modify_const {s : Scheduler} {i : String} {l : Lane} (h : s.lane i = some l)
    {job : Job} (hf : job.id = l.job.id) (id : String) :
    (s.modify i fun _ => job).lane id
      = if id = i then some (l.modify fun _ => job) else s.lane id := by
  obtain ⟨hj, hd⟩ := lane_eq_some_iff.mp h
  rw [lane, find?_modify_const s hj hf]
  split
  · next hi => rw [hi, Option.map_some, Lane.modify, hd]; rfl
  · rfl

/-- A request to stop a task moves the lane of that task only. -/
theorem lane_cancel {s : Scheduler} {i : String} {l : Lane} (h : s.lane i = some l)
    (id : String) :
    (s.modify i fun _ => l.job.cancel.2).lane id
      = if id = i then some (l.modify fun job => job.cancel.2) else s.lane id :=
  lane_modify_const h (Job.id_of_scheduling (Job.scheduling_cancel _)) id

/-- Letting the workers go on lets each task that is due go on. -/
theorem lane_settle (s : Scheduler) (id : String) :
    s.settle.2.lane id = (s.lane id).map fun l => l.settle.2 := by
  obtain ⟨hf, _⟩ := pollAll_eq s.queue { s with queue := [] } id
  have hq : s.settle.2.queue = [] := queue_pollAll s.queue { s with queue := [] }
  have hf' : s.settle.2.find? id
      = if id ∈ s.queue then (s.find? id).map fun job => job.poll.2 else s.find? id := hf
  rw [lane, lane, hf', hq]
  cases h : s.find? id with
  | none => simp
  | some job =>
    by_cases hi : id ∈ s.queue
    · simp [Lane.settle, hi]
    · simp [Lane.settle, hi]

/-- Letting the workers go on shows of each task what it shows by itself. -/
theorem shownBy_settle (s : Scheduler) (id : String) :
    shownBy id s.settle.1 = ((s.lane id).map fun l => l.settle.1).getD [] := by
  obtain ⟨_, hs⟩ := pollAll_eq s.queue { s with queue := [] } id
  have hs' : shownBy id s.settle.1
      = if id ∈ s.queue then ((s.find? id).map fun job => job.poll.1).getD [] else [] := hs
  rw [lane, hs']
  cases h : s.find? id with
  | none => simp
  | some job =>
    by_cases hi : id ∈ s.queue
    · simp [Lane.settle, hi]
    · simp [Lane.settle, hi]

/-- A new task is due, and nothing else changes. -/
theorem lane_schedule (s : Scheduler) (i : String) (d : Descriptor) (b : Body) (gated : Bool)
    (id : String) :
    (s.schedule i d b gated).lane id
      = if id = i then
          some (((s.lane id).map fun l => { l with due := true }).getD (.new id d b gated))
        else s.lane id := by
  -- The new job stands behind all others, so it is found only if none has its name.
  have hf : (s.schedule i d b gated).find? id
      = (s.find? id).or (if id = i then some { id := i, descriptor := d, body := b, gated }
          else none) := by
    rw [find?, schedule, List.find?_append, List.find?_singleton]
    by_cases hi : id = i
    · simp [find?, hi]
    · simp [find?, hi, Ne.symm hi]
  have hq : (s.schedule i d b gated).queue = s.queue ++ [i] := rfl
  rw [lane, hf, hq, lane]
  by_cases hi : id = i
  · subst hi
    cases s.find? id with
    | none => simp [Lane.new]
    | some job => simp
  · cases s.find? id with
    | none => simp [hi]
    | some job => simp [hi]

/-- Opening a gate concerns the task that waits there only. -/
theorem lane_release {s : Scheduler} {i : String} {l : Lane} (h : s.lane i = some l)
    (id : String) :
    (s.release l.job).lane id = if id = i then some l.release else s.lane id := by
  obtain ⟨hj, hd⟩ := lane_eq_some_iff.mp h
  have hi : l.job.id = i := id_of_find? hj
  have hjobs : (s.release l.job).jobs
      = (s.modify i fun job => { job with released := true }).jobs := by
    rw [release, hi]
    split <;> rfl
  have hq : (s.release l.job).queue
      = if l.job.isPaused && !l.job.released then s.queue ++ [i] else s.queue := by
    rw [release, hi]
    split <;> rfl
  have hf : (s.release l.job).find? id
      = if id = i then some { l.job with released := true } else s.find? id := by
    rw [find?, hjobs]
    have hm := find?_modify s i (fun job => { job with released := true }) (fun _ => rfl) id
    rw [hj, Option.map_some] at hm
    exact hm
  -- The task may have been due before, whatever it waits for now.
  rw [lane, hf, hq, lane]
  by_cases hid : id = i
  · rw [if_pos hid, if_pos hid, Option.map_some, Lane.release, hd, hid]
    cases l.job.isPaused && !l.job.released <;> simp
  · rw [if_neg hid, if_neg hid]
    cases l.job.isPaused && !l.job.released <;> simp [hid]

/-- Joining a task lets every task that is due go on, and takes the handle of one away. -/
theorem join_eq {s : Scheduler} {i : String} {l : Lane} (h : s.lane i = some l) (id : String) :
    (s.join i).1 = l.join.1
      ∧ shownBy id (s.join i).2.1 = ((s.lane id).map fun l => l.settle.1).getD []
      ∧ (s.join i).2.2.lane id
        = if id = i then some l.join.2.2 else (s.lane id).map fun l => l.settle.2 := by
  -- Joining lets all workers go on first, so the handle is taken of the lane after that.
  have hl : s.settle.2.lane i = some l.settle.2 := by rw [lane_settle, h]; rfl
  obtain ⟨hj, -⟩ := lane_eq_some_iff.mp hl
  rw [← shownBy_settle, ← lane_settle]
  cases hf : l.settle.2.job.finish with
  | none =>
    have e : s.join i = (.wouldBlock, s.settle.1, s.settle.2) := by
      simp only [join, hj, Option.bind_some, hf]
    have e' : l.join = (.wouldBlock, l.settle.1, l.settle.2) := by simp only [Lane.join, hf]
    rw [e, e']
    refine ⟨rfl, rfl, ?_⟩
    split
    · next hid => rw [hid]; exact hl
    · rfl
  | some r =>
    obtain ⟨state, job⟩ := r
    have e : s.join i = (.state state, s.settle.1, s.settle.2.modify i fun _ => job) := by
      simp only [join, hj, Option.bind_some, hf]
    have e' : l.join = (.state state, l.settle.1, l.settle.2.modify fun _ => job) := by
      simp only [Lane.join, hf]
    rw [e, e']
    exact ⟨rfl, rfl, lane_modify_const hl (Job.id_of_scheduling (Job.scheduling_finish hf)) id⟩

/-! ### The lane of a task after a step -/

/-- A step that goes by a handle finds the job of the lane, unless that was joined. -/
theorem withHandle_of_lane {s : Scheduler} {i : String} {l : Lane} (h : s.lane i = some l)
    (f : Job → Reply × Log × Scheduler) :
    s.withHandle i f = if l.job.joined then (.joined, [], s) else f l.job := by
  rw [withHandle, (lane_eq_some_iff.mp h).1]

theorem withHandle_of_none {s : Scheduler} {i : String} (h : s.lane i = none)
    (f : Job → Reply × Log × Scheduler) : s.withHandle i f = (.noTask, [], s) := by
  rw [withHandle, lane_eq_none_iff.mp h]

/-- Changing the progress of a task moves the lane of that task only. -/
theorem withProgress_of_lane {s : Scheduler} {i : String} {l : Lane} (h : s.lane i = some l)
    (f : Progress → Progress) (id : String) :
    (s.withProgress i f).1 = .done ∧ (s.withProgress i f).2.1 = []
      ∧ (s.withProgress i f).2.2.lane id
        = if id = i then some (l.modify fun job => { job with progress := f job.progress })
          else s.lane id := by
  rw [withProgress, (lane_eq_some_iff.mp h).1]
  exact ⟨rfl, rfl,
    lane_modify h (fun job => { job with progress := f job.progress }) (fun _ => rfl) id⟩

/-- No progress is changed where there is no lane. -/
theorem withProgress_of_none {s : Scheduler} {i : String} (h : s.lane i = none)
    (f : Progress → Progress) : s.withProgress i f = (.noTask, [], s) := by
  rw [withProgress, lane_eq_none_iff.mp h]

/-- Changing the progress of one task is not seen by another. -/
theorem withProgress_of_ne (s : Scheduler) {i id : String} (hx : ¬id = i)
    (f : Progress → Progress) :
    shownBy id (s.withProgress i f).2.1 = [] ∧ (s.withProgress i f).2.2.lane id = s.lane id := by
  cases hl : s.lane i with
  | none => rw [withProgress_of_none hl]; exact ⟨rfl, rfl⟩
  | some l =>
    obtain ⟨-, hs, hl'⟩ := withProgress_of_lane hl f id
    rw [if_neg hx] at hl'
    exact ⟨by rw [hs]; rfl, hl'⟩

/-- A gate is opened where there is a lane. -/
theorem step_release_of_lane {s : Scheduler} {i : String} {l : Lane} (h : s.lane i = some l) :
    s.step (.release i) = (.done, [], s.release l.job) := by
  rw [step, (lane_eq_some_iff.mp h).1]

theorem step_release_of_none {s : Scheduler} {i : String} (h : s.lane i = none) :
    s.step (.release i) = (.noTask, [], s) := by
  rw [step, lane_eq_none_iff.mp h]

/-- **A task sees its own steps.**  A step that concerns a task gives the answer, shows the events
    and moves the lane as `Lane.step` says, whatever else the scheduler holds. -/
theorem step_of_concerns {s : Scheduler} {id : String} {l : Lane} (h : s.lane id = some l)
    {x : Step} (hx : x.concerns id = true) :
    (s.step x).1 = (l.step x).1 ∧ shownBy id (s.step x).2.1 = (l.step x).2.1
      ∧ (s.step x).2.2.lane id = some (l.step x).2.2 := by
  cases x with
  | schedule i d b gated =>
    obtain rfl : i = id := of_decide_eq_true hx
    refine ⟨rfl, rfl, ?_⟩
    show (s.schedule i d b gated).lane i = _
    rw [lane_schedule, if_pos rfl, h]
    rfl
  | settle =>
    refine ⟨rfl, ?_, ?_⟩
    · show shownBy id s.settle.1 = _
      rw [shownBy_settle, h]
      rfl
    · show s.settle.2.lane id = _
      rw [lane_settle, h]
      rfl
  | release i =>
    obtain rfl : i = id := of_decide_eq_true hx
    rw [step_release_of_lane h]
    refine ⟨rfl, rfl, ?_⟩
    show (s.release l.job).lane i = _
    rw [lane_release h, if_pos rfl]
    rfl
  | cancel i =>
    obtain rfl : i = id := of_decide_eq_true hx
    rw [step, withHandle_of_lane h, Lane.step, Lane.withHandle]
    split
    · exact ⟨rfl, rfl, h⟩
    · refine ⟨rfl, rfl, ?_⟩
      show (s.modify i fun _ => l.job.cancel.2).lane i = _
      rw [lane_cancel h, if_pos rfl]
  | isFinished i =>
    obtain rfl : i = id := of_decide_eq_true hx
    rw [step, withHandle_of_lane h, Lane.step, Lane.withHandle]
    split <;> exact ⟨rfl, rfl, h⟩
  | join i =>
    obtain rfl : i = id := of_decide_eq_true hx
    rw [step, withHandle_of_lane h, Lane.step, Lane.withHandle]
    -- A handle that is gone and a task that is blocked leave the lane alone.
    split
    · exact ⟨rfl, rfl, h⟩
    · split
      · exact ⟨rfl, rfl, h⟩
      · obtain ⟨hr, hs, hl⟩ := join_eq h i
        rw [h, Option.map_some, Option.getD_some] at hs
        rw [if_pos rfl] at hl
        refine ⟨hr, ?_, hl⟩
        rw [hs, Lane.join]
        split <;> rfl
  | cancelProgress i =>
    obtain rfl : i = id := of_decide_eq_true hx
    obtain ⟨hr, hs, hl⟩ := withProgress_of_lane h (fun p => { p with canceled := true }) i
    rw [if_pos rfl] at hl
    exact ⟨hr, by rw [step, hs]; rfl, hl⟩
  | setText i text =>
    obtain rfl : i = id := of_decide_eq_true hx
    obtain ⟨hr, hs, hl⟩ := withProgress_of_lane h (fun p => { p with text }) i
    rw [if_pos rfl] at hl
    exact ⟨hr, by rw [step, hs]; rfl, hl⟩

/-- **A task does not see the steps of others.**  A step that does not concern a task lets it go
    on if it lets the workers go on at all, and otherwise leaves it as it is. -/
theorem step_of_not_concerns (s : Scheduler) {id : String} {x : Step}
    (hx : x.concerns id = false) :
    shownBy id (s.step x).2.1
        = (if s.yields x then ((s.lane id).map fun l => l.settle.1).getD [] else [])
      ∧ (s.step x).2.2.lane id
        = if s.yields x then (s.lane id).map fun l => l.settle.2 else s.lane id := by
  cases x with
  | schedule i d b gated =>
    refine ⟨rfl, ?_⟩
    show (s.schedule i d b gated).lane id = s.lane id
    rw [lane_schedule, if_neg (Ne.symm (of_decide_eq_false hx))]
  | settle => cases hx
  | release i =>
    cases hl : s.lane i with
    | none => rw [step_release_of_none hl]; exact ⟨rfl, rfl⟩
    | some l =>
      rw [step_release_of_lane hl]
      refine ⟨rfl, ?_⟩
      show (s.release l.job).lane id = s.lane id
      rw [lane_release hl, if_neg (Ne.symm (of_decide_eq_false hx))]
  | cancel i =>
    rw [step]
    cases hl : s.lane i with
    | none => rw [withHandle_of_none hl]; exact ⟨rfl, rfl⟩
    | some l =>
      rw [withHandle_of_lane hl]
      split
      · exact ⟨rfl, rfl⟩
      · refine ⟨rfl, ?_⟩
        show (s.modify i fun _ => l.job.cancel.2).lane id = s.lane id
        rw [lane_cancel hl, if_neg (Ne.symm (of_decide_eq_false hx))]
  | isFinished i =>
    rw [step]
    cases hl : s.lane i with
    | none => rw [withHandle_of_none hl]; exact ⟨rfl, rfl⟩
    | some l => rw [withHandle_of_lane hl]; split <;> exact ⟨rfl, rfl⟩
  | join i =>
    -- Of the steps addressed to another task, only a join that gets to wait lets the workers go on.
    rw [step, yields]
    cases hl : s.lane i with
    | none =>
      rw [withHandle_of_none hl, lane_eq_none_iff.mp hl]
      exact ⟨rfl, rfl⟩
    | some l =>
      rw [withHandle_of_lane hl, (lane_eq_some_iff.mp hl).1, Option.any_some]
      cases l.job.joined with
      | true => exact ⟨rfl, rfl⟩
      | false =>
        cases l.job.isBlocked with
        | true => exact ⟨rfl, rfl⟩
        | false =>
          obtain ⟨-, hs, hl'⟩ := join_eq hl id
          rw [if_neg (Ne.symm (of_decide_eq_false hx))] at hl'
          exact ⟨hs, hl'⟩
  | cancelProgress i | setText i => exact withProgress_of_ne s (Ne.symm (of_decide_eq_false hx)) _

end Scheduler

end Postbox
