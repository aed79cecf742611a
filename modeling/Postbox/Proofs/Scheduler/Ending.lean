import Postbox.Proofs.Scheduler.Life

namespace Postbox

/-!
# Seeing that a task has ended

The owner of a task may ask again and again whether it is finished, and yield in between.  The state
of a task is what its body returned, so a task that has ended is seen to be finished only if its
body returned one of the last states.  A crash changes the state when the task is joined, not
before.

* `Lane.WaitsAtGate`, `Scheduler.waitsAtGate_of_lane` — a task waits at a closed gate only, or it is
  due to go on.
* `Phase.isFinished_of_ended` — a task with a body that ends properly is finished when it has ended.
* `Scheduler.SeenFinished` — in a run, the owner of a task that has ended sees that.
* `Scheduler.seenFinished_iff` — he does so in all runs exactly if the body cannot crash and returns
  a last state.
-/

/-! ### Waiting at a gate -/

/-- The task waits only at a gate of its body, and only until that is opened. -/
structure Lane.WaitsAtGate (l : Lane) : Prop where
  gate : l.job.isPaused = true → .waits ∈ l.job.body.actions
  due : l.job.isPaused = true → l.job.released = true → l.due = true

/-- A worker that was let go on waits at a closed gate only. -/
theorem Job.isPaused_poll {job : Job} (h : job.poll.2.isPaused = true) :
    job.released = false ∧ (.waits ∈ job.body.actions ∨ job.isPaused = true) := by
  rw [isPaused_iff] at h
  obtain ⟨rest, h⟩ := h
  cases hw : job.worker with
  | fresh =>
    by_cases hs : job.state = .created
    · rw [poll_of_created hw hs] at h
      obtain ⟨hr, hm⟩ := perform_paused h
      exact ⟨hr, .inl hm⟩
    · rw [poll_of_ne_created hw hs] at h
      cases h
  | paused rest' =>
    by_cases hr : job.released = true
    · rw [poll_of_released hw hr] at h
      exact absurd hr (Bool.eq_false_iff.mp (perform_paused h).1)
    · exact ⟨Bool.eq_false_iff.mpr hr, .inr (isPaused_iff.mpr ⟨_, hw⟩)⟩
  | ended e =>
    rw [poll_of_ended hw, hw] at h
    cases h

namespace Lane.WaitsAtGate

variable {l l' : Lane}

/-- What leaves the worker and the gate alone leaves the task waiting as before. -/
theorem of_eq (h : l.WaitsAtGate) (hw : l'.job.worker = l.job.worker)
    (hb : l'.job.body = l.job.body) (hr : l'.job.released = l.job.released)
    (hd : l.due = true → l'.due = true) : l'.WaitsAtGate := by
  have hp : l'.job.isPaused = l.job.isPaused := by rw [Job.isPaused, Job.isPaused, hw]
  refine ⟨?_, ?_⟩
  · rw [hp, hb]
    exact h.gate
  · rw [hp, hr]
    exact fun hp hr => hd (h.due hp hr)

/-- A task that waits at its gate still does when the others go on. -/
theorem settle (h : l.WaitsAtGate) : l.settle.2.WaitsAtGate := by
  rw [Lane.settle]
  split
  · refine ⟨fun hp => ?_, fun hp hr => ?_⟩
    · show .waits ∈ l.job.poll.2.body.actions
      rw [Job.body_of_scheduling (Job.scheduling_poll l.job)]
      exact (Job.isPaused_poll hp).2.elim id h.gate
    · -- The gate is closed, and going on does not open it.
      have hr' : l.job.poll.2.released = true := hr
      rw [(Job.poll_keeps l.job).1, (Job.isPaused_poll hp).1] at hr'
      cases hr'
  · exact h

/-- A task whose gate is opened while it waits there is due to go on. -/
theorem release (h : l.WaitsAtGate) : l.release.WaitsAtGate := by
  refine ⟨h.gate, fun hp _ => ?_⟩
  have hp' : l.job.isPaused = true := hp
  show (l.due || (l.job.isPaused && !l.job.released)) = true
  cases hr : l.job.released with
  | true => rw [h.due hp' hr, Bool.true_or]
  | false => rw [hp', Bool.true_and, Bool.not_false, Bool.or_true]

/-- A task that has ended waits nowhere. -/
theorem of_finish {state : State} {job : Job} (hf : l.job.finish = some (state, job)) :
    (l.modify fun _ => job).WaitsAtGate := by
  have hp : job.isPaused = false := by
    rw [Job.isPaused, Job.worker_finish hf]
    unfold Job.finish at hf
    split at hf
    · next hw => rw [hw]
    · next hw => rw [hw]
    · cases hf
  exact ⟨fun h => absurd h (Bool.eq_false_iff.mp hp), fun h => absurd h (Bool.eq_false_iff.mp hp)⟩

/-- **Every step leaves a task waiting at a closed gate only.** -/
theorem step (h : l.WaitsAtGate) (x : Step) : (l.step x).2.2.WaitsAtGate := by
  -- Yielding and joining let the worker go on, up to its gate; opening the gate makes it due.
  cases x with
  | schedule => exact h.of_eq rfl rfl rfl fun _ => rfl
  | settle => exact h.settle
  | release => exact h.release
  | cancel i =>
    rw [Lane.step, Lane.withHandle]
    split
    · exact h
    · exact h.of_eq (Job.worker_cancel l.job)
        (Job.body_of_scheduling (Job.scheduling_cancel l.job)) (Job.released_cancel l.job) id
  | isFinished i =>
    rw [Lane.step, Lane.withHandle]
    split <;> exact h
  | join i =>
    rw [Lane.step, Lane.withHandle]
    split
    · exact h
    · split
      · exact h
      · rw [Lane.join]
        split
        · exact h.settle
        · next hf => exact of_finish hf
  | cancelProgress | setText => exact h.of_eq rfl rfl rfl id

end Lane.WaitsAtGate

namespace Scheduler

/-- **In every run, a task waits at a closed gate only, or it is due to go on.** -/
theorem waitsAtGate_of_lane {steps : List Step} {id : String} {l : Lane}
    (hl : (after {} steps).lane id = some l) : l.WaitsAtGate := by
  have key : ∀ l, (after {} steps).lane id = some l → l.WaitsAtGate := by
    apply history_induction id (P := fun _ _ _ o => ∀ l, o = some l → l.WaitsAtGate)
    · intro l h
      cases h
    intro xs x n es o b fs o' ih hf l' hl'
    cases hf with
    | absent => cases hl'
    | scheduled => cases hl'; exact ⟨nofun, nofun⟩
    | concerned => cases hl'; exact (ih _ rfl).step x
    | settled => cases hl'; exact (ih _ rfl).settle
    | passed => cases hl'; exact ih _ rfl
  exact key l hl

end Scheduler

/-! ### Tasks that have ended -/

/-- The body does not crash, and returns one of the last states. -/
structure Body.Ends (body : Body) : Prop where
  returned : .crashes ∉ body.actions
  last : body.returns.isFinished = true

/-- A task that is neither due to run nor waiting is in one of the last states, if its body ends. -/
theorem Phase.isFinished_of_ended {text : String} {s : Bool} {n : Nat} {es : List Event} {l : Lane}
    (h : Phase text s n es l) (hb : l.job.body.Ends) (hd : l.due = false)
    (hp : l.job.isPaused = false) : l.job.state.isFinished = true := by
  cases h with
  | waiting _ _ hdue => rw [hdue] at hd; cases hd
  | stopped hs => rw [hs]; rfl
  | @begun _ past future _ ha _ hw hst =>
    cases hwk : l.job.worker with
    | fresh => rw [hwk] at hw; exact hw.elim
    | paused rest => exact absurd (Job.isPaused_iff.mpr ⟨rest, hwk⟩) (Bool.eq_false_iff.mp hp)
    | ended ending =>
      cases ending with
      | returns state =>
        rw [(Job.state_of_returned hwk hw hst).2.2]
        exact hb.last
      | crashes =>
        -- Then there is a crash among the actions.
        rw [hwk] at hw
        obtain ⟨more, rfl⟩ := hw
        refine absurd ?_ hb.returned
        rw [ha]
        exact List.mem_append_right _ List.mem_cons_self
  | recalled _ _ _ hst => rw [hst]; rfl

namespace Scheduler

/-- In this run, the owner of the task `id` sees that the task has ended. -/
structure SeenFinished (id : String) (steps : List Step) : Prop where
  /-- A task that is neither due to run nor waiting is seen to be finished by the owner of its
      handle. -/
  ended : ∀ job, (after {} steps).find? id = some job → job.joined = false →
    id ∉ (after {} steps).queue → job.isPaused = false →
      ((after {} steps).step (.isFinished id)).1 = .flag true
  /-- Polling stops: if the gate is open or there is none, yielding once more is enough. -/
  polled : ∀ job, (after {} steps).find? id = some job → job.joined = false →
    job.released = true ∨ .waits ∉ job.body.actions →
      ((after {} (steps ++ [.settle])).step (.isFinished id)).1 = .flag true

/-- What is answered to the owner of a task who asks whether it is finished. -/
theorem reply_isFinished {s : Scheduler} {id : String} {l : Lane} (h : s.lane id = some l)
    (hj : l.job.joined = false) :
    (s.step (.isFinished id)).1 = .flag l.job.state.isFinished := by
  have hc : (Step.isFinished id).concerns id = true := by simp [Step.concerns]
  rw [(step_of_concerns h hc).1, Lane.step, Lane.withHandle, hj]
  rfl

/-- A task whose body ends is seen to be finished when it is neither due to run nor waiting. -/
theorem reply_isFinished_of_ends {steps : List Step} {id : String} {l : Lane}
    (hl : (after {} steps).lane id = some l) (hj : l.job.joined = false) (hb : l.job.body.Ends)
    (hd : l.due = false) (hp : l.job.isPaused = false) :
    ((after {} steps).step (.isFinished id)).1 = .flag true := by
  obtain ⟨text, -, hphase⟩ := phase_of_lane hl
  rw [reply_isFinished hl hj, hphase.isFinished_of_ended hb hd hp]

/-- In every run, the owner of a task whose body ends sees that it has ended. -/
theorem seenFinished_of_ends {steps : List Step} {id : String} {job : Job}
    (hjob : (after {} steps).find? id = some job) (hb : job.body.Ends) :
    SeenFinished id steps := by
  have hl := lane_of_find? hjob
  refine ⟨?_, ?_⟩
  · intro job' hjob' hj hq hp
    obtain rfl : job = job' := Option.some.inj (hjob.symm.trans hjob')
    exact reply_isFinished_of_ends hl hj hb (decide_eq_false hq) hp
  · intro job' hjob' hj hgate
    obtain rfl : job = job' := Option.some.inj (hjob.symm.trans hjob')
    generalize decide (id ∈ (after {} steps).queue) = due at hl
    have hl' := lane_after_settle hl
    have hbody : (Lane.settle ⟨job, due⟩).2.job.body = job.body :=
      Job.body_of_scheduling (scheduling_settle ⟨job, due⟩)
    obtain ⟨hreleased, hjoined⟩ := Lane.settle_keeps ⟨job, due⟩
    have hd := Lane.due_settle ⟨job, due⟩
    refine reply_isFinished_of_ends hl' (hjoined.trans hj) (hbody ▸ hb) hd ?_
    -- Were it waiting, there would be a gate, and it would be due as soon as that is open.
    rw [Bool.eq_false_iff]
    intro hp
    have hwaits := waitsAtGate_of_lane hl'
    rcases hgate with hopen | hnone
    · rw [hwaits.due hp (hreleased.trans hopen)] at hd
      cases hd
    · exact hnone (hbody ▸ hwaits.gate hp)

/-- **The owner of a task sees that it has ended, if its body ends.**  In every run, over any number
    of tasks, each task with this body is seen to be finished without joining it once it is neither
    due to run nor waiting, and polling it stops, exactly if the body does not crash and returns one
    of the last states. -/
theorem seenFinished_iff (body : Body) :
    (∀ steps id job, (after {} steps).find? id = some job → job.body = body →
        SeenFinished id steps) ↔ body.Ends := by
  constructor
  · intro h
    -- The task that goes through its open gate has ended, and is still running if it crashed.
    obtain ⟨l, hl, -, hbody, hj, hd, hw, hst⟩ := exists_lane_opening "" ⟨"", true, none⟩ body false
    obtain ⟨hjob, hq⟩ := lane_eq_some_iff.mp hl
    rw [hd] at hq
    have hp : l.job.isPaused = false := by rw [Job.isPaused, hw]
    have hr := (h _ "" l.job hjob hbody).ended l.job hjob hj (of_decide_eq_false hq.symm) hp
    rw [reply_isFinished hl hj, hst] at hr
    have hfinished := Reply.flag.inj hr
    split at hfinished
    · cases hfinished
    · next hends => exact ⟨hends, hfinished⟩
  · rintro hb steps id job hjob rfl
    exact seenFinished_of_ends hjob hb

/-- A submission is answered, and its continuation crashes. -/
def crashing : List Step :=
  let s : Submission := { descriptor := ⟨"report", true, none⟩, form := .empty }
  let transport : Transport := ⟨fun _ => .gives (), fun _ _ => .gives ⟨201, "7"⟩⟩
  [.schedule "report" s.descriptor (s.body transport false true) false, .settle]

/-- It has ended, and its owner sees it running. -/
theorem not_seenFinished_crashing : ¬SeenFinished "report" crashing := by
  intro h
  obtain ⟨job, hjob, hj, hw⟩ : ∃ job, (after {} crashing).find? "report" = some job
      ∧ job.joined = false ∧ job.worker = .ended .crashes := ⟨_, rfl, rfl, rfl⟩
  have hp : job.isPaused = false := by rw [Job.isPaused, hw]
  have hr := h.ended job hjob hj (by decide) hp
  have hrunning : ((after {} crashing).step (.isFinished "report")).1 = .flag false := by decide
  rw [hrunning] at hr
  cases hr

end Scheduler

end Postbox
