import Mathlib.Data.List.Forall2
import Postbox.Proofs.Scheduler.Cancellation

namespace Postbox

/-!
# Requests that are only advice

A request to stop a task that does not take effect, a request made to the progress of a task, and a
text that its owner gives the progress, are noted there and nowhere else.  If the body of the task
does not look at its progress, they could as well be left out of a run: the other steps are answered
alike, every task is in the same state at every point, and the same is shown in the same order.
Only the flag, or the text, of that one task may differ.

* `Veil` — the part of a progress that may differ.
* `Job.SameBut`, `Scheduler.SameBut` — jobs, and schedulers, that are the same but for that part of
  one task.
* `Job.LooksAway`, `Scheduler.looksAway_of_lane` — the worker of a task has no look left to take.
* `Scheduler.SameBut.step`, `Scheduler.SameBut.run` — every step, and every run, keeps two
  schedulers the same.
* `Scheduler.Advisory`, `Scheduler.advice_unseen` — the requests, and the statement on runs.
-/

/-! ### What may differ -/

/-- A part of the progress that is left out of account. -/
inductive Veil where
  | nothing
  | flag
  | text
  deriving Repr, DecidableEq

/-- The progress without that part. -/
def Veil.hide : Veil → Progress → Progress
  | nothing, p => p
  | flag, p => { p with canceled := false }
  | text, p => { p with text := "" }

section

variable {v : Veil} {p q : Progress}

/-- What is hidden stays hidden, whatever part of the progress is changed alike. -/
theorem Veil.hide_update (h : v.hide p = v.hide q) :
    (∀ i, v.hide { p with indeterminate := i } = v.hide { q with indeterminate := i })
      ∧ (∀ c, v.hide { p with canceled := c } = v.hide { q with canceled := c })
      ∧ ∀ t, v.hide { p with text := t } = v.hide { q with text := t } := by
  cases p
  cases q
  cases v <;> simp_all [hide]

/-- What a veil hides stays hidden behind an event. -/
theorem Veil.hide_after (h : v.hide p = v.hide q) (e : Event) :
    v.hide (p.after e) = v.hide (q.after e) := by
  obtain ⟨hi, -, ht⟩ := hide_update h
  cases e with
  | indeterminate value => exact hi value
  | text value => exact ht value
  | opening | sending | success | failure | observed => exact h

end

/-- The jobs are the same, but for a part of the progress if they are those of the task `id`. -/
def Job.SameBut (v : Veil) (id : String) (a b : Job) : Prop :=
  ∃ p, b = { a with progress := p } ∧ v.hide p = v.hide a.progress ∧ (a.id ≠ id → p = a.progress)

/-- The schedulers hold the same tasks, due in the same order, but for a part of the progress of the
    task `id`. -/
structure Scheduler.SameBut (v : Veil) (id : String) (s t : Scheduler) : Prop where
  queue : t.queue = s.queue
  jobs : ∀ i, Option.Rel (Job.SameBut v id) (s.find? i) (t.find? i)

/-! ### Jobs -/

/-- The worker of the job does not look at the progress from here on. -/
structure Job.LooksAway (job : Job) : Prop where
  body : .looks ∉ job.body.actions
  place : ∀ rest, job.worker = .paused rest → .looks ∉ rest

/-- A worker that was let go on has less to do. -/
theorem Job.LooksAway.advance {job : Job} (h : job.LooksAway) (p : Progress) {as : List Action}
    (has : .looks ∉ as) : (job.advance p as).2.LooksAway := by
  refine ⟨h.body, fun rest hw hmem => has ?_⟩
  obtain ⟨past, future, rfl, -, hl⟩ := perform_splits job.body.returns job.released p as
  have hw' : (perform job.body.returns job.released p (past ++ future)).worker = .paused rest := hw
  rw [hw'] at hl
  obtain rfl : future = rest := hl
  exact List.mem_append_right _ hmem

/-- A job that looks away goes on looking away. -/
theorem Job.LooksAway.poll {job : Job} (h : job.LooksAway) : job.poll.2.LooksAway := by
  cases hw : job.worker with
  | fresh =>
    by_cases hs : job.state = .created
    · rw [poll_of_created hw hs]
      exact h.advance _ h.body
    · rw [poll_of_ne_created hw hs]
      exact ⟨h.body, nofun⟩
  | paused rest =>
    by_cases hr : job.released = true
    · rw [poll_of_released hw hr]
      exact h.advance _ (h.place rest hw)
    · rw [poll_of_not_released hw hr]
      exact h
  | ended e =>
    rw [poll_of_ended hw]
    exact h

/-- Actions that do not look at the progress do the same with any. -/
theorem Job.perform_congr {v : Veil} (returns : State) (isOpen : Bool) {p q : Progress}
    {as : List Action} (has : .looks ∉ as) (h : v.hide p = v.hide q) :
    (perform returns isOpen p as).events = (perform returns isOpen q as).events
      ∧ (perform returns isOpen p as).worker = (perform returns isOpen q as).worker
      ∧ v.hide (perform returns isOpen p as).progress
        = v.hide (perform returns isOpen q as).progress := by
  -- On the actions; none of them looks at the progress, so it decides nothing.
  induction as generalizing p q with
  | nil => exact ⟨rfl, rfl, h⟩
  | cons a as ih =>
    rw [List.mem_cons, not_or] at has
    obtain ⟨ha, has⟩ := has
    cases a with
    | crashes => exact ⟨rfl, rfl, h⟩
    | looks => exact absurd rfl ha
    | waits =>
      rw [perform, perform]
      split
      · exact ih has h
      · exact ⟨rfl, rfl, h⟩
    | shows e =>
      obtain ⟨he, hw, hp⟩ := ih has (Veil.hide_after h e)
      rw [perform, perform]
      split
      · exact ⟨he, hw, hp⟩
      · exact ⟨congrArg (e :: ·) he, hw, hp⟩

namespace Job.SameBut

variable {v : Veil} {id : String} {a b : Job}

theorem refl (a : Job) : a.SameBut v id a := ⟨a.progress, rfl, rfl, fun _ => rfl⟩

/-- Jobs of another task are the same. -/
theorem eq_of_ne (h : a.SameBut v id b) (hid : a.id ≠ id) : b = a := by
  obtain ⟨p, rfl, -, hp⟩ := h
  rw [hp hid]

/-- All but the progress is the same. -/
theorem eq_withProgress (h : a.SameBut v id b) : b = { a with progress := b.progress } := by
  obtain ⟨p, rfl, -⟩ := h
  rfl

theorem id_eq (h : a.SameBut v id b) : b.id = a.id := by rw [h.eq_withProgress]

theorem descriptor_eq (h : a.SameBut v id b) : b.descriptor = a.descriptor := by
  rw [h.eq_withProgress]

theorem state_eq (h : a.SameBut v id b) : b.state = a.state := by rw [h.eq_withProgress]

theorem worker_eq (h : a.SameBut v id b) : b.worker = a.worker := by rw [h.eq_withProgress]

theorem released_eq (h : a.SameBut v id b) : b.released = a.released := by rw [h.eq_withProgress]

theorem joined_eq (h : a.SameBut v id b) : b.joined = a.joined := by rw [h.eq_withProgress]

theorem isBlocked_eq (h : a.SameBut v id b) : b.isBlocked = a.isBlocked := by
  rw [h.eq_withProgress]
  rfl

theorem isPaused_eq (h : a.SameBut v id b) : b.isPaused = a.isPaused := by
  rw [h.eq_withProgress]
  rfl

/-- Under the veil the progress of the two is the same. -/
theorem hide_eq (h : a.SameBut v id b) : v.hide a.progress = v.hide b.progress := by
  obtain ⟨p, rfl, hp, -⟩ := h
  exact hp.symm

/-- A change of all but the progress. -/
theorem update (h : a.SameBut v id b) (f : Job → Job)
    (hf : ∀ job p, f { job with progress := p } = { f job with progress := p })
    (hid : (f a).id = a.id) : (f a).SameBut v id (f b) := by
  obtain ⟨p, rfl, hp, hne⟩ := h
  have hfa : f a = { f a with progress := a.progress } := hf a a.progress
  have hprogress : (f a).progress = a.progress := by rw [hfa]
  refine ⟨p, hf a p, ?_, fun h => ?_⟩
  · rw [hprogress]
    exact hp
  · rw [hprogress]
    exact hne (hid ▸ h)

/-- A change of the progress. -/
theorem withProgress (h : a.SameBut v id b) (f : Progress → Progress)
    (hf : ∀ p q, v.hide p = v.hide q → v.hide (f p) = v.hide (f q)) :
    Job.SameBut v id { a with progress := f a.progress } { b with progress := f b.progress } := by
  obtain ⟨p, rfl, hp, hne⟩ := h
  exact ⟨f p, rfl, hf _ _ hp, fun h => congrArg f (hne h)⟩

/-- The worker of the one shows the same as that of the other, and gets as far. -/
theorem advance (h : a.SameBut v id b) (hid : a.id = id) {p q : Progress}
    (hpq : v.hide p = v.hide q) {as : List Action} (has : .looks ∉ as) :
    (b.advance q as).1 = (a.advance p as).1
      ∧ (a.advance p as).2.SameBut v id (b.advance q as).2 := by
  obtain ⟨r, rfl, -⟩ := h
  obtain ⟨he, hw, hp⟩ := perform_congr a.body.returns a.released has hpq
  refine ⟨he.symm, _, ?_, hp.symm, fun hne => absurd hid hne⟩
  simp only [Job.advance, hw]

/-- **Letting the worker go on** shows the same, and keeps the jobs the same. -/
theorem poll (h : a.SameBut v id b) (hl : a.id = id → a.LooksAway) :
    b.poll.1 = a.poll.1 ∧ a.poll.2.SameBut v id b.poll.2 := by
  by_cases hid : a.id = id
  · -- The state and the place of the worker, which decide what happens, are those of the other.
    obtain ⟨hbody, hplace⟩ := hl hid
    cases hw : a.worker with
    | fresh =>
      by_cases hst : a.state = .created
      · have hb : b.body = a.body := by rw [h.eq_withProgress]
        rw [poll_of_created hw hst,
          poll_of_created (h.worker_eq.trans hw) (h.state_eq.trans hst), h.descriptor_eq, hb]
        exact h.advance hid ((Veil.hide_update h.hide_eq).2.2 _) hbody
      · rw [poll_of_ne_created hw hst,
          poll_of_ne_created (h.worker_eq.trans hw) (by rwa [h.state_eq]), h.state_eq]
        exact ⟨rfl, h.update
          (fun job => { job with state := a.state, worker := .ended (.returns a.state) })
          (fun _ _ => rfl) rfl⟩
    | paused rest =>
      by_cases hr : a.released = true
      · rw [poll_of_released hw hr,
          poll_of_released (h.worker_eq.trans hw) (h.released_eq.trans hr)]
        exact h.advance hid h.hide_eq (hplace rest hw)
      · rw [poll_of_not_released hw hr,
          poll_of_not_released (h.worker_eq.trans hw) (by rwa [h.released_eq])]
        exact ⟨rfl, h⟩
    | ended e =>
      rw [poll_of_ended hw, poll_of_ended (h.worker_eq.trans hw)]
      exact ⟨rfl, h⟩
  · rw [h.eq_of_ne hid]
    exact ⟨rfl, refl _⟩

/-- A request to stop is answered alike. -/
theorem cancel (h : a.SameBut v id b) :
    b.cancel.1 = a.cancel.1 ∧ a.cancel.2.SameBut v id b.cancel.2 := by
  have hflag := h.withProgress (fun p => { p with canceled := true })
    fun _ _ hpq => (Veil.hide_update hpq).2.1 true
  by_cases hc : a.descriptor.cancellable = true
  · have hc' : b.descriptor.cancellable = true := by rw [h.descriptor_eq, hc]
    by_cases hst : a.state = .created
    · rw [Job.cancel_of_created hc hst, Job.cancel_of_created hc' (h.state_eq.trans hst)]
      exact ⟨rfl, hflag.update (fun job => { job with state := .cancelled }) (fun _ _ => rfl) rfl⟩
    · rw [Job.cancel_of_ne_created hc hst, Job.cancel_of_ne_created hc' (by rwa [h.state_eq])]
      exact ⟨rfl, hflag⟩
  · rw [Job.cancel_of_not_cancellable hc,
      Job.cancel_of_not_cancellable (by rwa [h.descriptor_eq])]
    exact ⟨rfl, h⟩

/-- The handle is given up alike. -/
theorem finish (h : a.SameBut v id b) :
    Option.Rel (fun r r' => r'.1 = r.1 ∧ r.2.SameBut v id r'.2) a.finish b.finish := by
  unfold Job.finish
  rw [h.worker_eq]
  cases a.worker with
  | fresh | paused => exact .none
  | ended e =>
    cases e with
    | returns state =>
      exact .some ⟨rfl, h.update
        (fun job => { job with worker := .ended (.returns state), joined := true })
        (fun _ _ => rfl) rfl⟩
    | crashes =>
      exact .some ⟨rfl, h.update
        (fun job => { job with state := .failed, worker := .ended .crashes, joined := true })
        (fun _ _ => rfl) rfl⟩

end Job.SameBut

/-! ### Schedulers -/

namespace Scheduler

section

variable {v : Veil} {id : String} {s t : Scheduler}

/-- A scheduler is the same as itself. -/
theorem SameBut.refl (s : Scheduler) : s.SameBut v id s := by
  refine ⟨rfl, fun i => ?_⟩
  cases s.find? i with
  | none => exact .none
  | some job => exact .some (.refl job)

/-- A task is in both schedulers, or in neither. -/
theorem SameBut.find? (h : s.SameBut v id t) (i : String) :
    s.find? i = none ∧ t.find? i = none
      ∨ ∃ a b, s.find? i = some a ∧ t.find? i = some b ∧ a.SameBut v id b := by
  have hi := h.jobs i
  generalize s.find? i = o, t.find? i = o' at hi
  cases hi with
  | none => exact .inl ⟨rfl, rfl⟩
  | some hab => exact .inr ⟨_, _, rfl, rfl, hab⟩

/-- The same change of a job in both. -/
theorem SameBut.modify (h : s.SameBut v id t) (i : String) {f : Job → Job}
    (hid : ∀ job, (f job).id = job.id)
    (hf : ∀ a b, a.SameBut v id b → (f a).SameBut v id (f b)) :
    (s.modify i f).SameBut v id (t.modify i f) := by
  refine ⟨h.queue, fun j => ?_⟩
  rw [find?_modify s i f hid, find?_modify t i f hid]
  split
  · obtain ⟨ha, hb⟩ | ⟨a, b, ha, hb, hab⟩ := h.find? i
    · rw [ha, hb]
      exact .none
    · rw [ha, hb]
      exact .some (hf a b hab)
  · exact h.jobs j

/-- A job that is put in the place of another in both. -/
theorem SameBut.modify_const (h : s.SameBut v id t) {i : String} {a b a' b' : Job}
    (ha : s.find? i = some a) (hb : t.find? i = some b) (hida : a'.id = a.id)
    (hidb : b'.id = b.id) (hab : a'.SameBut v id b') :
    (s.modify i fun _ => a').SameBut v id (t.modify i fun _ => b') := by
  refine ⟨h.queue, fun j => ?_⟩
  rw [find?_modify_const s ha hida, find?_modify_const t hb hidb]
  split
  · exact .some hab
  · exact h.jobs j

/-- The worker of one task goes on in both. -/
theorem SameBut.poll (h : s.SameBut v id t) (hl : ∀ job, s.find? id = some job → job.LooksAway)
    (i : String) : (t.poll i).1 = (s.poll i).1 ∧ (s.poll i).2.SameBut v id (t.poll i).2 := by
  obtain ⟨ha, hb⟩ | ⟨a, b, ha, hb, hab⟩ := h.find? i
  · simp only [Scheduler.poll, ha, hb]
    exact ⟨trivial, h⟩
  · obtain ⟨hshown, hpoll⟩ := hab.poll fun hid => hl a (by rw [← hid, id_of_find? ha, ha])
    simp only [Scheduler.poll, ha, hb, hshown]
    exact ⟨trivial, h.modify_const ha hb (Job.id_of_scheduling (Job.scheduling_poll a))
      (Job.id_of_scheduling (Job.scheduling_poll b)) hpoll⟩

/-- Letting tasks go on keeps two schedulers the same but for that part. -/
theorem SameBut.pollAll (h : s.SameBut v id t)
    (hl : ∀ job, s.find? id = some job → job.LooksAway) (ids : List String) :
    (t.pollAll ids).1 = (s.pollAll ids).1
      ∧ (s.pollAll ids).2.SameBut v id (t.pollAll ids).2 := by
  induction ids generalizing s t with
  | nil => exact ⟨rfl, h⟩
  | cons i ids ih =>
    obtain ⟨hshown, hpoll⟩ := h.poll hl i
    have hl' : ∀ job, (s.poll i).2.find? id = some job → job.LooksAway := by
      intro job hjob
      rw [find?_poll] at hjob
      split at hjob
      · obtain ⟨a, ha, rfl⟩ := Option.map_eq_some_iff.mp hjob
        exact (hl a ha).poll
      · exact hl job hjob
    obtain ⟨hshown', hpoll'⟩ := ih hpoll hl'
    refine ⟨?_, hpoll'⟩
    show (t.poll i).1 ++ ((t.poll i).2.pollAll ids).1
      = (s.poll i).1 ++ ((s.poll i).2.pollAll ids).1
    rw [hshown, hshown']

/-- Both yield alike. -/
theorem SameBut.settle (h : s.SameBut v id t)
    (hl : ∀ job, s.find? id = some job → job.LooksAway) :
    t.settle.1 = s.settle.1 ∧ s.settle.2.SameBut v id t.settle.2 := by
  have hempty : ({ s with queue := [] } : Scheduler).SameBut v id { t with queue := [] } :=
    ⟨rfl, h.jobs⟩
  rw [Scheduler.settle, Scheduler.settle, h.queue]
  exact hempty.pollAll hl s.queue

theorem SameBut.schedule (h : s.SameBut v id t) (i : String) (d : Descriptor) (body : Body)
    (gated : Bool) :
    (s.schedule i d body gated).SameBut v id (t.schedule i d body gated) := by
  refine ⟨?_, fun j => ?_⟩
  · rw [Scheduler.schedule, Scheduler.schedule, h.queue]
  · have hfind : ∀ u : Scheduler, (u.schedule i d body gated).find? j
        = (u.find? j).or (List.find? (fun job => job.id = j)
          [{ id := i, descriptor := d, body, gated }]) := fun u => List.find?_append
    rw [hfind, hfind]
    obtain ⟨ha, hb⟩ | ⟨a, b, ha, hb, hab⟩ := h.find? j
    · rw [ha, hb, Option.none_or, List.find?_singleton]
      split
      · exact .some (.refl _)
      · exact .none
    · rw [ha, hb, Option.some_or, Option.some_or]
      exact .some hab

theorem SameBut.release (h : s.SameBut v id t) {a b : Job} (hab : a.SameBut v id b) :
    (s.release a).SameBut v id (t.release b) := by
  have hopened : (s.modify a.id fun job => { job with released := true }).SameBut v id
      (t.modify b.id fun job => { job with released := true }) := by
    rw [hab.id_eq]
    exact h.modify a.id (fun _ => rfl) fun _ _ hab =>
      hab.update (fun job => { job with released := true }) (fun _ _ => rfl) rfl
  rw [Scheduler.release, Scheduler.release, hab.isPaused_eq, hab.released_eq]
  split
  · refine ⟨?_, hopened.jobs⟩
    show t.queue ++ [b.id] = s.queue ++ [a.id]
    rw [h.queue, hab.id_eq]
  · exact hopened

/-- **Joining a task** is answered alike in both. -/
theorem SameBut.join (h : s.SameBut v id t) (hl : ∀ job, s.find? id = some job → job.LooksAway)
    (i : String) :
    (t.join i).1 = (s.join i).1 ∧ (t.join i).2.1 = (s.join i).2.1
      ∧ (s.join i).2.2.SameBut v id (t.join i).2.2 := by
  -- Joining settles first, so the jobs are compared as they are after that.
  obtain ⟨hshown, hsettled⟩ := h.settle hl
  obtain ⟨ha, hb⟩ | ⟨a, b, ha, hb, hab⟩ := hsettled.find? i
  · simp only [Scheduler.join, ha, hb, Option.bind_none]
    exact ⟨trivial, hshown, hsettled⟩
  · have hfinish := hab.finish
    simp only [Scheduler.join, ha, hb, Option.bind_some]
    cases hfa : a.finish with
    | none =>
      rw [hfa] at hfinish
      generalize b.finish = o at hfinish ⊢
      cases hfinish with
      | none => exact ⟨rfl, hshown, hsettled⟩
    | some r =>
      obtain ⟨state, a'⟩ := r
      cases hfb : b.finish with
      | none => rw [hfa, hfb] at hfinish; cases hfinish
      | some r' =>
        obtain ⟨state', b'⟩ := r'
        rw [hfa, hfb] at hfinish
        cases hfinish with
        | some hr =>
          obtain ⟨hstate, hab'⟩ := hr
          have hstate' : state' = state := hstate
          rw [hstate']
          exact ⟨rfl, hshown, hsettled.modify_const ha hb
            (Job.id_of_scheduling (Job.scheduling_finish hfa))
            (Job.id_of_scheduling (Job.scheduling_finish hfb)) hab'⟩

/-- So does a step that goes by a handle, if it does on jobs that are the same. -/
theorem SameBut.withHandle (h : s.SameBut v id t) (i : String)
    {f g : Job → Reply × Log × Scheduler}
    (hfg : ∀ a b, s.find? i = some a → t.find? i = some b → a.SameBut v id b →
      (g b).1 = (f a).1 ∧ (g b).2.1 = (f a).2.1 ∧ (f a).2.2.SameBut v id (g b).2.2) :
    (t.withHandle i g).1 = (s.withHandle i f).1
      ∧ (t.withHandle i g).2.1 = (s.withHandle i f).2.1
      ∧ (s.withHandle i f).2.2.SameBut v id (t.withHandle i g).2.2 := by
  obtain ⟨ha, hb⟩ | ⟨a, b, ha, hb, hab⟩ := h.find? i
  · simp only [Scheduler.withHandle, ha, hb]
    exact ⟨trivial, trivial, h⟩
  · simp only [Scheduler.withHandle, ha, hb, hab.joined_eq]
    split
    · exact ⟨rfl, rfl, h⟩
    · exact hfg a b ha hb hab

/-- So does a change of the progress, if it keeps what is hidden hidden. -/
theorem SameBut.withProgress (h : s.SameBut v id t) (i : String) {f : Progress → Progress}
    (hf : ∀ p q, v.hide p = v.hide q → v.hide (f p) = v.hide (f q)) :
    (t.withProgress i f).1 = (s.withProgress i f).1
      ∧ (t.withProgress i f).2.1 = (s.withProgress i f).2.1
      ∧ (s.withProgress i f).2.2.SameBut v id (t.withProgress i f).2.2 := by
  obtain ⟨ha, hb⟩ | ⟨a, b, ha, hb, -⟩ := h.find? i
  · simp only [Scheduler.withProgress, ha, hb]
    exact ⟨trivial, trivial, h⟩
  · simp only [Scheduler.withProgress, ha, hb]
    exact ⟨trivial, trivial, h.modify i (fun _ => rfl) fun _ _ hab => hab.withProgress f hf⟩

/-- **One step** is answered alike and shows the same in both, and keeps them the same. -/
theorem SameBut.step (h : s.SameBut v id t) (hl : ∀ job, s.find? id = some job → job.LooksAway)
    (x : Step) :
    (t.step x).1 = (s.step x).1 ∧ (t.step x).2.1 = (s.step x).2.1
      ∧ (s.step x).2.2.SameBut v id (t.step x).2.2 := by
  cases x with
  | schedule i d body gated => exact ⟨rfl, rfl, h.schedule i d body gated⟩
  | settle =>
    obtain ⟨hshown, hsettled⟩ := h.settle hl
    exact ⟨rfl, hshown, hsettled⟩
  | release i =>
    obtain ⟨ha, hb⟩ | ⟨a, b, ha, hb, hab⟩ := h.find? i
    · simp only [Scheduler.step, ha, hb]
      exact ⟨trivial, trivial, h⟩
    · simp only [Scheduler.step, ha, hb]
      exact ⟨trivial, trivial, h.release hab⟩
  | cancel i =>
    refine h.withHandle i fun a b ha hb hab => ?_
    obtain ⟨hreply, hcancel⟩ := hab.cancel
    exact ⟨congrArg Reply.flag hreply, rfl,
      h.modify_const ha hb (Job.id_of_scheduling (Job.scheduling_cancel a))
        (Job.id_of_scheduling (Job.scheduling_cancel b)) hcancel⟩
  | isFinished i =>
    refine h.withHandle i fun a b _ _ hab => ?_
    exact ⟨by rw [hab.state_eq], rfl, h⟩
  | join i =>
    refine h.withHandle i fun a b _ _ hab => ?_
    rw [hab.isBlocked_eq]
    split
    · exact ⟨rfl, rfl, h⟩
    · exact h.join hl i
  | cancelProgress i => exact h.withProgress i fun _ _ hpq => (Veil.hide_update hpq).2.1 true
  | setText i text => exact h.withProgress i fun _ _ hpq => (Veil.hide_update hpq).2.2 text

end

/-! ### Runs -/

/-- What a step has come to, and what it has come to elsewhere: the same answer, the same shown in
    the same order, and schedulers that are the same but for a part of the progress of one task. -/
structure Alike (v : Veil) (id : String) (m m' : Reply × Log × Scheduler) : Prop where
  reply : m'.1 = m.1
  shown : m'.2.1 = m.2.1
  after : m.2.2.SameBut v id m'.2.2

/-- No step schedules a body for the task `id` that looks at its progress. -/
def Unlooked (id : String) (steps : List Step) : Prop :=
  ∀ d body gated, .schedule id d body gated ∈ steps → .looks ∉ body.actions

/-- The worker of a task whose body does not look at its progress has no look left to take. -/
theorem looksAway_of_lane {steps : List Step} {id : String} {l : Lane}
    (hl : (after {} steps).lane id = some l) (h : Unlooked id steps) : l.job.LooksAway := by
  obtain rfl : l.job.id = id := id_of_find? (lane_eq_some_iff.mp hl).1
  have hbody : .looks ∉ l.job.body.actions := h _ _ _ (scheduling_mem hl)
  refine ⟨hbody, fun rest hw hmem => hbody ?_⟩
  obtain ⟨text, -, hp⟩ := phase_of_lane hl
  generalize started {} l.job.id steps = b, stops {} l.job.id steps = n,
    shownBy l.job.id (log {} steps) = es at hp
  cases hp with
  | waiting _ hf => rw [hf] at hw; cases hw
  | stopped _ _ _ hplace =>
    rcases hplace with ⟨hf, -, -⟩ | he
    · rw [hf] at hw; cases hw
    · rw [he] at hw; cases hw
  | begun ha _ hleaves =>
    rw [hw] at hleaves
    -- What it waits with is the end of its actions.
    rw [ha, show _ = rest from hleaves]
    exact List.mem_append_right _ hmem
  | recalled _ _ he => rw [he] at hw; cases hw

/-- **A run keeps two schedulers the same**, from any point on that a run has come to. -/
theorem SameBut.run {v : Veil} {id : String} {xs ys : List Step} {t : Scheduler}
    (h : (after {} xs).SameBut v id t) (hb : Unlooked id (xs ++ ys)) :
    List.Forall₂ (Alike v id) ((after {} xs).run ys) (t.run ys) := by
  induction ys generalizing xs t with
  | nil => exact .nil
  | cons y ys ih =>
    have hl : ∀ job, (after {} xs).find? id = some job → job.LooksAway := by
      intro job hjob
      exact looksAway_of_lane (lane_of_find? hjob) fun d body gated hm =>
        hb d body gated (List.mem_append_left _ hm)
    obtain ⟨hreply, hshown, hstep⟩ := h.step hl y
    refine .cons ⟨hreply, hshown, hstep⟩ ?_
    rw [← after_append_singleton] at hstep ⊢
    exact ih hstep (by rwa [List.append_assoc])

/-! ### Requests -/

/-- The step is only advice to the task `id`, and at most this part of its progress takes it: a
    request to stop it that does not take effect, for the flag if the task may be stopped at all; a
    request made to its progress; or a text for its progress. -/
inductive Advisory (s : Scheduler) (id : String) : Step → Veil → Prop
  | refused (answer : (s.step (.cancel id)).1 ≠ .flag true) : Advisory s id (.cancel id) .flag
  | ignored (cancellable : ∀ job, s.find? id = some job → job.descriptor.cancellable = false) :
    Advisory s id (.cancel id) .nothing
  | cancelProgress : Advisory s id (.cancelProgress id) .flag
  | setText (text : String) : Advisory s id (.setText id text) .text

section

variable {v : Veil} {s : Scheduler} {id : String}

/-- A job in the place of one that is the same but for that part leaves a scheduler the same. -/
theorem sameBut_modify_const {job job' : Job} (hl : s.find? id = some job)
    (h : job.SameBut v id job') : s.SameBut v id (s.modify id fun _ => job') := by
  refine ⟨rfl, fun i => ?_⟩
  rw [find?_modify_const s hl h.id_eq]
  split
  · next hi =>
    rw [hi, hl]
    exact .some h
  · exact (SameBut.refl s).jobs i

/-- Changing a part of the progress of one task leaves a scheduler the same but for that part. -/
theorem sameBut_withProgress {f : Progress → Progress} (hf : ∀ p, v.hide (f p) = v.hide p) :
    (s.withProgress id f).2.1 = [] ∧ s.SameBut v id (s.withProgress id f).2.2 := by
  cases hl : s.find? id with
  | none =>
    simp only [withProgress, hl]
    exact ⟨trivial, .refl s⟩
  | some job =>
    simp only [withProgress, hl]
    refine ⟨trivial, rfl, fun i => ?_⟩
    rw [find?_modify s id (fun job => { job with progress := f job.progress }) (fun _ => rfl)]
    split
    · next hi =>
      rw [hi, hl]
      exact .some ⟨_, rfl, hf _, fun hne => absurd (id_of_find? hl) hne⟩
    · exact (SameBut.refl s).jobs i

/-- A request to stop a task leaves a scheduler the same if it does so with the job. -/
theorem sameBut_cancel (h : ∀ job, s.find? id = some job → job.joined = false →
      job.SameBut v id job.cancel.2) :
    (s.step (.cancel id)).2.1 = [] ∧ s.SameBut v id (s.step (.cancel id)).2.2 := by
  rw [step]
  cases hl : s.find? id with
  | none =>
    simp only [withHandle, hl]
    exact ⟨trivial, .refl s⟩
  | some job =>
    simp only [withHandle, hl]
    split
    · exact ⟨rfl, .refl s⟩
    · next hj => exact ⟨rfl, sameBut_modify_const hl (h job hl (Bool.eq_false_iff.mpr hj))⟩

/-- **Advice is only noted.**  It shows nothing, and leaves the scheduler the same but for the part
    of the progress that takes it. -/
theorem Advisory.sameBut {x : Step} (h : Advisory s id x v) :
    (s.step x).2.1 = [] ∧ s.SameBut v id (s.step x).2.2 := by
  cases h with
  | refused answer =>
    refine sameBut_cancel fun job hl hj => ?_
    -- A request that does not take effect sets the flag at most.
    have hrefused : job.cancel.1 ≠ true := by
      intro he
      simp only [step, withHandle, hl, hj] at answer
      exact answer (congrArg Reply.flag he)
    by_cases hc : job.descriptor.cancellable = true
    · have hst : job.state ≠ .created := fun hst => hrefused (by rw [Job.cancel_of_created hc hst])
      rw [Job.cancel_of_ne_created hc hst]
      exact ⟨_, rfl, rfl, fun hne => absurd (id_of_find? hl) hne⟩
    · rw [Job.cancel_of_not_cancellable hc]
      exact .refl job
  | ignored hc =>
    refine sameBut_cancel fun job hl _ => ?_
    have hc' : ¬job.descriptor.cancellable = true := by
      rw [hc job hl]
      exact Bool.false_ne_true
    rw [Job.cancel_of_not_cancellable hc']
    exact .refl job
  | cancelProgress => exact sameBut_withProgress fun _ => rfl
  | setText text => exact sameBut_withProgress fun _ => rfl

end

/-- Runs that are alike show the same in the same order. -/
theorem shown_eq_of_alike {v : Veil} {id : String} {ms ms' : List (Reply × Log × Scheduler)}
    (h : List.Forall₂ (Alike v id) ms ms') :
    (ms'.flatMap fun m => m.2.1) = ms.flatMap fun m => m.2.1 := by
  induction h with
  | nil => rfl
  | cons hm _ ih => rw [List.flatMap_cons, List.flatMap_cons, hm.shown, ih]

/-- **Advice does not interfere.**  Take any run over any number of tasks, and in it a request that
    is only advice to a task whose bodies do not look at their progress, as no submission does.  The
    run without that step is alike: every other step is answered the same, every task is in the same
    state after it, and the same is shown in the same order.  Only the flag of that one task may
    differ, and not even that if the task cannot be stopped, or else its text. -/
theorem advice_unseen {id : String} {xs ys : List Step} {x : Step} {v : Veil}
    (hb : Unlooked id (xs ++ ys)) (hx : Advisory (after {} xs) id x v) :
    List.Forall₂ (Alike v id) (run {} (xs ++ ys)) ((run {} (xs ++ x :: ys)).eraseIdx xs.length)
      ∧ log {} (xs ++ x :: ys) = log {} (xs ++ ys)
      ∧ ∀ (s : Submission) (transport : Transport) (gated continuationCrashes : Bool),
        .looks ∉ (s.body transport gated continuationCrashes).actions := by
  obtain ⟨hnothing, hsame⟩ := hx.sameBut
  have hrest := hsame.run hb
  have hrun : run {} (xs ++ x :: ys)
      = run {} xs ++ (after {} xs).step x :: ((after {} xs).step x).2.2.run ys := run_append {} xs _
  refine ⟨?_, ?_, fun s transport gated cc => s.looks_not_mem_body transport gated cc⟩
  · -- What comes before the step is the same run.
    rw [hrun, List.eraseIdx_append_of_length_le (Nat.le_of_eq (length_run {} xs)), length_run,
      Nat.sub_self, run_append]
    exact List.rel_append (List.forall₂_same.mpr fun m _ => ⟨rfl, rfl, .refl m.2.2⟩) hrest
  · rw [log, log, hrun, run_append, List.flatMap_append, List.flatMap_append, List.flatMap_cons,
      hnothing, List.nil_append, shown_eq_of_alike hrest]

/-- A submission waits at its gate, and is asked to stop there. -/
def waiting : List Step :=
  let s : Submission := { descriptor := ⟨"report", true, none⟩, form := .empty }
  let transport : Transport := ⟨fun _ => .gives (), fun _ _ => .gives ⟨201, "7"⟩⟩
  [.schedule "report" s.descriptor (s.body transport true false) true, .settle]

/-- The request does not take effect, and nothing is changed by it but the flag. -/
theorem advice_unseen_waiting :
    ((after {} waiting).step (.cancel "report")).1 = .flag false
      ∧ Unlooked "report" (waiting ++ [.release "report", .join "report"])
      ∧ List.Forall₂ (Alike .flag "report")
        (run {} (waiting ++ [.release "report", .join "report"]))
        ((run {} (waiting ++ [.cancel "report", .release "report", .join "report"])).eraseIdx
          2) := by
  have hanswer : ((after {} waiting).step (.cancel "report")).1 = .flag false := by decide
  have hb : Unlooked "report" (waiting ++ [.release "report", .join "report"]) := by
    intro d body gated hm
    rcases List.mem_cons.mp hm with hm | hm
    · rw [(Step.schedule.inj hm).2.2.1]
      exact Submission.looks_not_mem_body _ _ _ _
    · simp at hm
  have hx : Advisory (after {} waiting) "report" (.cancel "report") .flag :=
    .refused (by rw [hanswer]; nofun)
  exact ⟨hanswer, hb, (advice_unseen hb hx).1⟩

end Scheduler

end Postbox
