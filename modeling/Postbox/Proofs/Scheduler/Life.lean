import Postbox.Proofs.Scheduler.History

namespace Postbox

/-!
# The life of a task

A task waits for its worker to start, it was stopped before that, or it has begun.  The phase ties
together its state, the place of its worker, what it showed, how often it was stopped, and whether
its body was started.  A task whose body claims in the end that it was never begun can be stopped
once more after that; a task whose body returns success or failure cannot.

* `Body.IsProper` — the body returns success or failure.
* `directText` — the text that the owner of a task gave its progress last.
* `Phase` — the phases of a life, whatever the body returns.
* `Phase.step`, `Phase.settle` — every step leads from one phase to another.
* `Scheduler.phase_of_lane` — every task of every run is in one of them.
* `Stage`, `Scheduler.stage_of_lane` — the same for tasks with a proper body.
-/

/-- The body returns success or failure, if it returns. -/
def Body.IsProper (body : Body) : Prop :=
  .crashes ∉ body.actions → body.returns = .succeeded ∨ body.returns = .failed

/-- A proper body that gets to its end returns success or failure. -/
theorem Body.IsProper.returns {body : Body} (h : body.IsProper) {es : List Event}
    (hs : Shows body.actions es) : body.returns = .succeeded ∨ body.returns = .failed :=
  h hs.crashes_not_mem

/-- It does not claim that it was never begun. -/
theorem Body.IsProper.returns_ne_created {body : Body} (h : body.IsProper) {es : List Event}
    (hs : Shows body.actions es) : body.returns ≠ .created := by
  rcases h.returns hs with hr | hr <;> rw [hr] <;> nofun

/-- A task that a step schedules has a proper body. -/
def Step.IsProper : Step → Prop
  | .schedule _ _ body _ => body.IsProper
  | _ => True

/-- The text of a task's progress after a step, as far as its owner sets it; `none` as long as the
    task is not scheduled. -/
def textAfter (id : String) (text : Option String) : Step → Option String
  | .schedule i _ _ _ => if i = id then some (text.getD "") else text
  | .setText i new => if i = id then text.map fun _ => new else text
  | _ => text

/-- The text that the owner of a task gave its progress last, the empty one at first; `none` if the
    task is not scheduled. -/
def directText (id : String) (steps : List Step) : Option String :=
  steps.foldl (textAfter id) none

/-- The last step may set the text. -/
theorem directText_append_singleton (id : String) (xs : List Step) (x : Step) :
    directText id (xs ++ [x]) = textAfter id (directText id xs) x := by
  rw [directText, List.foldl_append]
  rfl

/-- Where a task is in its life: whether its body was started, how often it was stopped, what it
    showed, and its lane. -/
inductive Phase (text : String) : Bool → Nat → List Event → Lane → Prop
  /-- The worker has not started. -/
  | waiting {l : Lane} (state : l.job.state = .created) (worker : l.job.worker = .fresh)
      (due : l.due = true) (joined : l.job.joined = false)
      (determinate : l.job.progress.indeterminate = false)
      (direct : l.job.progress.text = text) : Phase text false 0 [] l
  /-- The task was stopped, and the worker is about to see that, or has seen it. -/
  | stopped {l : Lane} (state : l.job.state = .cancelled)
      (cancellable : l.job.descriptor.cancellable = true)
      (progress : l.job.progress = ⟨false, true, text⟩)
      (place : l.job.worker = .fresh ∧ l.due = true ∧ l.job.joined = false
        ∨ l.job.worker = .ended (.returns .cancelled)) : Phase text false 1 [] l
  /-- The worker has done some actions and leaves the others. -/
  | begun {l : Lane} {past future : List Action} {es : List Event}
      (actions : l.job.body.actions = past ++ future) (shown : Shows past es)
      (place : l.job.worker.Leaves l.job.body.returns future)
      (state : l.job.state = Job.stateAfter .running l.job.worker
        ∨ l.job.worker = .ended .crashes ∧ l.job.state = .failed) : Phase text true 0 es l
  /-- The body has returned as if it were never begun, and the task was stopped after that. -/
  | recalled {l : Lane} {es : List Event} (shown : Shows l.job.body.actions es)
      (returns : l.job.body.returns = .created) (worker : l.job.worker = .ended (.returns .created))
      (state : l.job.state = .cancelled) (cancellable : l.job.descriptor.cancellable = true) :
      Phase text true 1 es l

/-- A task that was just scheduled waits. -/
theorem Phase.new (id : String) (d : Descriptor) (b : Body) (gated : Bool) :
    Phase "" false 0 [] (.new id d b gated) :=
  .waiting rfl rfl rfl rfl rfl rfl

section

variable {text : String} {s : Bool} {n : Nat} {es : List Event} {l : Lane}

/-! ### What the owner does -/

theorem Phase.due (h : Phase text s n es l) : Phase text s n es { l with due := true } := by
  cases h with
  | waiting hs hw _ hj hi ht => exact .waiting hs hw rfl hj hi ht
  | stopped hs hc hp hw =>
    refine .stopped hs hc hp ?_
    rcases hw with ⟨hw, -, hj⟩ | hw
    · exact .inl ⟨hw, rfl, hj⟩
    · exact .inr hw
  | begun ha hs hw hst => exact .begun ha hs hw hst
  | recalled hs hr hw hst hc => exact .recalled hs hr hw hst hc

theorem Phase.release (h : Phase text s n es l) : Phase text s n es l.release := by
  cases h with
  | waiting hs hw hd hj hi ht =>
    refine .waiting hs hw ?_ hj hi ht
    rw [Lane.release, hd, Bool.true_or]
  | stopped hs hc hp hw =>
    refine .stopped hs hc hp ?_
    rcases hw with ⟨hw, hd, hj⟩ | hw
    · refine .inl ⟨hw, ?_, hj⟩
      rw [Lane.release, hd, Bool.true_or]
    · exact .inr hw
  | begun ha hs hw hst => exact .begun ha hs hw hst
  | recalled hs hr hw hst hc => exact .recalled hs hr hw hst hc

/-- A phase lasts when the task is asked to stop. -/
theorem Phase.cancelProgress (h : Phase text s n es l) :
    Phase text s n es
      (l.modify fun job => { job with progress := { job.progress with canceled := true } }) := by
  cases h with
  | waiting hs hw hd hj hi ht => exact .waiting hs hw hd hj hi ht
  | stopped hs hc hp hw =>
    refine .stopped hs hc ?_ hw
    show { l.job.progress with canceled := true } = _
    rw [hp]
  | begun ha hs hw hst => exact .begun ha hs hw hst
  | recalled hs hr hw hst hc => exact .recalled hs hr hw hst hc

/-- A phase lasts when the text is set. -/
theorem Phase.setText (h : Phase text s n es l) (new : String) :
    Phase new s n es
      (l.modify fun job => { job with progress := { job.progress with text := new } }) := by
  cases h with
  | waiting hs hw hd hj hi ht => exact .waiting hs hw hd hj hi rfl
  | stopped hs hc hp hw =>
    refine .stopped hs hc ?_ hw
    show { l.job.progress with text := new } = _
    rw [hp]
  | begun ha hs hw hst => exact .begun ha hs hw hst
  | recalled hs hr hw hst hc => exact .recalled hs hr hw hst hc

/-- A task whose worker has returned is in the state that its body returns. -/
theorem Job.state_of_returned {job : Job} {future : List Action} {state : State}
    (hw : job.worker = .ended (.returns state))
    (place : job.worker.Leaves job.body.returns future)
    (hst : job.state = Job.stateAfter .running job.worker
      ∨ job.worker = .ended .crashes ∧ job.state = .failed) :
    future = [] ∧ state = job.body.returns ∧ job.state = job.body.returns := by
  rw [hw] at place hst
  obtain ⟨hf, hr⟩ := place
  rcases hst with hst | ⟨hc, -⟩
  · exact ⟨hf, hr, hst.trans hr⟩
  · cases hc

/-- A task whose body is under way, waits at its gate or crashed is running, or failed. -/
theorem Job.state_of_not_returned {job : Job} {future : List Action}
    (hw : ∀ state, job.worker ≠ .ended (.returns state))
    (place : job.worker.Leaves job.body.returns future)
    (hst : job.state = Job.stateAfter .running job.worker
      ∨ job.worker = .ended .crashes ∧ job.state = .failed) :
    job.state = .running ∨ job.worker = .ended .crashes ∧ job.state = .failed := by
  refine hst.imp_left fun hst => ?_
  cases hwk : job.worker with
  | fresh => rw [hwk] at place; exact place.elim
  | paused rest => rw [hwk] at hst; exact hst
  | ended e =>
    cases e with
    | crashes => rw [hwk] at hst; exact hst
    | returns state => exact absurd hwk (hw state)

/-- A task that has begun and is new again has a body that returned so. -/
theorem Job.returned_of_created {job : Job} {future : List Action}
    (place : job.worker.Leaves job.body.returns future)
    (hst : job.state = Job.stateAfter .running job.worker
      ∨ job.worker = .ended .crashes ∧ job.state = .failed) (hs : job.state = .created) :
    future = [] ∧ job.body.returns = .created ∧ job.worker = .ended (.returns .created) := by
  by_cases hw : ∃ state, job.worker = .ended (.returns state)
  · obtain ⟨state, hw⟩ := hw
    obtain ⟨hf, hr, hst⟩ := Job.state_of_returned hw place hst
    have hc : job.body.returns = .created := hst.symm.trans hs
    exact ⟨hf, hc, by rw [hw, hr, hc]⟩
  · rw [not_exists] at hw
    rcases Job.state_of_not_returned hw place hst with h | ⟨-, h⟩ <;> rw [h] at hs <;> cases hs

/-- A request to stop a task that is not new only marks its progress. -/
theorem Job.cancel_of_ne_created {job : Job} (hc : job.descriptor.cancellable = true)
    (hs : job.state ≠ .created) :
    job.cancel = (false, { job with progress := { job.progress with canceled := true } }) := by
  simp only [Job.cancel, hc, hs, if_true, if_false]

/-- A request to stop a new task that may be stopped takes effect. -/
theorem Job.cancel_of_created {job : Job} (hc : job.descriptor.cancellable = true)
    (hs : job.state = .created) :
    job.cancel = (true, { job with
      progress := { job.progress with canceled := true }, state := .cancelled }) := by
  simp only [Job.cancel, hc, hs, if_true]

/-- A request to stop a task that may not be stopped does nothing. -/
theorem Job.cancel_of_not_cancellable {job : Job} (hc : ¬job.descriptor.cancellable = true) :
    job.cancel = (false, job) := by
  simp only [Job.cancel, hc, Bool.false_eq_true, if_false]

/-- **A request to stop takes effect while the task waits**, or after its body has returned as if it
    were never begun. -/
theorem Phase.cancel (h : Phase text s n es l) :
    Phase text s (n + if l.job.cancel.1 then 1 else 0) es (l.modify fun job => job.cancel.2) := by
  by_cases hc : l.job.descriptor.cancellable = true
  · by_cases hnew : l.job.state = .created
    · rw [Lane.modify, Job.cancel_of_created hc hnew]
      cases h with
      | waiting hs hw hd hj hi ht =>
        refine .stopped rfl hc ?_ (.inl ⟨hw, hd, hj⟩)
        -- Nobody but the owner has touched the progress yet.
        show { l.job.progress with canceled := true } = _
        rw [← hi, ← ht]
      | stopped hs => rw [hs] at hnew; cases hnew
      | begun ha hs hw hst =>
        obtain ⟨rfl, hr, hw'⟩ := Job.returned_of_created hw hst hnew
        rw [List.append_nil] at ha
        exact .recalled (ha ▸ hs) hr hw' rfl hc
      | recalled _ _ _ hst => rw [hst] at hnew; cases hnew
    · rw [Lane.modify, Job.cancel_of_ne_created hc hnew]
      exact h.cancelProgress
  · rw [Lane.modify, Job.cancel_of_not_cancellable hc]
    exact h

/-! ### What the worker does -/

/-- A stretch of the actions that are left leads from what was done to what is done then. -/
theorem Phase.advance {p : Progress} {past actions : List Action}
    (ha : l.job.body.actions = past ++ actions) (hs : Shows past es) :
    Phase text true 0 (es ++ (l.job.advance p actions).1) ⟨(l.job.advance p actions).2, false⟩ := by
  obtain ⟨done, future, hd, hs', hl⟩ :=
    Job.perform_splits l.job.body.returns l.job.released p actions
  have ha' : l.job.body.actions = (past ++ done) ++ future := by
    rw [ha, hd, List.append_assoc]
  exact .begun ha' (hs.append hs') hl (.inl rfl)

/-- The body starts when the worker of a waiting task goes on. -/
theorem Job.starts_poll {job : Job} (hw : job.worker = .fresh) (hs : job.state = .created) :
    job.starts job.poll.2 = true := by
  obtain ⟨_, _, _, _, hl⟩ := perform_splits job.body.returns job.released
    { job.progress with text := job.descriptor.title } job.body.actions
  rw [Job.starts, decide_eq_true_eq, poll_of_created hw hs]
  refine ⟨hs, hw, fun hf => ?_⟩
  -- A worker that has done anything is not fresh.
  have hf' : (perform job.body.returns job.released
    { job.progress with text := job.descriptor.title } job.body.actions).worker = .fresh := hf
  rw [hf'] at hl
  exact hl

/-- Letting the worker go on leads from phase to phase. -/
theorem Phase.settle (h : Phase text s n es l) :
    Phase text (s || l.job.starts l.settle.2.job) n (es ++ l.settle.1) l.settle.2 := by
  by_cases hd : l.due = true
  · rw [Lane.settle, if_pos hd]
    cases h with
    | waiting hs hw _ hj hi ht =>
      rw [Job.starts_poll hw hs, Job.poll_of_created hw hs]
      have ha : l.job.body.actions = [] ++ l.job.body.actions := rfl
      exact Phase.advance ha .nil
    | stopped hs hc hp hw =>
      rw [Job.starts_of_ne _ (.inl (by simp [hs]))]
      rcases hw with ⟨hw, -, -⟩ | hw
      · rw [Job.poll_of_ne_created hw (by simp [hs])]
        exact .stopped hs hc hp (.inr (by rw [hs]))
      · rw [Job.poll_of_ended hw]
        exact .stopped hs hc hp (.inr hw)
    | @begun _ past future _ ha hs hw hst =>
      rw [Bool.true_or]
      cases hwk : l.job.worker with
      | fresh => rw [hwk] at hw; exact hw.elim
      | paused rest =>
        by_cases hr : l.job.released = true
        · rw [hwk] at hw
          -- What the worker waits with is what it has left to do.
          have hf : future = rest := hw
          rw [Job.poll_of_released hwk hr]
          exact Phase.advance (hf ▸ ha) hs
        · rw [Job.poll_of_not_released hwk hr, List.append_nil]
          exact .begun ha hs hw hst
      | ended ending =>
        rw [Job.poll_of_ended hwk, List.append_nil]
        exact .begun ha hs hw hst
    | recalled hs hr hw hst hc =>
      rw [Bool.true_or, Job.poll_of_ended hw, List.append_nil]
      exact .recalled hs hr hw hst hc
  · rw [Lane.settle, if_neg hd, List.append_nil, Job.starts_of_worker_eq rfl, Bool.or_false]
    exact h

/-- Taking the handle of an ended task away leads from phase to phase. -/
theorem Phase.finish (h : Phase text s n es l) {state : State} {job : Job}
    (hf : l.job.finish = some (state, job)) : Phase text s n es (l.modify fun _ => job) := by
  unfold Job.finish at hf
  cases h with
  | waiting hs hw hd hj hi ht => rw [hw] at hf; cases hf
  | stopped hs hc hp hw =>
    rcases hw with ⟨hw, -, -⟩ | hw
    · rw [hw] at hf; cases hf
    · rw [hw] at hf
      cases hf
      exact .stopped hs hc hp (.inr rfl)
  | begun ha hs hw hst =>
    -- A task that crashed is found in its last state, and only now becomes a failed one.
    split at hf
    · cases hf; exact .begun ha hs hw hst
    · next hw' => cases hf; exact .begun ha hs hw (.inr ⟨hw', rfl⟩)
    · cases hf
  | recalled hs hr hw hst hc =>
    rw [hw] at hf
    cases hf
    exact .recalled hs hr rfl hst hc

/-- Joining a task leads from phase to phase. -/
theorem Phase.join (h : Phase text s n es l) :
    Phase text (s || l.job.starts l.join.2.2.job) n (es ++ l.join.2.1) l.join.2.2 := by
  rw [Lane.join]
  cases hf : l.settle.2.job.finish with
  | none => exact h.settle
  | some r =>
    obtain ⟨state, job⟩ := r
    have hw : l.job.starts (l.settle.2.modify fun _ => job).job = l.job.starts l.settle.2.job := by
      rw [Job.starts, Job.starts, Lane.modify, Job.worker_finish hf]
    exact hw ▸ h.settle.finish hf

/-! ### Steps and runs -/

/-- **Every step that concerns a task leads from phase to phase**, and counts as a stop exactly if
    it is a request to stop that takes effect. -/
theorem Phase.step (h : Phase text s n es l) {id : String} {x : Step} (hx : x.concerns id = true) :
    ∃ text', textAfter id (some text) x = some text'
      ∧ Phase text' (s || l.job.starts (l.step x).2.2.job)
        (n + if isStop id x (l.step x).1 then 1 else 0) (es ++ (l.step x).2.1) (l.step x).2.2 := by
  -- Most steps leave the worker where it is, and show nothing.
  have quiet {text' : String} {l' : Lane} (h' : Phase text' s n es l')
      (hw : l'.job.worker = l.job.worker) :
      Phase text' (s || l.job.starts l'.job) n (es ++ []) l' := by
    rw [Job.starts_of_worker_eq hw, Bool.or_false, List.append_nil]
    exact h'
  cases x with
  | schedule i d b gated =>
    refine ⟨text, if_pos (of_decide_eq_true hx), ?_⟩
    rw [isStop_of_ne_cancel (x := .schedule i d b gated) (by simp)]
    exact quiet h.due rfl
  | settle =>
    refine ⟨text, rfl, ?_⟩
    rw [isStop_of_ne_cancel (x := .settle) (by simp)]
    exact h.settle
  | release i =>
    refine ⟨text, rfl, ?_⟩
    rw [isStop_of_ne_cancel (x := .release i) (by simp)]
    exact quiet h.release rfl
  | cancel i =>
    obtain rfl : i = id := of_decide_eq_true hx
    refine ⟨text, rfl, ?_⟩
    rw [Lane.step, Lane.withHandle]
    split
    · have hf : isStop i (.cancel i) .joined = false := by simp [isStop]
      show Phase text _ (n + if isStop i (.cancel i) .joined then 1 else 0) (es ++ []) l
      rw [hf]
      exact quiet h rfl
    · have hf : isStop i (.cancel i) (.flag l.job.cancel.1) = l.job.cancel.1 := by
        cases l.job.cancel.1 <;> simp [isStop]
      show Phase text (s || l.job.starts l.job.cancel.2)
        (n + if isStop i (.cancel i) (.flag l.job.cancel.1) then 1 else 0) (es ++ []) _
      rw [hf, Job.starts_of_worker_eq (Job.worker_cancel l.job), Bool.or_false, List.append_nil]
      exact h.cancel
  | isFinished i =>
    refine ⟨text, rfl, ?_⟩
    rw [isStop_of_ne_cancel (x := .isFinished i) (by simp), Lane.step, Lane.withHandle]
    by_cases hj : l.job.joined = true
    · rw [if_pos hj]
      exact quiet h rfl
    · rw [if_neg hj]
      exact quiet h rfl
  | join i =>
    refine ⟨text, rfl, ?_⟩
    rw [isStop_of_ne_cancel (x := .join i) (by simp), Lane.step, Lane.withHandle]
    by_cases hj : l.job.joined = true
    · rw [if_pos hj]
      exact quiet h rfl
    · rw [if_neg hj]
      by_cases hk : l.job.isBlocked = true
      · rw [if_pos hk]
        exact quiet h rfl
      · rw [if_neg hk]
        exact h.join
  | cancelProgress i =>
    refine ⟨text, rfl, ?_⟩
    rw [isStop_of_ne_cancel (x := .cancelProgress i) (by simp)]
    exact quiet h.cancelProgress rfl
  | setText i new =>
    refine ⟨new, if_pos (of_decide_eq_true hx), ?_⟩
    rw [isStop_of_ne_cancel (x := .setText i new) (by simp)]
    exact quiet (h.setText new) rfl

end

/-- A step that does not concern a task sets no text of it. -/
theorem textAfter_of_not_concerns {id : String} {x : Step} (hx : x.concerns id = false)
    (text : Option String) : textAfter id text x = text := by
  cases x with
  | schedule i d b gated | setText i new => exact if_neg (of_decide_eq_false hx)
  | settle | release | cancel | isFinished | join | cancelProgress => rfl

namespace Scheduler

/-- The phase of a task, or that there is no such task, from the steps of a run. -/
def Phased (id : String) (steps : List Step) (s : Bool) (n : Nat) (es : List Event) :
    Option Lane → Prop
  | none => s = false ∧ n = 0 ∧ es = [] ∧ directText id steps = none
  | some l => ∃ text, directText id steps = some text ∧ Phase text s n es l

/-- What one step does to a task keeps it in one of its phases. -/
theorem Phased.follows {id : String} {xs : List Step} {x : Step} {s : Bool} {n : Nat}
    {es fs : List Event} {b : Bool} {o o' : Option Lane} (h : Phased id xs s n es o)
    (hf : Follows id x o b fs o') :
    Phased id (xs ++ [x]) (s || startsBetween o o') (n + if b then 1 else 0) (es ++ fs) o' := by
  have hd := directText_append_singleton id xs x
  cases hf with
  | absent hn =>
    -- Setting the text of a task that there is not has no effect.
    obtain ⟨rfl, rfl, rfl, ht⟩ := h
    refine ⟨rfl, rfl, rfl, ?_⟩
    rw [hd, ht]
    cases x with
    | schedule i d b gated =>
      by_cases hi : i = id
      · subst hi
        exact absurd rfl (hn d b gated)
      · exact if_neg hi
    | setText i new => exact ite_self _
    | settle | release | cancel | isFinished | join | cancelProgress => rfl
  | @scheduled d b gated hx' =>
    obtain ⟨rfl, rfl, rfl, ht⟩ := h
    subst hx'
    refine ⟨"", ?_, .new id d b gated⟩
    rw [hd, ht, textAfter, if_pos rfl]
    rfl
  | @concerned l hc =>
    obtain ⟨text, ht, hs⟩ := h
    obtain ⟨text', ht', hs'⟩ := hs.step hc
    exact ⟨text', by rw [hd, ht, ht'], hs'⟩
  | @settled l hc =>
    obtain ⟨text, ht, hs⟩ := h
    exact ⟨text, by rw [hd, ht, textAfter_of_not_concerns hc], hs.settle⟩
  | @passed l hc =>
    obtain ⟨text, ht, hs⟩ := h
    refine ⟨text, by rw [hd, ht, textAfter_of_not_concerns hc], ?_⟩
    have hb : startsBetween (some l) (some l) = false := Job.starts_of_worker_eq rfl
    rw [List.append_nil, hb, Bool.or_false]
    exact hs

/-- **Every task of every run is in one of its phases.** -/
theorem phase_of_lane {steps : List Step} {id : String} {l : Lane}
    (hl : (after {} steps).lane id = some l) :
    ∃ text, directText id steps = some text
      ∧ Phase text (started {} id steps) (stops {} id steps) (shownBy id (log {} steps)) l := by
  have key : Phased id steps (started {} id steps) (stops {} id steps)
      (shownBy id (log {} steps)) ((after {} steps).lane id) :=
    life_induction id (P := Phased id) ⟨rfl, rfl, rfl, rfl⟩
      (fun _ _ _ _ _ _ _ _ _ h hf => h.follows hf) steps
  rw [hl] at key
  exact key

end Scheduler

/-! ### Tasks with a proper body -/

/-- The phase of a task whose body returns success or failure: how often it was stopped, what it
    showed, and its lane. -/
structure Stage (text : String) (n : Nat) (es : List Event) (l : Lane) : Prop where
  phase : ∃ s, Phase text s n es l
  proper : l.job.body.IsProper

/-- A task with a proper body that has begun is neither new nor cancelled. -/
theorem Job.state_of_begun {job : Job} {past future : List Action} {es : List Event}
    (hb : job.body.IsProper) (actions : job.body.actions = past ++ future) (shown : Shows past es)
    (place : job.worker.Leaves job.body.returns future)
    (state : job.state = Job.stateAfter .running job.worker
      ∨ job.worker = .ended .crashes ∧ job.state = .failed) :
    job.state ≠ .created ∧ job.state ≠ .cancelled := by
  by_cases hw : ∃ state, job.worker = .ended (.returns state)
  · -- All actions are done, so there was no crash among them.
    obtain ⟨_, hw⟩ := hw
    obtain ⟨rfl, -, hst⟩ := Job.state_of_returned hw place state
    rw [List.append_nil] at actions
    rcases hb.returns (actions ▸ shown) with h | h <;> rw [hst, h] <;> exact ⟨nofun, nofun⟩
  · rw [not_exists] at hw
    rcases Job.state_of_not_returned hw place state with h | ⟨-, h⟩ <;> rw [h] <;>
      exact ⟨nofun, nofun⟩

section

variable {text : String} {n : Nat} {es : List Event} {l : Lane}

/-- A stage is kept when the task goes on. -/
theorem Stage.settle (h : Stage text n es l) : Stage text n (es ++ l.settle.1) l.settle.2 := by
  obtain ⟨⟨s, hp⟩, hb⟩ := h
  exact ⟨⟨_, hp.settle⟩, Job.body_of_scheduling (Scheduler.scheduling_settle l) ▸ hb⟩

/-- The final state of an ended task is its state from then on. -/
theorem Stage.state_of_finish (h : Stage text n es l) {state : State} {job : Job}
    (hf : l.job.finish = some (state, job)) : job.state = state := by
  obtain ⟨⟨s, hp⟩, hb⟩ := h
  unfold Job.finish at hf
  cases hp with
  | waiting _ hw => rw [hw] at hf; cases hf
  | stopped hs _ _ hw =>
    rcases hw with ⟨hw, -, -⟩ | hw <;> rw [hw] at hf <;> cases hf
    exact hs
  | begun ha hs hw hst =>
    -- A task that crashed is found in its last state, and only now becomes a failed one.
    split at hf
    · next hw' =>
      cases hf
      obtain ⟨-, hr, hst'⟩ := Job.state_of_returned hw' hw hst
      exact hst'.trans hr.symm
    · cases hf; rfl
    · cases hf
  | recalled hs hr => exact absurd hr (hb.returns_ne_created hs)

/-- Joining a task with a proper body leads from stage to stage, and the answer is the state of the
    task from then on. -/
theorem Stage.join (h : Stage text n es l) :
    Stage text n (es ++ l.join.2.1) l.join.2.2
      ∧ ∀ state, l.join.1 = .state state → l.join.2.2.job.state = state := by
  refine ⟨?_, ?_⟩
  · obtain ⟨⟨s, hp⟩, hb⟩ := h
    exact ⟨⟨_, hp.join⟩, Job.body_of_scheduling (Scheduler.scheduling_join l) ▸ hb⟩
  · rw [Lane.join]
    cases hf : l.settle.2.job.finish with
    | none => simp
    | some r =>
      intro state e
      cases e
      exact h.settle.state_of_finish hf

end

namespace Scheduler

/-- A task with a proper body is in one of its stages. -/
theorem stage_of_isProper {steps : List Step} {id : String} {l : Lane}
    (hl : (after {} steps).lane id = some l) (hb : l.job.body.IsProper) :
    ∃ text, directText id steps = some text
      ∧ Stage text (stops {} id steps) (shownBy id (log {} steps)) l := by
  obtain ⟨text, ht, hp⟩ := phase_of_lane hl
  exact ⟨text, ht, ⟨_, hp⟩, hb⟩

/-- **Every task of a run of proper bodies is in one of its stages.** -/
theorem stage_of_lane {steps : List Step} (h : ∀ x ∈ steps, x.IsProper) {id : String} {l : Lane}
    (hl : (after {} steps).lane id = some l) :
    ∃ text, directText id steps = some text ∧ l.job.body.IsProper
      ∧ Stage text (stops {} id steps) (shownBy id (log {} steps)) l := by
  have hb : l.job.body.IsProper := h _ (scheduling_mem hl)
  obtain ⟨text, ht, hs⟩ := stage_of_isProper hl hb
  exact ⟨text, ht, hb, hs⟩

end Scheduler

end Postbox
