import Postbox.Proofs.Scheduler.Life

namespace Postbox

/-!
# Stopping a task before it starts

A request to stop a task is documented to take effect only on a task that has not started running.
The scheduler looks at the state of the task instead, and a body may return the state of a task that
was never begun.  Only a cancellable task with such a body can be stopped after it was started.

* `Body.ComesBackNew` — the body gets to its end, and returns as if it were never begun.
* `Scheduler.StopsBeforeStart` — in a run, the requests to stop a task do what is documented.
* `Phase.of_stopped`, `Phase.cancel_of_started` — what they do in each phase of a life.
* `Scheduler.stopsBeforeStart_iff` — they do so in all runs exactly if the task is not such a one.
-/

/-- The body gets to its end, and returns the state of a task that was never begun. -/
structure Body.ComesBackNew (body : Body) : Prop where
  ends : .crashes ∉ body.actions
  returns : body.returns = .created

/-! ### Requests to stop, by phase -/

section

variable {text : String} {s : Bool} {n : Nat} {es : List Event} {l : Lane}

/-- A task that was stopped was never started, has shown nothing, and its progress is what its owner
    made it, unless it came back new. -/
theorem Phase.of_stopped (h : Phase text s n es l) (hn : 0 < n)
    (hb : ¬(l.job.descriptor.cancellable = true ∧ l.job.body.ComesBackNew)) :
    s = false ∧ es = [] ∧ l.job.progress = ⟨false, true, text⟩ := by
  cases h with
  | waiting | begun => exact absurd hn (Nat.lt_irrefl 0)
  | stopped _ _ hp => exact ⟨rfl, rfl, hp⟩
  | recalled hs hr _ _ hc => exact absurd ⟨hc, hs.crashes_not_mem, hr⟩ hb

/-- A worker that has left its first place has started the body, if the task was not stopped. -/
theorem Phase.started_of_left (h : Phase text s n es l) (hw : l.job.worker ≠ .fresh)
    (hst : l.job.state ≠ .cancelled) : s = true := by
  cases h with
  | waiting _ hf => exact absurd hf hw
  | stopped hs => exact absurd hs hst
  | begun | recalled => rfl

/-- A task that was started cannot be stopped, unless it came back new. -/
theorem Phase.cancel_of_started (h : Phase text true n es l)
    (hb : ¬(l.job.descriptor.cancellable = true ∧ l.job.body.ComesBackNew)) :
    l.job.cancel.1 = false ∧ l.job.cancel.2.state = l.job.state := by
  by_cases hc : l.job.descriptor.cancellable = true
  · have hnew : l.job.state ≠ .created := by
      intro hnew
      cases h with
      | begun ha hs hw hst =>
        -- To be new again, it has done all its actions and returned so.
        obtain ⟨rfl, hr, -⟩ := Job.returned_of_created hw hst hnew
        rw [List.append_nil] at ha
        exact hb ⟨hc, ha ▸ hs.crashes_not_mem, hr⟩
      | recalled _ _ _ hst => rw [hst] at hnew; cases hnew
    rw [Job.cancel_of_ne_created hc hnew]
    exact ⟨rfl, rfl⟩
  · rw [Job.cancel_of_not_cancellable hc]
    exact ⟨rfl, rfl⟩

end

namespace Scheduler

/-! ### Requests to stop in a run -/

/-- In this run, the requests to stop the task `id` stop it only before its body is started. -/
structure StopsBeforeStart (id : String) (steps : List Step) : Prop where
  /-- If a request takes effect, the body is not started at any time of the run, before or after it:
      it shows nothing, and does not touch the progress. -/
  effective : ∀ xs ys, steps = xs ++ .cancel id :: ys →
    ((after {} xs).step (.cancel id)).1 = .flag true →
      started {} id steps = false ∧ shownBy id (log {} steps) = []
        ∧ ((after {} steps).find? id).map Job.progress
          = (directText id steps).map fun text => ⟨false, true, text⟩
  /-- Once the body was started, no request takes effect, and none changes the state. -/
  ineffective : ∀ xs ys job, steps = xs ++ .cancel id :: ys → started {} id xs = true →
    (after {} xs).find? id = some job →
      ((after {} xs).step (.cancel id)).1 = (if job.joined then .joined else .flag false)
        ∧ ((after {} (xs ++ [.cancel id])).find? id).map Job.state = some job.state

/-- A request to stop a task, as the task sees it. -/
theorem step_cancel {s : Scheduler} {id : String} {l : Lane} (h : s.lane id = some l) :
    (s.step (.cancel id)).1 = (if l.job.joined then .joined else .flag l.job.cancel.1)
      ∧ ((s.step (.cancel id)).2.2.find? id).map Job.state
        = some (if l.job.joined then l.job.state else l.job.cancel.2.state) := by
  have hc : (Step.cancel id).concerns id = true := by simp [Step.concerns]
  obtain ⟨hr, -, hl⟩ := step_of_concerns h hc
  rw [hr, (lane_eq_some_iff.mp hl).1, Lane.step, Lane.withHandle]
  split <;> exact ⟨rfl, rfl⟩

/-- In every run, a task that does not come back new is stopped only before it is started. -/
theorem stopsBeforeStart_of_not_comesBackNew {steps : List Step} {id : String} {l : Lane}
    (hl : (after {} steps).lane id = some l)
    (hb : ¬(l.job.descriptor.cancellable = true ∧ l.job.body.ComesBackNew)) :
    StopsBeforeStart id steps := by
  refine ⟨?_, ?_⟩
  · rintro xs ys rfl hr
    obtain ⟨text, ht, hp⟩ := phase_of_lane hl
    obtain ⟨hs, he, hprog⟩ := hp.of_stopped (stops_pos hr ys) hb
    refine ⟨hs, he, ?_⟩
    rw [(lane_eq_some_iff.mp hl).1, ht]
    exact congrArg some hprog
  · rintro xs ys job rfl hs hjob
    have hx := lane_of_find? hjob
    -- The task is the same from when it was scheduled to the end of the run.
    obtain ⟨l', hl', hsame⟩ := exists_lane_after hx (.cancel id :: ys)
    rw [← after_append, hl] at hl'
    cases hl'
    obtain ⟨-, hd, hbody, -⟩ := Step.schedule.inj hsame
    rw [hd, hbody] at hb
    obtain ⟨text, -, hp⟩ := phase_of_lane hx
    rw [hs] at hp
    obtain ⟨hflag, hstate⟩ := hp.cancel_of_started hb
    obtain ⟨hr, hst⟩ := step_cancel hx
    rw [after_append_singleton, hr, hst, hflag, hstate, ite_self]
    exact ⟨rfl, rfl⟩

/-- **A task is stopped only before it is started, unless it comes back new.**  The requests to stop
    tasks with a given descriptor and body do what is documented, in every run and over any number
    of tasks, exactly if these are not cancellable, or the body crashes, or it does not return the
    state of a task that was never begun. -/
theorem stopsBeforeStart_iff (d : Descriptor) (body : Body) :
    (∀ steps id job, (after {} steps).find? id = some job → job.descriptor = d → job.body = body →
        StopsBeforeStart id steps)
      ↔ ¬(d.cancellable = true ∧ body.ComesBackNew) := by
  constructor
  · rintro h ⟨hc, hends, hreturns⟩
    -- The body gets to its end, and is stopped then.
    obtain ⟨l, hl, hd, hbody, hj, -, hw, hst⟩ := exists_lane_opening "" d body false
    rw [if_neg hends, hreturns] at hw hst
    have hstarted : started {} "" (opening "" d body false) = true := by
      obtain ⟨text, -, hp⟩ := phase_of_lane hl
      exact hp.started_of_left (by simp [hw]) (by simp [hst])
    have hr : ((after {} (opening "" d body false)).step (.cancel "")).1 = .flag true := by
      rw [(step_cancel hl).1, hj, Job.cancel_of_created (hd ▸ hc) hst]
      rfl
    obtain ⟨l', hl', hsame⟩ := exists_lane_after hl [.cancel ""]
    rw [← after_append] at hl'
    obtain ⟨-, hd', hbody', -⟩ := Step.schedule.inj hsame
    obtain ⟨hnot, -⟩ := (h _ "" l'.job (lane_eq_some_iff.mp hl').1 (hd'.trans hd)
      (hbody'.trans hbody)).effective _ [] rfl hr
    rw [started_append, hstarted] at hnot
    cases hnot
  · rintro hb steps id job hjob rfl rfl
    exact stopsBeforeStart_of_not_comesBackNew (lane_of_find? hjob) hb

/-- A task looks at its progress and returns as if it were never begun.  Then it is asked to
    stop. -/
def comingBack : List Step :=
  [.schedule "poll" ⟨"poll", true, none⟩ ⟨[.looks], .created⟩ false, .settle, .cancel "poll"]

/-- It was started, and it is stopped. -/
theorem not_stopsBeforeStart_comingBack : ¬StopsBeforeStart "poll" comingBack := by
  intro h
  have hr : ((after {} (comingBack.take 2)).step (.cancel "poll")).1 = .flag true := by decide
  have hs : started {} "poll" comingBack = true := by decide
  obtain ⟨hnot, -⟩ := h.effective (comingBack.take 2) [] rfl hr
  rw [hs] at hnot
  cases hnot

end Scheduler

end Postbox
