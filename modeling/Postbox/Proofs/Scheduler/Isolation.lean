import Postbox.Proofs.Scheduler.History

namespace Postbox

/-!
# Tasks that share a scheduler

No task can tell whether there are others.  Take all steps out of a run that are addressed to other
tasks, and yield instead wherever one of them made the workers go on, which is where another task
was joined.  What is seen of the task stays the same, step by step.

* `Sight`, `Scheduler.sights` — what is seen of a task after each step that reaches it.
* `Scheduler.reaching?`, `Scheduler.alone` — what a step comes to when the other tasks are taken
  out, and what a run comes to.
* `Scheduler.step_congr` — a step that concerns a task does to it what its lane says.
* `Scheduler.sights_alone` — the task is seen alike in the run and in what the run comes to.
* `Scheduler.isolated` — the statement on runs from the start.
-/

/-- Whether a step is addressed to the task `id`, and not just to all tasks. -/
def Step.isFor (id : String) (x : Step) : Bool := x.concerns id && decide (x ≠ .settle)

/-- What is seen of a task after a step. -/
structure Sight where
  /-- The answer, if the step was addressed to the task. -/
  reply : Option Reply
  /-- What the task showed meanwhile. -/
  shown : List Event
  /-- The task after the step, its state and progress among all else, if it is there. -/
  job : Option Job
  deriving Repr, DecidableEq

namespace Scheduler

/-- What is seen of the task `id` after one step. -/
def sight (s : Scheduler) (id : String) (x : Step) : Sight :=
  { reply := if x.isFor id then some (s.step x).1 else none
    shown := shownBy id (s.step x).2.1
    job := (s.step x).2.2.find? id }

/-- What a step comes to for the task `id` alone.  If it is addressed to another task, that is to
    yield, if it yields at all. -/
def reaching? (s : Scheduler) (id : String) (x : Step) : Option Step :=
  if x.concerns id then some x else if s.yields x then some .settle else none

/-- What a sequence of steps comes to for the task `id` alone. -/
def alone (s : Scheduler) (id : String) : List Step → List Step
  | [] => []
  | x :: xs => (s.reaching? id x).toList ++ (s.step x).2.2.alone id xs

/-- What is seen of the task `id` after each of the steps that reach it. -/
def sights (s : Scheduler) (id : String) : List Step → List Sight
  | [] => []
  | x :: xs =>
    ((s.reaching? id x).map fun _ => s.sight id x).toList ++ (s.step x).2.2.sights id xs

/-! ### Steps that reach a task -/

section

variable {s t : Scheduler} {id : String} {x y : Step}

/-- A step that concerns a task reaches it as it is. -/
theorem reaching?_of_concerns (hx : x.concerns id = true) : s.reaching? id x = some x := by
  rw [reaching?, if_pos hx]

/-- Whatever reaches a task concerns it. -/
theorem concerns_of_reaching? (h : s.reaching? id x = some y) : y.concerns id = true := by
  rw [reaching?] at h
  split at h
  · next hx => cases h; exact hx
  · split at h
    · cases h; rfl
    · cases h

/-- Schedulers in which the lane of a task is the same have the same job for it. -/
theorem find?_congr (h : s.lane id = t.lane id) : s.find? id = t.find? id := by
  cases hl : t.lane id with
  | none => rw [hl] at h; rw [lane_eq_none_iff.mp h, lane_eq_none_iff.mp hl]
  | some l => rw [hl] at h; rw [(lane_eq_some_iff.mp h).1, (lane_eq_some_iff.mp hl).1]

/-- **A step that concerns a task does to it what its lane says**, and nothing else of the scheduler
    matters. -/
theorem step_congr (h : s.lane id = t.lane id) (hx : x.concerns id = true) :
    (s.step x).1 = (t.step x).1 ∧ shownBy id (s.step x).2.1 = shownBy id (t.step x).2.1
      ∧ (s.step x).2.2.lane id = (t.step x).2.2.lane id := by
  -- The step goes by the task alone; where there is none, only scheduling makes a difference.
  cases hl : t.lane id with
  | some l =>
    rw [hl] at h
    obtain ⟨hr, hs, hl'⟩ := step_of_concerns h hx
    obtain ⟨hr', hs', hl''⟩ := step_of_concerns hl hx
    exact ⟨hr.trans hr'.symm, hs.trans hs'.symm, hl'.trans hl''.symm⟩
  | none =>
    rw [hl] at h
    by_cases hsettle : x = .settle
    · subst hsettle
      refine ⟨rfl, ?_, ?_⟩
      · show shownBy id s.settle.1 = shownBy id t.settle.1
        rw [shownBy_settle, shownBy_settle, h, hl]
      · show s.settle.2.lane id = t.settle.2.lane id
        rw [lane_settle, lane_settle, h, hl]
    · by_cases hn : ∀ d b gated, x ≠ .schedule id d b gated
      · rw [step_eq_noTask h hx hsettle hn, step_eq_noTask hl hx hsettle hn]
        exact ⟨rfl, rfl, h.trans hl.symm⟩
      · -- A task that there is not comes into being in the same way in both.
        simp only [ne_eq, not_forall, not_not] at hn
        obtain ⟨d, b, gated, rfl⟩ := hn
        refine ⟨rfl, rfl, ?_⟩
        show (s.schedule id d b gated).lane id = (t.schedule id d b gated).lane id
        rw [lane_schedule, lane_schedule, h, hl]

/-- What reaches a task makes it go on as the step does from which it comes. -/
theorem sight_of_reaching? (h : s.lane id = t.lane id) (hy : s.reaching? id x = some y) :
    s.sight id x = t.sight id y ∧ (s.step x).2.2.lane id = (t.step y).2.2.lane id := by
  -- A step reaches the task as itself, or as a yield when it makes the workers go on.
  rw [reaching?] at hy
  split at hy
  · next hx =>
    cases hy
    obtain ⟨hr, hs, hl⟩ := step_congr h hx
    exact ⟨by rw [sight, sight, hr, hs, find?_congr hl], hl⟩
  · next hx =>
    split at hy
    · next hyields =>
      cases hy
      rw [Bool.not_eq_true] at hx
      obtain ⟨hs, hl⟩ := step_of_not_concerns s hx
      rw [if_pos hyields] at hs hl
      have hs' : shownBy id (s.step x).2.1 = shownBy id (t.step .settle).2.1 := by
        show _ = shownBy id t.settle.1
        rw [hs, shownBy_settle, h]
      have hl' : (s.step x).2.2.lane id = (t.step .settle).2.2.lane id := by
        show _ = t.settle.2.lane id
        rw [hl, lane_settle, h]
      have hfor : x.isFor id = false := by rw [Step.isFor, hx, Bool.false_and]
      refine ⟨?_, hl'⟩
      rw [sight, sight, hs', find?_congr hl', hfor]
      rfl
    · cases hy

/-- A step that does not reach a task leaves it alone. -/
theorem lane_of_not_reaching (h : s.reaching? id x = none) :
    shownBy id (s.step x).2.1 = [] ∧ (s.step x).2.2.lane id = s.lane id := by
  rw [reaching?] at h
  split at h
  · cases h
  · next hx =>
    split at h
    · cases h
    · next hyields =>
      rw [Bool.not_eq_true] at hx
      obtain ⟨hs, hl⟩ := step_of_not_concerns s hx
      rw [if_neg hyields] at hs hl
      exact ⟨hs, hl⟩

end

/-! ### Runs -/

/-- A run comes to steps that concern the task. -/
theorem concerns_of_mem_alone {id : String} {y : Step} (s : Scheduler) {steps : List Step}
    (h : y ∈ s.alone id steps) : y.concerns id = true := by
  induction steps generalizing s with
  | nil => cases h
  | cons x xs ih =>
    rcases List.mem_append.mp h with h | h
    · exact concerns_of_reaching? (Option.mem_toList.mp h)
    · exact ih _ h

/-- What a task shows in a run is what it shows in the first step, and then in the others. -/
theorem shownBy_log_cons (s : Scheduler) (id : String) (x : Step) (xs : List Step) :
    shownBy id (s.log (x :: xs))
      = shownBy id (s.step x).2.1 ++ shownBy id ((s.step x).2.2.log xs) := by
  rw [← shownBy_append]
  rfl

/-- **A task is seen alike with others and alone.**  The lane of the task is the invariant that
    carries the run and what it comes to. -/
theorem sights_alone {s t : Scheduler} {id : String} (h : s.lane id = t.lane id)
    (steps : List Step) :
    s.sights id steps = t.sights id (s.alone id steps)
      ∧ shownBy id (s.log steps) = shownBy id (t.log (s.alone id steps))
      ∧ (s.after steps).lane id = (t.after (s.alone id steps)).lane id := by
  -- On the steps: those that do not reach the task are left out on the right.
  induction steps generalizing s t with
  | nil => exact ⟨rfl, rfl, h⟩
  | cons x xs ih =>
    rw [shownBy_log_cons, sights, alone]
    cases hy : s.reaching? id x with
    | none =>
      obtain ⟨hs, hl⟩ := lane_of_not_reaching hy
      obtain ⟨hsights, hshown, hafter⟩ := ih (hl.trans h)
      rw [hs]
      exact ⟨hsights, hshown, hafter⟩
    | some y =>
      obtain ⟨hsight, hl⟩ := sight_of_reaching? h hy
      obtain ⟨hsights, hshown, hafter⟩ := ih hl
      have hs : shownBy id (s.step x).2.1 = shownBy id (t.step y).2.1 := congrArg Sight.shown hsight
      refine ⟨?_, ?_, hafter⟩
      · show s.sight id x :: _ = t.sights id (y :: (s.step x).2.2.alone id xs)
        rw [sights, reaching?_of_concerns (concerns_of_reaching? hy), hsight, hsights]
        rfl
      · show _ = shownBy id (t.log (y :: (s.step x).2.2.alone id xs))
        rw [shownBy_log_cons, hs, hshown]

/-- **Tasks are isolated.**  Take any run over any number of tasks, and one of its tasks; then take
    the steps out that are addressed to other tasks, and yield in the place of those that made the
    workers go on.  After each step that is left, and at the end, the task is seen as it was: the
    answers to the steps addressed to it, what it showed, its state and its progress.  In
    particular, whatever becomes of other tasks, it submits the same and ends the same. -/
theorem isolated (id : String) (steps : List Step) :
    (∀ x ∈ alone {} id steps, x.isFor id = true ∨ x = .settle)
      ∧ sights {} id steps = sights {} id (alone {} id steps)
      ∧ shownBy id (log {} steps) = shownBy id (log {} (alone {} id steps))
      ∧ (after {} steps).find? id = (after {} (alone {} id steps)).find? id := by
  obtain ⟨hsights, hshown, hafter⟩ := sights_alone (s := {}) (t := {}) rfl steps
  refine ⟨fun x hx => ?_, hsights, hshown, find?_congr hafter⟩
  by_cases hsettle : x = .settle
  · exact .inr hsettle
  · left
    rw [Step.isFor, concerns_of_mem_alone {} hx, decide_eq_true hsettle]
    rfl

end Scheduler

end Postbox
