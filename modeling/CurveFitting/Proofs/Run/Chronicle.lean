import CurveFitting.Minimizer.Config
import CurveFitting.Minimizer.Observer

/-! # Chronicles

The order in which a fit may tell its events: one for each step, counted from one, and
right after a step at most one for a check of it. Each event reports more calls than the
one before.
-/

namespace CurveFitting

variable {α ω : Type}

namespace Event

def step? : Event α → Option Nat
  | iterated iteration .. => some iteration
  | refined .. => none

def check? : Event α → Option Nat
  | iterated .. => none
  | refined iteration .. => some iteration

end Event

namespace Observer

variable (observer : Observer α ω) (first : ω)

def memoryAfter (events : List (Event α)) : ω :=
  events.foldl (fun memory event => (observer.observe event memory).memory) first

def answerTo (events : List (Event α)) (event : Event α) : Option Action :=
  (observer.observe event (observer.memoryAfter first events)).action

theorem memoryAfter_concat (events : List (Event α)) (event : Event α) :
    observer.memoryAfter first (events ++ [event]) =
      (observer.observe event (observer.memoryAfter first events)).memory := by
  rw [memoryAfter, List.foldl_append, ← memoryAfter]
  rfl

end Observer

variable [Scalar α]

structure Event.Steps (events : List (Event α)) (steps : Nat) (event : Event α) : Prop where
  step : event.step? = some (steps + 1)
  later : ∀ earlier ∈ events, earlier.calls < event.calls
  finite : ∀ cost ∈ event.cost?, Scalar.isFinite cost = true

/-- An event tells of the check of a step to whose event the observer has given an answer.
The check is made because of this answer, or because the step led below tolerance. -/
inductive Event.ChecksStep (config : Config α) (answer : Option Action) :
    Event α → Event α → Prop
  | intro {iteration calls checkCalls x cost edmBefore edm multiplier updated positiveDefinite}
      (reason : answer = some .refineHessian ∨
        config.refineHessian = true ∧ edmBefore < config.tolerance)
      (later : calls < checkCalls)
      (kept : positiveDefinite = false → edm = edmBefore) :
      ChecksStep config answer (.iterated iteration calls x cost edmBefore multiplier updated)
        (.refined iteration checkCalls x edmBefore edm positiveDefinite)

/-- The events of a fit after a number of steps, in the order in which an observer is told
of them. -/
inductive Chronicle (config : Config α) (observer : Observer α ω) (first : ω) :
    (steps : Nat) → List (Event α) → Prop
  | start : Chronicle config observer first 0 []
  | unchecked {steps events event} (before : Chronicle config observer first steps events)
      (stepped : event.Steps events steps) :
      Chronicle config observer first (steps + 1) (events ++ [event])
  | checked {steps events event check} (before : Chronicle config observer first steps events)
      (stepped : event.Steps events steps)
      (checks : event.ChecksStep config (observer.answerTo first events event) check) :
      Chronicle config observer first (steps + 1) (events ++ [event, check])

namespace Event.ChecksStep

variable {config : Config α} {answer : Option Action} {event check : Event α}

private theorem calls_lt (checks : event.ChecksStep config answer check) :
    event.calls < check.calls := by
  cases checks with
  | intro _ later => exact later

private theorem step?_check (checks : event.ChecksStep config answer check) :
    check.step? = none := by
  cases checks
  rfl

private theorem check?_check (checks : event.ChecksStep config answer check) :
    check.check? = event.step? := by
  cases checks
  rfl

end Event.ChecksStep

omit [Scalar α] in
theorem Event.check?_of_step? {event : Event α} {step : Nat} (stepped : event.step? = some step) :
    event.check? = none := by
  cases event with
  | iterated => rfl
  | refined => cases stepped

namespace Chronicle

variable {config : Config α} {observer : Observer α ω} {first : ω} {steps : Nat}
  {events : List (Event α)}

theorem eq_nil (chronicle : Chronicle config observer first steps events)
    (fresh : steps = 0) : events = [] := by
  cases chronicle with
  | start => rfl
  | unchecked => cases fresh
  | checked => cases fresh

theorem steps_eq (chronicle : Chronicle config observer first steps events) :
    events.filterMap Event.step? = List.range' 1 steps := by
  induction chronicle with
  | start => rfl
  | unchecked _ stepped induction =>
      rw [List.filterMap_append, induction, List.range'_1_concat, Nat.add_comm,
        List.filterMap_cons_some stepped.step]
      rfl
  | checked _ stepped checks induction =>
      rw [List.filterMap_append, induction, List.range'_1_concat, Nat.add_comm,
        List.filterMap_cons_some stepped.step, List.filterMap_cons_none checks.step?_check]
      rfl

theorem checks_le (chronicle : Chronicle config observer first steps events) :
    ∀ check ∈ events.filterMap Event.check?, 1 ≤ check ∧ check ≤ steps := by
  induction chronicle with
  | start => nofun
  | unchecked _ stepped induction =>
      rw [List.filterMap_append,
        List.filterMap_cons_none (Event.check?_of_step? stepped.step), List.filterMap_nil,
        List.append_nil]
      intro check member
      exact (induction check member).imp_right Nat.le_succ_of_le
  | checked _ stepped checks induction =>
      rw [List.filterMap_append,
        List.filterMap_cons_none (Event.check?_of_step? stepped.step),
        List.filterMap_cons_some (checks.check?_check.trans stepped.step), List.filterMap_nil]
      intro check member
      rcases List.mem_append.mp member with earlier | last
      · exact (induction check earlier).imp_right Nat.le_succ_of_le
      · cases List.mem_singleton.mp last
        exact ⟨Nat.le_add_left 1 _, Nat.le_refl _⟩

theorem checks_nodup (chronicle : Chronicle config observer first steps events) :
    (events.filterMap Event.check?).Nodup := by
  induction chronicle with
  | start => exact List.nodup_nil
  | unchecked _ stepped induction =>
      rwa [List.filterMap_append,
        List.filterMap_cons_none (Event.check?_of_step? stepped.step), List.filterMap_nil,
        List.append_nil]
  | checked before stepped checks induction =>
      rw [List.filterMap_append,
        List.filterMap_cons_none (Event.check?_of_step? stepped.step),
        List.filterMap_cons_some (checks.check?_check.trans stepped.step), List.filterMap_nil]
      refine List.nodup_append.mpr ⟨induction, List.pairwise_singleton _ _, ?_⟩
      intro check member last single
      rcases List.mem_singleton.mp single with rfl
      exact Nat.ne_of_lt (Nat.lt_succ_of_le (before.checks_le check member).2)

theorem calls_increase (chronicle : Chronicle config observer first steps events) :
    events.Pairwise (·.calls < ·.calls) := by
  induction chronicle with
  | start => exact List.Pairwise.nil
  | unchecked _ stepped induction =>
      refine List.pairwise_append.mpr ⟨induction, List.pairwise_singleton _ _, ?_⟩
      intro event member last single
      rcases List.mem_singleton.mp single with rfl
      exact stepped.later event member
  | checked _ stepped checks induction =>
      refine List.pairwise_append.mpr ⟨induction, ?_, ?_⟩
      · exact List.pairwise_pair.mpr checks.calls_lt
      · intro earlier member last pair
        have before := stepped.later earlier member
        rcases List.mem_cons.mp pair with rfl | single
        · exact before
        · rcases List.mem_singleton.mp single with rfl
          exact Nat.lt_trans before checks.calls_lt

theorem costs_finite (chronicle : Chronicle config observer first steps events) :
    ∀ event ∈ events, ∀ cost ∈ event.cost?, Scalar.isFinite cost = true := by
  induction chronicle with
  | start => nofun
  | unchecked _ stepped induction =>
      intro event member
      rcases List.mem_append.mp member with earlier | last
      · exact induction event earlier
      · rcases List.mem_singleton.mp last with rfl
        exact stepped.finite
  | checked _ stepped checks induction =>
      intro event member
      rcases List.mem_append.mp member with earlier | pair
      · exact induction event earlier
      · rcases List.mem_cons.mp pair with rfl | single
        · exact stepped.finite
        · rcases List.mem_singleton.mp single with rfl
          cases checks
          nofun

omit [Scalar α] in
theorem eq_last_or_earlier {before after : List (Event α)} {last found : Event α}
    (told : events ++ [last] = before ++ found :: after) :
    found = last ∧ before = events ∨ ∃ rest, events = before ++ found :: rest := by
  rcases List.eq_nil_or_concat after with rfl | ⟨rest, other, rfl⟩
  · rcases List.append_inj' told rfl with ⟨rfl, same⟩
    exact .inl ⟨(List.cons.inj same).1.symm, rfl⟩
  · rw [List.concat_eq_append, ← List.cons_append, ← List.append_assoc] at told
    exact .inr ⟨rest, (List.append_inj' told rfl).1⟩

theorem check_follows (chronicle : Chronicle config observer first steps events)
    {before after : List (Event α)} {check : Event α} {step : Nat}
    (told : events = before ++ check :: after) (checking : check.check? = some step) :
    ∃ earlier event, before = earlier ++ [event] ∧
      event.ChecksStep config (observer.answerTo first earlier event) check := by
  induction chronicle generalizing after with
  | start => exact absurd told (by simp)
  | unchecked _ stepped induction =>
      rcases eq_last_or_earlier told with ⟨rfl, _⟩ | ⟨_, earlier⟩
      · cases (Event.check?_of_step? stepped.step).symm.trans checking
      · exact induction earlier
  | @checked _ events event last _ stepped checks induction =>
      rw [List.append_cons] at told
      rcases eq_last_or_earlier told with ⟨rfl, rfl⟩ | ⟨_, shorter⟩
      · exact ⟨events, event, rfl, checks⟩
      · rcases eq_last_or_earlier shorter with ⟨rfl, _⟩ | ⟨_, earlier⟩
        · cases (Event.check?_of_step? stepped.step).symm.trans checking
        · exact induction earlier

end Chronicle

end CurveFitting
