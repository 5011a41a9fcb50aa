import Mathlib.Data.Nat.Find
import CurveFitting.Proofs.Binary64.Halves
import CurveFitting.Proofs.Run.Moves
import CurveFitting.Proofs.Run.Recording

/-! # The result of a line search

A line search evaluates the trials along its ray in turn, at one and at its halves, until a
trial is acceptable or refused, no half is left that reaches the floor, or no evaluation is
left to make. The floor is looked at before the limit. A search that makes its last
evaluation at its last trial has stalled.
-/

namespace CurveFitting

variable {α σ ε : Type} [Scalar α] {n : Nat}

/-- Scalars that compare to themselves where they compare to anything below. -/
class Scalar.ComparesToItself (α : Type) [Scalar α] : Prop where
  le_self {left right : α} (below : left ≤ right) : right ≤ right

instance : Scalar.ComparesToItself Float where
  le_self below := by
    rcases Binary64.le_iff.mp below with ⟨_, high, _, counted, _⟩
    exact Binary64.le_iff.mpr ⟨high, high, counted, counted, Int.le_refl high⟩

private theorem Scalar.halved_le_one [Scalar.ExhaustsHalves α] [Scalar.ComparesToItself α]
    {floor : α} {count : Nat} (reached : floor ≤ Scalar.halved count) :
    Scalar.halved count ≤ (1 : α) :=
  Scalar.ExhaustsHalves.le_halved (Nat.zero_le count) (Scalar.ComparesToItself.le_self reached)

/-! ## Trials -/

namespace Ray

variable (objective : Objective α σ ε) (ray : Ray α n) (armijo : α) (memory : σ)

def trial (count : Nat) : Vector α n := ray.point (Scalar.halved count)

def trials (count : Nat) : List (List α) :=
  (List.range count).map fun before => (ray.trial before).toList

/-- The answer to each trial, when all trials before it are evaluated first. -/
def answers (count : Nat) : Except ε α :=
  objective.answerAfter (ray.trials count) memory (ray.trial count).toList

def Acceptable (count : Nat) (value : α) : Prop :=
  Scalar.isFinite value = true ∧ value ≤ ray.cost + armijo * Scalar.halved count * ray.slope

def Rejects (count : Nat) (answer : Except ε α) : Prop :=
  ∃ value, answer = .ok value ∧ ¬ray.Acceptable armijo count value

variable {objective ray armijo memory} {count : Nat}

private theorem accepts_iff {value : α} :
    ray.accepts armijo (Scalar.halved count) value = true ↔ ray.Acceptable armijo count value := by
  rw [accepts, Bool.and_eq_true, decide_eq_true_iff]
  rfl

private theorem evaluate_trial {answer : Except ε α}
    (answered : ray.answers objective memory count = answer) :
    objective.evaluate (ray.trial count).toList
        (objective.memoryAfter (ray.trials count) memory) =
      (answer, objective.memoryAfter (ray.trials (count + 1)) memory) := by
  have more : ray.trials (count + 1) = ray.trials count ++ [(ray.trial count).toList] := by
    rw [trials, List.range_succ, List.map_append]
    rfl
  rw [objective.evaluate_memoryAfter, more, ← answered, answers]

end Ray

namespace LineSearch

/-- How a line search ends, and after how many evaluations, when `last` is the largest number
of halvings that it tries. -/
inductive Ends (ray : Ray α n) (armijo : α) (last callLimit calls : Nat)
    (answers : Nat → Except ε α) : (made : Nat) → Result α n ε → Prop
  | accepted {count value} (within : count ≤ last) (room : calls + count < callLimit)
      (rejects : ∀ before < count, ray.Rejects armijo before (answers before))
      (answered : answers count = .ok value) (acceptable : ray.Acceptable armijo count value) :
      Ends ray armijo last callLimit calls answers (count + 1)
        ⟨calls + count + 1, .ok (.accepted ⟨Scalar.halved count, ray.trial count, value⟩)⟩
  | refused {count cause} (within : count ≤ last) (room : calls + count < callLimit)
      (rejects : ∀ before < count, ray.Rejects armijo before (answers before))
      (answered : answers count = .error cause) :
      Ends ray armijo last callLimit calls answers (count + 1) ⟨calls + count, .error cause⟩
  | stalled (room : calls + last < callLimit)
      (rejects : ∀ count ≤ last, ray.Rejects armijo count (answers count)) :
      Ends ray armijo last callLimit calls answers (last + 1) ⟨calls + last + 1, .ok .stalled⟩
  | outOfCalls (within : callLimit ≤ calls + last)
      (rejects : ∀ count < callLimit - calls, ray.Rejects armijo count (answers count)) :
      Ends ray armijo last callLimit calls answers (callLimit - calls)
        ⟨max calls callLimit, .ok .outOfCalls⟩

variable {objective : Objective α σ ε} {ray : Ray α n} {armijo : α}
  {last callLimit calls count made : Nat} {memory : σ} {result : Result α n ε}

/-- One of the ends is reached: the first trial that is not rejected decides, if there is one
within the limit. -/
theorem exists_ends (ray : Ray α n) (armijo : α) (last callLimit calls : Nat)
    (answers : Nat → Except ε α) :
    ∃ made result, Ends ray armijo last callLimit calls answers made result := by
  classical
  by_cases decided : ∃ count, ¬ray.Rejects armijo count (answers count)
  · have rejects (before : Nat) (within : before < Nat.find decided) :
        ray.Rejects armijo before (answers before) := not_not.mp (Nat.find_min decided within)
    have spared := Nat.find_spec decided
    generalize Nat.find decided = count at rejects spared
    -- The first trial that is not rejected may lie beyond the limits, which then decide.
    by_cases within : count ≤ last ∧ calls + count < callLimit
    · cases answered : answers count with
      | error cause => exact ⟨_, _, .refused within.1 within.2 rejects answered⟩
      | ok value =>
          have acceptable : ray.Acceptable armijo count value := by
            by_contra rejected
            exact spared ⟨value, answered, rejected⟩
          exact ⟨_, _, .accepted within.1 within.2 rejects answered acceptable⟩
    · by_cases room : calls + last < callLimit
      · exact ⟨_, _, .stalled room fun before _ => rejects before (by omega)⟩
      · exact ⟨_, _, .outOfCalls (by omega) fun before _ => rejects before (by omega)⟩
  · have rejects (count : Nat) : ray.Rejects armijo count (answers count) := by
      by_contra rejected
      exact decided ⟨count, rejected⟩
    by_cases room : calls + last < callLimit
    · exact ⟨_, _, .stalled room fun before _ => rejects before⟩
    · exact ⟨_, _, .outOfCalls (by omega) fun before _ => rejects before⟩

/-! ## The loop -/

private theorem tryEach_of_rejects (enough : count ≤ callLimit - calls)
    (rejects : ∀ before < count, ray.Rejects armijo before (ray.answers objective memory before))
    (rest : List α) :
    tryEach objective ray armijo callLimit ((List.range count).map Scalar.halved ++ rest) calls
        memory =
      tryEach objective ray armijo callLimit rest (calls + count)
        (objective.memoryAfter (ray.trials count) memory) := by
  induction count generalizing rest with
  | zero => rfl
  | succ count induction =>
      rcases rejects count (Nat.lt_succ_self count) with ⟨value, answered, rejected⟩
      have room : calls + count < callLimit := by omega
      have earlier := fun before within => rejects before (Nat.lt_succ_of_lt within)
      rw [List.range_succ, List.map_append, List.append_assoc,
        induction (Nat.le_of_succ_le enough) earlier, List.map_singleton, List.singleton_append,
        tryEach_of_ok room (Ray.evaluate_trial answered), if_neg (mt Ray.accepts_iff.mp rejected)]
      rfl

private theorem multipliers_split {floor : α} (tried : (multipliers floor).length = last + 1)
    (within : count ≤ last) : ∃ rest, multipliers floor =
      (List.range count).map Scalar.halved ++ Scalar.halved count :: rest := by
  rcases Nat.exists_eq_add_of_le within with ⟨more, rfl⟩
  rw [multipliers_eq_map, tried, Nat.add_assoc, List.range_add, List.map_append,
    List.range_succ_eq_map]
  exact ⟨_, rfl⟩

private theorem Ends.tryEach_eq {floor : α} (tried : (multipliers floor).length = last + 1)
    (ends : Ends ray armijo last callLimit calls (ray.answers objective memory) made result) :
    tryEach objective ray armijo callLimit (multipliers floor) calls memory =
      (result, objective.memoryAfter (ray.trials made) memory) := by
  cases ends with
  | accepted within room rejects answered acceptable =>
      rcases multipliers_split tried within with ⟨rest, split⟩
      rw [split, tryEach_of_rejects (by omega) rejects,
        tryEach_of_ok room (Ray.evaluate_trial answered), if_pos (Ray.accepts_iff.mpr acceptable)]
      rfl
  | refused within room rejects answered =>
      rcases multipliers_split tried within with ⟨rest, split⟩
      rw [split, tryEach_of_rejects (by omega) rejects,
        tryEach_of_error room (Ray.evaluate_trial answered)]
  | stalled room rejects =>
      rw [multipliers_eq_map, tried, ← List.append_nil (List.map _ _),
        tryEach_of_rejects (by omega) fun before within =>
          rejects before (Nat.le_of_lt_succ within)]
      rfl
  | outOfCalls within rejects =>
      rcases multipliers_split tried (Nat.sub_le_iff_le_add'.mpr within) with ⟨rest, split⟩
      have full : calls + (callLimit - calls) = max calls callLimit := by omega
      rw [split, tryEach_of_rejects (Nat.le_refl _) rejects, full, tryEach,
        if_pos (Nat.le_max_right calls callLimit)]
      rfl

private theorem Ends.evaluates {floor : α} (tried : (multipliers floor).length = last + 1)
    (ends : Ends ray armijo last callLimit calls (ray.answers objective memory) made result) :
    objective.Evaluates (ray.trials made) memory
      (fun objective => backtrack objective ray armijo floor callLimit calls) result := by
  refine .of_alike fun asked start same => ?_
  have alike : ray.answers asked start = ray.answers objective memory :=
    funext fun count => same (ray.trials count) _
  exact Ends.tryEach_eq tried (alike ▸ ends)

end LineSearch

open LineSearch in
/-- A line search accepts the first acceptable trial, stalls behind the last trial, or runs
out of evaluations, and passes on an error that comes before. -/
theorem line_search_finds_first_acceptable [Scalar.ExhaustsHalves α] [Scalar.ComparesToItself α]
    (objective : Objective α σ ε) (ray : Ray α n) (config : Config α)
    (callLimit calls : Nat) (memory : σ) :
    let found := (backtrack objective ray config.armijo config.minStep callLimit calls memory).1
    let answers := ray.answers objective memory
    ∃ last, (∀ count, config.minStep ≤ Scalar.halved count ↔ count ≤ last) ∧
      (∀ made result, Ends ray config.armijo last callLimit calls answers made result →
        objective.Evaluates (ray.trials made) memory (fun objective =>
          backtrack objective ray config.armijo config.minStep callLimit calls) result) ∧
      (∃ made, Ends ray config.armijo last callLimit calls answers made found) ∧
      (found.outcome = .ok .stalled ↔ calls + last < callLimit ∧
        ∀ count ≤ last, ray.Rejects config.armijo count (answers count)) ∧
      ∀ trial, found.outcome = .ok (.accepted trial) →
        trial.cost ≤ ray.cost + config.armijo * trial.step * ray.slope ∧
        config.minStep ≤ trial.step ∧ trial.step ≤ 1 := by
  intro found answers
  have nonempty := List.length_pos_iff.mpr config.multipliers_ne_nil
  rcases Nat.exists_eq_succ_of_ne_zero (Nat.ne_of_gt nonempty) with ⟨last, tried⟩
  have reached (count : Nat) : config.minStep ≤ Scalar.halved count ↔ count ≤ last := by
    rw [← lt_length_multipliers config.minStep_positive, tried]
    exact Nat.lt_succ_iff
  rcases exists_ends ray config.armijo last callLimit calls answers with ⟨made, result, ends⟩
  have same : found = result := congrArg Prod.fst (ends.evaluates tried).answers
  rw [← same] at ends
  refine ⟨last, reached, fun _ _ other => other.evaluates tried, ⟨made, ends⟩, ⟨?_, ?_⟩, ?_⟩
  · intro stalled
    generalize found = found at ends stalled
    cases ends with
    | stalled room rejects => exact ⟨room, rejects⟩
    | _ => cases stalled
  · rintro ⟨room, rejects⟩
    have stalls := Ends.evaluates tried (.stalled room rejects)
    exact congrArg (·.1.outcome) stalls.answers
  · intro trial accepted
    generalize found = found at ends accepted
    cases ends with
    | accepted within _ _ _ acceptable =>
        cases accepted
        have low := (reached _).mpr within
        exact ⟨acceptable.2, low, Scalar.halved_le_one low⟩
    | _ => cases accepted

def squaredDistance : List Float → Float
  | [p] => (p - 1) * (p - 1)
  | _ => 0

/-- From zero with the slope of the squared distance, four times as far as its minimum. -/
def longRay : Ray Float 1 := ⟨#v[0], 1, #v[4], -8⟩

def wrongRay : Ray Float 1 := ⟨#v[0], 1, #v[-4], -8⟩

def coarseConfig : Config Float :=
  { Config.default with
    minStep := 0.125
    minStep_positive := by decide +kernel
    minStep_le_one := by decide +kernel }

open LineSearch in
/-- The third trial along the first ray hits the minimum. All four trials along the other one
are rejected: the search stalls if it may make as many evaluations, but not with one less. -/
theorem squaredDistance_searched :
    let objective : Objective Float Unit Empty := .ofFunction squaredDistance 1
    let search (ray : Ray Float 1) (callLimit : Nat) : {memory : Type} →
        Objective Float memory Empty → memory → Result Float 1 Empty × memory :=
      fun objective => backtrack objective ray coarseConfig.armijo coarseConfig.minStep callLimit 0
    objective.Evaluates [[4], [2], [1]] () (search longRay 4)
      ⟨3, .ok (.accepted ⟨0.25, #v[1], 0⟩)⟩ ∧
    objective.Evaluates [[-4], [-2], [-1], [-0.5]] () (search wrongRay 4) ⟨4, .ok .stalled⟩ ∧
    objective.Evaluates [[-4], [-2], [-1]] () (search wrongRay 3) ⟨3, .ok .outOfCalls⟩ := by
  intro objective search
  have rejects {ray : Ray Float 1} {count : Nat} (high : ¬ray.Acceptable coarseConfig.armijo count
      (squaredDistance (ray.trial count).toList)) :
      ray.Rejects coarseConfig.armijo count (ray.answers objective () count) := ⟨_, rfl, high⟩
  have longRejects : ∀ count < 2, ¬longRay.Acceptable coarseConfig.armijo count
      (squaredDistance (longRay.trial count).toList) := by
    unfold Ray.Acceptable
    decide +kernel
  have longAccepts : longRay.Acceptable coarseConfig.armijo 2
      (squaredDistance (longRay.trial 2).toList) := by
    unfold Ray.Acceptable
    decide +kernel
  have wrongRejects : ∀ count < 4, ¬wrongRay.Acceptable coarseConfig.armijo count
      (squaredDistance (wrongRay.trial count).toList) := by
    unfold Ray.Acceptable
    decide +kernel
  have last_eq {last : Nat} (reached : ∀ count,
      coarseConfig.minStep ≤ Scalar.halved count ↔ count ≤ last) : last = 3 := by
    have most : 3 ≤ last := (reached 3).mp (by decide +kernel)
    have least : ¬4 ≤ last := mt (reached 4).mpr (by decide +kernel)
    omega
  have third : longRay.trials 3 = [[4], [2], [1]] ∧ Scalar.halved 2 = (0.25 : Float) ∧
      squaredDistance (longRay.trial 2).toList = 0 ∧ longRay.trial 2 = #v[1] := by decide +kernel
  have fourTrials : wrongRay.trials 4 = [[-4], [-2], [-1], [-0.5]] := by decide +kernel
  have threeTrials : wrongRay.trials 3 = [[-4], [-2], [-1]] := by decide +kernel
  have finds (ray : Ray Float 1) (callLimit : Nat) :=
    line_search_finds_first_acceptable objective ray coarseConfig callLimit 0 ()
  refine ⟨?_, ?_, ?_⟩
  · rcases finds longRay 4 with ⟨last, reached, ends, -⟩
    cases last_eq reached
    have found := ends _ _ (.accepted (by decide) (by decide)
      (fun count within => rejects (longRejects count within)) rfl longAccepts)
    rwa [third.1, third.2.1, third.2.2.1, third.2.2.2] at found
  · rcases finds wrongRay 4 with ⟨last, reached, ends, -⟩
    cases last_eq reached
    rw [← fourTrials]
    exact ends _ _ (.stalled (by decide) fun count within =>
      rejects (wrongRejects count (Nat.lt_succ_of_le within)))
  · rcases finds wrongRay 3 with ⟨last, reached, ends, -⟩
    cases last_eq reached
    rw [← threeTrials]
    exact ends _ _ (.outOfCalls (by decide) fun count within =>
      rejects (wrongRejects count (Nat.lt_succ_of_lt within)))

end CurveFitting
