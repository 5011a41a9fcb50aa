import CurveFitting.Proofs.Run.Estimates

/-! # Evaluations made

The moves of a fit charge evaluations by formulas. Here the charges are compared with
the evaluations that the memory of the objective has counted. A move that comes to its
end has made what it charges; one that meets a value that is not finite has made at
least one evaluation and no more than it charges.
-/

namespace CurveFitting

variable {α σ ω ε : Type}

def Objective.CountedBy (objective : Objective α σ ε) (count : σ → Nat) : Prop :=
  ∀ point memory, count (objective.evaluate point memory).2 = count memory + 1

theorem Objective.CountedBy.made {objective : Objective α σ ε} {count : σ → Nat}
    (counted : objective.CountedBy count) {point : List α} {memory after : σ}
    {answer : Except ε α} (evaluates : objective.evaluate point memory = (answer, after)) :
    count after = count memory + 1 := by
  rw [← counted point memory, evaluates]

/-- No evaluation made goes uncharged, and at most `excess` are charged that were not made. -/
structure Overcharges (excess made charged : Nat) : Prop where
  le : made ≤ charged
  excess_le : charged ≤ made + excess

private theorem Overcharges.mono {few many made charged : Nat}
    (overcharges : Overcharges few made charged) (le : few ≤ many) :
    Overcharges many made charged :=
  ⟨overcharges.le, Nat.le_trans overcharges.excess_le (Nat.add_le_add_left le made)⟩

namespace Computation

variable {memory error value : Type}

/-- A computation that adds `cost` to a count where it succeeds. Where it fails, it adds
at least `least` and no more than that. -/
structure Costs (count : memory → Nat) (least cost : Nat)
    (computation : ExceptT error (StateM memory) value) : Prop where
  exact : ∀ {start answer final}, computation start = (.ok answer, final) →
    count final = count start + cost
  broken : ∀ {start cause final}, computation start = (.error cause, final) →
    count start + least ≤ count final ∧ count final ≤ count start + cost

namespace Costs

variable {result : Type} {count : memory → Nat} {least first second : Nat}
  {computation : ExceptT error (StateM memory) value}

private theorem pure (given : value) :
    Costs count least 0 (pure given : ExceptT error (StateM memory) value) where
  exact succeeds := by
    cases succeeds
    rfl
  broken fails := by cases fails

private theorem throw (cause : error) (cost : Nat) :
    Costs count 0 cost (throw cause : ExceptT error (StateM memory) value) where
  exact succeeds := by cases succeeds
  broken fails := by
    cases fails
    exact ⟨Nat.le_refl _, Nat.le_add_right _ _⟩

private theorem bind {next : value → ExceptT error (StateM memory) result}
    (begun : Costs count least first computation)
    (rest : ∀ given, Costs count least second (next given)) :
    Costs count least (first + second) (computation >>= next) where
  exact succeeds := by
    rcases bind_eq_ok succeeds with ⟨given, middle, ended, later⟩
    rw [(rest given).exact later, begun.exact ended, Nat.add_assoc]
  broken fails := by
    rcases bind_eq_error fails with early | ⟨given, middle, ended, later⟩
    · have spent := begun.broken early
      omega
    · have before := begun.exact ended
      have spent := (rest given).broken later
      omega

private theorem ofFnM {n : Nat} {cost : Fin n → Nat}
    {entry : Fin n → ExceptT error (StateM memory) value}
    (entries : ∀ i, Costs count least (cost i) (entry i)) :
    Costs count least (∑ i, cost i) (Vector.ofFnM entry) := by
  induction n with
  | zero =>
      rw [Vector.ofFnM_zero]
      exact pure _
  | succ n induction =>
      rw [Vector.ofFnM_succ, Fin.sum_univ_castSucc]
      apply bind (induction fun i => entries i.castSucc)
      intro earlier
      exact bind (entries (Fin.last n)) fun _ => pure _

private theorem overcharges {cost : Nat} {start final : memory} {cause : error}
    (costs : Costs count 1 cost computation) (fails : computation start = (.error cause, final)) :
    Overcharges (cost - 1) (count final) (count start + cost) := by
  have broken := costs.broken fails
  constructor <;> omega

end Costs

end Computation

variable [Scalar α] {n : Nat}

/-! ## Derivatives -/

namespace Differences

open CurveFitting.Computation

variable {β ι : Type}

def Job.Takes : Job α n β → Nat → Prop
  | .done _, cost => cost = 0
  | .asks _ _ next, cost => ∃ rest, cost = rest + 1 ∧ ∀ value, (next value).Takes rest

private theorem Job.Reads.takes {x h : Vector α n} {probes : List (Probe n)}
    {result : (Probe n → α) → β} {job : Job α n β} (reads : job.Reads x h probes result) :
    job.Takes probes.length := by
  induction reads with
  | done => rfl
  | asks _ _ _ induction => exact ⟨_, rfl, induction⟩

def Progress.Owes : Progress α ε n β → Nat → Prop
  | .error _, _ => True
  | .ok job, owed => job.Takes owed

section

variable {objective : Objective α σ ε} {count : σ → Nat} (counted : objective.CountedBy count)

include counted

private theorem sample_made {i : Fin n} {point : Vector α n}
    {answer : Except (DifferenceError α ε) α} {memory after : σ}
    (sampled : sample objective i point memory = (answer, after)) :
    count after = count memory + 1 := by
  have kept : after = _ := (congrArg Prod.snd sampled).symm.trans (sample_memory ..)
  rw [kept]
  exact counted _ memory

private theorem sample_costs (i : Fin n) (point : Vector α n) :
    Costs count 1 1 (sample objective i point) where
  exact sampled := sample_made counted sampled
  broken failed := by
    have made := sample_made counted failed
    omega

theorem Job.Takes.run {job : Job α n β} {cost : Nat} (takes : job.Takes cost) :
    Costs count 1 cost (job.run objective) := by
  induction job generalizing cost with
  | done answer =>
      cases takes
      exact .pure answer
  | asks i point next induction =>
      rcases takes with ⟨rest, rfl, later⟩
      rw [Nat.add_comm]
      exact .bind (sample_costs counted i point) fun value => induction value (later value)

private theorem Progress.Owes.finish {progress : Progress α ε n β} {owed : Nat}
    (owes : Progress.Owes progress owed) : Costs count 0 owed (finish objective progress) := by
  cases progress with
  | error cause => exact .throw cause owed
  | ok job =>
      have costs := Job.Takes.run counted owes
      refine ⟨costs.exact, fun fails => ?_⟩
      have spent := costs.broken fails
      omega

end

/-- What jobs that take turns owe, together with the evaluations made since the count was
`begun`, is what they took in the beginning. A job has failed only if there were any. -/
structure Turned [Fintype ι] (count : σ → Nat) (begun total : Nat) (owed : ι → Nat)
    (jobs : ι → Progress α ε n β) (memory : σ) : Prop where
  owes : ∀ i, Progress.Owes (jobs i) (owed i)
  begun_le : begun ≤ count memory
  made : count memory + ∑ i, owed i = begun + total
  failed : ∀ i cause, jobs i = .error cause → begun < count memory

section

variable [Fintype ι] [DecidableEq ι] {objective : Objective α σ ε} {count : σ → Nat}
  (counted : objective.CountedBy count) {begun total : Nat} {owed : ι → Nat}
  {jobs : ι → Progress α ε n β} {memory after : σ}

include counted

private theorem Turned.advance {turn : ι} {moved : Progress α ε n β}
    (turned : Turned count begun total owed jobs memory)
    (advanced : advance objective (jobs turn) memory = (.ok moved, after)) :
    ∃ left, Turned count begun total left (fun i => if i = turn then moved else jobs i) after := by
  rcases state : jobs turn with cause | answer | ⟨i, point, next⟩
  · rw [state] at advanced
    cases advanced
  · rw [state] at advanced
    cases advanced
    have same : (fun i => if i = turn then .ok (.done answer) else jobs i) = jobs := by
      funext i
      split
      · rename_i taken
        rw [taken, state]
      · rfl
    rw [same]
    exact ⟨owed, turned⟩
  · have owes := turned.owes turn
    rw [state] at owes
    rcases owes with ⟨rest, paid, later⟩
    rw [state, advance_asks] at advanced
    rcases sampled : sample objective i point memory with ⟨answer, middle⟩
    have made := sample_made counted sampled
    have before := turned.begun_le
    rw [sampled] at advanced
    cases advanced
    dsimp only
    refine ⟨Function.update owed turn rest, fun other => ?_, by omega, ?_, fun other cause => ?_⟩
    · by_cases taken : other = turn
      · subst taken
        rw [if_pos rfl, Function.update_self]
        cases answer with
        | error cause => trivial
        | ok value => exact later value
      · rw [if_neg taken, Function.update_of_ne taken]
        exact turned.owes other
    -- The job owes one evaluation less, and one more has been made.
    · have total := turned.made
      rw [Finset.sum_eq_add_sum_sdiff_singleton_of_mem (Finset.mem_univ turn), paid] at total
      rw [Finset.sum_update_of_mem (Finset.mem_univ turn)]
      omega
    · intro _
      omega

private theorem takeTurns_turned (turns : List ι)
    (turned : Turned count begun total owed jobs memory) :
    (∀ {later after}, takeTurns objective turns jobs memory = (.ok later, after) →
      ∃ left, Turned count begun total left later after) ∧
    ∀ {cause after}, takeTurns objective turns jobs memory = (.error cause, after) →
      begun < count after ∧ count after ≤ begun + total := by
  induction turns generalizing jobs owed memory with
  | nil => exact ⟨fun ended => by cases ended; exact ⟨owed, turned⟩, fun ended => by cases ended⟩
  | cons turn turns induction =>
      constructor
      · intro later after ended
        rcases bind_eq_ok ended with ⟨moved, middle, advanced, rest⟩
        rcases turned.advance counted advanced with ⟨left, turned⟩
        exact (induction turned).1 rest
      · intro cause after ended
        rcases bind_eq_error ended with failed | ⟨moved, middle, advanced, rest⟩
        · rcases state : jobs turn with other | answer | ⟨i, point, next⟩
          · rw [state] at failed
            cases failed
            -- The job reports the failure of an earlier turn, which was an evaluation.
            have begun := turned.failed turn _ state
            have made := turned.made
            omega
          · rw [state] at failed
            cases failed
          · rw [state] at failed
            cases failed
        · rcases turned.advance counted advanced with ⟨left, turned⟩
          exact (induction turned).2 rest

private theorem takeTurns_costs {result : Type} (turns : List ι) {jobs : ι → Job α n β}
    {cost : ι → Nat} (takes : ∀ i, (jobs i).Takes (cost i))
    {next : (ι → Progress α ε n β) → Evaluation σ (DifferenceError α ε) result}
    (rest : ∀ (least : Nat) (owed : ι → Nat) (progress : ι → Progress α ε n β),
      (∀ i, Costs count least (owed i) (finish objective (progress i))) →
        Costs count least (∑ i, owed i) (next progress)) :
    Costs count 1 (∑ i, cost i) (takeTurns objective turns (fun i => .ok (jobs i)) >>= next) := by
  have begun (start : σ) : Turned count (count start) (∑ i, cost i) cost
      (fun i => .ok (jobs i) : ι → Progress α ε n β) start :=
    ⟨takes, Nat.le_refl _, rfl, fun _ _ failed => by cases failed⟩
  constructor
  · intro start answer final ended
    rcases bind_eq_ok ended with ⟨progress, middle, taken, finished⟩
    rcases (takeTurns_turned counted turns (begun start)).1 taken with ⟨owed, turned⟩
    rw [← turned.made]
    exact (rest 0 owed progress fun i => (turned.owes i).finish counted).exact finished
  · intro start cause final ended
    have turns := takeTurns_turned counted turns (begun start)
    rcases bind_eq_error ended with early | ⟨progress, middle, taken, failed⟩
    · exact turns.2 early
    · rcases turns.1 taken with ⟨owed, turned⟩
      have made := turned.made
      -- Either a job has met a failure with its turns, or one makes an evaluation and then fails.
      by_cases whole : ∀ i, ∃ job, progress i = .ok job
      · have costs (i : ι) : Costs count 1 (owed i) (finish objective (progress i)) := by
          rcases whole i with ⟨job, equal⟩
          have takes := turned.owes i
          rw [equal] at takes ⊢
          exact Job.Takes.run counted takes
        have spent := (rest 1 owed progress costs).broken failed
        have before := turned.begun_le
        omega
      · rw [not_forall] at whole
        rcases whole with ⟨i, broken⟩
        have spent := (rest 0 owed progress fun i => (turned.owes i).finish counted).broken failed
        rcases state : progress i with cause | job
        · have before := turned.failed i cause state
          omega
        · exact absurd ⟨job, state⟩ broken

end

section

variable {objective : Objective α σ ε} {count : σ → Nat} (counted : objective.CountedBy count)
  (differences : Differences α n) (x : Vector α n) (cost : α)

include counted

theorem gradient_costs : Costs count 1 (2 * n) (differences.gradient objective x cost) := by
  have takes (i : Fin n) : (pair x (differences.perturbations x) i).Takes 2 :=
    (pair_reads x _ i).takes
  have total : ∑ _ : Fin n, 2 = 2 * n := by simp [Nat.mul_comm]
  rw [← total]
  apply takeTurns_costs counted _ takes
  intro least owed jobs costs
  exact (Costs.ofFnM costs).bind fun _ => .pure _

theorem hessian_costs : Costs count 1 (2 * (n * n)) (differences.hessian objective x cost) := by
  let h := differences.perturbations x
  have takes (place : Fin n × Fin n) :
      (if place.1 ≤ place.2 then entry x cost h place.1 place.2 else .done 0).Takes
        (if place.1 ≤ place.2 then if place.1 = place.2 then 2 else 4 else 0) := by
    split
    · rw [← Probe.length_ofEntry]
      exact (entry_reads x h cost place.1 place.2).takes
    · rfl
  rw [← Probe.sum_entry_lengths, ← Fintype.sum_prod_type']
  apply takeTurns_costs counted _ takes
  intro least owed jobs costs
  rw [Fintype.sum_prod_type]
  exact (Costs.ofFnM fun i => .ofFnM fun j => costs (i, j)).bind fun _ => .pure _

end

end Differences

/-! ## Moves -/

def Step.Accounts (made : Nat) : Step α n → Prop
  | .advanced state _ _ => made = state.calls
  | .stalled state => made = state.calls
  | .outOfCalls state => made = state.calls
  | .failed state => Overcharges (2 * n - 1) made state.calls

def Refinement.Accounts (made : Nat) : Refinement α n → Prop
  | .checked state _ => made = state.calls
  | .failed state => Overcharges (2 * (n * n) - 1) made state.calls

def Start.Accounts (made : Nat) : Start α n → Prop
  | .ready state => made = state.calls
  | .failed state => Overcharges (2 * n - 1) made state.calls

namespace LineSearch.Tries

variable {objective : Objective α σ ε} {count : σ → Nat} {ray : Ray α n} {armijo : α}
  {callLimit : Nat} {steps : List α} {calls : Nat} {memory after : σ} {found : Result α n ε}

private theorem made (counted : objective.CountedBy count)
    (tries : Tries objective ray armijo callLimit steps calls memory found after)
    {outcome : Outcome α n} (answered : found.outcome = .ok outcome)
    (aligned : count memory = calls) : count after = found.calls := by
  induction tries with
  | stalled => exact aligned
  | outOfCalls => exact aligned
  | refused => cases answered
  | accepted _ evaluates => exact aligned ▸ counted.made evaluates
  | rejected _ evaluates _ _ induction =>
      exact induction answered (aligned ▸ counted.made evaluates)

end LineSearch.Tries

namespace Problem

variable {problem : Problem α σ ε n} {count : σ → Nat} {state : State α n} {memory after : σ}
  {reported calls : Nat} {x : Vector α n} {cost : α}
  (counted : problem.objective.CountedBy count)

include counted

private theorem gradient?_made {estimate : GradientEstimate α n} (aligned : count memory = calls)
    (gradient : problem.gradient? reported x cost memory = (.ok (some estimate), after)) :
    count after = calls + estimate.calls := by
  rw [← aligned, gradient?_calls gradient]
  exact (Differences.gradient_costs counted _ x cost).exact
    (Differences.finiteOnly_eq_some gradient)

private theorem gradient?_overcharges (aligned : count memory = calls)
    (gradient : problem.gradient? reported x cost memory = (.ok none, after)) :
    Overcharges (2 * n - 1) (count after) (calls + 2 * n) := by
  rcases Differences.finiteOnly_eq_none gradient with ⟨_, _, failed⟩
  rw [← aligned]
  exact (Differences.gradient_costs counted _ x cost).overcharges failed

private theorem hessian?_made {estimate : HessianEstimate α n} (aligned : count memory = calls)
    (hessian : problem.hessian? reported x cost memory = (.ok (some estimate), after)) :
    count after = calls + estimate.calls := by
  rw [← aligned, hessian?_calls hessian]
  exact (Differences.hessian_costs counted _ x cost).exact
    (Differences.finiteOnly_eq_some hessian)

private theorem hessian?_overcharges (aligned : count memory = calls)
    (hessian : problem.hessian? reported x cost memory = (.ok none, after)) :
    Overcharges (2 * (n * n) - 1) (count after) (calls + 2 * (n * n)) := by
  rcases Differences.finiteOnly_eq_none hessian with ⟨_, _, failed⟩
  rw [← aligned]
  exact (Differences.hessian_costs counted _ x cost).overcharges failed

private theorem lineSearch_made {descent : Descent α n} (aligned : count memory = state.calls)
    (search : problem.lineSearch state memory = (.ok descent, after)) :
    count after = descent.state.calls := by
  rcases lineSearch_eq_ok search with ⟨outcome, answered, rfl, rfl⟩
  rw [Descent.state_ofOutcome]
  exact (problem.tries_found state memory).made counted answered aligned

private theorem descend_made {descent : Descent α n} (aligned : count memory = state.calls)
    (search : problem.descend state memory = (.ok descent, after)) :
    count after = descent.state.calls := by
  have descends := problem.descends_descend state memory
  rw [search] at descends
  cases descends with
  | uphill _ search =>
      have reset : count memory = (problem.reset state).calls := aligned
      exact lineSearch_made counted reset search
  | direct _ search => exact lineSearch_made counted aligned search
  | @retried stalled middle _ _ _ first _ second =>
      have made : count middle = (problem.reset stalled).calls :=
        lineSearch_made counted aligned first
      exact lineSearch_made counted made second

theorem iterate_accounts {step : Step α n} (aligned : count memory = state.calls)
    (stepped : problem.iterate state memory = (.ok step, after)) :
    step.Accounts (count after) := by
  have iterates := problem.iterates_iterate state memory
  rw [stepped] at iterates
  cases iterates with
  | stalled descent => exact descend_made counted aligned descent
  | outOfCalls descent => exact descend_made counted aligned descent
  | failed descent gradient =>
      exact gradient?_overcharges counted (descend_made counted aligned descent) gradient
  | advanced descent gradient =>
      exact gradient?_made counted (descend_made counted aligned descent) gradient

theorem refine_accounts {refinement : Refinement α n} (aligned : count memory = state.calls)
    (refined : problem.refine state memory = (.ok refinement, after)) :
    refinement.Accounts (count after) := by
  have refines := problem.refines_refine state memory
  rw [refined] at refines
  cases refines with
  | failed hessian => exact hessian?_overcharges counted aligned hessian
  | indefinite hessian => exact hessian?_made counted aligned hessian
  | definite hessian => exact hessian?_made counted aligned hessian

theorem start_accounts {start : Start α n} (fresh : count memory = 0)
    (started : problem.start x memory = (.ok start, after)) : start.Accounts (count after) := by
  have starts := problem.starts_start memory x
  rw [started] at starts
  have first {cost : α} {middle : σ}
      (value : problem.objective.evaluate x.toList memory = (.ok cost, middle)) :
      count middle = 1 := by
    rw [counted.made value, fresh]
  cases starts with
  | nonFinite value =>
      have made := first value
      exact ⟨Nat.le_of_eq made, Nat.le_add_right_of_le (Nat.le_of_eq made.symm)⟩
  | failed value _ gradient => exact gradient?_overcharges counted (first value) gradient
  | ready value _ gradient => exact gradient?_made counted (first value) gradient

end Problem

/-! ## Turns -/

/-- What an ending reports beside the evaluations made. -/
structure Ending.Accounts (made : Nat) (ending : Ending α n) : Prop where
  exact : ending.status ≠ .numericalFailure → ending.state.calls = made
  overcharges : ending.status = .numericalFailure →
    Overcharges (2 * (n * n) - 1) made ending.state.calls

omit [Scalar α] in
private theorem Ending.Accounts.of_eq {made : Nat} {ending : Ending α n}
    (equal : made = ending.state.calls) : ending.Accounts made where
  exact _ := equal.symm
  overcharges _ := ⟨Nat.le_of_eq equal, equal ▸ Nat.le_add_right _ _⟩

omit [Scalar α] in
private theorem Ending.Accounts.of_failed {made : Nat} {state : State α n}
    (overcharges : Overcharges (2 * (n * n) - 1) made state.calls) :
    (⟨.numericalFailure, state⟩ : Ending α n).Accounts made where
  exact other := absurd rfl other
  overcharges _ := overcharges

def Check.Accounts (made : Nat) : Check α n → Prop
  | .passed state => made = state.calls
  | .ended ending => ending.Accounts made

namespace Problem

private theorem gradient_excess_le (n : Nat) : 2 * n - 1 ≤ 2 * (n * n) - 1 :=
  Nat.sub_le_sub_right (Nat.mul_le_mul_left 2 (Nat.le_mul_self n)) 1

variable {problem : Problem α σ ε n} {observer : Observer α ω} {count : σ → Nat}
  {state : State α n} {session final origin : Session α σ ω} {x : Vector α n}

private theorem accounts_convergeIfClose {made : Nat} {check : Check α n}
    (accounts : check.Accounts made) : (problem.convergeIfClose check).Accounts made := by
  cases check with
  | ended => exact accounts
  | passed state =>
      rw [convergeIfClose]
      split
      · exact .of_eq accounts
      · exact accounts

variable (counted : problem.objective.CountedBy count)

include counted

private theorem check_accounts {check : Check α n}
    (aligned : count session.objectiveMemory = state.calls)
    (checked : problem.check observer state session = (.ok check, final)) :
    check.Accounts (count final.objectiveMemory) := by
  have checks := problem.checks_check observer state session
  rw [checked] at checks
  cases checks with
  | noRoom => exact .of_eq aligned
  | failed _ refinement => exact .of_failed (refine_accounts counted aligned refinement)
  | stopped _ refinement telling =>
      subst telling
      exact .of_eq (refine_accounts counted aligned refinement)
  | passed _ refinement telling =>
      subst telling
      exact refine_accounts counted aligned refinement

private theorem settle_accounts {ending : Ending α n}
    (aligned : count session.objectiveMemory = state.calls)
    (settled : problem.settle observer state session = (.ok ending, final)) :
    ending.Accounts (count final.objectiveMemory) := by
  have settles := problem.settles_settle observer state session
  rw [settled] at settles
  cases settles with
  | unchecked => exact .of_eq aligned
  | far => exact .of_eq aligned
  | ended _ _ checked => exact (check_accounts counted aligned checked :)
  | confirmed _ _ checked => exact .of_eq (check_accounts counted aligned checked)
  | refuted _ _ checked => exact .of_eq (check_accounts counted aligned checked)

theorem afterStep_accounts {multiplier : α} {updated : Bool} {check : Check α n}
    (aligned : count session.objectiveMemory = state.calls)
    (followed : problem.afterStep observer state multiplier updated session =
      (.ok check, final)) :
    check.Accounts (count final.objectiveMemory) := by
  have follows := problem.follows_afterStep observer state session multiplier updated
  rw [followed] at follows
  cases follows with
  | stopped telling =>
      subst telling
      exact .of_eq aligned
  | unchecked telling =>
      subst telling
      exact aligned
  | checked telling _ checked =>
      subst telling
      refine check_accounts counted ?_ checked
      exact aligned

private theorem turn_accounts {check : Check α n}
    (aligned : count session.objectiveMemory = state.calls)
    (turned : problem.turn observer state session = (.ok check, final)) :
    check.Accounts (count final.objectiveMemory) := by
  have turns := problem.turns_turn observer state session
  rw [turned] at turns
  cases turns with
  | stalled step settled =>
      refine settle_accounts counted ?_ settled
      exact iterate_accounts counted aligned step
  | outOfCalls step => exact .of_eq (iterate_accounts counted aligned step)
  | failed step =>
      exact .of_failed ((iterate_accounts counted aligned step).mono (gradient_excess_le n))
  | advanced step followed =>
      apply accounts_convergeIfClose
      refine afterStep_accounts counted ?_ followed
      exact iterate_accounts counted aligned step

theorem AtHead.made {remaining : Nat} (fresh : count origin.objectiveMemory = 0)
    (head : problem.AtHead observer x origin remaining state session) :
    count session.objectiveMemory = state.calls := by
  induction head with
  | first started => exact start_accounts counted fresh started
  | next _ _ turned induction => exact turn_accounts counted induction turned

/-- What a fit reports in the end beside the evaluations that it has made. -/
theorem run_accounts {ending : Ending α n} (fresh : count origin.objectiveMemory = 0)
    (ran : problem.run observer x origin = (.ok ending, final)) :
    ending.Accounts (count final.objectiveMemory) := by
  have ends := problem.ends_run observer x origin
  rw [ran] at ends
  cases ends with
  | failedStart started =>
      exact .of_failed ((start_accounts counted fresh started).mono (gradient_excess_le n))
  | limit head => exact .of_eq (head.made counted fresh :)
  | ended head _ turned => exact turn_accounts counted (head.made counted fresh) turned

end Problem

end CurveFitting
