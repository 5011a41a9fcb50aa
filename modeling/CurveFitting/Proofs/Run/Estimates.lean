import CurveFitting.Proofs.Run.Calls
import CurveFitting.Proofs.Run.Sampling

/-! # Estimates from probes

A gradient and a Hessian are computed from the values at fixed lists of probes, whatever
turns their jobs take. In order, the probes are evaluated in turn up to the first one without a
finite value.
-/

namespace CurveFitting.Differences

open Probe

variable {α σ ε : Type} [Scalar α] {n : Nat}

/-! ## Estimates from the values of probes -/

def gradientOf (cost : α) (h : Vector α n) (values : Probe n → α) : GradientEstimate α n where
  gradient := Vector.ofFn fun i =>
    (values (.single i true) - values (.single i false)) / Scalar.double (h.get i)
  curvature := Vector.ofFn fun i =>
    secondDifference cost (h.get i) (values (.single i true), values (.single i false))
  calls := 2 * n

private theorem get_gradientOf (cost : α) (h : Vector α n) (values : Probe n → α) (i : Fin n) :
    (gradientOf cost h values).gradient.get i =
      (values (.single i true) - values (.single i false)) / Scalar.double (h.get i) :=
  Vector.getElem_ofFn i.isLt

def entryOf (cost : α) (h : Vector α n) (values : Probe n → α) (i j : Fin n) : α :=
  if i = j then
    secondDifference cost (h.get i) (values (.single i true), values (.single i false))
  else
    (values (.corner i j true true) - values (.corner i j true false) -
      values (.corner i j false true) + values (.corner i j false false)) /
        (Scalar.double (Scalar.double (h.get i)) * h.get j)

/-- The Hessian from the values of its probes. The entries below the diagonal are those
above it. -/
def hessianOf (cost : α) (h : Vector α n) (values : Probe n → α) : HessianEstimate α n where
  hessian := RowMatrix.ofEntries fun i j =>
    if i ≤ j then entryOf cost h values i j else entryOf cost h values j i
  calls := 2 * (n * n)

private theorem get_hessianOf (cost : α) (h : Vector α n) (values : Probe n → α) (i j : Fin n) :
    ((hessianOf cost h values).hessian.get i).get j =
      if i ≤ j then entryOf cost h values i j else entryOf cost h values j i :=
  RowMatrix.get_ofEntries _ i j

theorem mirrored_comm {value : Type} (entry : Fin n → Fin n → value) (i j : Fin n) :
    (if j ≤ i then entry j i else entry i j) = if i ≤ j then entry i j else entry j i := by
  rcases lt_trichotomy i j with above | rfl | below
  · rw [if_neg (not_le_of_gt above), if_pos (le_of_lt above)]
  · rfl
  · rw [if_pos (le_of_lt below), if_neg (not_le_of_gt below)]

theorem transpose_hessianOf (cost : α) (h : Vector α n) (values : Probe n → α) :
    (hessianOf cost h values).hessian.transpose = (hessianOf cost h values).hessian := by
  refine congrArg RowMatrix.ofEntries (funext fun i => funext fun j => ?_)
  rw [get_hessianOf, mirrored_comm]

theorem diagonal_hessianOf (cost : α) (h : Vector α n) (values : Probe n → α) (i : Fin n) :
    ((hessianOf cost h values).hessian.get i).get i =
      (gradientOf cost h values).curvature.get i := by
  rw [get_hessianOf, if_pos (Fin.le_refl i), entryOf, if_pos rfl]
  change _ = (Vector.ofFn _)[i.val]
  rw [Vector.getElem_ofFn]

/-! ## Jobs of a derivative -/

section

variable (x h : Vector α n)

theorem pair_reads (i : Fin n) :
    (pair x h i).Reads x h (Probe.pair i)
      fun values => (values (.single i true), values (.single i false)) :=
  .asks (fun above values => (above, values (.single i false)))
    (fun above => .asks (fun below _ => (above, below))
      (fun _ => .done _ fun _ => rfl) fun _ => rfl) fun _ => rfl

theorem entry_reads (cost : α) (i j : Fin n) :
    (entry x cost h i j).Reads x h (ofEntry i j) (entryOf cost h · i j) := by
  unfold ofEntry entry entryOf
  split
  · exact .asks (fun above values =>
        secondDifference cost (h.get i) (above, values (.single i false)))
      (fun above => .asks (fun below _ => secondDifference cost (h.get i) (above, below))
        (fun _ => .done _ fun _ => rfl) fun _ => rfl) fun _ => rfl
  · let quotient (a b c d : α) :=
      (a - b - c + d) / (Scalar.double (Scalar.double (h.get i)) * h.get j)
    let corner := Probe.corner i j
    exact .asks (fun a values => quotient a (values (corner true false))
        (values (corner false true)) (values (corner false false)))
      (fun a => .asks (fun b values => quotient a b (values (corner false true))
          (values (corner false false)))
        (fun b => .asks (fun c values => quotient a b c (values (corner false false)))
          (fun c => .asks (fun d _ => quotient a b c d)
            (fun _ => .done _ fun _ => rfl) fun _ => rfl) fun _ => rfl) fun _ => rfl) fun _ => rfl

end

/-! ## Steady objectives -/

section

variable {objective : Objective α σ ε} {x h : Vector α n} {probes : List (Probe n)}
  {values : Probe n → α} {memory : σ}

def unlessMissing {β : Type} (probes : List (Probe n)) (values : Probe n → α)
    (estimate : β) : Option β :=
  if probes.all fun probe => Scalar.isFinite (values probe) then some estimate else none

theorem unlessMissing_of_finite {β : Type} {estimate : β}
    (finite : ∀ probe ∈ probes, Scalar.isFinite (values probe) = true) :
    unlessMissing probes values estimate = some estimate :=
  if_pos (List.all_eq_true.mpr finite)

theorem unlessMissing_of_missing {β : Type} {estimate : β}
    (missing : ¬∀ probe ∈ probes, Scalar.isFinite (values probe) = true) :
    unlessMissing probes values estimate = none :=
  if_neg (mt List.all_eq_true.mp missing)

/-- The objective answers at some probes with these values, and remembers nothing of it. -/
def Steady (objective : Objective α σ ε) (x h : Vector α n) (probes : List (Probe n))
    (values : Probe n → α) : Prop :=
  ∀ probe ∈ probes, ∀ memory,
    objective.evaluate (probe.point x h).toList memory = (.ok (values probe), memory)

/-- A value that is not finite is the only reason to have no estimate. -/
def Missing (probes : List (Probe n)) (values : Probe n → α) : DifferenceError α ε → Prop
  | .objective _ => False
  | .nonFinite _ _ => ∃ probe ∈ probes, Scalar.isFinite (values probe) = false

private theorem steady_ensures (steady : Steady objective x h probes values) {probe : Probe n}
    (member : probe ∈ probes) :
    Computation.Ensures (Eq memory) (Missing probes values)
      (fun value => value = values probe ∧ Scalar.isFinite value = true)
      (sample objective probe.index (probe.point x h)) where
  memory {start} begun := by
    rw [sample_memory, steady probe member start]
    exact begun
  answers _ sampled := by
    rcases sample_eq_ok sampled with ⟨evaluates, finite⟩
    cases (steady probe member _).symm.trans evaluates
    exact ⟨rfl, finite⟩
  errors _ failed := by
    rcases sample_eq_error failed with ⟨answer, evaluates, faulty⟩
    cases (steady probe member _).symm.trans evaluates
    rw [fault?] at faulty
    split at faulty
    · cases faulty
    · rename_i infinite
      cases faulty
      exact ⟨probe, member, Bool.eq_false_iff.mpr infinite⟩

private theorem finiteOnly_of_ensures {β : Type} {result : (Probe n → α) → β}
    {computation : Evaluation σ (DifferenceError α ε) β}
    (ensures : Computation.Ensures (Eq memory) (Missing probes values)
      (Reading (fun probe value => value = values probe ∧ Scalar.isFinite value = true)
        probes result) computation)
    (congr : ∀ others, (∀ probe ∈ probes, others probe = values probe) →
      result others = result values) :
    finiteOnly computation memory =
      (.ok (unlessMissing probes values (result values)), memory) := by
  rw [finiteOnly_apply]
  have kept := ensures.memory rfl
  rcases ended : computation memory with ⟨(cause | ⟨index, value⟩) | answer, after⟩
  · exact (ensures.errors rfl ended).elim
  · rcases ensures.errors rfl ended with ⟨probe, member, infinite⟩
    have missing : ¬∀ probe ∈ probes, Scalar.isFinite (values probe) = true := fun finite =>
      Bool.false_ne_true (infinite.symm.trans (finite probe member))
    rw [ended] at kept
    rw [unlessMissing_of_missing missing, kept]
    rfl
  · rcases ensures.answers rfl ended with ⟨others, read, rfl⟩
    have finite (probe : Probe n) (member : probe ∈ probes) :
        Scalar.isFinite (values probe) = true := (read probe member).1 ▸ (read probe member).2
    rw [ended] at kept
    have same := congr others fun probe member => (read probe member).1
    rw [unlessMissing_of_finite finite, same, kept]
    rfl

end

/-! ## Estimates with any turns -/

section

variable (differences : Differences α n) {objective : Objective α σ ε} {holds : σ → Prop}
  {allowed : DifferenceError α ε → Prop} {right : Probe n → α → Prop} (x : Vector α n) (cost : α)

/-- Whatever turns its jobs take, a gradient is estimated from right values of its probes. -/
theorem gradient_ensures
    (samples : ∀ probe ∈ ofGradient n, Computation.Ensures holds allowed (right probe)
      (sample objective probe.index (probe.point x (differences.perturbations x)))) :
    Computation.Ensures holds allowed
      (Reading right (ofGradient n) (gradientOf cost (differences.perturbations x)))
      (differences.gradient objective x cost) := by
  let h := differences.perturbations x
  have listed (i : Fin n) : Probe.pair i ⊆ ofGradient n := fun _ member =>
    List.mem_flatMap.mpr ⟨i, List.mem_finRange i, member⟩
  have begun (i : Fin n) : Progress.Ensures objective holds allowed
      (Reading right (Probe.pair i) fun values =>
        (values (.single i true), values (.single i false))) (.ok (pair x h i)) :=
    (pair_reads x h i).ensures (by simp [Probe.pair]) fun probe member =>
      samples probe (listed i member)
  apply Computation.Ensures.bind (takeTurns_ensures _ begun)
  intro jobs ensured
  apply Computation.Ensures.bind (.ofFnM fun i => (ensured i).finish)
  intro pairs read
  choose values rights equal using read
  refine .pure ⟨fun probe => values probe.index probe, fun probe member => ?_, ?_⟩
  · rcases List.mem_flatMap.mp member with ⟨i, _, along⟩
    have indexed : probe.index = i := (mem_ofEntry (by rwa [ofEntry, if_pos rfl])).1
    dsimp only
    rw [indexed]
    exact rights i probe along
  · simp only [equal]
    rfl

theorem hessian_ensures
    (samples : ∀ probe ∈ ofHessian n, Computation.Ensures holds allowed (right probe)
      (sample objective probe.index (probe.point x (differences.perturbations x)))) :
    Computation.Ensures holds allowed
      (Reading right (ofHessian n) (hessianOf cost (differences.perturbations x)))
      (differences.hessian objective x cost) := by
  let h := differences.perturbations x
  have begun (place : Fin n × Fin n) : Progress.Ensures objective holds allowed
      (fun entry => place.1 ≤ place.2 →
        Reading right (ofEntry place.1 place.2) (entryOf cost h · place.1 place.2) entry)
      (.ok (if place.1 ≤ place.2 then entry x cost h place.1 place.2 else .done 0)) := by
    split
    · rename_i above
      apply ((entry_reads x h cost place.1 place.2).ensures (nodup_ofEntry _ _)
        fun probe member => samples probe (ofEntry_subset above member)).mono
      exact fun _ read _ => read
    · rename_i below
      exact fun above => absurd above below
  apply Computation.Ensures.bind (takeTurns_ensures _ begun)
  intro jobs ensured
  apply Computation.Ensures.bind (.ofFnM fun i => .ofFnM fun j => (ensured (i, j)).finish)
  intro upper read
  choose values rights equal using read
  -- Each probe belongs to one entry on or above the diagonal, which has its value.
  let known (probe : Probe n) : α :=
    if above : probe.index ≤ probe.column then values probe.index probe.column above probe else 0
  have known_eq {i j : Fin n} (above : i ≤ j) {probe : Probe n} (member : probe ∈ ofEntry i j) :
      known probe = values i j above probe := by
    rcases mem_ofEntry member with ⟨rfl, rfl⟩
    exact dif_pos above
  have told {i j : Fin n} (above : i ≤ j) :
      (upper.get i).get j = entryOf cost h known i j :=
    (equal i j above).trans
      ((entry_reads x h cost i j).congr fun _ member => (known_eq above member).symm)
  refine .pure ⟨known, fun probe member => ?_, ?_⟩
  · rcases mem_ofHessian.mp member with ⟨i, j, above, within⟩
    rw [known_eq above within]
    exact rights i j above probe within
  · unfold hessianOf
    rw [hessian_charge]
    refine congrArg (HessianEstimate.mk · _) (congrArg RowMatrix.ofEntries ?_)
    funext i j
    split
    · rename_i above
      exact told above
    · rename_i below
      exact told (le_of_not_ge below)

theorem gradientOf_congr {h : Vector α n} {values others : Probe n → α}
    (agree : ∀ probe ∈ ofGradient n, values probe = others probe) :
    gradientOf cost h values = gradientOf cost h others := by
  have same (i : Fin n) (up : Bool) := agree (.single i up) (mem_ofGradient.mpr ⟨i, up, rfl⟩)
  simp only [gradientOf, same]

theorem hessianOf_congr {h : Vector α n} {values others : Probe n → α}
    (agree : ∀ probe ∈ ofHessian n, values probe = others probe) :
    hessianOf cost h values = hessianOf cost h others := by
  have same {i j : Fin n} (above : i ≤ j) : entryOf cost h values i j = entryOf cost h others i j :=
    (entry_reads h h cost i j).congr fun probe member =>
      agree probe (ofEntry_subset above member)
  unfold hessianOf
  refine congrArg (HessianEstimate.mk · _) (congrArg RowMatrix.ofEntries ?_)
  funext i j
  split
  · rename_i above
    exact same above
  · rename_i below
    exact same (le_of_not_ge below)

variable {differences x cost} {memory : σ} {values : Probe n → α}

theorem gradient_of_values (begun : holds memory)
    (samples : ∀ probe ∈ ofGradient n,
      Computation.Ensures holds (fun _ => False) (· = values probe)
        (sample objective probe.index (probe.point x (differences.perturbations x)))) :
    ∃ after, differences.gradient objective x cost memory =
      (.ok (gradientOf cost (differences.perturbations x) values), after) ∧ holds after := by
  rcases (gradient_ensures differences x cost samples).succeeds begun with
    ⟨estimate, after, found, ⟨others, agree, rfl⟩, kept⟩
  rw [gradientOf_congr cost agree] at found
  exact ⟨after, found, kept⟩

theorem hessian_of_values (begun : holds memory)
    (samples : ∀ probe ∈ ofHessian n,
      Computation.Ensures holds (fun _ => False) (· = values probe)
        (sample objective probe.index (probe.point x (differences.perturbations x)))) :
    ∃ after, differences.hessian objective x cost memory =
      (.ok (hessianOf cost (differences.perturbations x) values), after) ∧ holds after := by
  rcases (hessian_ensures differences x cost samples).succeeds begun with
    ⟨estimate, after, found, ⟨others, agree, rfl⟩, kept⟩
  rw [hessianOf_congr cost agree] at found
  exact ⟨after, found, kept⟩

theorem finiteOnly_gradient
    (steady : Steady objective x (differences.perturbations x) (ofGradient n) values) :
    finiteOnly (differences.gradient objective x cost) memory =
      (.ok (unlessMissing (ofGradient n) values
        (gradientOf cost (differences.perturbations x) values)), memory) :=
  finiteOnly_of_ensures
    (gradient_ensures differences x cost fun _ member => steady_ensures steady member)
    fun _ agree => gradientOf_congr cost agree

theorem finiteOnly_hessian
    (steady : Steady objective x (differences.perturbations x) (ofHessian n) values) :
    finiteOnly (differences.hessian objective x cost) memory =
      (.ok (unlessMissing (ofHessian n) values
        (hessianOf cost (differences.perturbations x) values)), memory) :=
  finiteOnly_of_ensures
    (hessian_ensures differences x cost fun _ member => steady_ensures steady member)
    fun _ agree => hessianOf_congr cost agree

variable {after : σ}

theorem gradient_eq_ok {estimate : GradientEstimate α n}
    (found : differences.gradient objective x cost memory = (.ok estimate, after)) :
    ∃ values, (∀ probe ∈ ofGradient n,
        objective.Answers (probe.point x (differences.perturbations x)).toList (values probe) ∧
          Scalar.isFinite (values probe) = true) ∧
      estimate = gradientOf cost (differences.perturbations x) values :=
  (gradient_ensures differences x cost fun _ => sample_ensures).answers trivial found

theorem gradient_eq_error {fault : DifferenceError α ε}
    (failed : differences.gradient objective x cost memory = (.error fault, after)) :
    HasFault objective x (differences.perturbations x) (ofGradient n) fault :=
  (gradient_ensures differences x cost fun _ => sample_ensures).errors trivial failed

theorem hessian_eq_ok {estimate : HessianEstimate α n}
    (found : differences.hessian objective x cost memory = (.ok estimate, after)) :
    ∃ values, (∀ probe ∈ ofHessian n,
        objective.Answers (probe.point x (differences.perturbations x)).toList (values probe) ∧
          Scalar.isFinite (values probe) = true) ∧
      estimate = hessianOf cost (differences.perturbations x) values :=
  (hessian_ensures differences x cost fun _ => sample_ensures).answers trivial found

theorem hessian_eq_error {fault : DifferenceError α ε}
    (failed : differences.hessian objective x cost memory = (.error fault, after)) :
    HasFault objective x (differences.perturbations x) (ofHessian n) fault :=
  (hessian_ensures differences x cost fun _ => sample_ensures).errors trivial failed

end

/-! ## Estimates in order -/

section

variable {differences : Differences α n} (inOrder : differences.parallel = false)
  (objective : Objective α σ ε) (x : Vector α n) (cost : α)

include inOrder

theorem gradient_samples :
    Samples objective x (differences.perturbations x) (ofGradient n)
      (differences.gradient objective x cost)
      (gradientOf cost (differences.perturbations x)) := by
  have pairs := Samples.ofFnM fun i =>
    Samples.of_reads objective (pair_reads x (differences.perturbations x) i)
  unfold gradient
  rw [inOrder]
  refine pairs.map.of_eq fun values => ?_
  have get_pairs (i : Fin n) : (Vector.ofFn fun i =>
      (values (.single i true), values (.single i false))).get i =
        (values (.single i true), values (.single i false)) := Vector.getElem_ofFn i.isLt
  simp only [gradientOf, get_pairs]

theorem hessian_samples :
    Samples objective x (differences.perturbations x) (ofHessian n)
      (differences.hessian objective x cost)
      (hessianOf cost (differences.perturbations x)) := by
  let h := differences.perturbations x
  have place_reads (i j : Fin n) :
      (if i ≤ j then entry x cost h i j else .done 0).Reads x h (if i ≤ j then ofEntry i j else [])
        (fun values => if i ≤ j then entryOf cost h values i j else 0) := by
    split
    · exact entry_reads x h cost i j
    · exact .done 0 fun _ => rfl
  have upper := Samples.ofFnM fun i => Samples.ofFnM fun j =>
    Samples.of_reads objective (place_reads i j)
  unfold hessian
  rw [inOrder]
  refine upper.map.of_eq fun values => ?_
  have get_upper (i j : Fin n) := RowMatrix.get_ofEntries
    (fun i j => if i ≤ j then entryOf cost h values i j else 0) i j
  change HessianEstimate.mk _ _ = HessianEstimate.mk _ _
  congr 1
  · congr 1
    funext i j
    unfold RowMatrix.ofEntries at get_upper
    rw [get_upper, get_upper]
    split
    · rfl
    · rename_i below
      rw [if_pos (le_of_not_ge below)]
  · exact hessian_charge n

end

/-! ## Central differences -/

section

variable {differences : Differences α n} {objective : Objective α σ ε} {x : Vector α n} {cost : α}
  {memory after : σ}

theorem get_perturbations (differences : Differences α n) (x : Vector α n) (i : Fin n) :
    (differences.perturbations x).get i = differences.perturbation i (x.get i) :=
  Vector.getElem_ofFn i.isLt

/-- A slope along parameter `i` is the central difference of two finite answers of the
objective, one perturbation above and one below a point. -/
structure Spans (differences : Differences α n) (objective : Objective α σ ε) (x : Vector α n)
    (i : Fin n) (above below slope : α) : Prop where
  above_answered :
    objective.Answers (shift x i (differences.perturbation i (x.get i))).toList above
  below_answered :
    objective.Answers (shift x i (-differences.perturbation i (x.get i))).toList below
  above_finite : Scalar.isFinite above = true
  below_finite : Scalar.isFinite below = true
  slope_eq : slope = (above - below) / Scalar.double (differences.perturbation i (x.get i))

theorem Spans.withSchedule {i : Fin n} {above below slope : α}
    (spans : differences.Spans objective x i above below slope) (parallel : Bool)
    (schedule : Schedule n) :
    ({ differences with parallel := parallel, schedule := schedule } : Differences α n).Spans
      objective x i above below slope :=
  ⟨spans.above_answered, spans.below_answered, spans.above_finite, spans.below_finite,
    spans.slope_eq⟩

theorem gradient_spans {estimate : GradientEstimate α n}
    (found : differences.gradient objective x cost memory = (.ok estimate, after)) (i : Fin n) :
    ∃ above below, differences.Spans objective x i above below (estimate.gradient.get i) := by
  rcases gradient_eq_ok found with ⟨values, answered, rfl⟩
  have up := answered _ (mem_ofGradient.mpr ⟨i, true, rfl⟩)
  have down := answered _ (mem_ofGradient.mpr ⟨i, false, rfl⟩)
  simp only [point, offset, if_true, Bool.false_eq_true, if_false, get_perturbations] at up down
  refine ⟨_, _, up.1, down.1, up.2, down.2, ?_⟩
  rw [get_gradientOf, get_perturbations]

end

end CurveFitting.Differences
