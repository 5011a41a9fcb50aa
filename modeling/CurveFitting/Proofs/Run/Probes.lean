import CurveFitting.Differences
import CurveFitting.Proofs.Run.Recording
import Mathlib.Algebra.BigOperators.Fin
import Mathlib.Data.List.Nodup

/-! # Probes

A derivative at a point is an estimate from the values at probes around it. The probes
come in a fixed list, and an estimate evaluates them in its order. While the answers are
finite values it goes on; the first other answer ends it.
-/

namespace CurveFitting

variable {α σ ε : Type} {n : Nat}

/-- A place around a point at which an objective is sampled. One parameter is moved by its
perturbation, or two are, each up or down. -/
inductive Probe (n : Nat) where
  | single (i : Fin n) (up : Bool)
  | corner (i j : Fin n) (iUp jUp : Bool)
  deriving DecidableEq

namespace Probe

/-- The parameter for which a failure at the probe is reported. -/
def index : Probe n → Fin n
  | single i _ => i
  | corner i _ _ _ => i

def pair (i : Fin n) : List (Probe n) := [single i true, single i false]

def corners (i j : Fin n) : List (Probe n) :=
  [corner i j true true, corner i j true false, corner i j false true, corner i j false false]

def ofEntry (i j : Fin n) : List (Probe n) := if i = j then pair i else corners i j

/-- The probes of a gradient, in order: parameter by parameter. -/
def ofGradient (n : Nat) : List (Probe n) := (List.finRange n).flatMap pair

/-- The probes of a Hessian, in order: row by row, each from the diagonal on. -/
def ofHessian (n : Nat) : List (Probe n) :=
  (List.finRange n).flatMap fun i => (List.finRange n).flatMap fun j =>
    if i ≤ j then ofEntry i j else []

variable [Scalar α]

def offset (h : Vector α n) (i : Fin n) (up : Bool) : α := if up then h.get i else -h.get i

def point (x h : Vector α n) : Probe n → Vector α n
  | single i up => Differences.shift x i (offset h i up)
  | corner i j iUp jUp =>
      Differences.shift (Differences.shift x i (offset h i iUp)) j (offset h j jUp)

def points (x h : Vector α n) (probes : List (Probe n)) : List (List α) :=
  probes.map fun probe => (probe.point x h).toList

/-- What is wrong with an answer to a probe, unless it is a finite value. -/
def fault? (probe : Probe n) : Except ε α → Option (DifferenceError α ε)
  | .error cause => some (.objective cause)
  | .ok value => if Scalar.isFinite value then none else some (.nonFinite probe.index value)

theorem fault?_eq_nonFinite {probe : Probe n} {answer : Except ε α} {index : Nat} {value : α}
    (faulty : probe.fault? answer = some (.nonFinite index value)) :
    answer = .ok value ∧ Scalar.isFinite value = false := by
  cases answer with
  | error => cases faulty
  | ok given =>
      by_cases finite : Scalar.isFinite given = true
      · rw [fault?, if_pos finite] at faulty
        cases faulty
      · rw [fault?, if_neg finite] at faulty
        cases faulty
        exact ⟨rfl, Bool.eq_false_iff.mpr finite⟩

theorem fault?_eq_none_iff {probe : Probe n} {answer : Except ε α} :
    probe.fault? answer = none ↔ ∃ value, answer = .ok value ∧ Scalar.isFinite value = true := by
  cases answer with
  | error => simp [fault?]
  | ok value => simp [fault?]

/-! ## Places of probes -/

variable (x h : Vector α n)

private theorem get_shift (x : Vector α n) (i l : Fin n) (distance : α) :
    (Differences.shift x i distance).get l =
      if l = i then x.get i + distance else x.get l := by
  change (x.set i (x.get i + distance) i.isLt)[l.val] = _
  rw [Vector.getElem_set]
  rcases eq_or_ne l i with rfl | elsewhere
  · rw [if_pos rfl, if_pos rfl]
  · rw [if_neg (Fin.val_ne_of_ne elsewhere.symm), if_neg elsewhere]
    rfl

theorem get_single (i l : Fin n) (up : Bool) :
    ((single i up).point x h).get l = if l = i then x.get i + offset h i up else x.get l :=
  get_shift x i l _

theorem get_corner {i j : Fin n} (different : i ≠ j) (l : Fin n) (iUp jUp : Bool) :
    ((corner i j iUp jUp).point x h).get l =
      if l = i then x.get i + offset h i iUp
      else if l = j then x.get j + offset h j jUp
      else x.get l := by
  rw [point, get_shift, get_shift, get_shift, if_neg different.symm]
  split
  · rename_i second
    rw [if_neg (second ▸ different.symm)]
  · rfl

/-! ## Lists of probes -/

omit [Scalar α] in
private theorem nodup_flatMap {element : Type} {lists : Fin n → List element}
    {key : element → Fin n} (each : ∀ i, (lists i).Nodup)
    (keyed : ∀ i, ∀ entry ∈ lists i, key entry = i) :
    ((List.finRange n).flatMap lists).Nodup := by
  rw [List.nodup_flatMap]
  refine ⟨fun i _ => each i, (List.nodup_finRange n).imp fun {i j} different => ?_⟩
  intro entry first second
  exact different ((keyed i entry first).symm.trans (keyed j entry second))

def column : Probe n → Fin n
  | single i _ => i
  | corner _ j _ _ => j

omit [Scalar α] in
theorem nodup_ofEntry (i j : Fin n) : (ofEntry i j).Nodup := by
  unfold ofEntry
  split
  · simp [pair]
  · simp [corners]

omit [Scalar α] in
theorem mem_ofEntry {i j : Fin n} {probe : Probe n} (member : probe ∈ ofEntry i j) :
    probe.index = i ∧ probe.column = j := by
  unfold ofEntry at member
  split at member
  · rename_i same
    simp only [pair, List.mem_cons, List.not_mem_nil, or_false] at member
    rcases member with rfl | rfl <;> exact ⟨rfl, same⟩
  · simp only [corners, List.mem_cons, List.not_mem_nil, or_false] at member
    rcases member with rfl | rfl | rfl | rfl <;> exact ⟨rfl, rfl⟩

omit [Scalar α] in
theorem nodup_ofGradient (n : Nat) : (ofGradient n).Nodup := by
  apply nodup_flatMap
  · intro i
    simp [pair]
  · intro i probe member
    exact (mem_ofEntry (by rwa [ofEntry, if_pos rfl])).1

omit [Scalar α] in
theorem nodup_ofHessian (n : Nat) : (ofHessian n).Nodup := by
  have above {i j : Fin n} {probe : Probe n} (member : probe ∈ if i ≤ j then ofEntry i j else []) :
      probe ∈ ofEntry i j := by
    split at member
    · exact member
    · cases member
  apply nodup_flatMap
  · intro i
    apply nodup_flatMap
    · intro j
      split
      · exact nodup_ofEntry i j
      · exact List.nodup_nil
    · intro j probe member
      exact (mem_ofEntry (above member)).2
  · intro i probe member
    rcases List.mem_flatMap.mp member with ⟨j, _, member⟩
    exact (mem_ofEntry (above member)).1

omit [Scalar α] in
theorem mem_ofHessian {probe : Probe n} :
    probe ∈ ofHessian n ↔ ∃ i j, i ≤ j ∧ probe ∈ ofEntry i j := by
  simp only [ofHessian, List.mem_flatMap, List.mem_finRange, true_and, List.mem_ite_nil_right]

omit [Scalar α] in
theorem ofEntry_subset {i j : Fin n} (above : i ≤ j) : ofEntry i j ⊆ ofHessian n :=
  fun _ member => mem_ofHessian.mpr ⟨i, j, above, member⟩

omit [Scalar α] in
theorem ofGradient_subset (n : Nat) : ofGradient n ⊆ ofHessian n := by
  intro probe member
  rcases List.mem_flatMap.mp member with ⟨i, _, along⟩
  exact ofEntry_subset (Fin.le_refl i) (by rwa [ofEntry, if_pos rfl])

omit [Scalar α] in
theorem mem_ofGradient {probe : Probe n} :
    probe ∈ ofGradient n ↔ ∃ i up, probe = single i up := by
  simp [ofGradient, pair, or_comm]

omit [Scalar α] in
theorem length_ofGradient (n : Nat) : (ofGradient n).length = 2 * n := by
  rw [ofGradient, List.length_flatMap]
  simp [pair, Nat.mul_comm]

omit [Scalar α] in
theorem sum_entry_lengths (n : Nat) :
    ∑ i : Fin n, ∑ j : Fin n, (if i ≤ j then if i = j then 2 else 4 else 0) = 2 * (n * n) := by
  have twice : ∀ i j : Fin n, (if i ≤ j then if i = j then 2 else 4 else 0) +
      (if j ≤ i then if j = i then 2 else 4 else 0) = 4 := by
    intro i j
    rcases lt_trichotomy i j with above | rfl | below
    · simp [le_of_lt above, not_le_of_gt above, ne_of_lt above]
    · simp
    · simp [le_of_lt below, not_le_of_gt below, ne_of_lt below]
  have total : ∑ i : Fin n, ∑ j : Fin n, ((if i ≤ j then if i = j then 2 else 4 else 0) +
      (if j ≤ i then if j = i then 2 else 4 else 0)) = 4 * (n * n) := by
    simp only [twice, Finset.sum_const, Finset.card_univ, Fintype.card_fin, smul_eq_mul]
    rw [← Nat.mul_assoc, Nat.mul_comm]
  simp only [Finset.sum_add_distrib] at total
  have turned := Finset.sum_comm (s := Finset.univ) (t := Finset.univ)
    (f := fun i j : Fin n => if j ≤ i then if j = i then 2 else 4 else 0)
  omega

omit [Scalar α] in
theorem length_ofEntry (i j : Fin n) : (ofEntry i j).length = if i = j then 2 else 4 := by
  unfold ofEntry
  split <;> rfl

omit [Scalar α] in
theorem length_ofHessian (n : Nat) : (ofHessian n).length = 2 * (n * n) := by
  have row (i : Fin n) : ((List.finRange n).flatMap fun j =>
      if i ≤ j then ofEntry i j else []).length =
        ∑ j, if i ≤ j then if i = j then 2 else 4 else 0 := by
    rw [List.length_flatMap, Fin.sum_univ_def]
    congr 2
    funext j
    rw [apply_ite List.length, length_ofEntry, List.length_nil]
  rw [ofHessian, List.length_flatMap, ← sum_entry_lengths n, Fin.sum_univ_def]
  simp only [row]

/-! ## Evaluations in turn -/

/-- The answer to a probe of a list, when all probes before it are evaluated first. -/
def answerTo (objective : Objective α σ ε) (x h : Vector α n) (probes : List (Probe n))
    (memory : σ) (place : Nat) (within : place < probes.length) : Except ε α :=
  objective.answerAfter (points x h (probes.take place)) memory
    (probes[place].point x h).toList

/-- The first fault among the answers to probes that are evaluated in turn, and the memory
after it, or after all of them. -/
def firstFault? (objective : Objective α σ ε) (x h : Vector α n) :
    List (Probe n) → σ → Option (DifferenceError α ε) × σ
  | [], memory => (none, memory)
  | probe :: probes, memory =>
      let (answer, after) := objective.evaluate (probe.point x h).toList memory
      match probe.fault? answer with
      | some fault => (some fault, after)
      | none => firstFault? objective x h probes after

/-- Probes that are evaluated in turn are answered with the given values. -/
def Answered (objective : Objective α σ ε) (x h : Vector α n) (values : Probe n → α) :
    List (Probe n) → σ → Prop
  | [], _ => True
  | probe :: probes, memory =>
      (objective.evaluate (probe.point x h).toList memory).1 = .ok (values probe) ∧
        Answered objective x h values probes
          (objective.evaluate (probe.point x h).toList memory).2

variable {objective : Objective α σ ε} {x h} {probes others : List (Probe n)}
  {memory after : σ}

theorem firstFault?_cons {probe : Probe n} {answer : Except ε α}
    (evaluates : objective.evaluate (probe.point x h).toList memory = (answer, after)) :
    firstFault? objective x h (probe :: probes) memory =
      match probe.fault? answer with
      | some fault => (some fault, after)
      | none => firstFault? objective x h probes after := by
  rw [firstFault?, evaluates]

theorem firstFault?_append_of_some {fault : DifferenceError α ε}
    (found : firstFault? objective x h probes memory = (some fault, after)) :
    firstFault? objective x h (probes ++ others) memory = (some fault, after) := by
  induction probes generalizing memory with
  | nil => cases found
  | cons probe probes induction =>
      rcases evaluates : objective.evaluate (probe.point x h).toList memory with ⟨answer, middle⟩
      rw [firstFault?_cons evaluates] at found
      rw [List.cons_append, firstFault?_cons evaluates]
      cases faulty : probe.fault? answer with
      | some _ => rwa [faulty] at found
      | none =>
          rw [faulty] at found
          exact induction found

theorem firstFault?_append_of_none
    (found : firstFault? objective x h probes memory = (none, after)) :
    firstFault? objective x h (probes ++ others) memory =
      firstFault? objective x h others after := by
  induction probes generalizing memory with
  | nil =>
      cases found
      rfl
  | cons probe probes induction =>
      rcases evaluates : objective.evaluate (probe.point x h).toList memory with ⟨answer, middle⟩
      rw [firstFault?_cons evaluates] at found
      rw [List.cons_append, firstFault?_cons evaluates]
      cases faulty : probe.fault? answer with
      | some _ =>
          rw [faulty] at found
          cases found
      | none =>
          rw [faulty] at found
          exact induction found

theorem answered_append {values : Probe n → α}
    (found : firstFault? objective x h probes memory = (none, after)) :
    Answered objective x h values (probes ++ others) memory ↔
      Answered objective x h values probes memory ∧ Answered objective x h values others after := by
  induction probes generalizing memory with
  | nil =>
      cases found
      exact (and_iff_right trivial).symm
  | cons probe probes induction =>
      rcases evaluates : objective.evaluate (probe.point x h).toList memory with ⟨answer, middle⟩
      rw [firstFault?_cons evaluates] at found
      rw [List.cons_append, Answered, Answered, evaluates]
      cases faulty : probe.fault? answer with
      | some _ =>
          rw [faulty] at found
          cases found
      | none =>
          rw [faulty] at found
          rw [induction found, and_assoc]

/-! ## Faults in their places -/

private theorem answerTo_zero {probe : Probe n} (within : 0 < (probe :: probes).length) :
    answerTo objective x h (probe :: probes) memory 0 within =
      (objective.evaluate (probe.point x h).toList memory).1 := rfl

private theorem answerTo_succ {probe : Probe n} {place : Nat}
    (within : place + 1 < (probe :: probes).length) :
    answerTo objective x h (probe :: probes) memory (place + 1) within =
      answerTo objective x h probes
        (objective.evaluate (probe.point x h).toList memory).2 place
        (Nat.lt_of_succ_lt_succ within) := rfl

theorem firstFault?_of_faultless (faultless : ∀ place (within : place < probes.length),
      probes[place].fault? (answerTo objective x h probes memory place within) = none) :
    firstFault? objective x h probes memory =
      (none, objective.memoryAfter (points x h probes) memory) := by
  induction probes generalizing memory with
  | nil => rfl
  | cons probe probes induction =>
      rcases evaluates : objective.evaluate (probe.point x h).toList memory with ⟨answer, middle⟩
      have first := faultless 0 (Nat.zero_lt_succ _)
      have rest := fun place within => faultless (place + 1) (Nat.succ_lt_succ within)
      rw [answerTo_zero, evaluates, List.getElem_cons_zero] at first
      simp only [answerTo_succ, evaluates, List.getElem_cons_succ] at rest
      rw [firstFault?_cons evaluates, first, points, List.map_cons, Objective.memoryAfter_cons,
        evaluates]
      exact induction rest

/-- The first answer with a fault is the last one that is asked for. -/
theorem firstFault?_of_fault {place : Nat} (within : place < probes.length)
    {fault : DifferenceError α ε}
    (faultless : ∀ earlier (listed : earlier < probes.length), earlier < place →
      probes[earlier].fault? (answerTo objective x h probes memory earlier listed) = none)
    (faulty : probes[place].fault? (answerTo objective x h probes memory place within) =
      some fault) :
    firstFault? objective x h probes memory =
      (some fault, objective.memoryAfter (points x h (probes.take (place + 1))) memory) := by
  induction probes generalizing memory place with
  | nil => exact absurd within (Nat.not_lt_zero _)
  | cons probe probes induction =>
      rcases evaluates : objective.evaluate (probe.point x h).toList memory with ⟨answer, middle⟩
      rw [firstFault?_cons evaluates, List.take_succ_cons, points, List.map_cons,
        Objective.memoryAfter_cons, evaluates]
      cases place with
      | zero =>
          rw [answerTo_zero, evaluates, List.getElem_cons_zero] at faulty
          rw [faulty]
          rfl
      | succ place =>
          have first := faultless 0 (Nat.zero_lt_succ _) (Nat.zero_lt_succ _)
          have rest := fun earlier listed before =>
            faultless (earlier + 1) (Nat.succ_lt_succ listed) (Nat.succ_lt_succ before)
          rw [answerTo_zero, evaluates, List.getElem_cons_zero] at first
          simp only [answerTo_succ, evaluates, List.getElem_cons_succ] at rest faulty
          rw [first]
          exact induction (Nat.lt_of_succ_lt_succ within) rest faulty

theorem exists_values (distinct : probes.Nodup)
    (faultless : ∀ place (within : place < probes.length),
      probes[place].fault? (answerTo objective x h probes memory place within) = none) :
    ∃ values : Probe n → α, ∀ place (within : place < probes.length),
      answerTo objective x h probes memory place within = .ok (values probes[place]) := by
  have valued (place : Nat) (within : place < probes.length) : ∃ value : α,
      answerTo objective x h probes memory place within = .ok value := by
    rcases fault?_eq_none_iff.mp (faultless place within) with ⟨value, answered, -⟩
    exact ⟨value, answered⟩
  choose value holds using valued
  refine ⟨fun probe => if member : probe ∈ probes then
    value (probes.idxOf probe) (List.idxOf_lt_length_of_mem member) else 0, ?_⟩
  intro place within
  -- Distinct probes have one place each, so each value belongs to its probe.
  have found : probes.idxOf probes[place] = place := distinct.idxOf_getElem place within
  simp only [List.getElem_mem, dite_true, found]
  exact holds place within

theorem answered_of_values {values : Probe n → α}
    (valued : ∀ place (within : place < probes.length),
      answerTo objective x h probes memory place within = .ok (values probes[place])) :
    Answered objective x h values probes memory := by
  induction probes generalizing memory with
  | nil => trivial
  | cons probe probes induction =>
      have rest := fun place within => valued (place + 1) (Nat.succ_lt_succ within)
      simp only [answerTo_succ] at rest
      exact ⟨valued 0 (Nat.zero_lt_succ _), induction rest⟩

end Probe

end CurveFitting
