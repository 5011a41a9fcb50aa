import Mathlib.Data.List.Forall2
import CurveFitting.Linear.RowMatrix

/-! # Sums of related terms

What addition keeps is kept by a sum in any of the two orders. Stated for relations: terms
that are related one by one have related sums.
-/

namespace CurveFitting

/-! ## Related vectors -/

section

variable {α β γ δ : Type} {n : Nat}

def Entrywise (related : α → β → Prop) (left : Vector α n) (right : Vector β n) : Prop :=
  ∀ i, related (left.get i) (right.get i)

namespace Entrywise

variable {related : α → β → Prop} {other : γ → δ → Prop} {left : Vector α n} {right : Vector β n}

theorem forall₂_toList (entries : Entrywise related left right) :
    List.Forall₂ related left.toList right.toList := by
  have length : left.toList.length = right.toList.length := by
    rw [Vector.length_toList, Vector.length_toList]
  refine List.forall₂_of_length_eq_of_get length fun i within _ => ?_
  rw [Vector.length_toList] at within
  exact entries ⟨i, within⟩

theorem map {first : α → γ} {second : β → δ}
    (each : ∀ {a b}, related a b → other (first a) (second b))
    (entries : Entrywise related left right) :
    Entrywise other (left.map first) (right.map second) := by
  intro i
  change other (left.map first)[i.val] (right.map second)[i.val]
  rw [Vector.getElem_map, Vector.getElem_map]
  exact each (entries i)

end Entrywise

theorem entrywise_of_beq [BEq α] {left right : Vector α n} (equal : (left == right) = true) :
    Entrywise (fun first second => (first == second) = true) left right := by
  intro i
  rw [Vector.beq_eq_decide, decide_eq_true_iff] at equal
  exact equal i i.isLt

end

/-! ## Sums -/

variable {α : Type} [Scalar α] {n : Nat}

theorem Entrywise.add {related : α → α → Prop} {left right first second : Vector α n}
    (add : ∀ {a b c d}, related a b → related c d → related (a + c) (b + d))
    (entries : Entrywise related left right) (others : Entrywise related first second) :
    Entrywise related (left + first) (right + second) := by
  intro i
  change related (left + first)[i.val] (right + second)[i.val]
  rw [Vector.getElem_add, Vector.getElem_add]
  exact add (entries i) (others i)

namespace Summation

section

variable {related : α → α → Prop}
  (add : ∀ {a b c d}, related a b → related c d → related (a + c) (b + d))
  {sums totals : Vector α 8} {terms others : List α}

include add

private theorem lanes_related (start : Entrywise related sums totals)
    (each : List.Forall₂ related terms others) :
    Entrywise related (lanes sums terms).1 (lanes totals others).1 ∧
      List.Forall₂ related (lanes sums terms).2 (lanes totals others).2 := by
  fun_induction lanes sums terms generalizing totals others with
  | case1 sums a b c d e f g h rest induction =>
      rcases each with _ | ⟨first, _ | ⟨second, _ | ⟨third, _ | ⟨fourth, _ | ⟨fifth,
        _ | ⟨sixth, _ | ⟨seventh, _ | ⟨eighth, later⟩⟩⟩⟩⟩⟩⟩⟩
      rw [lanes]
      refine induction (start.add add ?_) later
      exact fun
        | 0 => first
        | 1 => second
        | 2 => third
        | 3 => fourth
        | 4 => fifth
        | 5 => sixth
        | 6 => seventh
        | 7 => eighth
  | case2 sums terms short =>
      rw [lanes]
      · exact ⟨start, each⟩
      · -- Another full block among the others would be one among the terms.
        rintro a b c d e f g h rest rfl
        rcases each with _ | ⟨_, _ | ⟨_, _ | ⟨_, _ | ⟨_, _ | ⟨_, _ | ⟨_, _ | ⟨_, _ | _⟩⟩⟩⟩⟩⟩⟩
        exact short _ _ _ _ _ _ _ _ _ rfl

theorem interleaved_related (zero : related 0 0) (each : List.Forall₂ related terms others) :
    related (interleaved terms) (interleaved others) := by
  have zeros : Entrywise related (Vector.replicate 8 (0 : α)) (Vector.replicate 8 0) := by
    intro i
    change related (Vector.replicate 8 (0 : α))[i.val] (Vector.replicate 8 (0 : α))[i.val]
    rwa [Vector.getElem_replicate]
  rcases lanes_related add zeros each with ⟨filled, left⟩
  refine List.rel_foldl (P := related) (R := related) (fun _ _ soFar _ _ => add soFar) ?_ left
  unfold joinLanes
  exact add (add (add (add zero (add (filled 0) (filled 4))) (add (filled 1) (filled 5)))
    (add (filled 2) (filled 6))) (add (filled 3) (filled 7))

theorem inTurn_related (zero : related 0 0) (each : List.Forall₂ related terms others) :
    related (inTurn terms) (inTurn others) := by
  cases each with
  | nil => exact zero
  | cons first rest =>
      exact List.rel_foldl (P := related) (R := related)
        (fun _ _ soFar _ _ term => add term soFar) first rest

end

variable {holds : α → Prop} (add : ∀ left right, holds left → holds right → holds (left + right))
  (zero : holds 0) {terms : List α} (each : ∀ term ∈ terms, holds term)

include add zero each

theorem interleaved_induction : holds (interleaved terms) :=
  @interleaved_related _ _ (fun left _ => holds left) (add _ _) _ _ zero
    (List.forall₂_same.mpr each)

theorem inTurn_induction : holds (inTurn terms) :=
  @inTurn_related _ _ (fun left _ => holds left) (add _ _) _ _ zero (List.forall₂_same.mpr each)

end Summation

end CurveFitting
