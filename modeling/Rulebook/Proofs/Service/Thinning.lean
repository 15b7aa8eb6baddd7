import Rulebook.Proofs.Service.Change

/-! Requests that fail or only read leave no trace: the others are answered the same without them. -/
namespace Rulebook

/-- Some of the exchanges, of which only quiet ones are left out. -/
inductive Thinned : List Exchange → List Exchange → Prop
  | nil : Thinned [] []
  | keep {all kept : List Exchange} (exchange : Exchange) : Thinned all kept →
    Thinned (exchange :: all) (exchange :: kept)
  | drop {all kept : List Exchange} {exchange : Exchange} : exchange.Quiet → Thinned all kept →
    Thinned (exchange :: all) kept

theorem Thinned.filter {keep : Exchange → Bool} {all : List Exchange}
    (others : ∀ exchange ∈ all, keep exchange = false → exchange.Quiet) :
    Thinned all (all.filter keep) := by
  induction all with
  | nil => exact .nil
  | cons exchange all ih =>
    have thinned := ih fun other inside => others other (List.mem_cons_of_mem _ inside)
    cases kept : keep exchange with
    | true =>
      rw [List.filter_cons_of_pos kept]
      exact .keep exchange thinned
    | false =>
      rw [List.filter_cons_of_neg (by simp [kept])]
      exact .drop (others exchange List.mem_cons_self kept) thinned

namespace Service

variable {store : Store}

end Service

end Rulebook
