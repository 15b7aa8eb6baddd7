import Rulebook.Proofs.Service.Failure

/-! When the service fails: for identities that are out of reach and for numbers with too many digits;
and if the host can not read or store what it is given, but for nothing else. -/
namespace Rulebook

namespace Resource

variable {store : Store} {body : Option Value} {digits : List Char}

end Resource

theorem Store.Sound.find_eq_ok {store : Store} {id : Int} {row : Row} (sound : store.Sound) :
    (Action.find id).told store = .ok row ↔ store.find? id = some row := by
  rw [Action.find_eq_ok, and_iff_right_iff_imp]
  intro found
  obtain ⟨held, rfl⟩ := Action.mem_of_find? found
  exact sound.inReach held

namespace Service

variable {store : Store} {request : Request} {resource : Resource} {payload : Payload}
variable {body : Option Value} {verb : String}

end Service

end Rulebook
