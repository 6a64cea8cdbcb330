/-!
# The partitions of a card

The root partition of a card may hold four partitions, told apart by the exact
name of their entry.
-/

namespace Gamecard

inductive PartitionKind where
  | update
  | logo
  | normal
  | secure
deriving DecidableEq

namespace PartitionKind

def all : List PartitionKind := [.update, .logo, .normal, .secure]

def name : PartitionKind → String
  | .update => "update"
  | .logo => "logo"
  | .normal => "normal"
  | .secure => "secure"

def ofName? (name : String) : Option PartitionKind :=
  all.find? fun kind => kind.name == name

theorem ofName?_eq_some_iff {name : String} {kind : PartitionKind} :
    ofName? name = some kind ↔ name = kind.name := by
  constructor
  · intro found
    have same := List.find?_some found
    exact (beq_iff_eq.mp same).symm
  · intro same
    subst same
    cases kind <;> decide

end PartitionKind

end Gamecard
