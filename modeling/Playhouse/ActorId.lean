/-!
# Actor ids

Actors are numbered from zero in the order in which they enter a scene. The order of ids is the
order in which actors take their turns.
-/

namespace Playhouse

structure ActorId where
  index : Nat
deriving DecidableEq

namespace ActorId

instance : LT ActorId := ⟨fun a b => a.index < b.index⟩

instance (a b : ActorId) : Decidable (a < b) :=
  inferInstanceAs (Decidable (a.index < b.index))

/-- The id that is handed out after `a`. -/
def next (a : ActorId) : ActorId :=
  ⟨a.index + 1⟩

theorem lt_iff {a b : ActorId} : a < b ↔ a.index < b.index := Iff.rfl

theorem index_inj {a b : ActorId} : a.index = b.index ↔ a = b := by
  cases a; cases b; simp

theorem lt_irrefl (a : ActorId) : ¬ a < a := by
  simp [lt_iff]

theorem lt_trans {a b c : ActorId} (h : a < b) (h' : b < c) : a < c := by
  rw [lt_iff] at *; omega

theorem ne_of_lt {a b : ActorId} (h : a < b) : a ≠ b := by
  rintro rfl; exact lt_irrefl _ h

theorem lt_of_not_lt_of_ne {a b : ActorId} (h : ¬ a < b) (h' : a ≠ b) : b < a := by
  have : a.index ≠ b.index := mt index_inj.1 h'
  rw [lt_iff] at *; omega

end ActorId

end Playhouse
