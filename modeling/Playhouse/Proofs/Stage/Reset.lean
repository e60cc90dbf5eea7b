import Playhouse.Proofs.Stage.Arena
import Playhouse.Proofs.Stage.Branch

/-!
# Stages after a reset

A reset empties the stores of a stage but keeps its canvas and the offset of its bubbles. So it
leaves a new stage exactly if these two are the ones of the configuration (`reset_eq_fresh_iff`).
They are on every reachable stage, whatever snapshots it has gone back to (`reset_starts_over`).
-/

namespace Playhouse

namespace Stage

variable {s : Stage}

theorem reset_eq_fresh_iff :
    s.reset = fresh s.config ↔
      s.offset = s.config.bubbleOffset ∧ s.world.scene.bounds = s.config.bounds := by
  constructor
  · intro same
    exact ⟨congrArg (·.offset) same, congrArg (·.world.scene.bounds) same⟩
  · rintro ⟨offset, bounds⟩
    rw [reset, offset, bounds]
    rfl

/-- A stage that has been reset is the one that is newly made of its configuration, and it goes on
in the same way. -/
theorem reset_starts_over (reachable : s.Reachable) :
    ∃ new, Stage.new s.config = .ok new ∧ s.reset = new ∧
      ∀ actions, s.reset.performAll actions = new.performAll actions := by
  have sound := reachable.sound
  have same : s.reset = fresh s.config :=
    reset_eq_fresh_iff.2 ⟨sound.offset_eq, reachable.bounds_eq⟩
  exact ⟨fresh s.config, new_eq_ok_iff.2 ⟨sound.valid, rfl⟩, same, fun actions => by rw [same]⟩

/-- A wide canvas, with the bubbles high above the actors. -/
def wide : Config :=
  { Config.default with canvasWidth := 960.0, bubbleOffset := 40.0, seed := 7 }

/-- One actor on the wide canvas, in the middle of a thought. -/
def pondering : Stage :=
  (((fresh wide).addActorAt 700.0 20.0).1.install ⟨0⟩
    [.speak .think "where?" 3.0, .restart]).start.tick.1

theorem reachable_pondering : pondering.Reachable := by
  have new : (fresh wide).Reachable := reachable_fresh rfl
  have added := new.act (.addActorAt 700.0 20.0) rfl rfl
  have installed := added.act (.install ⟨0⟩ [.speak .think "where?" 3.0, .restart]) rfl rfl
  exact (installed.act .start rfl rfl).act .tick rfl rfl

/-- A stage leaves its canvas for the wide one, in the middle of a speech. -/
theorem reset_starts_over_elsewhere :
    (greeting.restore pondering.capture).1.Reachable ∧
      ∃ new, Stage.new (greeting.restore pondering.capture).1.config = .ok new ∧
        new.config.seed = 7 ∧ (greeting.restore pondering.capture).1.reset = new := by
  have restored : (greeting.restore pondering.capture).1.Reachable :=
    .restore reachable_greeting reachable_pondering trivial
  obtain ⟨new, made, same, -⟩ := reset_starts_over restored
  refine ⟨restored, new, made, ?_, same⟩
  obtain ⟨-, rfl⟩ := new_eq_ok_iff.1 made
  rw [restore_capture greeting reachable_pondering.sound.valid]
  rfl

end Stage

end Playhouse
