import Playhouse.Proofs.Stage.Cast
import Playhouse.Proofs.Tick.Account

/-!
# Accounts on reachable stages

On a reachable stage every actor is treated by a tick in exactly one way, and the report of the tick
is in order (`tick_accounted`). An actor that is skipped stays as it is but for the speech that it
has been in until then: if the time of its bubble has come, the bubble goes although nothing is left
for the actor to do (`bubble_of_skipped_goes`).
-/

namespace Playhouse

namespace Stage

variable {s : Stage}

/-- Whenever a tick is played, it skips an actor, lets it speak or lets it execute a block, exactly
one of them, and the lists of its report are in the order of turns. -/
theorem tick_accounted (reachable : s.Reachable) (offset now : Float) :
    (∀ id, s.world.scene.actors.contains id = true →
      ∃! turn, s.world.Takes offset now id turn) ∧
    s.world.Ordered offset now := by
  have keyed := reachable.sound.keyed
  refine ⟨fun id present => ?_, keyed.ordered_tick offset now⟩
  exact keyed.existsUnique_takes (reachable.wellCast.fits id) present offset now

/-- After a first tick: the bubble of the first actor has come to its time, the second one is about
to speak, the last two have collided. -/
def troupe : Stage :=
  let entered := [(10.0, 20.0), (150.0, 20.0), (100.0, 300.0), (150.0, 300.0)].foldl
    (fun s p => (s.addActorAt p.1 p.2).1) (fresh .default)
  let programs : List (ActorId × Program) :=
    [(⟨0⟩, [.speak .say "hello" 0.01, .move (-50.0) 0.0]),
      (⟨1⟩, [.turn 90.0, .speak .think "again" 1.0]), (⟨2⟩, [.move 5.0 0.0, .turn 90.0]),
      (⟨3⟩, [.restart, .turn 45.0])]
  (programs.foldl (fun s p => s.install p.1 p.2) entered).start.tick.1

theorem reachable_troupe : troupe.Reachable := by
  have new : (fresh .default).Reachable := reachable_fresh rfl
  have entered := List.foldlRecOn (motive := Reachable)
    [(10.0, 20.0), (150.0, 20.0), (100.0, 300.0), (150.0, 300.0)]
    (fun s p => (s.addActorAt p.1 p.2).1) new fun s before p _ =>
      before.act (.addActorAt p.1 p.2) rfl rfl
  have scripted := List.foldlRecOn (motive := Reachable)
    [(⟨0⟩, [.speak .say "hello" 0.01, .move (-50.0) 0.0]),
      (⟨1⟩, [.turn 90.0, .speak .think "again" 1.0]), (⟨2⟩, [.move 5.0 0.0, .turn 90.0]),
      (⟨3⟩, [.restart, .turn 45.0])]
    (fun s p => s.install p.1 p.2) entered fun s before p _ =>
      before.act (.install p.1 p.2) rfl rfl
  exact (scripted.act .start rfl rfl).act .tick rfl rfl

set_option maxRecDepth 4000 in
/-- In the second tick of `troupe` the first actor runs into the wall, the second one speaks and the
last one is held. -/
theorem tick_accounted_troupe :
    troupe.Reachable ∧ (troupe.world.scene.actors.keys.map ActorId.index) = [0, 1, 2, 3] ∧
      (∀ id ∈ troupe.world.scene.actors.keys,
        ∃! turn, troupe.world.Takes troupe.offset troupe.time id turn) ∧
      troupe.world.Ordered troupe.offset troupe.time ∧
      troupe.world.bubbles.expired troupe.time = [⟨0⟩] ∧
      (troupe.world.tick troupe.offset troupe.time).2.executed = [⟨0⟩, ⟨2⟩] ∧
      (troupe.world.tick troupe.offset troupe.time).2.bounces = [⟨⟨0⟩, .x⟩] ∧
      troupe.world.scene.held.toList = [⟨3⟩] := by
  obtain ⟨unique, ordered⟩ := tick_accounted reachable_troupe troupe.offset troupe.time
  exact ⟨reachable_troupe, by decide +kernel, fun id mem => unique id (IdMap.mem_keys_iff.1 mem),
    ordered, by decide +kernel, by decide +kernel, by decide +kernel, by decide +kernel⟩

/-- One actor that has nothing left to do but to end its speech. -/
def parting : Stage :=
  (((fresh .default).addActorAt 10.0 20.0).1.install ⟨0⟩ [.speak .say "hello" 0.01]).start.tick.1

theorem reachable_parting : parting.Reachable := by
  have new : (fresh .default).Reachable := reachable_fresh rfl
  have added := new.act (.addActorAt 10.0 20.0) rfl rfl
  have installed := added.act (.install ⟨0⟩ [.speak .say "hello" 0.01]) rfl rfl
  exact (installed.act .start rfl rfl).act .tick rfl rfl

/-- An actor that is skipped may lose its bubble. -/
theorem bubble_of_skipped_goes :
    ¬ ∀ s : Stage, s.Reachable → ∀ offset now id, s.world.scene.actors.contains id = true →
      s.world.Rests now id →
        (s.world.tick offset now).1.bubbles.live.get? id = s.world.bubbles.live.get? id := by
  intro stays
  have present : parting.world.scene.actors.contains ⟨0⟩ = true := by decide +kernel
  have known : (parting.world.deferred parting.time ⟨0⟩).any Cursor.isIdle = true := by
    decide +kernel
  have same := stays parting reachable_parting parting.offset parting.time ⟨0⟩ present
    (.inr (.inr ((Option.any_eq_true _ _).1 known)))
  have gone : ((parting.world.tick parting.offset parting.time).1.bubbles.live.get? ⟨0⟩).isSome =
      false := by decide +kernel
  have live : (parting.world.bubbles.live.get? ⟨0⟩).isSome = true := by decide +kernel
  rw [same, live] at gone
  cases gone

end Stage

end Playhouse
