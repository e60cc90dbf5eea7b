import Playhouse.Proofs.Stage.Pose
import Playhouse.Proofs.Tick.Bounce

/-!
# Walls on reachable stages

On a stage that sane actions lead to, an actor that executes a block turns around exactly if the
report names a bounce for it, and there is one at most (`single_bounce`). The bounce is at the wall
that the block would take it through, the one in `x` if it is outside in both coordinates.
-/

namespace Playhouse

theorem Heading.flipped_ne (heading : Heading) : heading.flipped ≠ heading := by
  cases heading <;> decide

namespace World.Passage

variable {w : World} {offset now : Float} {id : ActorId} {actor : Actor} {cursor : Cursor}
  {block : Block} {wall : Option Axis}

/-- The heading tells whether there was a bounce. -/
theorem turned_iff (passage : w.Passage offset now id actor cursor block wall) :
    ((w.tick offset now).1.scene.cursors.get? id).map (·.heading) ≠
        (w.scene.cursors.get? id).map (·.heading) ↔
      ∃ bounce ∈ (w.tick offset now).2.bounces, bounce.actor = id := by
  have reported : (∃ bounce ∈ (w.tick offset now).2.bounces, bounce.actor = id) ↔
      (w.tick offset now).2.bounces.filter (·.actor = id) ≠ [] := by
    rw [ne_eq, List.filter_eq_nil_iff]
    simp
  rw [reported, passage.bounce_eq, passage.turned_eq, passage.heading_eq]
  cases wall with
  | none => simp
  | some axis => simp [cursor.heading.flipped_ne]

theorem length_bounces_le (passage : w.Passage offset now id actor cursor block wall) :
    ((w.tick offset now).2.bounces.filter (·.actor = id)).length ≤ 1 := by
  rw [passage.bounce_eq]
  cases wall <;> simp

end World.Passage

namespace Stage

variable {s : Stage}

/-- An actor that executes a block turns around exactly if there is a bounce, and there is one at
most. The wall is the one in `x` if the block leads outside in `x`, and the one in `y` if it leads
outside in `y` only. Both coordinates are brought back to the canvas; a collision takes the pose
back, but not the turn; and who only turns or starts over does not bounce. -/
theorem single_bounce (reachable : ReachableBy Action.IsSane s) (offset now : Float) {id : ActorId}
    (executes : id ∈ (s.world.tick offset now).2.executed) :
    (((s.world.tick offset now).1.scene.cursors.get? id).map (·.heading) ≠
        (s.world.scene.cursors.get? id).map (·.heading) ↔
      ∃ bounce ∈ (s.world.tick offset now).2.bounces, bounce.actor = id) ∧
    ((s.world.tick offset now).2.bounces.filter (·.actor = id)).length ≤ 1 ∧
    ∃ actor cursor block wall, s.world.Passage offset now id actor cursor block wall := by
  obtain ⟨actor, cursor, block, wall, passage⟩ :=
    reachable.sound.keyed.exists_passage (reachable.posed id) executes
  exact ⟨passage.turned_iff, passage.length_bounces_le, actor, cursor, block, wall, passage⟩

/-- The first actor is about to leave the canvas at a corner. The second one is about to leave it on
the left, and to run into the third one. -/
def cornered : Stage :=
  let entered := [(5.0, 5.0), (0.0, 300.0), (50.0, 300.0)].foldl
    (fun s p => (s.addActorAt p.1 p.2).1) (fresh .default)
  let programs : List (ActorId × List String) :=
    [(⟨0⟩, ["XY_-10_-20"]), (⟨1⟩, ["X_-10"]), (⟨2⟩, ["ROTLEFT_45"])]
  (programs.foldl (fun s p => s.setProgram p.1 p.2) entered).start

theorem reachable_cornered : ReachableBy Action.IsSane cornered := by
  have new : ReachableBy Action.IsSane (fresh .default) := .new (new_eq_ok_iff.2 ⟨rfl, rfl⟩)
  have entered := List.foldlRecOn (motive := ReachableBy Action.IsSane)
    [(5.0, 5.0), (0.0, 300.0), (50.0, 300.0)] (fun s p => (s.addActorAt p.1 p.2).1) new
    fun s before p mem => before.act (.addActorAt p.1 p.2) (by
      simp only [List.mem_cons, List.not_mem_nil, or_false] at mem
      rcases mem with rfl | rfl | rfl <;> exact ⟨rfl, rfl⟩) rfl rfl
  have scripted := List.foldlRecOn (motive := ReachableBy Action.IsSane)
    [(⟨0⟩, ["XY_-10_-20"]), (⟨1⟩, ["X_-10"]), (⟨2⟩, ["ROTLEFT_45"])]
    (fun s p => s.setProgram p.1 p.2) entered fun s before p _ =>
      before.act (.setProgram p.1 p.2) trivial rfl rfl
  exact scripted.act .start trivial rfl rfl

set_option maxRecDepth 4000 in
theorem single_bounce_cornered :
    ReachableBy Action.IsSane cornered ∧
      (cornered.world.tick cornered.offset cornered.time).2.executed = [⟨0⟩, ⟨1⟩, ⟨2⟩] ∧
      (cornered.world.tick cornered.offset cornered.time).2.bounces =
        [⟨⟨0⟩, .x⟩, ⟨⟨1⟩, .x⟩] ∧
      ¬ World.Apart ⟨1⟩ (cornered.world.tick cornered.offset cornered.time) ∧
      ∀ id ∈ (cornered.world.tick cornered.offset cornered.time).2.executed,
        ∃ actor cursor block wall,
          cornered.world.Passage cornered.offset cornered.time id actor cursor block wall :=
  ⟨reachable_cornered, by decide +kernel, by decide +kernel, by decide +kernel,
    fun _ executes => (single_bounce reachable_cornered _ _ executes).2.2⟩

end Stage

end Playhouse
