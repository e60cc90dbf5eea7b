import Playhouse.Proofs.Format.Scene
import Playhouse.Proofs.Stage.Cast

/-!
# Programs of actors

A program may be installed for an id that no actor has. On a stage that is `Scripted` this has not
happened, and no program is too long to be counted by its cursor. Ticks keep it so
(`Stage.Scripted.run`): a collision exchanges programs, but only among actors.
-/

namespace Playhouse

namespace Role

/-- Only an actor has a program, and its length is a machine word. -/
structure Scripted (r : Role) : Prop where
  cast : r.program.isSome = true → r.actor.isSome = true
  length : ∀ program, r.program = some program → IsWord64 program.length

namespace Scripted

variable {r : Role}

theorem vacant : Role.vacant.Scripted where
  cast := nofun
  length := nofun

theorem enter (scripted : r.Scripted) (actor : Actor) : (r.enter actor).Scripted where
  cast := fun _ => rfl
  length := scripted.length

theorem install (present : r.actor.isSome = true) {program : Program}
    (length : IsWord64 program.length) : (r.install program).Scripted where
  cast := fun _ => present
  length := by
    rintro _ ⟨⟩
    exact length

theorem wake (scripted : r.Scripted) : r.wake.Scripted :=
  ⟨scripted.cast, scripted.length⟩

theorem isWord_length (scripted : r.Scripted) : IsWord64 r.length := by
  unfold Role.length
  cases found : r.program with
  | none => exact Nat.zero_le _
  | some program => exact scripted.length program found

end Scripted

end Role

namespace World

variable {w : World} {offset now : Float} {id : ActorId} {r : Role}

theorem scripted_awake (scripted : (w.role id).Scripted) (now : Float) :
    ((w.awake now).role id).Scripted := by
  rw [role_awake]
  split
  · exact scripted.wake
  · exact scripted

/-- Whoever collides is an actor, and takes over the program of another one. -/
theorem Outcome.scripted (outcome : w.Outcome offset now id r)
    (scripted : ∀ id, (w.role id).Scripted) : r.Scripted := by
  have present := outcome.isSome_actor
  cases outcome with
  | rests _ | speaks _ => exact ⟨(scripted id).cast, (scripted id).length⟩
  | moves _ _ =>
    refine ⟨fun some => ?_, (scripted id).length⟩
    rw [present]
    exact (scripted id).cast some
  | @collides _ _ q _ _ _ found _ =>
    obtain ⟨actor, cursor, program, block, ready, -⟩ := actOf_eq_motion found
    refine ⟨fun _ => ?_, (scripted q.turn).length⟩
    rw [present, ready.actor_eq]
    rfl

end World

namespace Stage

variable {s : Stage}

def Scripted (s : Stage) : Prop :=
  ∀ id, (s.world.role id).Scripted

namespace Scripted

theorem enter (scripted : s.Scripted) (x y : Float) : (s.addActorAt x y).1.Scripted := by
  intro id
  rw [role_addActorAt]
  split
  · exact (scripted id).enter _
  · exact scripted id

theorem install (scripted : s.Scripted) {key : ActorId}
    (present : (s.world.role key).actor.isSome = true) {program : Program}
    (length : IsWord64 program.length) : (s.install key program).Scripted := by
  intro id
  rw [role_install]
  split
  · rename_i same
    subst same
    exact .install present length
  · exact scripted id

theorem start (scripted : s.Scripted) (sound : s.Sound) : s.start.Scripted := by
  intro id
  rw [sound.role_start]
  exact scripted id

theorem stop (scripted : s.Scripted) : s.stop.Scripted := by
  intro id
  rw [role_stop]
  exact scripted id

theorem tick (scripted : s.Scripted) (sound : s.Sound) : s.tick.1.Scripted := by
  cases running : s.running with
  | false => rwa [tick_of_stopped running]
  | true =>
    intro id
    rw [(tick_eq running).1]
    exact (sound.keyed.outcome_tick s.offset s.time id).scripted fun id =>
      World.scripted_awake (scripted id) s.time

theorem run (scripted : s.Scripted) (sound : s.Sound) (n : ℕ) : (s.run n).1.Scripted :=
  (run_of_tick (I := fun u => u.Sound ∧ u.Scripted)
    (fun _ holds => ⟨kept_sound.tick holds.1, holds.2.tick holds.1⟩) n ⟨sound, scripted⟩).2

end Scripted

end Stage

end Playhouse
