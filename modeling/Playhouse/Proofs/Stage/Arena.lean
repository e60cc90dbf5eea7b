import Mathlib.Data.List.Sort
import Playhouse.Proofs.Stage.Cast

/-!
# The stores of a reachable stage

A stage keeps actors, cursors, programs, holds and pauses in stores of their own. It is `Consistent`
if they tell the same story: the actors are numbered without gaps up to the next id, cursors belong
to actors and programs and stay inside their programs, only actors that are there and do not pause
are held, and the canvas is that of the configuration. All reachable stages are consistent
(`arena_consistent`).

Most of it is said by the roles, one id at a time (`WellCast`). What is left is the canvas, which
nothing ever changes (`kept_setting`), and the step from ids to the list of all actors
(`IdMap.indices_eq_range`).
-/

namespace Playhouse

/-! ## Maps without gaps -/

/-- A map that holds exactly the ids below a bound lists them in order. -/
theorem IdMap.indices_eq_range {α : Type} {m : IdMap α} {bound : ActorId}
    (contains_iff : ∀ id, m.contains id = true ↔ id < bound) :
    m.keys.map ActorId.index = List.range bound.index := by
  have ascending : (m.keys.map ActorId.index).Pairwise (· < ·) := by
    rw [keys, List.pairwise_map, List.pairwise_map]
    exact m.ascending
  refine ascending.eq_of_mem_iff List.pairwise_lt_range fun n => ?_
  rw [List.mem_map, List.mem_range]
  constructor
  · rintro ⟨id, mem, rfl⟩
    exact (contains_iff id).1 (mem_keys_iff.1 mem)
  · intro below
    exact ⟨⟨n⟩, mem_keys_iff.2 ((contains_iff ⟨n⟩).2 below), rfl⟩

namespace Stage

variable {s : Stage}

/-! ## The canvas -/

/-- No step changes the configuration or the canvas. -/
theorem kept_setting (P : Config → Bounds → Prop) :
    Kept fun s => P s.config s.world.scene.bounds where
  drawn := fun _ _ _ holds => holds
  entered := fun _ _ _ _ holds => holds
  installed := fun _ _ _ _ holds => holds
  placed := fun _ _ _ _ _ holds => holds
  started := by
    intro s _ holds
    unfold start
    split <;> exact holds
  stopped := by
    intro s _ holds
    unfold stop
    split <;> exact holds
  ticked := by
    intro s _ holds running
    rw [(tick_eq running).1, World.bounds_tick]
    rwa [tick, if_pos running]
  reset := fun _ _ holds => holds
  restored := fun _ _ holds => holds

theorem ReachableBy.bounds_eq {legal : Action → Prop} (reachable : ReachableBy legal s) :
    s.world.scene.bounds = s.config.bounds :=
  reachable.of_kept (kept_setting fun config bounds => bounds = config.bounds) fun _ _ => rfl

/-! ## All stores -/

/-- The stores of a stage go together. -/
structure Consistent (s : Stage) : Prop where
  /-- The ids of the actors are those that have been handed out, without gaps. -/
  indices_eq : s.world.scene.actors.keys.map ActorId.index =
    List.range s.world.scene.nextId.index
  own_id : ∀ id actor, s.world.scene.actors.get? id = some actor → actor.id = id
  cursor_iff : ∀ id, s.world.scene.cursors.contains id = true ↔
    s.world.scene.actors.contains id = true ∨ s.world.scene.programs.contains id = true
  /-- A cursor is inside the program of its id, or at the end of it. -/
  cursor_inside : ∀ id cursor, s.world.scene.cursors.get? id = some cursor →
    cursor.position ≤ cursor.length ∧ cursor.length = s.world.scene.programs.lengthOf id
  held_enters : ∀ id, s.world.scene.held.contains id = true →
    s.world.scene.actors.contains id = true
  held_not_paused : ∀ id, s.world.scene.held.contains id = true →
    s.world.bubbles.isPaused id = false
  bounds_eq : s.world.scene.bounds = s.config.bounds

theorem arena_consistent (reachable : s.Reachable) : s.Consistent where
  indices_eq := IdMap.indices_eq_range reachable.wellCast.entered
  own_id := reachable.sound.keyed
  cursor_iff := by
    intro id
    have cursor : s.world.scene.cursors.contains id =
        (s.world.scene.actors.contains id || s.world.scene.programs.contains id) :=
      (reachable.wellCast.fits id).isSome_cursor
    rw [cursor, Bool.or_eq_true]
  cursor_inside := by
    intro id cursor found
    obtain ⟨length, inside⟩ := (reachable.wellCast.fits id).length_eq cursor found
    exact ⟨inside, length⟩
  held_enters := fun id => (reachable.wellCast.fits id).isSome_of_held
  held_not_paused := fun id => (reachable.wellCast.fits id).not_paused_of_held
  bounds_eq := reachable.bounds_eq

/-- The cursor of an actor in the middle of its speech stands inside its program. -/
theorem arena_consistent_greeting : greeting.Reachable ∧ greeting.Consistent :=
  ⟨reachable_greeting, arena_consistent reachable_greeting⟩

end Stage

end Playhouse
