import Playhouse.Proofs.Random.Bound
import Playhouse.Proofs.Stage.Branch
import Playhouse.Proofs.Stage.Pose
import Playhouse.Proofs.Stage.Restored

/-!
# Random placement

A canvas is `Drawable` if values can be drawn from zero to the greatest coordinates on it. The
entry of an actor at a random position fails exactly on the others, which are as large as a canvas
can be, and no other action ever fails (`perform_eq_none_iff`). Their configurations are among those
that can be used (`vast_not_drawable`).

On a drawable canvas all actors can enter, and they enter inside of it; so every course of actions
comes to its end (`placement_succeeds_iff`).
-/

namespace Playhouse

open Binary64 Playhouse.Random

/-- Both coordinates can be drawn. -/
structure Bounds.Drawable (b : Bounds) : Prop where
  x : b.maxX < tooLarge
  y : b.maxY < tooLarge

instance (b : Bounds) : Decidable b.Drawable :=
  decidable_of_iff (b.maxX < tooLarge ∧ b.maxY < tooLarge)
    ⟨fun ⟨x, y⟩ => ⟨x, y⟩, fun ⟨x, y⟩ => ⟨x, y⟩⟩

namespace Stage

variable {s t : Stage}

/-! ## One action -/

theorem addActor_eq_none_iff : s.addActor = none ↔ ¬ s.world.scene.bounds.Drawable := by
  have nonnegX := s.world.scene.bounds.maxX_nonneg
  have nonnegY := s.world.scene.bounds.maxY_nonneg
  constructor
  · rintro failed ⟨smallX, smallY⟩
    obtain ⟨x, between, first⟩ := exists_upTo s.random nonnegX smallX
    obtain ⟨y, after, second⟩ := exists_upTo between nonnegY smallY
    simp [addActor, first, second] at failed
  · intro vast
    cases entered : s.addActor with
    | none => rfl
    | some p =>
      obtain ⟨x, y, between, after, first, second, -⟩ := addActor_eq_some entered
      refine absurd ⟨?_, ?_⟩ vast
      · by_contra large
        rw [(upTo_eq_none_iff nonnegX).2 large] at first
        cases first
      · by_contra large
        rw [(upTo_eq_none_iff nonnegY).2 large] at second
        cases second

/-- The entry at a random position is the only action that fails. -/
theorem perform_eq_none_iff {action : Action} :
    s.perform action = none ↔ action = .addActor ∧ ¬ s.world.scene.bounds.Drawable := by
  cases action with
  | addActor => simp [perform, addActor_eq_none_iff]
  | place id x y =>
    simp only [perform]
    split <;> simp
  | restore snapshot =>
    obtain ⟨reply, done⟩ := exists_perform_restore s snapshot
    simp [done]
  | _ => simp [perform]

/-- An actor has entered inside the canvas, and all others are as they were. -/
structure Enters (s t : Stage) (id : ActorId) : Prop where
  id_eq : id = s.world.scene.nextId
  new : s.world.scene.actors.contains id = false
  inside : ∃ actor, t.world.scene.actors.get? id = some actor ∧ actor.id = id ∧
    actor.Legal s.config.bounds
  others : ∀ other, other ≠ id →
    t.world.scene.actors.get? other = s.world.scene.actors.get? other

theorem Reachable.enters (reachable : s.Reachable) {id : ActorId}
    (entered : s.addActor = some (t, id)) : s.Enters t id := by
  obtain ⟨x, y, between, after, drawnX, drawnY, same⟩ := addActor_eq_some entered
  cases same
  have new : s.world.scene.actors.contains s.world.scene.nextId = false := by
    rw [Bool.eq_false_iff]
    intro present
    exact ActorId.lt_irrefl _ ((reachable.wellCast.entered _).1 present)
  refine ⟨rfl, new, ⟨_, (get?_addActorAt { s with random := after } x y _).trans (if_pos rfl), rfl,
    ?_⟩, fun _ => get?_addActorAt_of_ne { s with random := after } x y⟩
  rw [← reachable.bounds_eq]
  exact ⟨within_clamp (Bounds.maxX_nonneg _) (number_of_upTo drawnX),
    within_clamp (Bounds.maxY_nonneg _) (number_of_upTo drawnY), isAngle_zero⟩

/-! ## Courses of actions -/

/-- Snapshots are gone back to only if they were captured on a drawable canvas. -/
def OnDrawable (actions : List Action) : Prop :=
  ∀ snapshot, .restore snapshot ∈ actions →
    ∃ source : Stage, source.Reachable ∧ source.config.bounds.Drawable ∧ snapshot = source.capture

theorem drawable_of_perform {action : Action} {reply : Reply}
    (drawable : s.world.scene.bounds.Drawable) (legal : OnDrawable [action])
    (done : s.perform action = some (t, reply)) : t.world.scene.bounds.Drawable := by
  by_cases own : action.restores = false
  · exact (kept_setting fun _ bounds => bounds.Drawable).perform own done drawable
  · cases action with
    | restore snapshot =>
      obtain ⟨source, reachable, captured, rfl⟩ := legal snapshot (List.mem_singleton.2 rfl)
      rw [← reachable.bounds_eq] at captured
      obtain ⟨answer, restored⟩ := exists_perform_restore s source.capture
      cases restored.symm.trans done
      rcases restore_capture_cases s source with same | same
      · rw [same]
        exact captured
      · rwa [same]
    | _ => exact absurd rfl own

theorem exists_performAll {actions : List Action} (drawable : s.world.scene.bounds.Drawable)
    (legal : OnDrawable actions) : ∃ p, s.performAll actions = some p := by
  -- The canvas stays drawable, whichever stage is gone back to.
  induction actions generalizing s with
  | nil => exact ⟨_, rfl⟩
  | cons action later ih =>
    cases done : s.perform action with
    | none => exact absurd drawable (perform_eq_none_iff.1 done).2
    | some p =>
      obtain ⟨t, reply⟩ := p
      have next : t.world.scene.bounds.Drawable := by
        refine drawable_of_perform drawable (fun snapshot mem => ?_) done
        rw [List.mem_singleton] at mem
        exact legal snapshot (mem ▸ List.mem_cons_self)
      obtain ⟨q, ended⟩ := ih next fun snapshot mem => legal snapshot (List.mem_cons_of_mem _ mem)
      refine ⟨(q.1, (reply, t.fingerprint) :: q.2), ?_⟩
      simp [performAll, done, ended]

/-- Coordinates can be clamped on every stage, and an action fails only if it is the entry at a
random position on a canvas that is not drawable. On all others an actor enters inside the canvas,
and every course of actions that stays on them comes to its end. -/
theorem placement_succeeds_iff (reachable : s.Reachable) :
    (0.0 ≤ s.world.scene.bounds.maxX ∧ 0.0 ≤ s.world.scene.bounds.maxY) ∧
    (∀ action, s.perform action = none ↔ action = .addActor ∧ ¬ s.config.bounds.Drawable) ∧
    (s.config.bounds.Drawable →
      (∃ t id, s.addActor = some (t, id) ∧ s.Enters t id) ∧
      ∀ actions, OnDrawable actions → ∃ p, s.performAll actions = some p) := by
  rw [← reachable.bounds_eq]
  refine ⟨⟨Bounds.maxX_nonneg _, Bounds.maxY_nonneg _⟩, fun action => perform_eq_none_iff,
    fun drawable => ⟨?_, fun actions => exists_performAll drawable⟩⟩
  cases entered : s.addActor with
  | none => exact absurd drawable (addActor_eq_none_iff.1 entered)
  | some p => exact ⟨p.1, p.2, rfl, reachable.enters entered⟩

theorem placement_succeeds_greeting :
    greeting.Reachable ∧ greeting.config.bounds.Drawable ∧
      (∃ t, greeting.addActor = some (t, ⟨1⟩) ∧ greeting.Enters t ⟨1⟩) ∧
      ∃ p, greeting.performAll [.addActor, .run 5, .restore greeting.capture, .addActor] =
        some p := by
  have drawable : greeting.config.bounds.Drawable := by decide +kernel
  obtain ⟨-, -, succeeds⟩ := placement_succeeds_iff reachable_greeting
  obtain ⟨⟨t, id, entered, enters⟩, course⟩ := succeeds drawable
  obtain rfl : id = ⟨1⟩ := enters.id_eq
  refine ⟨reachable_greeting, drawable, ⟨t, entered, enters⟩, course _ fun snapshot mem => ?_⟩
  refine ⟨greeting, reachable_greeting, drawable, ?_⟩
  simpa using mem

/-- As wide as a canvas can be. -/
def vast : Config :=
  { Config.default with canvasWidth := ofMagnitude false (infinite - 1) }

/-- The configuration can be used, but no actor can enter at a random position. -/
theorem vast_not_drawable :
    vast.check = .ok () ∧ ∃ s, Stage.new vast = .ok s ∧ s.perform .addActor = none := by
  have valid : vast.check = .ok () := Config.check_eq_ok_iff.2 (by decide +kernel)
  exact ⟨valid, fresh vast, new_eq_ok_iff.2 ⟨valid, rfl⟩,
    perform_eq_none_iff.2 ⟨rfl, by decide +kernel⟩⟩

end Stage

end Playhouse
