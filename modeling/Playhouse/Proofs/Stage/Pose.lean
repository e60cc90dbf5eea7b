import Playhouse.Proofs.Random
import Playhouse.Proofs.Stage.Arena
import Playhouse.Proofs.Tick.Pose

/-!
# The poses on a reachable stage

A stage is `Posed` if all its roles are legal. It stays so in all actions that are sane, which means
that no coordinate is not-a-number and no program is made up without tokens (`Posed.perform`). So
every actor on a stage that sane actions lead to is inside the canvas (`poses_legal`).
-/

namespace Playhouse

open Binary64

/-- Coordinates are numbers, infinite ones included, and programs are read from tokens. -/
def Action.IsSane : Action → Prop
  | .addActorAt x y | .place _ x y => x.isNaN = false ∧ y.isNaN = false
  | .install _ program => ∃ tokens, program = .ofTokens tokens
  | _ => True

namespace Stage

variable {s t : Stage}

def Posed (s : Stage) : Prop :=
  ∀ id, (s.world.role id).Legal s.world.scene.bounds

/-! ## Actions -/

namespace Posed

theorem enter (posed : s.Posed) {x y : Float} (hx : Number x) (hy : Number y) :
    (s.addActorAt x y).1.Posed := by
  intro id
  rw [role_addActorAt]
  split
  · exact (posed id).enter
      ⟨within_clamp (Bounds.maxX_nonneg _) hx, within_clamp (Bounds.maxY_nonneg _) hy,
        isAngle_zero⟩
  · exact posed id

theorem addDefaultActors (posed : s.Posed) (usable : s.config.Usable) :
    s.addDefaultActors.1.Posed := by
  have width := isFinite_half usable.actorWidth.finite
  have height := isFinite_half usable.actorHeight.finite
  have hy := number_sub (number_of_isFinite (isFinite_half usable.canvasHeight.finite)) height
  have quarter := number_sub (number_mul (y := 0.25) usable.canvasWidth.finite rfl) width
  have threeQuarters := number_sub (number_mul (y := 0.75) usable.canvasWidth.finite rfl) width
  exact (posed.enter quarter hy).enter threeQuarters hy

theorem install (posed : s.Posed) (key : ActorId) {program : Program} (usable : program.Usable) :
    (s.install key program).Posed := by
  intro id
  rw [role_install]
  split
  · exact (posed id).install usable
  · exact posed id

theorem place (posed : s.Posed) (key : ActorId) {x y : Float} (hx : Number x) (hy : Number y) :
    Posed { s with world.scene := s.world.scene.place key x y } := by
  intro id
  rw [role_place]
  split
  · exact (posed id).place fun actor legal =>
      ⟨within_clamp (Bounds.maxX_nonneg _) hx, within_clamp (Bounds.maxY_nonneg _) hy,
        legal.angle⟩
  · exact posed id

theorem start (posed : s.Posed) (sound : s.Sound) : s.start.Posed := by
  intro id
  rw [sound.role_start, sound.start_eq]
  exact posed id

theorem stop (posed : s.Posed) : s.stop.Posed := by
  unfold Stage.stop
  split
  · exact posed
  · exact posed

theorem tick (posed : s.Posed) (sound : s.Sound) : s.tick.1.Posed := by
  cases running : s.running with
  | false => rwa [tick_of_stopped running]
  | true =>
    intro id
    rw [(tick_eq running).1, World.bounds_tick]
    exact (sound.keyed.outcome_tick s.offset s.time id).legal fun id =>
      World.legal_awake (posed id) s.time

theorem perform (posed : s.Posed) (sound : s.Sound) {action : Action} {reply : Reply}
    (sane : action.IsSane) (own : action.restores = false)
    (done : s.perform action = some (t, reply)) : t.Posed := by
  cases action with
  | addActor =>
    obtain ⟨x, y, _, random, hx, hy, rfl⟩ := perform_addActor done
    exact enter (s := { s with random }) posed (Random.number_of_upTo hx) (Random.number_of_upTo hy)
  | addActorAt x y =>
    cases done
    exact posed.enter sane.1 sane.2
  | addDefaultActors =>
    cases done
    exact posed.addDefaultActors sound.usable
  | setProgram id tokens =>
    cases done
    exact posed.install id (Program.usable_ofTokens tokens)
  | install id program =>
    cases done
    obtain ⟨tokens, rfl⟩ := sane
    exact posed.install id (Program.usable_ofTokens tokens)
  | place id x y =>
    simp only [Stage.perform] at done
    split at done
    · rename_i found
      cases done
      obtain ⟨-, -, rfl⟩ := place_eq_ok_iff.1 found
      exact posed.place id sane.1 sane.2
    · cases done
      exact posed
  | start =>
    cases done
    exact posed.start sound
  | stop =>
    cases done
    exact posed.stop
  | tick =>
    cases done
    exact posed.tick sound
  | run ticks =>
    have ran : (s.run ticks).1 = t := congrArg Prod.fst (Option.some.inj done)
    have kept := run_of_tick (I := fun u => u.Sound ∧ u.Posed)
      (fun u holds => ⟨kept_sound.tick holds.1, holds.2.tick holds.1⟩) ticks ⟨sound, posed⟩
    rw [← ran]
    exact kept.2
  | reset =>
    cases done
    exact fun _ => .vacant
  | restore snapshot => cases own

end Posed

/-! ## Reachable stages -/

theorem ReachableBy.posed (reachable : ReachableBy Action.IsSane s) : s.Posed := by
  induction reachable with
  | new made =>
    obtain ⟨-, rfl⟩ := new_eq_ok_iff.1 made
    exact fun _ => .vacant
  | perform before sane own done ih => exact ih.perform before.sound sane own done
  | @restore s source _ _ _ before captured =>
    rcases restore_capture_cases s source with same | same
    · rw [same]
      exact captured
    · rwa [same]

/-- Wherever actors are put and however far they move, they are inside the canvas and look in a
direction. -/
theorem poses_legal (reachable : ReachableBy Action.IsSane s) {id : ActorId} {actor : Actor}
    (found : s.world.scene.actors.get? id = some actor) :
    actor.Legal s.config.bounds ∧
      actor.x.isNaN = false ∧ actor.y.isNaN = false ∧ actor.angle.isNaN = false := by
  have legal := (reachable.posed id).pose actor found
  rw [reachable.bounds_eq] at legal
  exact ⟨legal, legal.x.number, legal.y.number, legal.angle.number⟩

/-! ### An actor gone astray -/

def vastCanvas : Config :=
  { Config.default with canvasWidth := 1.7e308 }

/-- Put beyond the right edge of a vast canvas, and moved on from there. -/
def astray : Stage :=
  (((fresh vastCanvas).addActorAt (1.0 / 0.0) (-0.0)).1.setProgram ⟨0⟩
    ["XY_1e308_-5", "ROTLEFT_400"]).start.tick.1.tick.1

theorem reachable_astray : ReachableBy Action.IsSane astray := by
  have valid : vastCanvas.check = .ok () := Config.check_eq_ok_iff.2 (by decide +kernel)
  have new : ReachableBy Action.IsSane (fresh vastCanvas) := .new (new_eq_ok_iff.2 ⟨valid, rfl⟩)
  have added := new.act (.addActorAt (1.0 / 0.0) (-0.0)) ⟨by decide, by decide⟩ rfl rfl
  have installed := added.act (.setProgram ⟨0⟩ ["XY_1e308_-5", "ROTLEFT_400"]) trivial rfl rfl
  have started := installed.act .start trivial rfl rfl
  exact (started.act .tick trivial rfl rfl).act .tick trivial rfl rfl

theorem poses_legal_astray :
    ReachableBy Action.IsSane astray ∧
      ∃ actor, astray.world.scene.actors.get? ⟨0⟩ = some actor ∧
        actor.Legal astray.config.bounds ∧
          actor.x.isNaN = false ∧ actor.y.isNaN = false ∧ actor.angle.isNaN = false := by
  have present : (astray.world.scene.actors.get? ⟨0⟩).isSome = true := by decide +kernel
  obtain ⟨actor, found⟩ := Option.isSome_iff_exists.1 present
  exact ⟨reachable_astray, actor, found, poses_legal reachable_astray found⟩

end Stage

end Playhouse
