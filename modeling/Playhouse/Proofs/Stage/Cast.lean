import Playhouse.Proofs.Stage.Fits
import Playhouse.Proofs.Stage.Sound

/-!
# The cast of a reachable stage

A stage is `WellCast` if all roles fit and the actors are those whose ids have been handed out. All
reachable stages are well cast (`ReachableBy.wellCast`).

Every edit does to each role one of a few things, or nothing. So what these things keep of a role
(`Role.Edited`) edits keep on all reachable stages (`editedOn_role`).
-/

namespace Playhouse

/-- What is done to roles in edits keeps `P`. -/
structure Role.Edited (P : Role → Prop) : Prop where
  vacant : P .vacant
  enter : ∀ r actor, r.Fits → r.actor = none → P r → P (r.enter actor)
  install : ∀ r program, P r → P (r.install program)
  place : ∀ r pose, P r → P (r.place pose)

/-! ## Roles after edits -/

namespace Stage

variable {s : Stage}

theorem role_addActorAt (s : Stage) (x y : Float) (id : ActorId) :
    (s.addActorAt x y).1.world.role id =
      if id = s.world.scene.nextId then
        (s.world.role id).enter
          ⟨id, s.world.scene.bounds.clampX x, s.world.scene.bounds.clampY y, 0.0⟩
      else s.world.role id := by
  simp only [addActorAt, World.role, Scene.addActor, IdMap.get?_insert, eq_comm (a := id)]
  split
  · rename_i same
    rw [same]
    rfl
  · rfl

theorem role_install (s : Stage) (key : ActorId) (program : Program) (id : ActorId) :
    (s.install key program).world.role id =
      if id = key then (s.world.role id).install program else s.world.role id := by
  simp only [install, World.install, World.role, Scene.install, Bubbles.cancel, Bubbles.isPaused,
    IdMap.get?_insert, IdMap.get?_erase, IdMap.contains_erase, eq_comm (a := id)]
  split
  · rename_i same
    simp [same, Role.install]
  · rename_i other
    simp [other]

theorem role_place (s : Stage) (key : ActorId) (x y : Float) (id : ActorId) :
    World.role ⟨s.world.scene.place key x y, s.world.bubbles⟩ id =
      if id = key then
        (s.world.role id).place fun actor =>
          { actor with x := s.world.scene.bounds.clampX x, y := s.world.scene.bounds.clampY y }
      else s.world.role id := by
  simp only [World.role, Scene.place, IdMap.get?_adjust, eq_comm (a := id)]
  split <;> rfl

theorem Sound.role_start (sound : s.Sound) (id : ActorId) :
    s.start.world.role id = s.world.role id := by
  rw [sound.start_eq]
  rfl

theorem role_stop (s : Stage) (id : ActorId) : s.stop.world.role id = s.world.role id := by
  unfold stop
  split <;> rfl

theorem role_toStage (s : Stage) (id : ActorId) :
    s.record.toStage.world.role id = s.world.role id := rfl

/-! ## Reachable stages are well cast -/

structure WellCast (s : Stage) : Prop where
  fits : ∀ id, (s.world.role id).Fits
  entered : ∀ id, (s.world.role id).actor.isSome = true ↔ id < s.world.scene.nextId

/-- Nobody has the id yet that is handed out next. -/
theorem WellCast.missing (cast : s.WellCast) :
    (s.world.role s.world.scene.nextId).actor = none := by
  have unknown := mt (cast.entered s.world.scene.nextId).1 (ActorId.lt_irrefl _)
  simpa using unknown

theorem WellCast.enter (cast : s.WellCast) (x y : Float) : (s.addActorAt x y).1.WellCast where
  fits := by
    intro id
    rw [role_addActorAt]
    split
    · rename_i new
      subst new
      exact (cast.fits _).enter cast.missing _
    · exact cast.fits id
  entered := by
    intro id
    have below : id < s.world.scene.nextId.next ↔
        id = s.world.scene.nextId ∨ id < s.world.scene.nextId := by
      rw [ActorId.lt_iff, ActorId.lt_iff, ← ActorId.index_inj]
      change id.index < s.world.scene.nextId.index + 1 ↔ _
      omega
    change _ ↔ id < s.world.scene.nextId.next
    rw [role_addActorAt, below]
    split
    · rename_i new
      simp [Role.enter, new]
    · rename_i old
      rw [cast.entered id]
      simp [old]

theorem WellCast.install (cast : s.WellCast) (key : ActorId) (program : Program) :
    (s.install key program).WellCast where
  fits := by
    intro id
    rw [role_install]
    split
    · exact .install _ program
    · exact cast.fits id
  entered := by
    intro id
    change _ ↔ id < s.world.scene.nextId
    rw [role_install, ← cast.entered id]
    split <;> rfl

theorem WellCast.place (cast : s.WellCast) (key : ActorId) (x y : Float) :
    WellCast { s with world.scene := s.world.scene.place key x y } where
  fits := by
    intro id
    rw [role_place]
    split
    · exact (cast.fits id).place _
    · exact cast.fits id
  entered := by
    intro id
    change _ ↔ id < s.world.scene.nextId
    rw [role_place, ← cast.entered id]
    split
    · simp [Role.place]
    · rfl

theorem WellCast.tick (cast : s.WellCast) (sound : s.Sound) (running : s.running = true) :
    s.tick.1.WellCast := by
  have outcome := sound.keyed.outcome_tick s.offset s.time
  unfold Stage.tick
  rw [if_pos running]
  refine ⟨fun id => ?_, fun id => ?_⟩
  · exact (outcome id).fits (World.fits_awake (cast.fits id) s.time)
  · change ((s.world.tick s.offset s.time).1.role id).actor.isSome = true ↔
      id < (s.world.tick s.offset s.time).1.scene.nextId
    rw [(outcome id).isSome_actor, World.nextId_tick]
    exact cast.entered id

theorem wellCast_of_role_eq {t : Stage} (cast : s.WellCast)
    (roles : ∀ id, t.world.role id = s.world.role id)
    (nextId : t.world.scene.nextId = s.world.scene.nextId) : t.WellCast where
  fits := by
    intro id
    rw [roles id]
    exact cast.fits id
  entered := by
    intro id
    rw [roles id, nextId]
    exact cast.entered id

theorem wellCast_fresh (config : Config) : (Stage.fresh config).WellCast where
  fits := fun _ => .vacant
  entered := by
    intro id
    change false = true ↔ id.index < 0
    simp

theorem keptOn_wellCast : KeptOn Sound WellCast where
  drawn := fun _ _ _ cast => wellCast_of_role_eq cast (fun _ => rfl) rfl
  entered := fun _ x y _ cast => cast.enter x y
  installed := fun _ id program _ cast => cast.install id program
  placed := fun _ id x y _ cast => cast.place id x y
  started := by
    intro s sound cast
    refine wellCast_of_role_eq cast sound.role_start ?_
    rw [sound.start_eq]
  stopped := by
    intro s _ cast
    refine wellCast_of_role_eq cast (role_stop s) ?_
    unfold stop
    split <;> rfl
  ticked := fun _ sound cast running => cast.tick sound running
  reset := fun s _ _ => wellCast_of_role_eq (wellCast_fresh s.config) (fun _ => rfl) rfl
  restored := fun s _ cast => wellCast_of_role_eq cast (role_toStage s) rfl

theorem kept_base : Kept fun s => s.Sound ∧ s.WellCast :=
  kept_sound.and keptOn_wellCast

theorem ReachableBy.wellCast {legal : Action → Prop} (reachable : ReachableBy legal s) :
    s.WellCast :=
  (reachable.of_kept kept_base fun config valid =>
    ⟨sound_fresh valid, wellCast_fresh config⟩).2

/-! ## Properties of roles -/

theorem editedOn_role {P : Role → Prop} (edited : Role.Edited P) (id : ActorId) :
    EditedOn (fun s => s.Sound ∧ s.WellCast) fun s => P (s.world.role id) where
  drawn := fun _ _ _ holds => holds
  entered := by
    intro s x y base holds
    rw [role_addActorAt]
    split
    · rename_i new
      subst new
      exact edited.enter _ _ (base.2.fits _) base.2.missing holds
    · exact holds
  installed := by
    intro s key program _ holds
    rw [role_install]
    split
    · exact edited.install _ program holds
    · exact holds
  placed := by
    intro s key x y _ holds
    rw [role_place]
    split
    · exact edited.place _ _ holds
    · exact holds
  started := by
    intro s base holds
    rw [base.1.role_start]
    exact holds
  stopped := by
    intro s _ holds
    rw [role_stop]
    exact holds
  reset := fun _ _ _ => edited.vacant

end Stage

end Playhouse
