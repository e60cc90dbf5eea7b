import Playhouse.Proofs.Binary64.Sign
import Playhouse.Proofs.Stage.Config
import Playhouse.Proofs.Stage.Reachable
import Playhouse.Proofs.Tick.Outcome

/-!
# The clock of a reachable stage

A stage is `Sound` if its configuration can be used, actors are stored under their own ids, and its
bubbles keep the time of the stage: they are suspended only while it is stopped, and then since the
present time, and no deadline has a minus sign. All reachable stages are sound
(`ReachableBy.sound`).

So nothing is ever added to a deadline but `0.0`, and starting a stage does not change a bubble
(`Sound.start_eq`).
-/

namespace Playhouse

open Binary64

namespace Bubbles

variable {b : Bubbles} {now : Float}

theorem unsigned_bubble (b : Bubbles) (kind : SpeechKind) (text : String) (seconds : Float)
    (anchor : Point) (running : b.suspendedAt = none) (since : Unsigned now) :
    Unsigned (b.bubble kind text seconds anchor now).deadline := by
  have duration :
      Unsigned (if Block.isDuration seconds then seconds else Block.defaultSeconds) := by
    split
    · rename_i fine
      exact unsigned_of_pos (of_decide_eq_true (Bool.and_eq_true_iff.1 fine).2)
    · decide
  rw [bubble, running]
  exact unsigned_add since duration

/-- Nothing has been lost if the suspension began at the time at which it ends. -/
theorem resume_eq (since : ∀ start, b.suspendedAt = some start → start = now)
    (unsigned : ∀ id bubble, b.live.get? id = some bubble → Unsigned bubble.deadline) :
    b.resume now = { b with suspendedAt := none } := by
  unfold resume
  split
  · rename_i running
    rw [← running]
  · rename_i start suspended
    obtain rfl := since start suspended
    have live : (b.live.mapEntries fun _ bubble =>
        { bubble with deadline := bubble.deadline + positivePart (start - start) }) = b.live := by
      refine IdMap.ext_get? fun id => ?_
      rw [IdMap.get?_mapEntries]
      cases found : b.live.get? id with
      | none => rfl
      | some bubble =>
        rw [Option.map_some, positivePart_sub_self, add_zero_of_unsigned (unsigned id bubble found)]
    simp only [live]

end Bubbles

namespace Stage

structure Sound (s : Stage) : Prop where
  valid : s.config.check = .ok ()
  offset_eq : s.offset = s.config.bubbleOffset
  keyed : s.world.Keyed
  suspended : ∀ since, s.world.bubbles.suspendedAt = some since →
    s.running = false ∧ since = s.time
  unsigned : ∀ id bubble, s.world.bubbles.live.get? id = some bubble → Unsigned bubble.deadline

namespace Sound

variable {s : Stage}

theorem suspendedAt_eq_none (sound : s.Sound) (running : s.running = true) :
    s.world.bubbles.suspendedAt = none := by
  cases suspended : s.world.bubbles.suspendedAt with
  | none => rfl
  | some since =>
    have stopped := (sound.suspended since suspended).1
    rw [running] at stopped
    cases stopped

theorem usable (sound : s.Sound) : s.config.Usable :=
  Config.check_eq_ok_iff.1 sound.valid

theorem unsigned_time (sound : s.Sound) : Unsigned s.time :=
  unsigned_mul (unsigned_ofNat s.ticks) (unsigned_of_pos sound.usable.tickSeconds.pos)

theorem resume_eq (sound : s.Sound) :
    s.world.bubbles.resume s.time = { s.world.bubbles with suspendedAt := none } :=
  Bubbles.resume_eq (fun since suspended => (sound.suspended since suspended).2) sound.unsigned

/-- A start ends the suspension and does nothing else. -/
theorem start_eq (sound : s.Sound) :
    s.start =
      { s with
        running := true
        world.bubbles := { s.world.bubbles with suspendedAt := none } } := by
  unfold Stage.start
  split
  · rename_i running
    obtain ⟨config, offset, ⟨scene, bubbles⟩, random, ticks, _, diagnostics⟩ := s
    cases running
    congr 2
    exact congrArg (fun at? => { bubbles with suspendedAt := at? }) (sound.suspendedAt_eq_none rfl)
  · rw [sound.resume_eq]

end Sound

/-! ## Reachable stages are sound -/

variable {s : Stage}

theorem tick_eq (running : s.running = true) :
    s.tick.1.world = (s.world.tick s.offset s.time).1 ∧
      s.tick.2 = (s.world.tick s.offset s.time).2 := by
  rw [tick, if_pos running]
  exact ⟨rfl, rfl⟩

theorem Sound.enter (sound : s.Sound) (x y : Float) : (s.addActorAt x y).1.Sound where
  valid := sound.valid
  offset_eq := sound.offset_eq
  keyed := by
    intro id actor found
    change (s.world.scene.actors.insert _ _).get? id = some actor at found
    rw [IdMap.get?_insert] at found
    split at found
    · rename_i same
      cases found
      exact same
    · exact sound.keyed id actor found
  suspended := sound.suspended
  unsigned := sound.unsigned

theorem Sound.install (sound : s.Sound) (id : ActorId) (program : Program) :
    (s.install id program).Sound where
  valid := sound.valid
  offset_eq := sound.offset_eq
  keyed := sound.keyed
  suspended := sound.suspended
  unsigned := by
    intro key bubble found
    change (s.world.bubbles.live.erase id).get? key = some bubble at found
    rw [IdMap.get?_erase] at found
    split at found
    · cases found
    · exact sound.unsigned key bubble found

theorem Sound.place (sound : s.Sound) (id : ActorId) (x y : Float) :
    Sound { s with world.scene := s.world.scene.place id x y } where
  valid := sound.valid
  offset_eq := sound.offset_eq
  keyed := by
    intro key actor found
    change (s.world.scene.actors.adjust id _).get? key = some actor at found
    rw [IdMap.get?_adjust] at found
    split at found
    · obtain ⟨old, known, rfl⟩ := Option.map_eq_some_iff.1 found
      exact sound.keyed key old known
    · exact sound.keyed key actor found
  suspended := sound.suspended
  unsigned := sound.unsigned

theorem Sound.start (sound : s.Sound) : s.start.Sound := by
  rw [sound.start_eq]
  exact ⟨sound.valid, sound.offset_eq, sound.keyed, nofun, sound.unsigned⟩

theorem Sound.stop (sound : s.Sound) : s.stop.Sound := by
  unfold Stage.stop
  split
  · rename_i running
    refine ⟨sound.valid, sound.offset_eq, sound.keyed, ?_, sound.unsigned⟩
    intro since suspended
    change s.world.bubbles.suspendedAt.or (some s.time) = some since at suspended
    rw [sound.suspendedAt_eq_none running] at suspended
    exact ⟨rfl, (Option.some.inj suspended).symm⟩
  · exact sound

theorem Sound.tick (sound : s.Sound) (running : s.running = true) : s.tick.1.Sound := by
  have free := sound.suspendedAt_eq_none running
  unfold Stage.tick
  rw [if_pos running]
  refine ⟨sound.valid, sound.offset_eq, sound.keyed.tick s.offset s.time, ?_, ?_⟩
  · intro since suspended
    change (s.world.tick s.offset s.time).1.bubbles.suspendedAt = some since at suspended
    rw [World.suspendedAt_tick, free] at suspended
    cases suspended
  · intro id bubble found
    -- A bubble is either as old as the tick or has been there before it.
    have outcome := sound.keyed.outcome_tick s.offset s.time id
    have found : ((s.world.tick s.offset s.time).1.role id).bubble = some bubble := found
    have before : ∀ {old}, ((s.world.awake s.time).role id).bubble = some old →
        Unsigned old.deadline := by
      intro old live
      rw [World.role_awake] at live
      split at live
      · cases live
      · exact sound.unsigned id old live
    generalize (s.world.tick s.offset s.time).1.role id = r at outcome found
    cases outcome with
    | rests _ | moves _ _ | collides _ _ _ _ => exact before found
    | speaks said =>
      cases found
      obtain ⟨actor, cursor, program, kind, text, seconds, -, rfl⟩ := World.actOf_eq_speech said
      refine Bubbles.unsigned_bubble _ kind text seconds _ ?_ sound.unsigned_time
      rw [World.suspendedAt_awake, free]

theorem Sound.reset (sound : s.Sound) : s.reset.Sound :=
  ⟨sound.valid, sound.offset_eq, nofun, nofun, nofun⟩

theorem Sound.restored (sound : s.Sound) : s.record.toStage.Sound where
  valid := sound.valid
  offset_eq := rfl
  keyed := sound.keyed
  suspended := by
    intro since suspended
    refine ⟨rfl, ?_⟩
    change s.world.bubbles.suspendedAt.or (some s.time) = some since at suspended
    cases before : s.world.bubbles.suspendedAt with
    | none =>
      rw [before] at suspended
      exact (Option.some.inj suspended).symm
    | some start =>
      rw [before] at suspended
      obtain rfl : start = since := Option.some.inj suspended
      exact (sound.suspended start before).2
  unsigned := sound.unsigned

theorem sound_fresh {config : Config} (valid : config.check = .ok ()) :
    (Stage.fresh config).Sound :=
  ⟨valid, rfl, nofun, nofun, nofun⟩

theorem kept_sound : Kept Sound where
  drawn := fun _ _ _ sound =>
    ⟨sound.valid, sound.offset_eq, sound.keyed, sound.suspended, sound.unsigned⟩
  entered := fun _ x y _ sound => sound.enter x y
  installed := fun _ id program _ sound => sound.install id program
  placed := fun _ id x y _ sound => sound.place id x y
  started := fun _ _ sound => sound.start
  stopped := fun _ _ sound => sound.stop
  ticked := fun _ _ sound running => sound.tick running
  reset := fun _ _ sound => sound.reset
  restored := fun _ _ sound => sound.restored

theorem ReachableBy.sound {legal : Action → Prop} (reachable : ReachableBy legal s) : s.Sound :=
  reachable.of_kept kept_sound fun _ => sound_fresh

end Stage

end Playhouse
