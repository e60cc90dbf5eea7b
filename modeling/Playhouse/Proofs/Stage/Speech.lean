import Playhouse.Proofs.Stage.Cast
import Playhouse.Proofs.Tick.Mention

/-!
# Speech and pauses

On a reachable stage an actor pauses exactly as long as it has a bubble, and then it stands at a
block of its program that speaks the words of the bubble (`ReachableBy.wellCast`).

`Stage.RaisedAt` remembers which block of which program the last bubble of an actor came from.
Nothing but the end of the bubble takes the actor away from that block, so when its time has come
the cursor moves past just this block (`speech_pauses`).
-/

namespace Playhouse

/-- As long as the role has a bubble, its cursor is at `position` of `program`. -/
def Role.StaysAt (r : Role) (program : Program) (position : Nat) : Prop :=
  r.bubble.isSome = true →
    r.program = some program ∧ ∃ cursor, r.cursor = some cursor ∧ cursor.position = position

theorem Role.edited_staysAt (program : Program) (position : Nat) :
    Role.Edited fun r => r.StaysAt program position where
  vacant := nofun
  enter := by
    intro r actor fits missing _ live
    have none : (r.enter actor).bubble = none := fits.bubble_eq_none_of_missing missing
    rw [none] at live
    cases live
  install := by
    intro r program _ live
    cases live
  place := fun _ _ stays => stays

/-- No edit makes a bubble. -/
theorem Role.edited_live (live : Prop) : Role.Edited fun r => r.bubble.isSome = true → live where
  vacant := nofun
  enter := fun _ _ _ _ old => old
  install := by
    intro r program _ new
    cases new
  place := fun _ _ old => old

/-! ## The events of a tick -/

namespace World

variable {w : World} {offset now : Float} {id : ActorId} {r : Role}

/-- An actor that has a bubble after a tick either has spoken or has done nothing. -/
theorem Outcome.speaks_or_rests (outcome : w.Outcome offset now id r) (fits : (w.role id).Fits)
    (live : r.bubble.isSome = true) :
    (∃ bubble, w.actOf offset now id = some (.speech id bubble) ∧
        r = (w.role id).release.speak bubble) ∨
      w.actOf offset now id = none ∧ (w.role id).bubble.isSome = true ∧
        r = (w.role id).release := by
  have silent : ∀ p, w.actOf offset now id = some (.motion p) → (w.role id).bubble = none := by
    intro p found
    obtain ⟨actor, cursor, program, block, ready, -⟩ := actOf_eq_motion found
    exact fits.bubble_eq_none ready.not_paused
  cases outcome with
  | rests found => exact .inr ⟨found, live, rfl⟩
  | speaks found => exact .inl ⟨_, found, rfl⟩
  | moves found _ | collides _ _ found _ =>
    change (w.role id).bubble.isSome = true at live
    rw [silent _ found] at live
    cases live

/-- A bubble that is there after the start of a tick has not expired. -/
theorem role_awake_of_live (live : ((w.awake now).role id).bubble.isSome = true) :
    (w.awake now).role id = w.role id := by
  rw [role_awake] at live ⊢
  split
  · rename_i expired
    rw [if_pos expired] at live
    cases live
  · rfl

end World

namespace Stage

variable {s t : Stage} {id : ActorId} {program : Program} {position : Nat}

/-- After a tick an actor has a bubble either because it has just appeared or because it was there
before and the actor has done nothing. -/
theorem live_tick (sound : s.Sound) (cast : s.WellCast) (running : s.running = true)
    (live : (s.tick.1.world.role id).bubble.isSome = true) :
    (∃ bubble, .shown id bubble ∈ s.tick.2.bubbleEvents ∧
        s.tick.1.world.role id =
          ((s.world.awake s.time).role id).release.speak bubble) ∨
      (∀ bubble, .shown id bubble ∉ s.tick.2.bubbleEvents) ∧
        (s.world.role id).bubble.isSome = true ∧
        s.tick.1.world.role id = (s.world.role id).release := by
  obtain ⟨world, report⟩ := tick_eq running
  rw [world] at live ⊢
  rw [report]
  have outcome := sound.keyed.outcome_tick s.offset s.time id
  have fits := World.fits_awake (cast.fits id) s.time
  rcases outcome.speaks_or_rests fits live with ⟨bubble, found, same⟩ | ⟨idle, before, same⟩
  · exact .inl ⟨bubble, sound.keyed.shown_mem_iff.2 found, same⟩
  · have awake := World.role_awake_of_live before
    rw [awake] at before same
    refine .inr ⟨?_, before, same⟩
    intro bubble event
    rw [sound.keyed.shown_mem_iff.1 event] at idle
    cases idle

/-! ## Where a bubble came from -/

/-- In some course of events the last bubble that appeared for `id` came from the block at
`position` of `program`. -/
inductive RaisedAt (id : ActorId) (program : Program) (position : Nat) : Stage → Prop where
  | shown {s : Stage} {bubble : Bubble} {cursor : Cursor} (before : s.Reachable)
    (event : .shown id bubble ∈ s.tick.2.bubbleEvents)
    (program_eq : s.world.scene.programs.get? id = some program)
    (cursor_eq : (s.world.awake s.time).scene.cursors.get? id = some cursor)
    (position_eq : cursor.position = position) : RaisedAt id program position s.tick.1
  | tick {s : Stage} (before : RaisedAt id program position s)
    (silent : ∀ bubble, .shown id bubble ∉ s.tick.2.bubbleEvents) :
    RaisedAt id program position s.tick.1
  | edit {s t : Stage} {action : Action} {reply : Reply} (before : RaisedAt id program position s)
    (edit : action.edits = true) (done : s.perform action = some (t, reply)) :
    RaisedAt id program position t
  | restore {s source : Stage} (before : s.Reachable)
    (captured : RaisedAt id program position source) :
    RaisedAt id program position (s.restore source.capture).1

theorem running_of_event {event : BubbleEvent} (found : event ∈ s.tick.2.bubbleEvents) :
    s.running = true := by
  cases running : s.running with
  | true => rfl
  | false =>
    rw [tick, running] at found
    cases found

theorem RaisedAt.reachable (raised : RaisedAt id program position s) : s.Reachable := by
  induction raised with
  | shown before _ _ _ _ => exact before.act .tick rfl rfl
  | tick _ _ ih => exact ih.act .tick rfl rfl
  | edit _ edit done ih => exact ih.edit edit done
  | restore before _ ih => exact .restore before ih trivial

/-- An actor stays at the block from which its bubble came. -/
theorem RaisedAt.staysAt (raised : RaisedAt id program position s) :
    (s.world.role id).StaysAt program position := by
  induction raised with
  | @shown s bubble cursor before event program_eq cursor_eq position_eq =>
    intro live
    have running := running_of_event event
    rcases live_tick before.sound before.wellCast running live with ⟨_, _, same⟩ | ⟨silent, _⟩
    · rw [same]
      exact ⟨program_eq, cursor, cursor_eq, position_eq⟩
    · exact absurd event (silent bubble)
  | @tick s before silent ih =>
    intro live
    cases running : s.running with
    | false =>
      rw [Stage.tick, running] at live ⊢
      exact ih live
    | true =>
      have sound := before.reachable.sound
      have cast := before.reachable.wellCast
      rcases live_tick sound cast running live with ⟨_, event, _⟩ | ⟨-, old, same⟩
      · exact absurd event (silent _)
      · rw [same]
        exact ih old
  | @edit s t action reply before edit done ih =>
    have base : s.Sound ∧ s.WellCast := ⟨before.reachable.sound, before.reachable.wellCast⟩
    have edited :=
      kept_base.toEditedOn.and (editedOn_role (Role.edited_staysAt program position) id)
    exact (edited.perform edit done ⟨base, ih⟩).2
  | @restore s source before captured ih =>
    rw [restore_capture s captured.reachable.sound.valid]
    exact ih

theorem raisedAt_tick (reachable : s.Reachable)
    (before : (s.world.role id).bubble.isSome = true →
      ∃ program position, RaisedAt id program position s)
    (live : (s.tick.1.world.role id).bubble.isSome = true) :
    ∃ program position, RaisedAt id program position s.tick.1 := by
  cases running : s.running with
  | false =>
    have same : s.tick.1 = s := by rw [Stage.tick, running]; rfl
    rw [same] at live ⊢
    exact before live
  | true =>
    have sound := reachable.sound
    rcases live_tick sound reachable.wellCast running live with ⟨_, event, _⟩ | ⟨silent, old, _⟩
    · have said := event
      rw [(tick_eq running).2, sound.keyed.shown_mem_iff] at said
      obtain ⟨actor, cursor, program, _, _, _, ready, _⟩ := World.actOf_eq_speech said
      exact ⟨program, cursor.position,
        .shown reachable event ready.program_eq ready.cursor_eq rfl⟩
    · obtain ⟨program, position, raised⟩ := before old
      exact ⟨program, position, raised.tick silent⟩

/-- Every bubble came from some block. -/
theorem ReachableBy.raisedAt (reachable : s.Reachable) (id : ActorId)
    (live : (s.world.role id).bubble.isSome = true) :
    ∃ program position, RaisedAt id program position s := by
  induction reachable with
  | new made =>
    obtain ⟨-, rfl⟩ := new_eq_ok_iff.1 made
    cases live
  | @perform s t action reply before _ own done ih =>
    cases action with
    | tick =>
      cases done
      exact raisedAt_tick before ih live
    | run ticks =>
      have ran : (s.run ticks).1 = t := congrArg Prod.fst (Option.some.inj done)
      have kept := run_of_tick (I := fun u => u.Reachable ∧
        ((u.world.role id).bubble.isSome = true →
          ∃ program position, RaisedAt id program position u))
        (fun u h => ⟨h.1.act .tick rfl rfl, raisedAt_tick h.1 h.2⟩) ticks ⟨before, ih⟩
      rw [ran] at kept
      exact kept.2 live
    | restore snapshot => cases own
    | _ =>
      have edited := kept_base.toEditedOn.and
        (editedOn_role (Role.edited_live ((s.world.role id).bubble.isSome = true)) id)
      have base := And.intro before.sound before.wellCast
      have old := (edited.perform rfl done ⟨base, fun live => live⟩).2 live
      obtain ⟨program, position, raised⟩ := ih old
      exact ⟨program, position, raised.edit rfl done⟩
  | @restore s source before captured _ _ ih =>
    rw [restore_capture s captured.sound.valid] at live
    obtain ⟨program, position, raised⟩ := ih live
    exact ⟨program, position, raised.restore before⟩

/-- What is left of a bubble once its time has come: its actor is past the block that raised it. -/
theorem cursor_awake_of_hidden (reachable : s.Reachable) (raised : RaisedAt id program position s)
    (hidden : .hidden id ∈ s.tick.2.bubbleEvents) :
    ∃ bubble cursor seconds,
      s.world.bubbles.live.get? id = some bubble ∧
      s.world.scene.cursors.get? id = some cursor ∧ cursor.position = position ∧
      program[position]? = some (.speak bubble.kind bubble.text seconds) ∧
      (s.world.awake s.time).scene.cursors.get? id =
        some { cursor with position := position + 1 } ∧
      (s.world.awake s.time).scene.programs.get? id = some program := by
  have running := running_of_event hidden
  rw [(tick_eq running).2, reachable.sound.keyed.hidden_mem_iff] at hidden
  obtain ⟨-, bubble, live, -⟩ := Bubbles.mem_expired_iff.1 hidden
  have live : (s.world.role id).bubble = some bubble := live
  have fits := reachable.wellCast.fits id
  obtain ⟨_, cursor, _, seconds, stands⟩ := fits.speaks bubble live
  obtain ⟨program_eq, _, cursor_eq, position_eq⟩ := raised.staysAt (by rw [live]; rfl)
  obtain rfl : cursor = _ := Option.some.inj (stands.cursor_eq.symm.trans cursor_eq)
  obtain rfl : program = _ := Option.some.inj (program_eq.symm.trans stands.program_eq)
  have awake : ((s.world.awake s.time).role id).cursor =
      some { cursor with position := position + 1 } := by
    rw [World.role_awake, if_pos hidden, stands.cursor_wake, position_eq]
  refine ⟨bubble, cursor, seconds, live, cursor_eq, position_eq, ?_, awake, program_eq⟩
  rw [← position_eq]
  exact stands.block_eq

/-- What there is between the pause of an actor, its bubble and its program. -/
structure PausesToSpeak (s : Stage) (id : ActorId) : Prop where
  paused_iff : s.world.bubbles.isPaused id = true ↔
    ∃ bubble, s.world.bubbles.live.get? id = some bubble
  /-- The actor is there, is not held and is at a block that speaks the words of the bubble. -/
  speaking : ∀ bubble, s.world.bubbles.live.get? id = some bubble →
    ∃ actor cursor program seconds,
      s.world.scene.actors.get? id = some actor ∧ s.world.scene.held.contains id = false ∧
      s.world.scene.cursors.get? id = some cursor ∧ cursor.isIdle = false ∧
      s.world.scene.programs.get? id = some program ∧
      program[cursor.position]? = some (.speak bubble.kind bubble.text seconds)
  raised : ∀ bubble, s.world.bubbles.live.get? id = some bubble →
    ∃ program position, RaisedAt id program position s
  /-- When the time of the bubble has come, the cursor moves past the block that raised it, in the
  same program. -/
  past_block : ∀ program position, RaisedAt id program position s →
    .hidden id ∈ s.tick.2.bubbleEvents →
    ∃ bubble cursor seconds,
      s.world.bubbles.live.get? id = some bubble ∧
      s.world.scene.cursors.get? id = some cursor ∧ cursor.position = position ∧
      program[position]? = some (.speak bubble.kind bubble.text seconds) ∧
      (s.world.awake s.time).scene.cursors.get? id =
        some { cursor with position := position + 1 } ∧
      (s.world.awake s.time).scene.programs.get? id = some program

theorem speech_pauses (reachable : s.Reachable) (id : ActorId) : s.PausesToSpeak id := by
  have fits := reachable.wellCast.fits id
  refine ⟨?_, ?_, ?_, ?_⟩
  · have paused : s.world.bubbles.isPaused id = (s.world.bubbles.live.get? id).isSome :=
      fits.paused_eq
    rw [paused, Option.isSome_iff_exists]
  · intro bubble live
    obtain ⟨actor, cursor, program, seconds, stands⟩ := fits.speaks bubble live
    exact ⟨actor, cursor, program, seconds, stands.actor_eq, stands.not_held, stands.cursor_eq,
      stands.not_idle, stands.program_eq, stands.block_eq⟩
  · intro bubble live
    exact reachable.raisedAt id (Option.isSome_iff_exists.2 ⟨bubble, live⟩)
  · intro program position raised hidden
    exact cursor_awake_of_hidden reachable raised hidden

theorem speech_pauses_greeting :
    greeting.Reachable ∧ greeting.world.bubbles.isPaused ⟨0⟩ = true ∧
      greeting.PausesToSpeak ⟨0⟩ := by
  have paused : greeting.world.bubbles.isPaused ⟨0⟩ = true := by decide +kernel
  exact ⟨reachable_greeting, paused, speech_pauses reachable_greeting ⟨0⟩⟩

end Stage

end Playhouse
