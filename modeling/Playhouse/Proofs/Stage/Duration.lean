import Playhouse.Proofs.Binary64.Monotone
import Playhouse.Proofs.Block
import Playhouse.Proofs.Stage.Held
import Playhouse.Proofs.Stage.Speech
import Playhouse.Proofs.Tick.Account

/-!
# How long speech lasts

An actor speaks from the tick that shows its bubble until the first tick whose time is at least the
time of that tick and the duration of the speech, whatever is done to the stage in between that
spares its program: stops, starts, and changes of other actors (`speech_lasts`). In the ticks before
nothing happens to it. In that tick its bubble goes, and it performs the next block.

As products and natural numbers are rounded monotonically, later ticks have no earlier times
(`time_le_time`). So once a bubble has gone, no later tick is early enough for it.
-/

namespace Playhouse

open Binary64

/-! ## The end of a speech -/

namespace Role

variable {r : Role} {actor : Actor} {cursor : Cursor} {program : Program} {block next : Block}

theorem place_id (r : Role) : r.place (fun actor => actor) = r := by
  rw [place, Option.map_id']

theorem place_place (r : Role) (first second : Actor → Actor) :
    (r.place first).place second = r.place (second ∘ first) := by
  rw [place, place, place, Option.map_map]

/-- Whoever has spoken is ready for the block behind the speech. -/
theorem Fits.readyFor_wake_iff (fits : r.Fits) (stands : r.At actor cursor program block) :
    (∃ actor cursor program, r.wake.ReadyFor actor cursor program next) ↔
      program[cursor.position + 1]? = some next := by
  have moved := stands.cursor_wake
  constructor
  · rintro ⟨actor', cursor', program', ready⟩
    obtain rfl : _ = cursor' := Option.some.inj (moved.symm.trans ready.cursor_eq)
    obtain rfl : program = program' :=
      Option.some.inj (stands.program_eq.symm.trans ready.program_eq)
    exact ready.block_eq
  · intro found
    have length : cursor.length = program.length := by
      rw [(fits.length_eq cursor stands.cursor_eq).1, Role.length, stands.program_eq]
      rfl
    have inside : cursor.position + 1 < program.length := (List.getElem?_eq_some_iff.1 found).1
    exact ⟨actor, _, program, {
      actor_eq := stands.actor_eq
      cursor_eq := moved
      program_eq := stands.program_eq
      block_eq := found
      not_idle := by
        rw [Cursor.isIdle, decide_eq_false_iff_not, length]
        exact Nat.not_le.2 inside
      not_held := stands.not_held
      not_paused := rfl }⟩

end Role

namespace World

variable {w : World} {offset now : Float} {id : ActorId} {actor : Actor} {cursor : Cursor}
  {program : Program} {block : Block}

theorem Keyed.performed_of_expired (keyed : w.Keyed) (fits : (w.role id).Fits)
    (stands : (w.role id).At actor cursor program block) (expired : id ∈ w.bubbles.expired now) :
    w.performed offset now id = program[cursor.position + 1]? := by
  refine Option.ext fun next => ?_
  rw [keyed.performed_eq_some_iff, role_awake, if_pos expired]
  exact fits.readyFor_wake_iff stands

theorem Keyed.filter_isHidden_about (keyed : w.Keyed) (expired : id ∈ w.bubbles.expired now) :
    ((w.tick offset now).2.about id).bubbleEvents.filter (·.isHidden) = [.hidden id] := by
  rw [keyed.about_tick, if_pos expired]
  cases (w.awake now).actOf offset now id with
  | none => rfl
  | some a => cases a <;> rfl

end World

namespace Stage

variable {s t u : Stage} {id : ActorId} {bubble : Bubble} {program : Program} {cursor : Cursor}
  {seconds : Float} {played before later : List Stage} {action : Action} {reply : Reply}

/-! ## Courses that spare an actor -/

/-- The course up to one of the ticks that are played in it. -/
theorem Spared.until (spared : Spared id s (before ++ u :: later) t) :
    Spared id s before u ∧ u.running = true := by
  generalize same : before ++ u :: later = played at spared
  revert before u later
  refine spared.of_steps (P := fun played _ => ∀ {before u later}, before ++ u :: later = played →
    Spared id s before u ∧ u.running = true) ?_ ?_ ?_
  · intro before u later same
    simp at same
  · intro played t course ih running before u later same
    rcases List.eq_nil_or_concat later with rfl | ⟨later, last, rfl⟩
    · obtain ⟨rfl, here⟩ := List.append_inj' same rfl
      cases here
      exact ⟨course, running⟩
    · rw [List.concat_eq_append, ← List.cons_append, ← List.append_assoc] at same
      exact ih (List.append_inj_left' same rfl)
  · intro played t v action reply _ ih _ _ _
    exact ih

theorem Spared.reachable (spared : Spared id s played t) (reachable : s.Reachable) :
    t.Reachable := by
  induction spared with
  | nil => exact reachable
  | act _ spares done ih => exact ih.act _ (Action.restores_eq_false_of_spares spares) done

/-- An edit that spares an actor does not turn back the clock. -/
theorem clock_of_spares (spares : action.spares id = true) (edit : action.edits = true)
    (done : s.perform action = some (t, reply)) : t.config = s.config ∧ t.ticks = s.ticks := by
  cases action with
  | addActor =>
    obtain ⟨x, y, _, random, -, -, rfl⟩ := perform_addActor done
    exact ⟨rfl, rfl⟩
  | place key x y =>
    simp only [Stage.perform] at done
    split at done
    · rename_i found
      cases done
      obtain ⟨-, -, rfl⟩ := place_eq_ok_iff.1 found
      exact ⟨rfl, rfl⟩
    · cases done
      exact ⟨rfl, rfl⟩
  | start =>
    cases done
    unfold Stage.start
    split <;> exact ⟨rfl, rfl⟩
  | stop =>
    cases done
    unfold Stage.stop
    split <;> exact ⟨rfl, rfl⟩
  | addActorAt | addDefaultActors | setProgram | install =>
    cases done
    exact ⟨rfl, rfl⟩
  | reset | restore snapshot => cases spares
  | tick | run n => cases edit

theorem clock_tick (running : s.running = true) :
    s.tick.1.config = s.config ∧ s.tick.1.ticks = s.ticks + 1 := by
  rw [tick, if_pos running]
  exact ⟨rfl, rfl⟩

/-- The clock counts the ticks of a course. -/
theorem Spared.clock (spared : Spared id s played t) :
    t.config = s.config ∧ t.ticks = s.ticks + played.length := by
  refine spared.of_steps
    (P := fun played t => t.config = s.config ∧ t.ticks = s.ticks + played.length) ⟨rfl, rfl⟩ ?_ ?_
  · intro played t _ clock running
    obtain ⟨config, ticks⟩ := clock_tick running
    rw [config, ticks, clock.2, List.length_append, ← Nat.add_assoc]
    exact ⟨clock.1, rfl⟩
  · intro played t u action reply _ clock spares edit done
    obtain ⟨config, ticks⟩ := clock_of_spares spares edit done
    exact ⟨config.trans clock.1, ticks.trans clock.2⟩

theorem Sound.nonneg_time (sound : s.Sound) : 0.0 ≤ s.time :=
  nonneg_mul (nonneg_ofNat s.ticks) sound.usable.tickSeconds.finite sound.usable.tickSeconds.pos

/-- Later ticks have no earlier times. -/
theorem time_le_time (sound : s.Sound) (config : t.config = s.config) (le : s.ticks ≤ t.ticks) :
    s.time ≤ t.time := by
  have seconds := sound.usable.tickSeconds
  rw [time, time, config]
  exact mul_le_mul (nonneg_ofNat s.ticks) (ofNat_le_ofNat le) seconds.finite seconds.pos

theorem Spared.time_le_of_mem (reachable : s.Reachable) (spared : Spared id s played t)
    (mem : u ∈ played) : 0.0 ≤ u.time ∧ u.time ≤ t.time := by
  obtain ⟨before, later, rfl⟩ := List.append_of_mem mem
  have course := spared.until.1
  have sound := (course.reachable reachable).sound
  obtain ⟨config, ticks⟩ := course.clock
  obtain ⟨config', ticks'⟩ := spared.clock
  refine ⟨sound.nonneg_time, time_le_time sound (config'.trans config.symm) ?_⟩
  rw [ticks, ticks', List.length_append]
  omega

/-! ## The course of a speech -/

/-- The actor begins to speak in the tick: it shows a bubble, from a block that was read from a
token. -/
structure BeginsSpeech (s : Stage) (id : ActorId) (bubble : Bubble) (program : Program)
    (cursor : Cursor) (seconds : Float) : Prop where
  shown : .shown id bubble ∈ s.tick.2.bubbleEvents
  program_eq : s.world.scene.programs.get? id = some program
  cursor_eq : (s.world.awake s.time).scene.cursors.get? id = some cursor
  block_eq : program[cursor.position]? = some (.speak bubble.kind bubble.text seconds)
  compiled : ∃ tokens, .speak bubble.kind bubble.text seconds ∈ Program.ofTokens tokens

/-- The tick leaves the actor alone while its bubble is shown. -/
structure GoesOnSpeaking (u : Stage) (id : ActorId) (bubble : Bubble) : Prop where
  bubble_eq : u.world.bubbles.live.get? id = some bubble
  bubble_tick : u.tick.1.world.bubbles.live.get? id = some bubble
  actor_eq : u.tick.1.world.scene.actors.get? id = u.world.scene.actors.get? id
  cursor_eq : u.tick.1.world.scene.cursors.get? id = u.world.scene.cursors.get? id
  program_eq : u.tick.1.world.scene.programs.get? id = u.world.scene.programs.get? id
  unmentioned : u.tick.2.about id = ∅

/-- The bubble of the actor goes in the tick, once, and the actor performs the block behind the one
at `cursor`, if there is one. -/
structure EndsSpeech (u : Stage) (id : ActorId) (program : Program) (cursor : Cursor) : Prop where
  hidden : (u.tick.2.about id).bubbleEvents.filter (·.isHidden) = [.hidden id]
  program_eq : u.world.scene.programs.get? id = some program
  cursor_eq : u.world.scene.cursors.get? id = some cursor
  cursor_awake : (u.world.awake u.time).scene.cursors.get? id =
    some { cursor with position := cursor.position + 1 }
  performed_eq : u.performed id = program[cursor.position + 1]?
  turns_eq : u.tick.2.turns id = (u.performed id).toList.length

/-- The actor keeps its bubble until the time of the bubble has come, and is moved by hand at
most. -/
theorem Spared.role_eq_place (reachable : s.Reachable)
    (live : (s.world.role id).bubble = some bubble) (spared : Spared id s played t)
    (early : ∀ v ∈ played, ¬ bubble.deadline ≤ v.time) :
    ∃ pose, t.world.role id = (s.world.role id).place pose := by
  revert early
  refine spared.of_steps (P := fun played t => (∀ v ∈ played, ¬ bubble.deadline ≤ v.time) →
    ∃ pose, t.world.role id = (s.world.role id).place pose) ?_ ?_ ?_
  · intro _
    exact ⟨fun actor => actor, (Role.place_id _).symm⟩
  · intro played t course ih running early
    obtain ⟨earlier, now⟩ := List.forall_mem_append.1 early
    obtain ⟨pose, same⟩ := ih earlier
    have made := course.reachable reachable
    have shows : (t.world.role id).bubble = some bubble := (congrArg Role.bubble same).trans live
    have alone := made.sound.keyed.tick_of_live (made.wellCast.fits id) shows
      (now t (List.mem_singleton_self t)) t.offset
    rw [(tick_eq running).1, alone.1]
    exact ⟨pose, same⟩
  · intro played t u action reply course ih spares edit done early
    obtain ⟨pose, same⟩ := ih early
    have made := course.reachable reachable
    have shows : (t.world.role id).bubble = some bubble := (congrArg Role.bubble same).trans live
    have present : (t.world.role id).actor.isSome = true := by
      obtain ⟨actor, _, _, _, stands⟩ := (made.wellCast.fits id).speaks bubble shows
      rw [stands.actor_eq]
      rfl
    rcases role_of_spares made.sound made.wellCast present spares edit done with kept | ⟨move, kept⟩
    · exact ⟨pose, kept.trans same⟩
    · rw [kept, same, Role.place_place]
      exact ⟨_, rfl⟩

/-- A tick in which an actor performs a block that speaks begins a speech. -/
theorem exists_beginsSpeech (reachable : s.Reachable) (running : s.running = true)
    {kind : SpeechKind} {text : String}
    (performed : s.performed id = some (.speak kind text seconds))
    (compiled : ∃ tokens, .speak kind text seconds ∈ Program.ofTokens tokens) :
    ∃ bubble program cursor, s.BeginsSpeech id bubble program cursor seconds := by
  have keyed := reachable.sound.keyed
  rw [performed_eq running, keyed.performed_eq_some_iff] at performed
  obtain ⟨actor, cursor, program, ready⟩ := performed
  obtain ⟨bubble, said, rfl, rfl⟩ : ∃ bubble,
      (s.world.awake s.time).actOf s.offset s.time id = some (.speech id bubble) ∧
        bubble.kind = kind ∧ bubble.text = text :=
    ⟨_, World.actOf_eq_some_iff.2 ⟨actor, cursor, program, _, ready, rfl⟩, rfl, rfl⟩
  refine ⟨bubble, program, cursor, ?_, ready.program_eq, ready.cursor_eq, ready.block_eq, compiled⟩
  rw [(tick_eq running).2]
  exact keyed.shown_mem_iff.2 said

/-- The role of an actor that has just begun to speak. -/
theorem BeginsSpeech.role_tick (begins : s.BeginsSpeech id bubble program cursor seconds)
    (reachable : s.Reachable) :
    bubble.deadline = s.time + seconds ∧ (s.tick.1.world.role id).bubble = some bubble ∧
      ∃ actor, (s.tick.1.world.role id).At actor cursor program
        (.speak bubble.kind bubble.text seconds) := by
  have running := running_of_event begins.shown
  have shown := begins.shown
  rw [(tick_eq running).2, reachable.sound.keyed.shown_mem_iff] at shown
  have role := (reachable.sound.keyed.outcome_tick s.offset s.time id).eq_speak shown
  obtain ⟨actor, cursor', program', kind, text, seconds', ready, own⟩ :=
    World.actOf_eq_speech shown
  obtain rfl : cursor = cursor' := Option.some.inj (begins.cursor_eq.symm.trans ready.cursor_eq)
  obtain rfl : program = program' :=
    Option.some.inj (begins.program_eq.symm.trans ready.program_eq)
  obtain rfl : seconds = seconds' := by
    have block := begins.block_eq.symm.trans ready.block_eq
    cases block
    rfl
  obtain ⟨tokens, compiled⟩ := begins.compiled
  have duration : Block.isDuration seconds = true := Program.usable_ofTokens tokens _ compiled
  refine ⟨?_, ?_, actor, ?_⟩
  · rw [own, Bubbles.bubble, World.suspendedAt_awake, reachable.sound.suspendedAt_eq_none running,
      if_pos duration]
    rfl
  · rw [(tick_eq running).1, role]
    rfl
  · rw [(tick_eq running).1, role]
    exact ⟨ready.actor_eq, ready.cursor_eq, ready.program_eq, begins.block_eq, ready.not_idle, rfl⟩

theorem goesOnSpeaking (reachable : u.Reachable) (running : u.running = true)
    (live : (u.world.role id).bubble = some bubble) (early : ¬ bubble.deadline ≤ u.time) :
    u.GoesOnSpeaking id bubble := by
  obtain ⟨world, report⟩ := tick_eq running
  obtain ⟨role, about⟩ :=
    reachable.sound.keyed.tick_of_live (reachable.wellCast.fits id) live early u.offset
  rw [← world] at role
  rw [← report] at about
  exact ⟨live, (congrArg Role.bubble role).trans live, congrArg Role.actor role,
    congrArg Role.cursor role, congrArg Role.program role, about⟩

theorem endsSpeech (reachable : u.Reachable) (running : u.running = true)
    (live : (u.world.role id).bubble = some bubble) {actor : Actor} {block : Block}
    (stands : (u.world.role id).At actor cursor program block)
    (due : bubble.deadline ≤ u.time) : u.EndsSpeech id program cursor := by
  have keyed := reachable.sound.keyed
  have free := reachable.sound.suspendedAt_eq_none running
  have expired : id ∈ u.world.bubbles.expired u.time :=
    Bubbles.mem_expired_iff.2 ⟨free, bubble, live, due⟩
  have performed := performed_eq running id
  have report := (tick_eq running).2
  exact {
    hidden := by
      rw [report]
      exact keyed.filter_isHidden_about expired
    program_eq := stands.program_eq
    cursor_eq := stands.cursor_eq
    cursor_awake := by
      change ((u.world.awake u.time).role id).cursor = _
      rw [World.role_awake, if_pos expired]
      exact stands.cursor_wake
    performed_eq := by
      rw [performed]
      exact keyed.performed_of_expired (reachable.wellCast.fits id) stands expired
    turns_eq := by
      rw [performed, report]
      exact keyed.turns_eq u.offset u.time id }

/-- An actor that begins to speak goes on in every tick that comes before the time of its tick and
the duration of the speech, and ends in the first one that does not, whatever is done to the stage
in between that leaves the actor its program. -/
theorem speech_lasts (reachable : s.Reachable)
    (begins : s.BeginsSpeech id bubble program cursor seconds)
    (spared : Spared id s.tick.1 played t) (before : List Stage) (u : Stage) (later : List Stage)
    (split : played = before ++ u :: later) :
    u.config = s.config ∧ u.ticks = s.ticks + 1 + before.length ∧
    (u.time < s.time + seconds → u.GoesOnSpeaking id bubble) ∧
    ((∀ v ∈ before, ¬ s.time + seconds ≤ v.time) → s.time + seconds ≤ u.time →
      u.EndsSpeech id program cursor) := by
  subst split
  have running := running_of_event begins.shown
  have next : s.tick.1.Reachable := reachable.act .tick rfl rfl
  have clock := clock_tick running
  obtain ⟨deadline, live, actor, stands⟩ := begins.role_tick reachable
  obtain ⟨course, runs⟩ := spared.until
  have here := course.reachable next
  obtain ⟨config, ticks⟩ := course.clock
  rw [clock.1] at config
  rw [clock.2] at ticks
  have shows (early : ∀ v ∈ before, ¬ s.time + seconds ≤ v.time) :
      ∃ pose, u.world.role id = (s.tick.1.world.role id).place pose :=
    course.role_eq_place next live (deadline ▸ early)
  refine ⟨config, ticks, fun early => ?_, fun first due => ?_⟩
  · -- Had an earlier tick been late enough, this one would be.
    have earlier : ∀ v ∈ before, ¬ s.time + seconds ≤ v.time := by
      intro v mem due
      obtain ⟨nonneg, order⟩ := course.time_le_of_mem next mem
      exact not_lt_of_le due (lt_of_le_of_lt nonneg order early)
    obtain ⟨pose, same⟩ := shows earlier
    refine goesOnSpeaking here runs ((congrArg Role.bubble same).trans live) ?_
    rw [deadline]
    exact fun due => not_lt_of_le due early
  · obtain ⟨pose, same⟩ := shows first
    have still := stands.place pose
    rw [← same] at still
    exact endsSpeech here runs ((congrArg Role.bubble same).trans live) still (deadline ▸ due)

/-- An actor that is about to speak for a short time, and another one. -/
def aside : Stage :=
  ((((fresh .default).addActorAt 10.0 20.0).1.setProgram ⟨0⟩ ["SAY_hello_0.03", "X_5"]).addActorAt
    300.0 300.0).1.start

theorem reachable_aside : aside.Reachable := by
  have new : (fresh .default).Reachable := reachable_fresh rfl
  have first := new.act (.addActorAt 10.0 20.0) rfl rfl
  have scripted := first.act (.setProgram ⟨0⟩ ["SAY_hello_0.03", "X_5"]) rfl rfl
  exact (scripted.act (.addActorAt 300.0 300.0) rfl rfl).act .start rfl rfl

/-- In the first tick after the beginning the actor goes on. Then the stage is stopped, the other
actor gets a program and the stage is started again. In the second tick the speech ends. -/
theorem speech_lasts_aside :
    ∃ bubble program cursor seconds u v t, aside.Reachable ∧
      aside.BeginsSpeech ⟨0⟩ bubble program cursor seconds ∧ Spared ⟨0⟩ aside.tick.1 [u, v] t ∧
      u.GoesOnSpeaking ⟨0⟩ bubble ∧ v.EndsSpeech ⟨0⟩ program cursor ∧
      v.tick.2.executed = [⟨0⟩, ⟨1⟩] := by
  let spoken := aside.tick.1
  let stopped := spoken.tick.1.stop
  let again := (stopped.install ⟨1⟩ [.turn 90.0]).start
  have performed : aside.performed ⟨0⟩ = some (.speak .say "hello" 0.03) := rfl
  obtain ⟨bubble, program, cursor, begins⟩ := exists_beginsSpeech reachable_aside rfl performed
    ⟨["SAY_hello_0.03", "X_5"], List.mem_cons_self⟩
  have tick : Spared ⟨0⟩ spoken ([] ++ spoken.playedOn .tick) spoken.tick.1 := .act .nil rfl rfl
  have pause := tick.act rfl (rfl : Stage.perform _ .stop = some (stopped, _))
  have script := pause.act rfl (rfl : stopped.perform (.install ⟨1⟩ [.turn 90.0]) = some (_, _))
  have start := script.act rfl (rfl : Stage.perform _ .start = some (again, _))
  have course := start.act rfl (rfl : again.perform .tick = some (again.tick.1, _))
  have lasts := speech_lasts reachable_aside begins course
  have early : spoken.time < aside.time + 0.03 := by decide +kernel
  have due : aside.time + 0.03 ≤ again.time := by decide +kernel
  refine ⟨bubble, program, cursor, 0.03, spoken, again, _, reachable_aside, begins, course,
    (lasts [] spoken [again] rfl).2.2.1 early, (lasts [spoken] again [] rfl).2.2.2 ?_ due,
    by decide +kernel⟩
  intro v mem
  obtain rfl := List.mem_singleton.1 mem
  exact fun late => not_lt_of_le late early

end Stage

end Playhouse
