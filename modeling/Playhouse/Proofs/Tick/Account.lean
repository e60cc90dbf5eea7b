import Mathlib.Logic.ExistsUnique
import Playhouse.Proofs.Tick.Exchange
import Playhouse.Proofs.Tick.Rest

/-!
# The account of a tick

A tick treats every actor in one of three ways, and its report tells which: the actor is skipped, it
speaks, or it executes a block (`World.Takes`). An actor is treated in exactly one of them
(`World.Keyed.existsUnique_takes`).

Whoever has spoken until the tick has its cursor moved past the speech first (`World.deferred`),
whatever it does then.

The lists of a report are in the order of turns (`World.Keyed.ordered_tick`).
-/

namespace Playhouse

/-- What an actor does with its turn. -/
inductive Turn where
  | skipped
  | speech (kind : SpeechKind) (text : String)
  | execution

namespace World

variable {w : World} {offset now : Float} {id : ActorId}

/-- The cursor with which an actor comes to its turn: past the speech if its bubble has gone. -/
def deferred (w : World) (now : Float) (id : ActorId) : Option Cursor :=
  (w.scene.cursors.get? id).map fun cursor =>
    if id ∈ w.bubbles.expired now then cursor.advance false else cursor

/-- What keeps an actor from its turn: a bubble that stays, a hold, or the end of its program. -/
def Rests (w : World) (now : Float) (id : ActorId) : Prop :=
  (w.awake now).bubbles.live.contains id = true ∨ w.scene.held.contains id = true ∨
    ∃ cursor, w.deferred now id = some cursor ∧ cursor.isIdle = true

/-! ## The three ways -/

/-- The actor is passed over. -/
structure Skipped (w : World) (offset now : Float) (id : ActorId) : Prop where
  rests : w.Rests now id
  actor_eq : (w.tick offset now).1.scene.actors.get? id = w.scene.actors.get? id
  program_eq : (w.tick offset now).1.scene.programs.get? id = w.scene.programs.get? id
  bubble_eq : (w.tick offset now).1.bubbles.live.get? id =
    if id ∈ w.bubbles.expired now then none else w.bubbles.live.get? id
  cursor_eq : (w.tick offset now).1.scene.cursors.get? id = w.deferred now id
  not_executed : id ∉ (w.tick offset now).2.executed
  not_shown : ∀ bubble, .shown id bubble ∉ (w.tick offset now).2.bubbleEvents

/-- The actor shows one bubble, with the words of its block. -/
structure Speaks (w : World) (offset now : Float) (id : ActorId) (kind : SpeechKind)
    (text : String) : Prop where
  active : ¬ w.Rests now id
  next_eq : ∃ cursor seconds, w.deferred now id = some cursor ∧
    (w.awake now).scene.nextBlock id = some (cursor, .speak kind text seconds)
  shown_eq : ∃ bubble,
    ((w.tick offset now).2.about id).bubbleEvents.filter (!·.isHidden) = [.shown id bubble] ∧
      bubble.kind = kind ∧ bubble.text = text ∧
      (w.tick offset now).1.bubbles.live.get? id = some bubble
  actor_eq : (w.tick offset now).1.scene.actors.get? id = w.scene.actors.get? id
  program_eq : (w.tick offset now).1.scene.programs.get? id = w.scene.programs.get? id
  cursor_eq : (w.tick offset now).1.scene.cursors.get? id = w.deferred now id
  not_executed : id ∉ (w.tick offset now).2.executed

/-- The actor executes one block, of its own program. After a collision the cursor counts from the
start of the program that the actor has then. -/
structure Executes (w : World) (offset now : Float) (id : ActorId) : Prop where
  active : ¬ w.Rests now id
  executed_eq : ((w.tick offset now).2.about id).executed = [id]
  not_shown : ∀ bubble, .shown id bubble ∉ (w.tick offset now).2.bubbleEvents
  cursor_eq : ∃ cursor block heading, w.deferred now id = some cursor ∧
    (w.awake now).scene.nextBlock id = some (cursor, block) ∧ block.isSpeech = false ∧
    (w.tick offset now).1.scene.cursors.get? id =
      some (({ if Apart id (w.tick offset now) then cursor
          else cursor.rewind ((w.tick offset now).1.scene.programs.lengthOf id) with
        heading } : Cursor).advance block.isRestart)

/-- How the tick treats the actor. -/
def Takes (w : World) (offset now : Float) (id : ActorId) : Turn → Prop
  | .skipped => w.Skipped offset now id
  | .speech kind text => w.Speaks offset now id kind text
  | .execution => w.Executes offset now id

/-! ### Actors that come to their turn -/

theorem Outcome.eq_speak {r : Role} {bubble : Bubble} (outcome : w.Outcome offset now id r)
    (found : w.actOf offset now id = some (.speech id bubble)) :
    r = (w.role id).release.speak bubble := by
  cases outcome with
  | rests other | moves other _ | collides _ _ other _ =>
    rw [found] at other
    cases other
  | speaks other =>
    rw [found] at other
    cases other
    rfl

theorem cursor_awake (w : World) (now : Float) (id : ActorId) :
    ((w.awake now).role id).cursor = w.deferred now id := by
  rw [role_awake, deferred]
  split
  · rfl
  · exact Option.map_id'.symm

theorem rests_awake_iff : ((w.awake now).role id).Rests ↔ w.Rests now id := by
  rw [Role.Rests, cursor_awake]
  rfl

theorem bubble_awake (w : World) (now : Float) (id : ActorId) :
    ((w.awake now).role id).bubble =
      if id ∈ w.bubbles.expired now then none else w.bubbles.live.get? id := by
  rw [role_awake]
  split <;> rfl

theorem deferred_of_readyFor {actor : Actor} {cursor : Cursor} {program : Program} {block : Block}
    (ready : ((w.awake now).role id).ReadyFor actor cursor program block) :
    w.deferred now id = some cursor ∧
      (w.awake now).scene.nextBlock id = some (cursor, block) := by
  refine ⟨?_, Scene.nextBlock_eq_some_iff.2 ?_⟩
  · rw [← cursor_awake]
    exact ready.cursor_eq
  · exact ⟨ready.cursor_eq, ready.not_idle, program, ready.program_eq, ready.block_eq⟩

theorem Keyed.skipped (keyed : w.Keyed) (fits : (w.role id).Fits)
    (present : (w.role id).actor.isSome = true)
    (idle : (w.awake now).actOf offset now id = none) : w.Skipped offset now id := by
  have role := keyed.role_tick_of_rests idle
  exact {
    rests := rests_awake_iff.1 ((actOf_eq_none_iff (fits_awake fits now) present).1 idle)
    actor_eq := congrArg Role.actor role
    program_eq := congrArg Role.program role
    bubble_eq := (congrArg Role.bubble role).trans (w.bubble_awake now id)
    cursor_eq := (congrArg Role.cursor role).trans (w.cursor_awake now id)
    not_executed := by
      rw [keyed.mem_executed_iff, idle]
      exact fun ⟨_, moves⟩ => nomatch moves
    not_shown := by
      intro bubble
      rw [keyed.shown_mem_iff, idle]
      exact nofun }

theorem Keyed.speaks (keyed : w.Keyed) (fits : (w.role id).Fits) {bubble : Bubble}
    (found : (w.awake now).actOf offset now id = some (.speech id bubble)) :
    w.Speaks offset now id bubble.kind bubble.text := by
  obtain ⟨actor, cursor, program, kind, text, seconds, ready, rfl⟩ := actOf_eq_speech found
  obtain ⟨comes, next⟩ := deferred_of_readyFor ready
  have role := (keyed.outcome_tick offset now id).eq_speak found
  exact {
    active := mt rests_awake_iff.2 (ready.not_rests (fits_awake fits now))
    next_eq := ⟨cursor, seconds, comes, next⟩
    shown_eq := by
      refine ⟨_, ?_, rfl, rfl, congrArg Role.bubble role⟩
      rw [keyed.about_tick, found]
      split <;> rfl
    actor_eq := congrArg Role.actor role
    program_eq := congrArg Role.program role
    cursor_eq := (congrArg Role.cursor role).trans (w.cursor_awake now id)
    not_executed := by
      rw [keyed.mem_executed_iff, found]
      exact fun ⟨_, moves⟩ => nomatch moves }

/-- What becomes of an actor that executes a block, without a collision and with one. -/
theorem Keyed.role_tick_of_motion (keyed : w.Keyed) {p : Proposal}
    (found : (w.awake now).actOf offset now id = some (.motion p)) :
    (Apart id (w.tick offset now) →
      (w.tick offset now).1.role id = ((w.awake now).role id).release.commit p) ∧
    (¬ Apart id (w.tick offset now) → ∃ program isSecond, (w.tick offset now).1.role id =
      (((w.awake now).role id).release.takeOver program isSecond).commit p.revert) := by
  refine ⟨fun apart => ?_, fun joined => ?_⟩
  · rw [keyed.role_tick_of_apart apart, found]
    rfl
  · have outcome := keyed.outcome_tick offset now id
    generalize (w.tick offset now).1.role id = r at outcome
    cases outcome with
    | rests other | speaks other =>
      rw [found] at other
      cases other
    | moves _ free => exact absurd (keyed.apart_iff.2 free) joined
    | collides _ _ other _ =>
      rw [found] at other
      cases other
      exact ⟨_, _, rfl⟩

/-- The cursor after a block has been executed, with or without a collision. -/
theorem Keyed.cursor_tick_of_motion (keyed : w.Keyed) {p : Proposal} {cursor : Cursor}
    (found : (w.awake now).actOf offset now id = some (.motion p))
    (comes : w.deferred now id = some cursor) :
    (w.tick offset now).1.scene.cursors.get? id =
      some (({ if Apart id (w.tick offset now) then cursor
          else cursor.rewind ((w.tick offset now).1.scene.programs.lengthOf id) with
        heading := p.heading } : Cursor).advance p.restarts) := by
  have cursor_eq := (w.cursor_awake now id).trans comes
  obtain ⟨alone, together⟩ := keyed.role_tick_of_motion found
  change ((w.tick offset now).1.role id).cursor = some (({ if _ then cursor
    else cursor.rewind ((w.tick offset now).1.role id).length with
    heading := p.heading } : Cursor).advance p.restarts)
  by_cases apart : Apart id (w.tick offset now)
  · rw [if_pos apart, alone apart]
    exact congrArg (Option.map _) cursor_eq
  · obtain ⟨program, isSecond, role⟩ := together apart
    rw [if_neg apart, role]
    exact congrArg (Option.map _) (congrArg (Option.map _) cursor_eq)

theorem Keyed.executes (keyed : w.Keyed) (fits : (w.role id).Fits) {p : Proposal}
    (found : (w.awake now).actOf offset now id = some (.motion p)) :
    w.Executes offset now id := by
  obtain ⟨actor, cursor, program, block, ready, silent, own⟩ := actOf_eq_motion found
  obtain ⟨comes, next⟩ := deferred_of_readyFor ready
  have turn : p.turn = id := turn_of_actOf found
  have restarts : p.restarts = block.isRestart := by
    rw [own]
    rfl
  exact {
    active := mt rests_awake_iff.2 (ready.not_rests (fits_awake fits now))
    executed_eq := by
      rw [keyed.about_tick, found, ← turn]
      rfl
    not_shown := by
      intro bubble
      rw [keyed.shown_mem_iff, found]
      exact nofun
    cursor_eq := by
      refine ⟨cursor, block, p.heading, comes, next, silent, ?_⟩
      rw [← restarts]
      exact keyed.cursor_tick_of_motion found comes }

/-! ### One way only -/

theorem Executes.mem_executed (executes : w.Executes offset now id) :
    id ∈ (w.tick offset now).2.executed := by
  have listed : id ∈ ((w.tick offset now).2.about id).executed := by
    rw [executes.executed_eq]
    exact List.mem_singleton_self id
  exact (List.mem_filter.1 listed).1

theorem Speaks.exists_shown {kind : SpeechKind} {text : String}
    (speaks : w.Speaks offset now id kind text) :
    ∃ bubble, .shown id bubble ∈ (w.tick offset now).2.bubbleEvents := by
  obtain ⟨bubble, shown, -⟩ := speaks.shown_eq
  have listed : .shown id bubble ∈
      ((w.tick offset now).2.about id).bubbleEvents.filter (!·.isHidden) := by
    rw [shown]
    exact List.mem_singleton_self _
  exact ⟨bubble, (List.mem_filter.1 (List.mem_filter.1 listed).1).1⟩

theorem Speaks.turn_eq {kind : SpeechKind} {text : String} {turn : Turn}
    (speaks : w.Speaks offset now id kind text) (takes : w.Takes offset now id turn) :
    turn = .speech kind text := by
  obtain ⟨bubble, shown⟩ := speaks.exists_shown
  cases turn with
  | skipped => exact absurd shown (takes.not_shown bubble)
  | execution => exact absurd shown (takes.not_shown bubble)
  | speech kind' text' =>
    obtain ⟨_, _, _, next⟩ := speaks.next_eq
    obtain ⟨_, _, _, next'⟩ := takes.next_eq
    rw [next] at next'
    cases next'
    rfl

theorem Executes.turn_eq {turn : Turn} (executes : w.Executes offset now id)
    (takes : w.Takes offset now id turn) : turn = .execution := by
  cases turn with
  | skipped => exact absurd executes.mem_executed takes.not_executed
  | speech _ _ => exact absurd executes.mem_executed takes.not_executed
  | execution => rfl

theorem Skipped.turn_eq {turn : Turn} (skipped : w.Skipped offset now id)
    (takes : w.Takes offset now id turn) : turn = .skipped := by
  cases turn with
  | skipped => rfl
  | speech kind text =>
    obtain ⟨bubble, shown⟩ := Speaks.exists_shown takes
    exact absurd shown (skipped.not_shown bubble)
  | execution => exact absurd (Executes.mem_executed takes) skipped.not_executed

theorem Keyed.existsUnique_takes (keyed : w.Keyed) (fits : (w.role id).Fits)
    (present : (w.role id).actor.isSome = true) (offset now : Float) :
    ∃! turn, w.Takes offset now id turn := by
  cases found : (w.awake now).actOf offset now id with
  | none =>
    have skipped := keyed.skipped fits present found
    exact ⟨.skipped, skipped, fun _ => skipped.turn_eq⟩
  | some a =>
    obtain rfl : a.turn = id := turn_of_actOf found
    cases a with
    | speech turn bubble =>
      have speaks := keyed.speaks fits found
      exact ⟨.speech bubble.kind bubble.text, speaks, fun _ => speaks.turn_eq⟩
    | motion p =>
      have executes := keyed.executes fits found
      exact ⟨.execution, executes, fun _ => executes.turn_eq⟩

/-! ## The lists of a report -/

theorem sublist_bounces (l : List Proposal) :
    ((l.filterMap fun p => p.bounce.map fun axis => (⟨p.turn, axis⟩ : Bounce)).map
      (·.actor)).Sublist (l.map (·.turn)) := by
  induction l with
  | nil => exact List.Sublist.slnil
  | cons p rest ih =>
    cases wall : p.bounce with
    | none =>
      rw [List.filterMap_cons_none (by rw [wall]; rfl)]
      exact ih.cons p.turn
    | some axis =>
      rw [List.filterMap_cons_some (by rw [wall]; rfl)]
      exact ih.cons_cons p.turn

/-- The lists of a report name actors in the order of turns. Who turns around or collides has
executed a block, and bubbles go before others appear. -/
structure Ordered (w : World) (offset now : Float) : Prop where
  executed : (w.tick offset now).2.executed.Pairwise (· < ·)
  bounces : ((w.tick offset now).2.bounces.map (·.actor)).Pairwise (· < ·)
  bounces_sublist :
    ((w.tick offset now).2.bounces.map (·.actor)).Sublist (w.tick offset now).2.executed
  collided : ∀ c ∈ (w.tick offset now).2.collisions,
    c.first ∈ (w.tick offset now).2.executed ∧ c.second ∈ (w.tick offset now).2.executed
  expired : (w.bubbles.expired now).Pairwise (· < ·)
  events : ∃ shown : List (ActorId × Bubble), (shown.map (·.1)).Pairwise (· < ·) ∧
    (w.tick offset now).2.bubbleEvents =
      (w.bubbles.expired now).map .hidden ++ shown.map fun p => .shown p.1 p.2

theorem Keyed.ordered_tick (keyed : w.Keyed) (offset now : Float) : w.Ordered offset now := by
  have executed : (w.tick offset now).2.executed.Pairwise (· < ·) := by
    rw [keyed.report_tick, List.pairwise_map]
    exact (w.awake now).pairwise_proposals offset now
  have sublist :
      ((w.tick offset now).2.bounces.map (·.actor)).Sublist (w.tick offset now).2.executed := by
    rw [keyed.report_tick]
    exact sublist_bounces _
  refine ⟨executed, executed.sublist sublist, sublist, ?_, w.bubbles.pairwise_expired now, ?_⟩
  · intro collision reported
    rw [keyed.report_tick] at reported ⊢
    obtain ⟨c, mem, rfl⟩ := List.mem_map.1 reported
    rw [(keyed.awake now).collision_eq mem]
    have joins := joins_of_mem_contacts mem
    exact ⟨List.mem_map_of_mem joins.first_mem, List.mem_map_of_mem joins.second_mem⟩
  · refine ⟨(w.awake now).speeches offset now, ?_, ?_⟩
    · rw [List.pairwise_map]
      exact (w.awake now).pairwise_speeches offset now
    · rw [keyed.report_tick]

end World

end Playhouse
