import Playhouse.Proofs.Stage.Arena
import Playhouse.Proofs.Tick.Mention

/-!
# Blocked actors

The diagnostics of a tick count the actors that are blocked before it. A tick skips fewer of them
(`World.skipped`): bubbles whose time has come go first, and their actors take their turns. So the
blocked actors are those that the tick skips together with those whose bubbles go in it
(`WellCast.keys_blocked_perm`), and both kinds are counted (`blocked_skipped_or_woken`).
-/

namespace Playhouse

namespace World

variable {w : World} {offset now : Float} {id : ActorId}

/-- The actors that take no turn in a tick because they pause or are held. -/
def skipped (w : World) (now : Float) : List ActorId :=
  (w.awake now).scene.actors.keys.filter fun id =>
    (w.awake now).bubbles.isPaused id || (w.awake now).scene.held.contains id

theorem mem_skipped_iff :
    id ∈ w.skipped now ↔
      ((w.awake now).role id).actor.isSome = true ∧
        (((w.awake now).role id).paused = true ∨ ((w.awake now).role id).held = true) := by
  simp only [skipped, List.mem_filter, IdMap.mem_keys_iff, Bool.or_eq_true]
  rfl

theorem contains_blocked :
    w.blocked.contains id = ((w.role id).paused || (w.role id).held) :=
  IdSet.contains_union w.bubbles.paused w.scene.held id

theorem actOf_eq_none_of_skipped (skipped : id ∈ w.skipped now) :
    (w.awake now).actOf offset now id = none := by
  have waits := (mem_skipped_iff.1 skipped).2
  cases found : (w.awake now).actOf offset now id with
  | none => rfl
  | some act =>
    obtain ⟨actor, cursor, program, block, ready, -⟩ := actOf_eq_some_iff.1 found
    simp [ready.not_paused, ready.not_held] at waits

theorem Keyed.length_hidden (keyed : w.Keyed) (offset now : Float) :
    ((w.tick offset now).2.bubbleEvents.filter BubbleEvent.isHidden).length =
      (w.bubbles.expired now).length := by
  have shown : ∀ p : ActorId × Bubble, (BubbleEvent.shown p.1 p.2).isHidden = false := fun _ => rfl
  have hidden : ∀ id, (BubbleEvent.hidden id).isHidden = true := fun _ => rfl
  rw [keyed.report_tick]
  simp [List.filter_append, List.filter_map, Function.comp_def, shown, hidden]

end World

namespace Stage

variable {s : Stage}

/-- The blocked actors are those that a tick skips and those whose bubbles go in it. -/
theorem WellCast.keys_blocked_perm (cast : s.WellCast) (now : Float) :
    s.world.blocked.keys.Perm (s.world.skipped now ++ s.world.bubbles.expired now) := by
  have disjoint : ∀ id ∈ s.world.skipped now, id ∉ s.world.bubbles.expired now := by
    intro id skipped expired
    have waits := (World.mem_skipped_iff.1 skipped).2
    rw [World.role_awake, if_pos expired] at waits
    obtain ⟨-, bubble, live, -⟩ := Bubbles.mem_expired_iff.1 expired
    obtain ⟨actor, cursor, program, seconds, stands⟩ := (cast.fits id).speaks bubble live
    simp [Role.wake, stands.not_held] at waits
  have nodup : (s.world.skipped now ++ s.world.bubbles.expired now).Nodup := by
    refine List.nodup_append'.2 ⟨(IdMap.nodup_keys _).filter _, Bubbles.nodup_expired _ now, ?_⟩
    exact fun id skipped expired => disjoint id skipped expired
  refine (List.perm_ext_iff_of_nodup (IdMap.nodup_keys _) nodup).2 fun id => ?_
  rw [IdMap.mem_keys_iff, World.contains_blocked, Bool.or_eq_true, List.mem_append,
    World.mem_skipped_iff, World.role_awake]
  have fits := cast.fits id
  by_cases expired : id ∈ s.world.bubbles.expired now
  · obtain ⟨-, bubble, live, -⟩ := Bubbles.mem_expired_iff.1 expired
    have paused : (s.world.role id).paused = true := by
      rw [fits.paused_eq]
      exact Option.isSome_iff_exists.2 ⟨bubble, live⟩
    simp [expired, paused]
  · -- Only actors that are there pause or are held.
    have present : (s.world.role id).paused = true ∨ (s.world.role id).held = true →
        (s.world.role id).actor.isSome = true := by
      rintro (paused | held)
      · rw [fits.paused_eq, Option.isSome_iff_exists] at paused
        obtain ⟨bubble, live⟩ := paused
        obtain ⟨actor, cursor, program, seconds, stands⟩ := fits.speaks bubble live
        rw [stands.actor_eq]
        rfl
      · exact fits.isSome_of_held held
    simp only [expired, if_false, or_false]
    exact ⟨fun waits => ⟨present waits, waits⟩, And.right⟩

/-- The diagnostics count the actors that the tick skips and the bubbles that go in it. An actor
that is skipped does nothing. -/
theorem blocked_skipped_or_woken (reachable : s.Reachable) (running : s.running = true) :
    (∀ id, s.world.blocked.contains id = true ↔
      id ∈ s.world.skipped s.time ∨ .hidden id ∈ s.tick.2.bubbleEvents) ∧
    (∀ id ∈ s.world.skipped s.time, .hidden id ∉ s.tick.2.bubbleEvents ∧
      id ∉ s.tick.2.executed ∧ ∀ bubble, .shown id bubble ∉ s.tick.2.bubbleEvents) ∧
    s.tick.1.diagnostics.blocked =
      (s.world.skipped s.time).length +
        (s.tick.2.bubbleEvents.filter BubbleEvent.isHidden).length := by
  have keyed := reachable.sound.keyed
  have perm := reachable.wellCast.keys_blocked_perm s.time
  rw [(tick_eq running).2]
  refine ⟨fun id => ?_, fun id skipped => ⟨?_, ?_, fun bubble => ?_⟩, ?_⟩
  · rw [keyed.hidden_mem_iff, ← IdMap.mem_keys_iff, perm.mem_iff, List.mem_append]
  · rw [keyed.hidden_mem_iff]
    have nodup := perm.nodup_iff.1 (IdMap.nodup_keys _)
    exact fun expired => (List.nodup_append'.1 nodup).2.2 skipped expired
  · rw [keyed.mem_executed_iff, World.actOf_eq_none_of_skipped skipped]
    rintro ⟨p, found⟩
    cases found
  · rw [keyed.shown_mem_iff, World.actOf_eq_none_of_skipped skipped]
    exact nofun
  · rw [keyed.length_hidden, tick, if_pos running]
    change s.world.blocked.entries.length = _
    rw [← List.length_append, ← perm.length_eq, IdMap.keys, List.length_map]

/-- An actor in the middle of its speech is skipped. -/
theorem blocked_skipped_greeting :
    greeting.Reachable ∧ greeting.running = true ∧
      (∀ id, greeting.world.blocked.contains id = true ↔
        id ∈ greeting.world.skipped greeting.time ∨ .hidden id ∈ greeting.tick.2.bubbleEvents) ∧
      ⟨0⟩ ∈ greeting.world.skipped greeting.time ∧ ⟨0⟩ ∉ greeting.tick.2.executed ∧
      greeting.tick.1.diagnostics.blocked = 1 := by
  have running : greeting.running = true := rfl
  have skipped : ⟨0⟩ ∈ greeting.world.skipped greeting.time := by decide +kernel
  obtain ⟨iff, still, -⟩ := blocked_skipped_or_woken reachable_greeting running
  exact ⟨reachable_greeting, running, iff, skipped, (still ⟨0⟩ skipped).2.1, by decide +kernel⟩

/-- One actor whose bubble has come to its time. -/
def waking : Stage :=
  (((fresh .default).addActorAt 10.0 20.0).1.install ⟨0⟩
    [.speak .say "hello" 0.01, .move 5.0 0.0]).start.tick.1

theorem reachable_waking : waking.Reachable := by
  have new : (fresh .default).Reachable := reachable_fresh rfl
  have added := new.act (.addActorAt 10.0 20.0) rfl rfl
  have installed := added.act (.install ⟨0⟩ [.speak .say "hello" 0.01, .move 5.0 0.0]) rfl rfl
  exact (installed.act .start rfl rfl).act .tick rfl rfl

/-- A blocked actor takes its turn, and is counted although no actor is skipped. -/
theorem blocked_waking_moves :
    waking.Reachable ∧ waking.running = true ∧ waking.world.blocked.contains ⟨0⟩ = true ∧
      ⟨0⟩ ∈ waking.tick.2.executed ∧ waking.tick.1.diagnostics.blocked = 1 ∧
      waking.world.skipped waking.time = [] :=
  ⟨reachable_waking, rfl, by decide +kernel, by decide +kernel, by decide +kernel,
    by decide +kernel⟩

end Stage

end Playhouse
