import Playhouse.Proofs.Stage.Fits
import Playhouse.Proofs.Tick.Interference

/-!
# Actors that take no turn

An actor rests in a tick if its bubble is live, if it is held or if it is at the end of its program
(`Role.Rests`), and in no other case (`World.actOf_eq_none_iff`). All that the tick does to it is to
let go of it (`World.Keyed.role_tick_of_rests`), and all that the report can say about it is that
its bubble has gone (`World.Keyed.about_tick_of_rests`).

So a tick passes without a word about an actor that is held, or whose bubble has time left
(`World.Keyed.tick_of_held`, `World.Keyed.tick_of_live`).
-/

namespace Playhouse

namespace Role

variable {r : Role}

/-- What keeps an actor from its turn. -/
def Rests (r : Role) : Prop :=
  r.bubble.isSome = true ∨ r.held = true ∨ ∃ cursor, r.cursor = some cursor ∧ cursor.isIdle = true

theorem ReadyFor.not_rests {actor : Actor} {cursor : Cursor} {program : Program} {block : Block}
    (ready : r.ReadyFor actor cursor program block) (fits : r.Fits) : ¬ r.Rests := by
  rintro (live | held | ⟨idle, found, atEnd⟩)
  · rw [fits.bubble_eq_none ready.not_paused] at live
    cases live
  · rw [ready.not_held] at held
    cases held
  · obtain rfl : cursor = idle := Option.some.inj (ready.cursor_eq.symm.trans found)
    rw [ready.not_idle] at atEnd
    cases atEnd

/-- Who has no reason to rest is at a block of its program. -/
theorem Fits.exists_readyFor (fits : r.Fits) {actor : Actor} (present : r.actor = some actor)
    (active : ¬ r.Rests) : ∃ cursor program block, r.ReadyFor actor cursor program block := by
  rw [Rests, not_or, not_or] at active
  obtain ⟨silent, free, busy⟩ := active
  have known : r.cursor.isSome = true := by
    rw [fits.isSome_cursor, present]
    rfl
  obtain ⟨cursor, cursor_eq⟩ := Option.isSome_iff_exists.1 known
  have not_idle : cursor.isIdle = false := by
    by_contra idle
    exact busy ⟨cursor, cursor_eq, Bool.not_eq_false _ ▸ idle⟩
  have inside : cursor.position < r.length := by
    rw [← (fits.length_eq cursor cursor_eq).1]
    simpa [Cursor.isIdle] using not_idle
  cases program_eq : r.program with
  | none => simp [length, program_eq] at inside
  | some program =>
    have inside : cursor.position < program.length := by simpa [length, program_eq] using inside
    refine ⟨cursor, program, program[cursor.position], ?_⟩
    exact {
      actor_eq := present
      cursor_eq := cursor_eq
      program_eq := program_eq
      block_eq := List.getElem?_eq_getElem inside
      not_idle := not_idle
      not_held := Bool.eq_false_iff.2 free
      not_paused := by
        rw [fits.paused_eq]
        exact Bool.eq_false_iff.2 silent }

end Role

namespace World

variable {w : World} {offset now : Float} {id : ActorId} {r : Role}

/-- An actor that is there takes its turn unless it has a reason to rest. -/
theorem actOf_eq_none_iff (fits : (w.role id).Fits)
    (present : (w.role id).actor.isSome = true) :
    w.actOf offset now id = none ↔ (w.role id).Rests := by
  obtain ⟨actor, present⟩ := Option.isSome_iff_exists.1 present
  constructor
  · intro idle
    by_contra active
    obtain ⟨cursor, program, block, ready⟩ := fits.exists_readyFor present active
    rw [actOf_eq_some_iff.2 ⟨actor, cursor, program, block, ready, rfl⟩] at idle
    cases idle
  · intro rests
    cases found : w.actOf offset now id with
    | none => rfl
    | some a =>
      obtain ⟨_, cursor, program, block, ready, -⟩ := actOf_eq_some_iff.1 found
      exact absurd rests (ready.not_rests fits)

theorem Outcome.eq_release (outcome : w.Outcome offset now id r)
    (idle : w.actOf offset now id = none) : r = (w.role id).release := by
  cases outcome with
  | rests _ => rfl
  | speaks found | moves found _ | collides _ _ found _ =>
    rw [idle] at found
    cases found

theorem Keyed.role_tick_of_rests (keyed : w.Keyed)
    (idle : (w.awake now).actOf offset now id = none) :
    (w.tick offset now).1.role id = ((w.awake now).role id).release :=
  (keyed.outcome_tick offset now id).eq_release idle

/-- Who makes no proposal collides with nobody. -/
theorem Keyed.apart_of_rests (keyed : w.Keyed)
    (idle : (w.awake now).actOf offset now id = none) : Apart id (w.tick offset now) := by
  refine keyed.apart_iff.2 (notMem_turns_of_still ?_)
  rintro p proposed rfl
  rw [mem_proposals_iff.1 proposed] at idle
  cases idle

theorem Keyed.about_tick_of_rests (keyed : w.Keyed)
    (idle : (w.awake now).actOf offset now id = none) :
    (w.tick offset now).2.about id =
      { bubbleEvents := if id ∈ w.bubbles.expired now then [.hidden id] else []
        collisions := []
        bounces := []
        executed := [] } := by
  rw [keyed.about_tick, idle, (keyed.apart_of_rests idle).filter_collisions keyed]
  simp

/-! ## Actors that are held and actors that speak -/

/-- An actor that has a reason to rest, and no bubble that goes, is let go of and nothing else. -/
theorem Keyed.tick_of_asleep (keyed : w.Keyed) (fits : (w.role id).Fits)
    (present : (w.role id).actor.isSome = true) (rests : (w.role id).Rests)
    (asleep : id ∉ w.bubbles.expired now) :
    (w.tick offset now).1.role id = (w.role id).release ∧ (w.tick offset now).2.about id = ∅ := by
  have role : (w.awake now).role id = w.role id := by rw [role_awake, if_neg asleep]
  have idle : (w.awake now).actOf offset now id = none := by
    rw [actOf_eq_none_iff (fits_awake fits now) (role ▸ present), role]
    exact rests
  refine ⟨?_, ?_⟩
  · rw [keyed.role_tick_of_rests idle, role]
  · rw [keyed.about_tick_of_rests idle, if_neg asleep]
    rfl

/-- An actor that is held sits out the tick. -/
theorem Keyed.tick_of_held (keyed : w.Keyed) (fits : (w.role id).Fits)
    (held : (w.role id).held = true) (offset now : Float) :
    (w.tick offset now).1.role id = (w.role id).release ∧ (w.tick offset now).2.about id = ∅ := by
  have silent : (w.role id).bubble = none := fits.bubble_eq_none (fits.not_paused_of_held held)
  refine keyed.tick_of_asleep fits (fits.isSome_of_held held) (.inr (.inl held)) ?_
  intro expired
  obtain ⟨-, bubble, live, -⟩ := Bubbles.mem_expired_iff.1 expired
  cases live.symm.trans silent

/-- An actor whose bubble has time left goes on speaking. -/
theorem Keyed.tick_of_live (keyed : w.Keyed) (fits : (w.role id).Fits) {bubble : Bubble}
    (live : (w.role id).bubble = some bubble) (early : ¬ bubble.deadline ≤ now) (offset : Float) :
    (w.tick offset now).1.role id = w.role id ∧ (w.tick offset now).2.about id = ∅ := by
  obtain ⟨actor, cursor, program, seconds, stands⟩ := fits.speaks bubble live
  have free : (w.role id).release = w.role id := by rw [Role.release, ← stands.not_held]
  rw [← free]
  refine keyed.tick_of_asleep fits (by rw [stands.actor_eq]; rfl) (.inl (by rw [live]; rfl)) ?_
  intro expired
  obtain ⟨-, other, found, due⟩ := Bubbles.mem_expired_iff.1 expired
  obtain rfl : bubble = other := Option.some.inj (live.symm.trans found)
  exact early due

end World

end Playhouse
