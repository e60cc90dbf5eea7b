import Playhouse.Proofs.Tick.Outcome

/-!
# Roles that fit

A role `Fits` if its cursor fits its program, an actor that is held is there, and it pauses exactly
if it has a bubble, which says what the block at the cursor speaks (`Role.Speaks`). It goes on to
fit whatever is done to it, and so it does in a tick (`Outcome.fits`).
-/

namespace Playhouse

namespace Role

/-- The actor is at a block that speaks the words of a bubble. -/
def Speaks (r : Role) (bubble : Bubble) : Prop :=
  ∃ actor cursor program seconds,
    r.At actor cursor program (.speak bubble.kind bubble.text seconds)

section At

variable {r : Role} {actor : Actor} {cursor : Cursor} {program : Program} {block : Block}

theorem At.release (stands : r.At actor cursor program block) :
    r.release.At actor cursor program block :=
  ⟨stands.actor_eq, stands.cursor_eq, stands.program_eq, stands.block_eq, stands.not_idle, rfl⟩

theorem At.place (stands : r.At actor cursor program block) (pose : Actor → Actor) :
    (r.place pose).At (pose actor) cursor program block where
  actor_eq := by rw [Role.place, stands.actor_eq, Option.map_some]
  cursor_eq := stands.cursor_eq
  program_eq := stands.program_eq
  block_eq := stands.block_eq
  not_idle := stands.not_idle
  not_held := stands.not_held

/-- At the end of a speech the cursor moves past it. -/
theorem At.cursor_wake (stands : r.At actor cursor program block) :
    r.wake.cursor = some { cursor with position := cursor.position + 1 } := by
  have inside : cursor.position < cursor.length := by
    have busy := stands.not_idle
    rw [Cursor.isIdle, decide_eq_false_iff_not] at busy
    omega
  rw [Role.wake, stands.cursor_eq, Option.map_some, Cursor.advance, if_neg Bool.false_ne_true,
    Nat.min_eq_left inside]

end At

structure Fits (r : Role) : Prop where
  /-- Actors and programs have cursors, and nothing else has. -/
  isSome_cursor : r.cursor.isSome = (r.actor.isSome || r.program.isSome)
  length_eq : ∀ cursor, r.cursor = some cursor →
    cursor.length = r.length ∧ cursor.position ≤ cursor.length
  isSome_of_held : r.held = true → r.actor.isSome = true
  paused_eq : r.paused = r.bubble.isSome
  speaks : ∀ bubble, r.bubble = some bubble → r.Speaks bubble

namespace Fits

variable {r : Role}

theorem vacant : Role.vacant.Fits where
  isSome_cursor := rfl
  length_eq := nofun
  isSome_of_held := nofun
  paused_eq := rfl
  speaks := nofun

theorem bubble_eq_none (fits : r.Fits) (free : r.paused = false) : r.bubble = none := by
  have none := fits.paused_eq
  rw [free] at none
  cases found : r.bubble with
  | none => rfl
  | some bubble =>
    rw [found] at none
    cases none

theorem bubble_eq_none_of_missing (fits : r.Fits) (missing : r.actor = none) :
    r.bubble = none := by
  cases found : r.bubble with
  | none => rfl
  | some bubble =>
    obtain ⟨actor, cursor, program, seconds, stands⟩ := fits.speaks bubble found
    rw [stands.actor_eq] at missing
    cases missing

/-- Who pauses speaks, and who speaks is not held. -/
theorem not_paused_of_held (fits : r.Fits) (held : r.held = true) : r.paused = false := by
  rw [fits.paused_eq]
  cases live : r.bubble with
  | none => rfl
  | some bubble =>
    obtain ⟨actor, cursor, program, seconds, stands⟩ := fits.speaks bubble live
    rw [stands.not_held] at held
    cases held

theorem wake (fits : r.Fits) : r.wake.Fits where
  isSome_cursor := by
    simpa [Role.wake] using fits.isSome_cursor
  length_eq := by
    intro cursor found
    obtain ⟨old, known, rfl⟩ := Option.map_eq_some_iff.1 found
    exact ⟨(fits.length_eq old known).1, Nat.min_le_right _ _⟩
  isSome_of_held := fits.isSome_of_held
  paused_eq := rfl
  speaks := nofun

theorem release (fits : r.Fits) : r.release.Fits where
  isSome_cursor := fits.isSome_cursor
  length_eq := fits.length_eq
  isSome_of_held := nofun
  paused_eq := fits.paused_eq
  speaks := by
    intro bubble found
    obtain ⟨actor, cursor, program, seconds, stands⟩ := fits.speaks bubble found
    exact ⟨actor, cursor, program, seconds, stands.release⟩

theorem speak (fits : r.Fits) {bubble : Bubble} (speaks : r.Speaks bubble) :
    (r.speak bubble).Fits where
  isSome_cursor := fits.isSome_cursor
  length_eq := fits.length_eq
  isSome_of_held := fits.isSome_of_held
  paused_eq := rfl
  speaks := by
    intro new found
    obtain rfl : bubble = new := Option.some.inj found
    obtain ⟨actor, cursor, program, seconds, stands⟩ := speaks
    exact ⟨actor, cursor, program, seconds, stands.actor_eq, stands.cursor_eq, stands.program_eq,
      stands.block_eq, stands.not_idle, stands.not_held⟩

theorem commit (fits : r.Fits) (free : r.paused = false) (p : Proposal) : (r.commit p).Fits where
  isSome_cursor := by
    simpa [Role.commit] using fits.isSome_cursor
  length_eq := by
    intro cursor found
    obtain ⟨old, known, rfl⟩ := Option.map_eq_some_iff.1 found
    obtain ⟨length, bound⟩ := fits.length_eq old known
    refine ⟨length, ?_⟩
    simp only [Cursor.advance]
    split
    · exact Nat.zero_le _
    · exact Nat.min_le_right _ _
  isSome_of_held := by
    simpa [Role.commit] using fits.isSome_of_held
  paused_eq := fits.paused_eq
  speaks := by
    intro bubble found
    have none : r.bubble = none := fits.bubble_eq_none free
    change r.bubble = some bubble at found
    rw [none] at found
    cases found

theorem takeOver (fits : r.Fits) (present : r.actor.isSome = true) (free : r.paused = false)
    (program : Option Program) (isSecond : Bool) : (r.takeOver program isSecond).Fits where
  isSome_cursor := by
    have cursor := fits.isSome_cursor
    rw [present, Bool.true_or] at cursor
    simp [Role.takeOver, present, cursor]
  length_eq := by
    intro cursor found
    obtain ⟨old, known, rfl⟩ := Option.map_eq_some_iff.1 found
    exact ⟨rfl, Nat.zero_le _⟩
  isSome_of_held := fun _ => present
  paused_eq := fits.paused_eq
  speaks := by
    intro bubble found
    have none : r.bubble = none := fits.bubble_eq_none free
    change r.bubble = some bubble at found
    rw [none] at found
    cases found

theorem enter (fits : r.Fits) (missing : r.actor = none) (actor : Actor) :
    (r.enter actor).Fits where
  isSome_cursor := rfl
  length_eq := by
    intro cursor found
    cases found
    exact ⟨rfl, Nat.zero_le _⟩
  isSome_of_held := fun _ => rfl
  paused_eq := fits.paused_eq
  speaks := by
    intro bubble found
    have none : r.bubble = none := fits.bubble_eq_none_of_missing missing
    change r.bubble = some bubble at found
    rw [none] at found
    cases found

theorem install (r : Role) (program : Program) : (r.install program).Fits where
  isSome_cursor := (Bool.or_true _).symm
  length_eq := by
    intro cursor found
    cases found
    exact ⟨rfl, Nat.zero_le _⟩
  isSome_of_held := nofun
  paused_eq := rfl
  speaks := nofun

theorem place (fits : r.Fits) (pose : Actor → Actor) : (r.place pose).Fits where
  isSome_cursor := by
    simpa [Role.place] using fits.isSome_cursor
  length_eq := fits.length_eq
  isSome_of_held := by
    simpa [Role.place] using fits.isSome_of_held
  paused_eq := fits.paused_eq
  speaks := by
    intro bubble found
    obtain ⟨actor, cursor, program, seconds, stands⟩ := fits.speaks bubble found
    exact ⟨pose actor, cursor, program, seconds, stands.place pose⟩

end Fits

end Role

/-! ## Ticks -/

namespace World

variable {w : World} {offset now : Float} {id : ActorId} {r : Role}

theorem fits_awake (fits : (w.role id).Fits) (now : Float) : ((w.awake now).role id).Fits := by
  rw [role_awake]
  split
  · exact fits.wake
  · exact fits

theorem Outcome.fits (outcome : w.Outcome offset now id r) (fits : (w.role id).Fits) : r.Fits := by
  cases outcome with
  | rests _ => exact fits.release
  | speaks found =>
    obtain ⟨actor, cursor, program, kind, text, seconds, ready, rfl⟩ := actOf_eq_speech found
    exact fits.release.speak ⟨actor, cursor, program, seconds, ready.toAt.release⟩
  | moves found _ =>
    obtain ⟨actor, cursor, program, block, ready, -⟩ := actOf_eq_motion found
    exact fits.release.commit ready.not_paused _
  | collides _ _ found _ =>
    obtain ⟨actor, cursor, program, block, ready, -⟩ := actOf_eq_motion found
    have present : (w.role id).actor.isSome = true := by
      rw [ready.actor_eq]
      rfl
    exact (fits.release.takeOver present ready.not_paused _ _).commit ready.not_paused _

/-- Nobody enters or leaves in a tick. -/
theorem Outcome.isSome_actor (outcome : w.Outcome offset now id r) :
    r.actor.isSome = (w.role id).actor.isSome := by
  cases outcome with
  | rests _ | speaks _ => rfl
  | moves _ _ | collides _ _ _ _ => exact Option.isSome_map

end World

end Playhouse
