import Playhouse.Proofs.Tick.Play

/-!
# Outcomes

An `Outcome` says all that a tick can do to a role (`outcome_tick`): it rests, speaks, moves, or
collides with another one and takes over its program. What holds of a role before and after a tick
is proved by cases on it.

The bounds, the suspension and the next id stay as they are, and a keyed world stays keyed
(`Keyed.tick`).
-/

namespace Playhouse

namespace World

variable {w : World} {offset now : Float} {id : ActorId} {p : Proposal}

/-- What becomes of the role of `id` in a tick. -/
inductive Outcome (w : World) (offset now : Float) (id : ActorId) : Role → Prop where
  | rests (found : w.actOf offset now id = none) : Outcome w offset now id (w.role id).release
  | speaks {bubble : Bubble} (found : w.actOf offset now id = some (.speech id bubble)) :
    Outcome w offset now id ((w.role id).release.speak bubble)
  | moves {p : Proposal} (found : w.actOf offset now id = some (.motion p))
    (apart : id ∉ Contact.turns (w.contacts offset now)) :
    Outcome w offset now id ((w.role id).release.commit p)
  | collides {c : Contact} {p q : Proposal} {isSecond : Bool}
    (mem : c ∈ w.contacts offset now)
    (sides : (p, q) = if isSecond then (c.second, c.first) else (c.first, c.second))
    (found : w.actOf offset now id = some (.motion p))
    (other : w.actOf offset now q.turn = some (.motion q)) :
    Outcome w offset now id
      (((w.role id).release.takeOver (w.role q.turn).program isSecond).commit p.revert)

theorem notMem_turns_of_still (still : ∀ p ∈ w.proposals offset now, p.turn ≠ id) :
    id ∉ Contact.turns (w.contacts offset now) := by
  intro mem
  obtain ⟨c, mem, same | same⟩ := Contact.mem_turns_iff.1 mem
  · exact still c.first (joins_of_mem_contacts mem).first_mem same.symm
  · exact still c.second (joins_of_mem_contacts mem).second_mem same.symm

theorem Keyed.role_play_of_still (keyed : w.Keyed)
    (still : ∀ p ∈ w.proposals offset now, p.turn ≠ id) :
    (w.moved offset now).role id = (w.role id).release := by
  rw [keyed.role_moved_of_notMem still]
  exact keyed.role_exchanged_of_notMem (notMem_turns_of_still still)

theorem Keyed.outcome_of_motion (keyed : w.Keyed)
    (found : w.actOf offset now id = some (.motion p)) :
    w.Outcome offset now id ((w.moved offset now).role id) := by
  obtain rfl : p.turn = id := turn_of_actOf found
  have mem : p ∈ w.proposals offset now := mem_proposals_iff.2 found
  rw [keyed.role_moved_of_mem mem]
  by_cases member : p.turn ∈ Contact.turns (w.contacts offset now)
  · rw [settle, Proposal.mark, if_pos member]
    obtain ⟨c, hc, same | same⟩ := Contact.mem_turns_iff.1 member
    all_goals
      have joins := joins_of_mem_contacts hc
      have first := mem_proposals_iff.1 joins.first_mem
      have second := mem_proposals_iff.1 joins.second_mem
      obtain ⟨hit, struck⟩ := keyed.role_exchanged_of_mem hc
    · obtain rfl := eq_of_mem_proposals mem joins.first_mem same
      rw [hit]
      exact .collides hc rfl found second
    · obtain rfl := eq_of_mem_proposals mem joins.second_mem same
      rw [struck]
      exact .collides hc rfl found first
  · rw [settle, Proposal.mark_of_notMem member, keyed.role_exchanged_of_notMem member]
    exact .moves found member

theorem Keyed.outcome_play (keyed : w.Keyed) (offset now : Float) (id : ActorId) :
    w.Outcome offset now id ((w.play offset now).role id) := by
  cases found : w.actOf offset now id with
  | none =>
    rw [role_play_of_notMem, keyed.role_play_of_still]
    · exact .rests found
    · rintro p mem rfl
      rw [mem_proposals_iff.1 mem] at found
      cases found
    · intro bubble mem
      rw [mem_speeches_iff.1 mem] at found
      cases found
  | some a =>
    obtain rfl : a.turn = id := turn_of_actOf found
    cases a with
    | speech turn bubble =>
      rw [role_play_of_mem (mem_speeches_iff.2 found), keyed.role_play_of_still]
      · exact .speaks found
      · intro p mem same
        have other := mem_proposals_iff.1 mem
        rw [same, found] at other
        cases other
    | motion p =>
      rw [role_play_of_notMem]
      · exact keyed.outcome_of_motion found
      · intro bubble mem
        rw [mem_speeches_iff.1 mem] at found
        cases found

/-! ## What a tick leaves alone -/

theorem Keyed.awake (keyed : w.Keyed) (now : Float) : (w.awake now).Keyed := keyed

/-- All that a tick does to a role. -/
theorem Keyed.outcome_tick (keyed : w.Keyed) (offset now : Float) (id : ActorId) :
    (w.awake now).Outcome offset now id ((w.tick offset now).1.role id) := by
  rw [tick_eq_play]
  exact (keyed.awake now).outcome_play offset now id

theorem Outcome.id_of_actor_eq (keyed : w.Keyed) {r : Role} (outcome : w.Outcome offset now id r)
    {actor : Actor} (found : r.actor = some actor) : actor.id = id := by
  cases outcome with
  | rests _ | speaks _ => exact keyed id actor found
  | moves motion _ =>
    obtain rfl : _ = id := turn_of_actOf motion
    obtain ⟨-, -, rfl⟩ := Option.map_eq_some_iff.1 found
    exact (keyed.id_of_mem_proposals (mem_proposals_iff.2 motion)).2
  | collides _ _ motion _ =>
    obtain rfl : _ = id := turn_of_actOf motion
    obtain ⟨-, -, rfl⟩ := Option.map_eq_some_iff.1 found
    exact (keyed.id_of_mem_proposals (mem_proposals_iff.2 motion)).1

theorem Keyed.tick (keyed : w.Keyed) (offset now : Float) : (w.tick offset now).1.Keyed :=
  fun id _ => (keyed.outcome_tick offset now id).id_of_actor_eq (keyed.awake now)

/-- What a tick does to a part of the scene that proposals do not change. -/
theorem scene_tick_exchanged {β : Type} (view : Scene → β) (w : World) (offset now : Float)
    (commit : ∀ s p, view (s.commit p) = view s) :
    view (w.tick offset now).1.scene =
      view ((w.tick offset now).2.collisions.foldl Scene.exchange
        { (w.awake now).scene with held := ∅ }) := by
  rw [tick_eq]
  exact foldl_frame view (fun s p _ => commit s p) ((w.awake now).exchanged offset now).scene

/-- A part of a scene that no collision and no proposal changes. -/
theorem scene_tick_frame {β : Type} (view : Scene → β) (w : World) (offset now : Float)
    (exchange : ∀ s c, view (s.exchange c) = view s) (commit : ∀ s p, view (s.commit p) = view s) :
    view (w.tick offset now).1.scene =
      view { (w.awake now).scene with held := ∅ } := by
  rw [w.scene_tick_exchanged view offset now commit]
  exact foldl_frame view (fun s c _ => exchange s c) _

@[simp] theorem bounds_tick (w : World) (offset now : Float) :
    (w.tick offset now).1.scene.bounds = w.scene.bounds :=
  w.scene_tick_frame (·.bounds) offset now (fun _ _ => rfl) fun _ _ => rfl

@[simp] theorem nextId_tick (w : World) (offset now : Float) :
    (w.tick offset now).1.scene.nextId = w.scene.nextId :=
  w.scene_tick_frame (·.nextId) offset now (fun _ _ => rfl) fun _ _ => rfl

@[simp] theorem suspendedAt_tick (w : World) (offset now : Float) :
    (w.tick offset now).1.bubbles.suspendedAt = w.bubbles.suspendedAt := by
  have puts : ((w.awake now).play offset now).bubbles.suspendedAt =
      (w.awake now).bubbles.suspendedAt :=
    foldl_frame (f := fun (b : Bubbles) (p : ActorId × Bubble) => b.put p.1 p.2)
      Bubbles.suspendedAt (fun _ _ _ => rfl) _
  rw [tick_eq_play, puts, suspendedAt_awake]

end World

end Playhouse
