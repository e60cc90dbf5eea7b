import Playhouse.Proofs.Tick.Mention

/-!
# Actors that do not collide

Two worlds are `Alike` for an id if they hold the same role for it, play within the same bounds and
both or neither are suspended. A tick in which the id collides in neither world keeps them alike and
reports the same about the id (`Alike.tick`, `Alike.about_tick_eq`).

`World.only` leaves nothing in a world but what it holds for one id. Nobody is there to collide
with, so as long as an id does not collide it plays as if it were alone
(`ticks_eq_ticks_only`).
-/

namespace Playhouse

/-- What an act makes of a role if there is no collision. -/
def Role.after (r : Role) : Option Act → Role
  | none => r.release
  | some (.speech _ bubble) => r.release.speak bubble
  | some (.motion p) => r.release.commit p

namespace World

variable {w v : World} {offset now : Float} {id : ActorId}

/-- The worlds and reports of ticks at the given times. -/
def ticks (w : World) (offset : Float) : List Float → List (World × Report)
  | [] => []
  | now :: later => w.tick offset now :: (w.tick offset now).1.ticks offset later

/-- No collision of a report involves the id. -/
def Apart (id : ActorId) (played : World × Report) : Prop :=
  ∀ c ∈ played.2.collisions, c.involves id = false

instance (id : ActorId) (played : World × Report) : Decidable (Apart id played) :=
  inferInstanceAs (Decidable (∀ c ∈ played.2.collisions, c.involves id = false))

theorem Apart.notMem_turns (keyed : w.Keyed) (apart : Apart id (w.tick offset now)) :
    id ∉ Contact.turns ((w.awake now).contacts offset now) := by
  intro mem
  obtain ⟨c, mem, same⟩ := Contact.mem_turns_iff.1 mem
  have reported : c.collision ∈ (w.tick offset now).2.collisions := by
    rw [keyed.report_tick]
    exact List.mem_map_of_mem mem
  have free := apart _ reported
  rw [(keyed.awake now).collision_eq mem] at free
  rcases same with rfl | rfl <;> simp [Collision.involves] at free

theorem Keyed.apart_iff (keyed : w.Keyed) :
    Apart id (w.tick offset now) ↔ id ∉ Contact.turns ((w.awake now).contacts offset now) := by
  refine ⟨fun apart => apart.notMem_turns keyed, fun missing collision reported => ?_⟩
  rw [keyed.report_tick] at reported
  obtain ⟨c, mem, rfl⟩ := List.mem_map.1 reported
  rw [(keyed.awake now).collision_eq mem, Collision.involves, Bool.or_eq_false_iff]
  refine ⟨decide_eq_false ?_, decide_eq_false ?_⟩
  · intro same
    exact missing (Contact.mem_turns_iff.2 ⟨c, mem, .inl same.symm⟩)
  · intro same
    exact missing (Contact.mem_turns_iff.2 ⟨c, mem, .inr same.symm⟩)

/-- The role after a tick in which its id does not collide. -/
theorem Keyed.role_tick_of_apart (keyed : w.Keyed) (apart : Apart id (w.tick offset now)) :
    (w.tick offset now).1.role id =
      ((w.awake now).role id).after ((w.awake now).actOf offset now id) := by
  have free := apart.notMem_turns keyed
  have outcome := keyed.outcome_tick offset now id
  generalize (w.tick offset now).1.role id = r at outcome
  cases outcome with
  | rests found => rw [found]; rfl
  | speaks found => rw [found]; rfl
  | moves found _ => rw [found]; rfl
  | collides mem sides found _ =>
    obtain rfl := turn_of_actOf found
    refine absurd (Contact.mem_turns_iff.2 ⟨_, mem, ?_⟩) free
    split at sides <;> cases sides
    · exact .inr rfl
    · exact .inl rfl

/-! ## Two worlds side by side -/

/-- What decides how an id plays is the same in both worlds. -/
structure Alike (id : ActorId) (w v : World) : Prop where
  role_eq : w.role id = v.role id
  bounds_eq : w.scene.bounds = v.scene.bounds
  suspendedAt_eq : w.bubbles.suspendedAt = v.bubbles.suspendedAt

theorem Alike.mem_expired_iff (alike : Alike id w v) (now : Float) :
    id ∈ w.bubbles.expired now ↔ id ∈ v.bubbles.expired now := by
  have bubble : w.bubbles.live.get? id = v.bubbles.live.get? id :=
    congrArg Role.bubble alike.role_eq
  rw [Bubbles.mem_expired_iff, Bubbles.mem_expired_iff, alike.suspendedAt_eq, bubble]

theorem Alike.awake (alike : Alike id w v) (now : Float) :
    Alike id (w.awake now) (v.awake now) where
  role_eq := by
    simp only [role_awake, alike.mem_expired_iff now, alike.role_eq]
  bounds_eq := alike.bounds_eq
  suspendedAt_eq := by
    rw [suspendedAt_awake, suspendedAt_awake, alike.suspendedAt_eq]

theorem Alike.actOf_eq (alike : Alike id w v) (offset now : Float) :
    (w.awake now).actOf offset now id = (v.awake now).actOf offset now id :=
  actOf_congr (alike.awake now).role_eq (alike.awake now).bounds_eq
    (alike.awake now).suspendedAt_eq

theorem Alike.tick (alike : Alike id w v) (keyedW : w.Keyed) (keyedV : v.Keyed)
    (apartW : Apart id (w.tick offset now)) (apartV : Apart id (v.tick offset now)) :
    Alike id (w.tick offset now).1 (v.tick offset now).1 where
  role_eq := by
    rw [keyedW.role_tick_of_apart apartW, keyedV.role_tick_of_apart apartV, alike.actOf_eq,
      (alike.awake now).role_eq]
  bounds_eq := by
    rw [bounds_tick, bounds_tick, alike.bounds_eq]
  suspendedAt_eq := by
    rw [suspendedAt_tick, suspendedAt_tick, alike.suspendedAt_eq]

theorem Apart.filter_collisions (keyed : w.Keyed) (apart : Apart id (w.tick offset now)) :
    ((w.awake now).collisions offset now).filter (·.involves id) = [] := by
  rw [List.filter_eq_nil_iff]
  intro c mem
  have reported : c ∈ (w.tick offset now).2.collisions := by
    rw [keyed.report_tick]
    exact mem
  rw [apart c reported]
  exact Bool.false_ne_true

theorem Alike.about_tick_eq (alike : Alike id w v) (keyedW : w.Keyed) (keyedV : v.Keyed)
    (apartW : Apart id (w.tick offset now)) (apartV : Apart id (v.tick offset now)) :
    (w.tick offset now).2.about id = (v.tick offset now).2.about id := by
  rw [keyedW.about_tick, keyedV.about_tick, apartW.filter_collisions keyedW,
    apartV.filter_collisions keyedV, alike.actOf_eq]
  simp only [alike.mem_expired_iff now]

/-! ## Alone on the stage -/

/-- No other actor is there. -/
def Alone (id : ActorId) (w : World) : Prop :=
  ∀ key, key ≠ id → w.scene.actors.get? key = none

theorem Alone.actOf_eq_none (alone : Alone id w) {key : ActorId} (other : key ≠ id) :
    w.actOf offset now key = none := by
  rw [actOf, alone key other]
  rfl

theorem Alone.contacts_eq_nil (alone : Alone id w) : w.contacts offset now = [] := by
  rw [List.eq_nil_iff_forall_not_mem]
  intro c mem
  have joins := joins_of_mem_contacts mem
  have turn : ∀ p ∈ w.proposals offset now, p.turn = id := by
    intro p mem
    by_contra other
    have found := mem_proposals_iff.1 mem
    rw [alone.actOf_eq_none other] at found
    cases found
  have less := joins.less
  rw [turn _ joins.first_mem, turn _ joins.second_mem] at less
  exact ActorId.lt_irrefl id less

theorem Alone.apart (alone : Alone id w) (keyed : w.Keyed) : Apart id (w.tick offset now) := by
  have none : (w.awake now).contacts offset now = [] :=
    contacts_eq_nil (w := w.awake now) alone
  intro c mem
  rw [keyed.report_tick, collisions, none] at mem
  cases mem

theorem Alone.tick (alone : Alone id w) (keyed : w.Keyed) :
    Alone id (w.tick offset now).1 := by
  intro key other
  have idle : (w.awake now).actOf offset now key = none :=
    actOf_eq_none (w := w.awake now) alone other
  have outcome := keyed.outcome_tick offset now key
  change ((w.tick offset now).1.role key).actor = none
  generalize (w.tick offset now).1.role key = r at outcome
  cases outcome with
  | rests _ => exact alone key other
  | speaks found | moves found _ | collides _ _ found _ =>
    rw [idle] at found
    cases found

/-- A world that holds nothing but what `w` holds for `id`. -/
def only (w : World) (id : ActorId) : World :=
  ⟨{ w.scene with
      actors := w.scene.actors.only id
      cursors := w.scene.cursors.only id
      programs := w.scene.programs.only id
      held := w.scene.held.only id },
    { w.bubbles with live := w.bubbles.live.only id, paused := w.bubbles.paused.only id }⟩

theorem role_only (w : World) (id key : ActorId) :
    (w.only id).role key = if key = id then w.role key else .vacant := by
  simp only [role, only, Bubbles.isPaused, IdMap.contains, IdMap.get?_only]
  split <;> rfl

theorem alike_only (w : World) (id : ActorId) : Alike id w (w.only id) where
  role_eq := by rw [role_only, if_pos rfl]
  bounds_eq := rfl
  suspendedAt_eq := rfl

theorem alone_only (w : World) (id : ActorId) : Alone id (w.only id) := by
  intro key other
  change (w.scene.actors.only id).get? key = none
  rw [IdMap.get?_only, if_neg other]

theorem Keyed.only (keyed : w.Keyed) (id : ActorId) : (w.only id).Keyed := by
  intro key actor found
  change (w.scene.actors.only id).get? key = some actor at found
  rw [IdMap.get?_only] at found
  split at found
  · exact keyed key actor found
  · cases found

theorem Alike.ticks_eq (alike : Alike id w v) (keyedW : w.Keyed) (keyedV : v.Keyed)
    (alone : Alone id v) {times : List Float}
    (apart : ∀ played ∈ w.ticks offset times, Apart id played) :
    (w.ticks offset times).map (fun played => (played.1.role id, played.2.about id)) =
      (v.ticks offset times).map fun played => (played.1.role id, played.2.about id) := by
  induction times generalizing w v with
  | nil => rfl
  | cons now later ih =>
    obtain ⟨first, rest⟩ := List.forall_mem_cons.1 apart
    have apartV : Apart id (v.tick offset now) := alone.apart keyedV
    have next := alike.tick keyedW keyedV first apartV
    have tail := ih next (keyedW.tick offset now) (keyedV.tick offset now) (alone.tick keyedV) rest
    rw [ticks, ticks, List.map_cons, List.map_cons, tail, next.role_eq]
    rw [alike.about_tick_eq keyedW keyedV first apartV]

/-- Two actors at a distance. One of them speaks and both move to the right. -/
def duet : World :=
  ⟨{ Scene.empty ⟨⟨480.0, 480.0⟩, ⟨95.0, 100.0⟩⟩ with
      actors := .ofList [(⟨0⟩, ⟨⟨0⟩, 10.0, 10.0, 0.0⟩), (⟨1⟩, ⟨⟨1⟩, 200.0, 10.0, 0.0⟩)]
      cursors := .ofList [(⟨0⟩, .fresh 2), (⟨1⟩, .fresh 2)]
      programs := .ofList
        [(⟨0⟩, [.speak .say "hello" 1.0, .move 5.0 0.0]), (⟨1⟩, [.move 5.0 0.0, .restart])]
      nextId := ⟨2⟩ }, ∅⟩

/-- As long as an id does not collide it plays as if it were alone. -/
theorem ticks_eq_ticks_only (keyed : w.Keyed) (id : ActorId) (offset : Float) (times : List Float)
    (apart : ∀ played ∈ w.ticks offset times, Apart id played) :
    (w.ticks offset times).map (fun played => (played.1.role id, played.2.about id)) =
      ((w.only id).ticks offset times).map fun played => (played.1.role id, played.2.about id) :=
  (w.alike_only id).ticks_eq keyed (keyed.only id) (w.alone_only id) apart

theorem ticks_duet_eq_ticks_only :
    duet.Keyed ∧ (∀ played ∈ duet.ticks 25.0 [0.0, 0.5, 1.0], Apart ⟨0⟩ played) ∧
      (duet.ticks 25.0 [0.0, 0.5, 1.0]).map
          (fun played => (played.1.role ⟨0⟩, played.2.about ⟨0⟩)) =
        ((duet.only ⟨0⟩).ticks 25.0 [0.0, 0.5, 1.0]).map
          fun played => (played.1.role ⟨0⟩, played.2.about ⟨0⟩) := by
  have keyed : duet.Keyed := by decide
  have apart : ∀ played ∈ duet.ticks 25.0 [0.0, 0.5, 1.0], Apart ⟨0⟩ played := by decide +kernel
  exact ⟨keyed, apart, ticks_eq_ticks_only keyed ⟨0⟩ 25.0 [0.0, 0.5, 1.0] apart⟩

end World

end Playhouse
