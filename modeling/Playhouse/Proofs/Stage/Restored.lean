import Playhouse.Proofs.Format.Snapshot
import Playhouse.Proofs.Stage.Arena

/-!
# Restored stages

A snapshot is restored if its configuration can be used and its fingerprint is the digest of its
text (`restore_eq_none_iff`). Nothing else of it is looked at, and a digest can be made of any text.
So a restored stage holds what was recorded, and it is well-formed exactly if that is
(`restored_as_recorded`).

What was recorded is well-formed if the fingerprint was taken on a reachable stage, unless two texts
have the same digest.
-/

namespace Playhouse

/-- What the operations of a stage rely on. -/
structure Record.WellFormed (r : Record) : Prop where
  bounds_eq : r.scene.bounds = r.config.bounds
  own_id : ∀ id actor, r.scene.actors.get? id = some actor → actor.id = id
  below_next : ∀ id, r.scene.actors.contains id = true → id < r.scene.nextId
  cursor_inside : ∀ id cursor, r.scene.cursors.get? id = some cursor →
    cursor.position ≤ cursor.length ∧ cursor.length = r.scene.programs.lengthOf id
  paused_iff : ∀ id, r.bubbles.paused.contains id = true ↔ r.bubbles.live.contains id = true

/-- The suspension has no part in it. -/
theorem Record.wellFormed_suspendedAt_iff (r : Record) (since : Option Float) :
    Record.WellFormed { r with bubbles.suspendedAt := since } ↔ r.WellFormed :=
  ⟨fun ⟨bounds, own, below, inside, paused⟩ => ⟨bounds, own, below, inside, paused⟩,
    fun ⟨bounds, own, below, inside, paused⟩ => ⟨bounds, own, below, inside, paused⟩⟩

/-- Neither has the source of random numbers. -/
theorem Record.WellFormed.draw {r : Record} (wellFormed : r.WellFormed) (random : Random) :
    Record.WellFormed { r with random } := by
  obtain ⟨bounds, own, below, inside, paused⟩ := wellFormed
  exact ⟨bounds, own, below, inside, paused⟩

namespace Stage

variable {s t : Stage} {snapshot : Snapshot}

theorem Reachable.wellFormed (reachable : s.Reachable) : s.record.WellFormed where
  bounds_eq := reachable.bounds_eq
  own_id := reachable.sound.keyed
  below_next := fun id => (reachable.wellCast.entered id).1
  cursor_inside := by
    intro id cursor found
    obtain ⟨length, inside⟩ := (reachable.wellCast.fits id).length_eq cursor found
    exact ⟨inside, length⟩
  paused_iff := by
    intro id
    have paused : s.world.bubbles.paused.contains id = s.world.bubbles.live.contains id :=
      (reachable.wellCast.fits id).paused_eq
    rw [Stage.record, paused]

/-- An actor that enters at a given position takes nobody's place. -/
theorem actor_addActorAt (wellFormed : s.record.WellFormed) (x y : Float) {id : ActorId}
    {actor : Actor} (found : s.world.scene.actors.get? id = some actor) :
    (s.addActorAt x y).1.world.scene.actors.get? id = some actor := by
  have below : id < s.world.scene.nextId := by
    apply wellFormed.below_next id
    show (s.world.scene.actors.get? id).isSome = true
    rw [found]
    rfl
  exact (get?_addActorAt_of_ne s x y (ActorId.ne_of_lt below)).trans found

/-- Nor does it at a random position. -/
theorem actor_of_entered (wellFormed : s.record.WellFormed) {added : ActorId}
    (entered : s.addActor = some (t, added) ∨ ∃ x y, s.addActorAt x y = (t, added)) {id : ActorId}
    {actor : Actor} (found : s.world.scene.actors.get? id = some actor) :
    t.world.scene.actors.get? id = some actor := by
  rcases entered with drawn | ⟨x, y, same⟩
  · obtain ⟨x, y, -, random, -, -, same⟩ := addActor_eq_some drawn
    cases same
    exact actor_addActorAt (wellFormed.draw random) x y found
  · cases same
    exact actor_addActorAt wellFormed x y found

/-- The check that a snapshot is put to. -/
theorem restore_eq_none_iff :
    s.restore snapshot = (t, none) ↔
      snapshot.record.config.check = .ok () ∧ snapshot.record.fingerprint = snapshot.hash ∧
        t = snapshot.record.toStage := by
  unfold restore ofSnapshot
  cases snapshot.record.config.check with
  | error e => simp [Except.mapError, bind, Except.bind]
  | ok u =>
    by_cases same : snapshot.record.fingerprint = snapshot.hash
    · simp [Except.mapError, bind, Except.bind, pure, Except.pure, same, eq_comm]
    · simp [Except.mapError, bind, Except.bind, throw, throwThe, MonadExceptOf.throw, same]

/-- What passes the check is restored as it was recorded, well-formed or not. The fingerprint of a
reachable stage vouches for the record. -/
theorem restored_as_recorded (s : Stage) (snapshot : Snapshot) :
    ((∃ t, s.restore snapshot = (t, none)) ↔
      snapshot.record.config.check = .ok () ∧ snapshot.record.fingerprint = snapshot.hash) ∧
    ∀ t, s.restore snapshot = (t, none) →
      t.running = false ∧
      t.record = { snapshot.record with
        bubbles.suspendedAt := snapshot.record.bubbles.suspendedAt.or (some t.time) } ∧
      (t.record.WellFormed ↔ snapshot.record.WellFormed) ∧
      (snapshot.record.WellFormed → ∀ u added,
        t.addActor = some (u, added) ∨ (∃ x y, t.addActorAt x y = (u, added)) →
          ∀ id actor, t.world.scene.actors.get? id = some actor →
            u.world.scene.actors.get? id = some actor) ∧
      ∀ source : Stage, source.Reachable → source.fingerprint = snapshot.hash →
        source.record.Storable → snapshot.record.Storable →
        (source.fingerprint = snapshot.record.fingerprint →
          Record.codec.compact source.record = Record.codec.compact snapshot.record) →
        t.record.WellFormed := by
  constructor
  · constructor
    · rintro ⟨t, accepted⟩
      obtain ⟨valid, recorded, -⟩ := restore_eq_none_iff.1 accepted
      exact ⟨valid, recorded⟩
    · rintro ⟨valid, recorded⟩
      exact ⟨_, restore_eq_none_iff.2 ⟨valid, recorded, rfl⟩⟩
  intro t accepted
  obtain ⟨-, recorded, rfl⟩ := restore_eq_none_iff.1 accepted
  have iff : snapshot.record.toStage.record.WellFormed ↔ snapshot.record.WellFormed :=
    snapshot.record.wellFormed_suspendedAt_iff _
  refine ⟨rfl, rfl, iff, fun wellFormed u added entered id actor found => ?_, ?_⟩
  · exact actor_of_entered (iff.2 wellFormed) entered found
  · intro source reachable taken storable readable distinct
    have same : source.record = snapshot.record :=
      storable.compact_inj readable (distinct (taken.trans recorded.symm))
    rw [iff, ← same]
    exact reachable.wellFormed

/-- An actor is restored in the middle of its speech. -/
theorem restored_as_recorded_greeting :
    ∃ t, (fresh .default).restore greeting.stop.capture = (t, none) ∧ t.running = false ∧
      t.record.WellFormed := by
  have reachable : greeting.stop.Reachable := reachable_greeting.act .stop rfl rfl
  have accepted : (fresh .default).restore greeting.stop.capture =
      (greeting.stop.record.toStage, none) := restore_capture _ rfl
  obtain ⟨stopped, -, -, -, vouched⟩ := (restored_as_recorded _ _).2 _ accepted
  have storable : greeting.stop.record.Storable := by decide +kernel
  exact ⟨_, accepted, stopped, vouched greeting.stop reachable rfl storable storable fun _ => rfl⟩

/-- A record that is wrong in everything but its digest. -/
def forged : Record where
  config := .default
  scene :=
    { bounds := ⟨⟨10.0, 10.0⟩, ⟨95.0, 100.0⟩⟩
      actors := IdMap.insert ∅ ⟨0⟩ ⟨⟨5⟩, 10.0, 20.0, 0.0⟩
      cursors := IdMap.insert ∅ ⟨0⟩ ⟨7, .forward, 3⟩
      programs := ∅
      held := ∅
      nextId := ⟨0⟩ }
  bubbles := ⟨∅, IdSet.insert ∅ ⟨2⟩, none⟩
  random := ⟨0, 1⟩
  ticks := 0

/-- It is restored, with another canvas, a foreign actor whose place the next one takes, a cursor
outside its program and a pause without a bubble. -/
theorem forged_restored :
    ∃ t, (fresh .default).restore ⟨forged, forged.fingerprint⟩ = (t, none) ∧
      t.world.scene.bounds ≠ t.config.bounds ∧
      (∃ actor, t.world.scene.actors.get? ⟨0⟩ = some actor ∧ actor.id = ⟨5⟩ ∧
        t.world.scene.nextId = ⟨0⟩ ∧
        (t.addActorAt 0.0 0.0).1.world.scene.actors.get? ⟨0⟩ ≠ some actor) ∧
      (∃ cursor, t.world.scene.cursors.get? ⟨0⟩ = some cursor ∧
        ¬ cursor.position ≤ cursor.length ∧ cursor.length ≠ t.world.scene.programs.lengthOf ⟨0⟩) ∧
      t.world.bubbles.paused.contains ⟨2⟩ = true ∧ t.world.bubbles.live.contains ⟨2⟩ = false := by
  refine ⟨forged.toStage, restore_eq_none_iff.2 ⟨rfl, rfl, rfl⟩, ?_, ?_, ?_, rfl, rfl⟩
  · intro same
    have width : (10.0 : Float) = 480.0 := congrArg (·.canvas.width) same
    revert width
    decide
  · refine ⟨⟨⟨5⟩, 10.0, 20.0, 0.0⟩, rfl, rfl, rfl, fun same => ?_⟩
    have id : (⟨0⟩ : ActorId) = ⟨5⟩ := congrArg Actor.id (Option.some.inj same)
    cases id
  · exact ⟨⟨7, .forward, 3⟩, rfl, by decide, by decide⟩

end Stage

end Playhouse
