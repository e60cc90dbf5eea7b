import Playhouse.Proofs.Stage.Restored

/-!
# Altered snapshots

A snapshot whose fingerprint is not its own is refused, and the stage stays as it is
(`restore_of_fingerprint_ne`). A record that was altered after it had been captured
has another text, to the last bit of a real number. So it is refused if it still carries the old
fingerprint, unless its text happens to have the same digest (`altered_refused`).
-/

namespace Playhouse

/-- What is wrong with a snapshot. The configuration is looked at first. -/
def Snapshot.Faulty (snapshot : Snapshot) : RestoreError → Prop
  | .invalidConfig e => snapshot.record.config.check = .error e
  | .hashMismatch recorded computed =>
    snapshot.record.config.check = .ok () ∧ recorded = snapshot.hash ∧
      computed = snapshot.record.fingerprint ∧ computed ≠ recorded

namespace Stage

variable {snapshot : Snapshot}

/-- A snapshot with another fingerprint than its own is refused, and nothing changes. -/
theorem restore_of_fingerprint_ne (differ : snapshot.record.fingerprint ≠ snapshot.hash)
    (t : Stage) : ∃ e, snapshot.Faulty e ∧ t.restore snapshot = (t, some e) := by
  unfold restore ofSnapshot
  cases check : snapshot.record.config.check with
  | error odd => exact ⟨.invalidConfig odd, check, rfl⟩
  | ok u =>
    refine ⟨.hashMismatch snapshot.hash snapshot.record.fingerprint, ⟨check, rfl, rfl, differ⟩, ?_⟩
    simp [Except.mapError, bind, Except.bind, throw, throwThe, MonadExceptOf.throw, differ]

/-- An altered record has another text than the one that was captured, if both can be stored, with
finite numbers and machine words. With the old fingerprint it is refused, unless the two texts have
the same digest. -/
theorem altered_refused (source t : Stage) (snapshot : Snapshot)
    (kept : snapshot.hash = source.capture.hash)
    (altered : snapshot.record ≠ source.capture.record)
    (storable : source.capture.record.Storable) (readable : snapshot.record.Storable) :
    Record.codec.compact snapshot.record ≠ Record.codec.compact source.capture.record ∧
      ((∃ e, snapshot.Faulty e ∧ t.restore snapshot = (t, some e)) ∨
        Blake3.hex (Record.codec.compact snapshot.record) =
          Blake3.hex (Record.codec.compact source.capture.record)) := by
  refine ⟨fun same => altered (readable.compact_inj storable same), ?_⟩
  by_cases same : snapshot.record.fingerprint = snapshot.hash
  · exact .inr (same.trans kept)
  · exact .inl (restore_of_fingerprint_ne same t)

/-- The snapshot of an actor in the middle of its speech, with the sign of its angle changed. -/
def turned : Snapshot where
  record := { greeting.record with
    scene.actors := IdMap.insert ∅ ⟨0⟩ ⟨⟨0⟩, 10.0, 20.0, -0.0⟩ }
  hash := greeting.capture.hash

theorem altered_refused_turned :
    turned.hash = greeting.capture.hash ∧ turned.record ≠ greeting.capture.record ∧
      Record.codec.compact turned.record ≠ Record.codec.compact greeting.capture.record ∧
      ((∃ e, turned.Faulty e ∧ (fresh .default).restore turned = (fresh .default, some e)) ∨
        Blake3.hex (Record.codec.compact turned.record) =
          Blake3.hex (Record.codec.compact greeting.capture.record)) := by
  have altered : turned.record ≠ greeting.capture.record := by
    intro same
    have angle : some (-0.0) = some 0.0 :=
      congrArg (fun r : Record => (r.scene.actors.get? ⟨0⟩).map Actor.angle) same
    revert angle
    decide
  exact ⟨rfl, altered, altered_refused greeting (fresh .default) turned rfl altered
    (by decide +kernel) (by decide +kernel)⟩

end Stage

end Playhouse
