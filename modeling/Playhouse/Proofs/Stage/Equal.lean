import Playhouse.Proofs.Json.Alike
import Playhouse.Proofs.Stage.Reachable

/-!
# Equal stages

Two stages are equal if their records are, and then their texts can differ only in the signs of
zeros (`texts_of_equal`). That is enough for another fingerprint: a program that moves its actor to
the left by nothing is equal to one that moves it to the right, but it has another text
(`still_texts_differ`).
-/

namespace Playhouse

open Codec Fields

/-! ## Equal values are written alike -/

theorem Size.writesAlike : codec.WritesAlike := by
  refine .record (.cons writesAlike_float (.cons writesAlike_float .nil)) fun a b same => ?_
  have same : (_ && _) = true := same
  simpa [beq_mk] using same

theorem Point.writesAlike : codec.WritesAlike := by
  refine .record (.cons writesAlike_float (.cons writesAlike_float .nil)) fun a b same => ?_
  have same : (_ && _) = true := same
  simpa [beq_mk] using same

theorem Bounds.writesAlike : codec.WritesAlike := by
  refine .record (.cons Size.writesAlike (.cons Size.writesAlike .nil)) fun a b same => ?_
  have same : (_ && _) = true := same
  simpa [beq_mk] using same

theorem Config.writesAlike : codec.WritesAlike := by
  refine .record ?_ fun a b same => ?_
  · exact .cons writesAlike_float (.cons writesAlike_float (.cons writesAlike_float
      (.cons writesAlike_float (.cons writesAlike_float (.cons writesAlike_float
        (.cons (writesAlike_of_lawful _) .nil))))))
  · have same : (_ && _) = true := same
    simpa [beq_mk] using same

theorem Block.writesAlike : codec.WritesAlike := by
  refine .tagged fun a b same => ?_
  have moved : moveFields.WritesAlike := .cons writesAlike_float (.cons writesAlike_float .nil)
  have turned : turnFields.WritesAlike := .cons writesAlike_float .nil
  have spoken : speechFields.WritesAlike :=
    .cons (writesAlike_of_lawful _) (.cons writesAlike_float .nil)
  cases a <;> cases b <;> try cases same
  case move.move dx dy dx' dy' =>
    have same : (dx == dx' && dy == dy') = true := same
    have parts : ((dx, dy, ()) == (dx', dy', ())) = true := by simpa [beq_mk] using same
    exact ⟨rfl, moved parts⟩
  case turn.turn angle angle' =>
    have same : (angle == angle') = true := same
    have parts : ((angle, ()) == (angle', ())) = true := by simpa [beq_mk] using same
    exact ⟨rfl, turned parts⟩
  case speak.speak kind text seconds kind' text' seconds' =>
    have same : (kind == kind' && (text == text' && seconds == seconds')) = true := same
    obtain ⟨tag, same⟩ := Bool.and_eq_true_iff.1 same
    have parts : ((text, seconds, ()) == (text', seconds', ())) = true := by
      simpa [beq_mk] using same
    exact ⟨congrArg SpeechKind.name (eq_of_beq tag), spoken parts⟩
  case restart.restart => exact ⟨rfl, .nil⟩

theorem Programs.writesAlike : codec.WritesAlike := by
  refine .record (.cons (.idMap (.list Block.writesAlike)) .nil) fun a b same => ?_
  simpa [beq_mk] using same

theorem Cursors.writesAlike : codec.WritesAlike := by
  refine .record (.cons (.idMap (writesAlike_of_lawful _)) .nil) fun a b same => ?_
  simpa [beq_mk] using same

theorem Bubble.writesAlike : codec.WritesAlike := by
  refine .record ?_ fun a b same => ?_
  · exact .cons (writesAlike_of_lawful _) (.cons (writesAlike_of_lawful _)
      (.cons Point.writesAlike (.cons writesAlike_float .nil)))
  · have same : (_ && _) = true := same
    simpa [beq_mk] using same

theorem Bubbles.writesAlike : codec.WritesAlike := by
  refine .record ?_ fun a b same => ?_
  · exact .cons (.idMap Bubble.writesAlike) (.cons writesAlike_idSet
      (.cons (.optional writesAlike_float) .nil))
  · have same : (_ && _) = true := same
    simpa [beq_mk] using same

theorem Actor.writesAlike : codec.WritesAlike := by
  refine .record ?_ fun a b same => ?_
  · exact .cons (writesAlike_of_lawful _) (.cons writesAlike_float (.cons writesAlike_float
      (.cons writesAlike_float .nil)))
  · have same : (_ && _) = true := same
    simpa [beq_mk] using same

theorem Scene.writesAlike : codec.WritesAlike := by
  refine .record ?_ fun a b same => ?_
  · exact .cons Bounds.writesAlike (.cons (.idMap Actor.writesAlike)
      (.cons Cursors.writesAlike (.cons Programs.writesAlike
        (.cons writesAlike_idSet (.cons (writesAlike_of_lawful _) .nil)))))
  · have same : (_ && _) = true := same
    simpa [beq_mk] using same

namespace Record

theorem writesAlike : codec.WritesAlike := by
  refine .record ?_ fun a b same => ?_
  · exact .cons Config.writesAlike (.cons Scene.writesAlike (.cons Bubbles.writesAlike
      (.cons (writesAlike_of_lawful _) (.cons (writesAlike_of_lawful _) .nil))))
  · have same : (_ && _) = true := same
    simpa [beq_mk] using same

/-- The real numbers of a record in the order in which they are written. -/
def reals (r : Record) : List Float :=
  (codec.write r).reals

end Record

namespace Stage

/-! ## Texts and fingerprints -/

/-- Equal stages hold the same numbers to the signs of zeros. They have the same text exactly if
the signs are the same as well, and so they have if no zero has a minus sign. -/
theorem texts_of_equal (s t : Stage) (equal : (s.record == t.record) = true) :
    s.record.reals.Forall₂ Binary64.EqualToSign t.record.reals ∧
      (Record.codec.compact s.record = Record.codec.compact t.record ↔
        s.record.reals = t.record.reals) ∧
      ((∀ x ∈ s.record.reals, x ≠ -0.0) → (∀ x ∈ t.record.reals, x ≠ -0.0) →
        Record.codec.compact s.record = Record.codec.compact t.record ∧
          s.fingerprint = t.fingerprint) := by
  have alike := Record.writesAlike equal
  refine ⟨alike.forall₂_reals, alike.compact_iff, fun plain plain' => ?_⟩
  have same : Record.codec.compact s.record = Record.codec.compact t.record :=
    alike.compact_iff.2 (alike.reals_eq plain plain')
  exact ⟨same, congrArg Blake3.hex same⟩

/-- One actor and its program, not yet started. -/
def rehearsal (tokens : List String) : Stage :=
  ((fresh .default).addActorAt 10.0 20.0).1.setProgram ⟨0⟩ tokens

theorem reachable_rehearsal (tokens : List String) : (rehearsal tokens).Reachable := by
  have new : (fresh .default).Reachable := reachable_fresh rfl
  exact (new.act (.addActorAt 10.0 20.0) rfl rfl).act (.setProgram ⟨0⟩ tokens) rfl rfl

theorem texts_of_equal_rehearsal :
    ((rehearsal ["RIGHT_0", "ROT_90"]).record == (rehearsal ["XY_0", "ROT_9e1"]).record) = true ∧
      (rehearsal ["RIGHT_0", "ROT_90"]).fingerprint =
        (rehearsal ["XY_0", "ROT_9e1"]).fingerprint := by
  have equal : ((rehearsal ["RIGHT_0", "ROT_90"]).record ==
      (rehearsal ["XY_0", "ROT_9e1"]).record) = true := by decide +kernel
  obtain ⟨-, -, plain⟩ := texts_of_equal _ _ equal
  exact ⟨equal, (plain (by decide +kernel) (by decide +kernel)).2⟩

/-- A move by nothing to the left is equal to one to the right, but its zero has a minus sign. -/
theorem still_texts_differ :
    (rehearsal ["RIGHT_0"]).Reachable ∧ (rehearsal ["LEFT_0"]).Reachable ∧
      ((rehearsal ["RIGHT_0"]).record == (rehearsal ["LEFT_0"]).record) = true ∧
      Record.codec.compact (rehearsal ["RIGHT_0"]).record ≠
        Record.codec.compact (rehearsal ["LEFT_0"]).record := by
  have equal : ((rehearsal ["RIGHT_0"]).record == (rehearsal ["LEFT_0"]).record) = true := by
    decide +kernel
  refine ⟨reachable_rehearsal _, reachable_rehearsal _, equal, fun same => ?_⟩
  have reals := (Record.writesAlike equal).compact_iff.1 same
  revert reals
  decide +kernel

end Stage

end Playhouse
