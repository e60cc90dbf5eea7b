import Playhouse.Stage.Config

/-!
# Configurations that can be used

`Config.check` lets a configuration pass exactly if it is `Usable` (`Config.check_eq_ok_iff`): the
sizes and the seconds of a tick are positive and finite, an actor fits the canvas, and the offset of
bubbles is finite.
-/

namespace Playhouse

theorem exists_of_bind_eq_ok {ε α β : Type} {x : Except ε α} {f : α → Except ε β} {b : β}
    (found : x >>= f = .ok b) : ∃ a, x = .ok a ∧ f a = .ok b := by
  cases x with
  | error e => cases found
  | ok a => exact ⟨a, rfl, found⟩

theorem eq_ok_of_mapError {ε ε' α : Type} {x : Except ε α} {f : ε → ε'} {a : α}
    (mapped : x.mapError f = .ok a) : x = .ok a := by
  cases x with
  | error e => cases mapped
  | ok b => exact congrArg Except.ok (Except.ok.inj mapped)

/-- A size or a length of time. -/
structure Measure (x : Float) : Prop where
  finite : x.isFinite = true
  pos : 0.0 < x

instance (x : Float) : Decidable (Measure x) :=
  decidable_of_iff (x.isFinite = true ∧ 0.0 < x)
    ⟨fun ⟨finite, pos⟩ => ⟨finite, pos⟩, fun ⟨finite, pos⟩ => ⟨finite, pos⟩⟩

namespace Config

variable {c : Config}

structure Usable (c : Config) : Prop where
  canvasWidth : Measure c.canvasWidth
  canvasHeight : Measure c.canvasHeight
  actorWidth : Measure c.actorWidth
  actorHeight : Measure c.actorHeight
  tickSeconds : Measure c.tickSeconds
  width : ¬ c.canvasWidth < c.actorWidth
  height : ¬ c.canvasHeight < c.actorHeight
  offset : c.bubbleOffset.isFinite = true

instance (c : Config) : Decidable c.Usable :=
  decidable_of_iff
    (((Measure c.canvasWidth ∧ Measure c.canvasHeight) ∧
        (Measure c.actorWidth ∧ Measure c.actorHeight) ∧ Measure c.tickSeconds) ∧
      (¬ c.canvasWidth < c.actorWidth ∧ ¬ c.canvasHeight < c.actorHeight) ∧
      c.bubbleOffset.isFinite = true)
    ⟨fun ⟨⟨⟨w, h⟩, ⟨aw, ah⟩, seconds⟩, ⟨width, height⟩, offset⟩ =>
        ⟨w, h, aw, ah, seconds, width, height, offset⟩,
      fun ⟨w, h, aw, ah, seconds, width, height, offset⟩ =>
        ⟨⟨⟨w, h⟩, ⟨aw, ah⟩, seconds⟩, ⟨width, height⟩, offset⟩⟩

theorem checkPositive_eq_ok_iff {name : String} {value : Float} :
    checkPositive name value = .ok () ↔ Measure value := by
  unfold checkPositive
  constructor
  · intro checked
    split at checked
    · rename_i fine
      obtain ⟨finite, pos⟩ := Bool.and_eq_true_iff.1 fine
      exact ⟨finite, of_decide_eq_true pos⟩
    · cases checked
  · rintro ⟨finite, pos⟩
    rw [if_pos (Bool.and_eq_true_iff.2 ⟨finite, decide_eq_true pos⟩)]

theorem check_eq_ok_iff : c.check = .ok () ↔ c.Usable := by
  unfold check
  constructor
  · intro valid
    obtain ⟨_, canvasWidth, valid⟩ := exists_of_bind_eq_ok valid
    obtain ⟨_, canvasHeight, valid⟩ := exists_of_bind_eq_ok valid
    obtain ⟨_, actorWidth, valid⟩ := exists_of_bind_eq_ok valid
    obtain ⟨_, actorHeight, valid⟩ := exists_of_bind_eq_ok valid
    obtain ⟨_, tickSeconds, valid⟩ := exists_of_bind_eq_ok valid
    by_cases small : (decide (c.canvasWidth < c.actorWidth) ||
        decide (c.canvasHeight < c.actorHeight)) = true
    · rw [if_pos small] at valid
      cases valid
    rw [if_neg small] at valid
    by_cases odd : (!c.bubbleOffset.isFinite) = true
    · rw [if_pos odd] at valid
      cases valid
    simp only [Bool.or_eq_true, decide_eq_true_eq, not_or] at small
    exact ⟨checkPositive_eq_ok_iff.1 canvasWidth, checkPositive_eq_ok_iff.1 canvasHeight,
      checkPositive_eq_ok_iff.1 actorWidth, checkPositive_eq_ok_iff.1 actorHeight,
      checkPositive_eq_ok_iff.1 tickSeconds, small.1, small.2, by simpa using odd⟩
  · intro usable
    rw [checkPositive_eq_ok_iff.2 usable.canvasWidth, checkPositive_eq_ok_iff.2 usable.canvasHeight,
      checkPositive_eq_ok_iff.2 usable.actorWidth, checkPositive_eq_ok_iff.2 usable.actorHeight,
      checkPositive_eq_ok_iff.2 usable.tickSeconds]
    have fits : ¬ (decide (c.canvasWidth < c.actorWidth) ||
        decide (c.canvasHeight < c.actorHeight)) = true := by
      simp only [Bool.or_eq_true, decide_eq_true_eq, not_or]
      exact ⟨usable.width, usable.height⟩
    simp [bind, Except.bind, fits, usable.offset, pure, Except.pure]

end Config

end Playhouse
