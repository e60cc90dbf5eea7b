import Playhouse.Proofs.Json.Writer
import Playhouse.Proofs.Stage.Sound

/-!
# Saved stages

A snapshot brings back what it recorded, but it also suspends the time of bubbles. A stopped stage
has suspended it already, unless it is `Unopened`: it has been neither started nor restored since it
was made or reset (`Reachable.unopened_iff`). So the restored stage has the JSON text and the
fingerprint of the one that was saved exactly if that one was opened (`saved_text`).

An unopened stage is at the time `0.0`, which is what stands for `null` in the text of the stage
that is restored from it.
-/

namespace Playhouse

open Binary64

namespace Action

/-- Begins a performance, or goes back into one. -/
def opens : Action → Bool
  | .start | .restore _ => true
  | _ => false

/-- Is it about actors and their programs only? -/
def sets : Action → Bool
  | .addActor | .addActorAt _ _ | .addDefaultActors | .setProgram _ _ | .install _ _
  | .place _ _ _ => true
  | _ => false

end Action

/-- The text of what is recorded depends on the suspension by the text of the suspension. -/
theorem Record.compact_suspendedAt_iff (r : Record) (a b : Option Float) :
    codec.compact { r with bubbles.suspendedAt := a } =
        codec.compact { r with bubbles.suspendedAt := b } ↔
      ((Codec.optional .float).write a).write .compact 2 [] =
        ((Codec.optional .float).write b).write .compact 2 [] := by
  have record : ∀ since, codec.compact { r with bubbles.suspendedAt := since } =
      String.ofList ((Json.object
        ([("config", Config.codec.write r.config), ("state", Scene.codec.write r.scene)] ++
          ("bubbles", Bubbles.codec.write { r.bubbles with suspendedAt := since }) ::
          [("rng", Random.codec.write r.random), ("tick_counter", .natural r.ticks)])).write
        .compact 0 []) :=
    fun _ => rfl
  have bubbles : ∀ since, Bubbles.codec.write { r.bubbles with suspendedAt := since } =
      .object ([("bubbles", (Codec.idMap Bubble.codec).write r.bubbles.live),
        ("paused", Codec.idSet.write r.bubbles.paused)] ++
          [("suspended_at", (Codec.optional .float).write since)]) :=
    fun _ => rfl
  rw [record, record, String.ofList_inj, Json.write_member_iff, bubbles, bubbles,
    Json.write_member_iff]

/-- The one is written as a number, the other as `null`. -/
theorem Record.compact_suspended_ne (r : Record) :
    codec.compact { r with bubbles.suspendedAt := some 0.0 } ≠
      codec.compact { r with bubbles.suspendedAt := none } := by
  rw [Ne, compact_suspendedAt_iff]
  decide

namespace Stage

/-- Neither started nor restored since it was made or reset. -/
inductive Unopened : Stage → Prop where
  | new {config : Config} {s : Stage} (made : Stage.new config = .ok s) : Unopened s
  | reset {s : Stage} (before : s.Reachable) : Unopened s.reset
  | perform {s t : Stage} {action : Action} {reply : Reply} (before : Unopened s)
      (closed : action.opens = false) (done : s.perform action = some (t, reply)) : Unopened t

/-- Does it run, what time is it, and since when is the time of bubbles suspended? -/
def clock (s : Stage) : Bool × Nat × Option Float :=
  (s.running, s.ticks, s.world.bubbles.suspendedAt)

variable {s t : Stage}

/-! ## Unopened stages -/

/-- Actors and their programs have no influence on the clock. -/
theorem clock_perform {action : Action} {reply : Reply} (sets : action.sets = true)
    (done : s.perform action = some (t, reply)) : t.clock = s.clock := by
  cases action with
  | addActor =>
    obtain ⟨x, y, -, random, -, -, rfl⟩ := perform_addActor done
    rfl
  | addActorAt x y | addDefaultActors | setProgram id tokens | install id program =>
    cases done
    rfl
  | place id x y =>
    simp only [Stage.perform] at done
    split at done
    · rename_i found
      cases done
      obtain ⟨-, -, rfl⟩ := place_eq_ok_iff.1 found
      rfl
    · cases done
      rfl
  | start | stop | tick | run n | reset | restore snapshot => cases sets

theorem Unopened.clock_eq (unopened : s.Unopened) : s.clock = (false, 0, none) := by
  induction unopened with
  | new made =>
    obtain ⟨-, rfl⟩ := new_eq_ok_iff.1 made
    rfl
  | reset _ => rfl
  | @perform s t action reply _ closed done ih =>
    have stopped : s.running = false := congrArg Prod.fst ih
    cases action with
    | start | restore snapshot => cases closed
    | stop =>
      cases done
      rwa [stop_of_stopped stopped]
    | tick =>
      rw [Stage.perform, tick_of_stopped stopped] at done
      cases done
      exact ih
    | run n =>
      rw [Stage.perform, run_of_stopped stopped] at done
      cases done
      exact ih
    | reset =>
      cases done
      rfl
    | _ => exact (clock_perform rfl done).trans ih

/-- A stage that is stopped has suspended the time of bubbles, unless it is unopened. -/
theorem Reachable.unopened (reachable : s.Reachable) (stopped : s.running = false)
    (free : s.world.bubbles.suspendedAt = none) : s.Unopened := by
  induction reachable with
  | new made => exact .new made
  | restore before captured _ _ _ =>
    rw [restore_capture _ captured.sound.valid] at free
    exact absurd (Option.or_eq_none_iff.1 free).2 (Option.some_ne_none _)
  | @perform s t action reply before permitted own done ih =>
    cases action with
    | restore snapshot => cases own
    | start =>
      cases done
      rw [before.sound.start_eq] at stopped
      cases stopped
    | stop =>
      cases done
      cases running : s.running with
      | true =>
        rw [stop, if_pos running] at free
        exact absurd (Option.or_eq_none_iff.1 free).2 (Option.some_ne_none _)
      | false =>
        rw [stop_of_stopped running] at free ⊢
        exact ih running free
    | tick =>
      have ticked : s.tick.1 = t := congrArg Prod.fst (Option.some.inj done)
      rw [← ticked] at stopped free ⊢
      rw [running_tick] at stopped
      rw [tick_of_stopped stopped] at free ⊢
      exact ih stopped free
    | run n =>
      have ran : (s.run n).1 = t := congrArg Prod.fst (Option.some.inj done)
      rw [← ran] at stopped free ⊢
      rw [running_run] at stopped
      rw [run_of_stopped stopped] at free ⊢
      exact ih stopped free
    | reset =>
      cases done
      exact .reset before
    | _ =>
      have same := clock_perform rfl done
      have running : t.running = s.running := congrArg Prod.fst same
      have suspended : t.world.bubbles.suspendedAt = s.world.bubbles.suspendedAt :=
        congrArg (·.2.2) same
      exact .perform (ih (running ▸ stopped) (suspended ▸ free)) rfl done

theorem Reachable.unopened_iff (reachable : s.Reachable) (stopped : s.running = false) :
    s.Unopened ↔ s.world.bubbles.suspendedAt = none :=
  ⟨fun unopened => congrArg (·.2.2) unopened.clock_eq, reachable.unopened stopped⟩

/-! ## What is restored -/

theorem time_of_ticks_eq_zero (sound : s.Sound) (zero : s.ticks = 0) : s.time = 0.0 := by
  rw [time, zero]
  exact zero_mul_of_pos sound.usable.tickSeconds.finite sound.usable.tickSeconds.pos

/-- The time of bubbles is suspended, and nothing else has changed. -/
theorem record_toStage (s : Stage) :
    s.record.toStage.record =
      { s.record with
        bubbles.suspendedAt := s.world.bubbles.suspendedAt.or (some s.time) } :=
  rfl

/-! ## Saved stages -/

/-- A stage that has been opened is brought back to the last character of its text. One that has not
been comes back with the time of its bubbles suspended, and nothing else has changed. -/
theorem saved_text (reachable : s.Reachable) (stopped : s.running = false) (t : Stage) :
    ∃ restored, t.restore s.capture = (restored, none) ∧
      (¬ s.Unopened → Record.codec.compact restored.record = Record.codec.compact s.record ∧
        restored.fingerprint = s.capture.hash) ∧
      (s.Unopened → restored.record = { s.record with bubbles.suspendedAt := some 0.0 } ∧
        Record.codec.compact restored.record ≠ Record.codec.compact s.record) := by
  have sound := reachable.sound
  refine ⟨s.record.toStage, restore_capture t sound.valid, ?_, ?_⟩
  · intro opened
    have same : s.record.toStage.record = s.record := by
      rw [record_toStage]
      cases suspended : s.world.bubbles.suspendedAt with
      | none => exact absurd ((reachable.unopened_iff stopped).2 suspended) opened
      | some since =>
        rw [Option.some_or, ← suspended]
        rfl
    exact ⟨congrArg _ same, congrArg Record.fingerprint same⟩
  · intro unopened
    have free : s.world.bubbles.suspendedAt = none := congrArg (·.2.2) unopened.clock_eq
    have zero : s.time = 0.0 := time_of_ticks_eq_zero sound (congrArg (·.2.1) unopened.clock_eq)
    have restored : s.record.toStage.record =
        { s.record with bubbles.suspendedAt := some 0.0 } := by
      rw [record_toStage, free, zero]
      rfl
    have before : s.record = { s.record with bubbles.suspendedAt := none } := by
      rw [← free]
      rfl
    refine ⟨restored, ?_⟩
    rw [restored, before]
    exact s.record.compact_suspended_ne

/-- An actor is saved in the middle of its speech. -/
theorem saved_text_greeting :
    greeting.stop.Reachable ∧ greeting.stop.running = false ∧
      ∃ restored, (fresh .default).restore greeting.stop.capture = (restored, none) ∧
        Record.codec.compact restored.record = Record.codec.compact greeting.stop.record ∧
        restored.fingerprint = greeting.stop.capture.hash := by
  have reachable : greeting.stop.Reachable := reachable_greeting.act .stop rfl rfl
  have stopped := running_stop greeting
  have opened : ¬ greeting.stop.Unopened := by
    intro unopened
    have ticks : greeting.stop.ticks = 0 := congrArg (·.2.1) unopened.clock_eq
    exact Nat.one_ne_zero ticks
  obtain ⟨restored, done, same, -⟩ := saved_text reachable stopped (fresh .default)
  exact ⟨reachable, stopped, restored, done, same opened⟩

/-- A new stage is not brought back as it was: its bubbles have not been suspended. -/
theorem fresh_text_changes :
    (fresh .default).Reachable ∧ (fresh .default).running = false ∧
      ∃ restored, (fresh .default).restore (fresh .default).capture = (restored, none) ∧
        Record.codec.compact restored.record ≠ Record.codec.compact (fresh .default).record := by
  have reachable : (fresh .default).Reachable := reachable_fresh rfl
  refine ⟨reachable, rfl, (fresh .default).record.toStage, restore_capture _ rfl, ?_⟩
  have zero : (fresh .default).time = 0.0 := time_of_ticks_eq_zero reachable.sound rfl
  rw [record_toStage, zero]
  exact (fresh .default).record.compact_suspended_ne

end Stage

end Playhouse
