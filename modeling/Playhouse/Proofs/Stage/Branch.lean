import Playhouse.Proofs.Stage.Sound

/-!
# Branches

`Stage.core` is all of a stage but its diagnostics. Stages with the same core answer every sequence
of actions with the same replies and fingerprints, and their cores stay the same
(`performAll_congr`); after the next tick their diagnostics are the same as well (`tick_congr`).

A branch that goes on from a snapshot has the same core as the stage on which it was captured, once
both have been started (`core_start_toStage`). So it goes on as the stage does
(`restored_branch_converges`).
-/

namespace Playhouse

namespace Stage

/-- All of a stage but its diagnostics. -/
def core (s : Stage) : Stage :=
  { s with diagnostics := .none }

/-- Does actions one after the other. Each one leaves its reply and the fingerprint after it. -/
def performAll (s : Stage) : List Action → Option (Stage × List (Reply × String))
  | [] => some (s, [])
  | action :: later => do
    let (t, reply) ← s.perform action
    let (final, log) ← t.performAll later
    pure (final, (reply, t.fingerprint) :: log)

/-- The same core and, once a tick is played, the same diagnostics. -/
structure Agree (s t : Stage) : Prop where
  core_eq : s.core = t.core
  tick_eq : s.running = true → s.tick = t.tick

variable {s t : Stage}

theorem eq_of_core_eq (same : s.core = t.core) : t = { s with diagnostics := t.diagnostics } := by
  obtain ⟨config, offset, world, random, ticks, running, diagnostics⟩ := s
  obtain ⟨config', offset', world', random', ticks', running', diagnostics'⟩ := t
  cases same
  rfl

theorem running_eq_of_core_eq (same : s.core = t.core) : s.running = t.running := by
  rw [eq_of_core_eq same]

theorem tick_congr (same : s.core = t.core) (running : s.running = true) : s.tick = t.tick := by
  rw [eq_of_core_eq same]
  simp only [tick, running, if_true, time]

theorem agree_of_core_eq (same : s.core = t.core) : s.Agree t :=
  ⟨same, tick_congr same⟩

theorem core_tick (same : s.core = t.core) :
    s.tick.1.core = t.tick.1.core ∧ s.tick.2 = t.tick.2 := by
  cases playing : s.running with
  | true =>
    rw [tick_congr same playing]
    exact ⟨rfl, rfl⟩
  | false =>
    have stopped : t.running = false := (running_eq_of_core_eq same).symm.trans playing
    rw [tick, tick, playing, stopped]
    exact ⟨same, rfl⟩

theorem core_playTicks (same : s.core = t.core) (n : Nat) :
    (s.playTicks n).core = (t.playTicks n).core := by
  induction n generalizing s t with
  | zero => exact same
  | succ n ih => exact ih (core_tick same).1

/-- Diagnostics have no influence on what an action does and answers. -/
theorem perform_congr (same : s.core = t.core) (action : Action) :
    Option.Rel (fun p q => p.1.core = q.1.core ∧ p.2 = q.2) (s.perform action)
      (t.perform action) := by
  have equal := eq_of_core_eq same
  generalize t.diagnostics = d at equal
  cases action with
  | addActor =>
    subst equal
    simp only [perform, addActor, Option.bind_eq_bind]
    cases s.random.upTo s.world.scene.bounds.maxX with
    | none => exact .none
    | some drawn =>
      obtain ⟨x, random⟩ := drawn
      simp only [Option.bind_some]
      cases random.upTo s.world.scene.bounds.maxY with
      | none => exact .none
      | some drawn => exact .some ⟨rfl, rfl⟩
  | addActorAt x y | addDefaultActors | setProgram id tokens | install id program | reset =>
    subst equal
    exact .some ⟨rfl, rfl⟩
  | place id x y =>
    subst equal
    obtain ⟨config, offset, world, random, ticks, running, diagnostics⟩ := s
    simp only [perform, place]
    cases running with
    | true => exact .some ⟨rfl, rfl⟩
    | false =>
      cases found : world.scene.place? id x y with
      | error e => simp [bind, Except.bind, core]
      | ok scene => simp [bind, Except.bind, pure, Except.pure, core]
  | start | stop =>
    subst equal
    refine .some ⟨?_, rfl⟩
    cases running : s.running <;> simp [start, stop, running, core, time]
  | tick => exact .some ⟨(core_tick same).1, congrArg Reply.report (core_tick same).2⟩
  | run ticks =>
    have running : s.running = t.running := running_eq_of_core_eq same
    suffices ran : (s.run ticks).1.core = (t.run ticks).1.core ∧
        (s.run ticks).2 = (t.run ticks).2 from
      .some ⟨ran.1, congrArg Reply.played ran.2⟩
    rw [run, run, ← running]
    split
    · exact ⟨core_playTicks same ticks, rfl⟩
    · exact ⟨same, rfl⟩
  | restore snapshot =>
    simp only [perform, restore]
    cases ofSnapshot snapshot with
    | ok restored => exact .some ⟨rfl, rfl⟩
    | error e => exact .some ⟨same, rfl⟩

/-- What follows related results is related. -/
theorem rel_bind {α α' β β' : Type} {R : α → α' → Prop} {S : β → β' → Prop} {x : Option α}
    {x' : Option α'} {f : α → Option β} {f' : α' → Option β'} (first : Option.Rel R x x')
    (second : ∀ a a', R a a' → Option.Rel S (f a) (f' a')) :
    Option.Rel S (x.bind f) (x'.bind f') := by
  cases first with
  | none => exact .none
  | some related => exact second _ _ related

theorem fingerprint_congr (same : s.core = t.core) : s.fingerprint = t.fingerprint := by
  rw [eq_of_core_eq same]
  rfl

/-- Stages with the same core go on in the same way. -/
theorem performAll_congr (same : s.core = t.core) (actions : List Action) :
    Option.Rel (fun p q => p.1.Agree q.1 ∧ p.2 = q.2) (s.performAll actions)
      (t.performAll actions) := by
  induction actions generalizing s t with
  | nil => exact .some ⟨agree_of_core_eq same, rfl⟩
  | cons action later ih =>
    refine rel_bind (perform_congr same action) fun p q ⟨next, reply⟩ => ?_
    refine rel_bind (ih next) fun left right ⟨agree, rest⟩ => .some ⟨agree, ?_⟩
    change (p.2, p.1.fingerprint) :: _ = (q.2, q.1.fingerprint) :: _
    rw [reply, fingerprint_congr next, rest]

/-! ## Restored branches -/

/-- Whatever the stage did on which the snapshot was captured, a start brings it and the restored
stage to the same point. -/
theorem core_start_toStage (sound : s.Sound) : s.record.toStage.start.core = s.start.core := by
  rw [sound.start_eq, sound.restored.start_eq]
  simp only [core, Record.toStage, record, sound.offset_eq]
  rfl

/-- A branch that goes on from a snapshot goes on as the stage on which it was captured. -/
theorem restored_branch_converges (reachable : s.Reachable) (t : Stage) :
    ∃ branch, t.restore s.capture = (branch, none) ∧ branch.start.Agree s.start ∧
      ∀ actions, Option.Rel (fun p q => p.1.Agree q.1 ∧ p.2 = q.2)
        (branch.start.performAll actions) (s.start.performAll actions) := by
  have sound := reachable.sound
  have same := core_start_toStage sound
  exact ⟨s.record.toStage, restore_capture t sound.valid, agree_of_core_eq same,
    performAll_congr same⟩

theorem restored_branch_converges_greeting :
    greeting.Reachable ∧
      ∃ branch, (fresh .default).restore greeting.capture = (branch, none) ∧
        branch.start.Agree greeting.start ∧
        ∀ actions, Option.Rel (fun p q => p.1.Agree q.1 ∧ p.2 = q.2)
          (branch.start.performAll actions) (greeting.start.performAll actions) :=
  ⟨reachable_greeting, restored_branch_converges reachable_greeting (fresh .default)⟩

end Stage

end Playhouse
