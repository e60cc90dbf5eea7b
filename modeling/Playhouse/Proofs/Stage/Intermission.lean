import Playhouse.Proofs.Stage.Branch

/-!
# Intermissions

An `Intermission` is what may be done to a running stage without playing it: it is stopped, and
started again in the end, and in between it is stopped and started and told to play while it is
stopped. Nothing is lost in an intermission, whatever the time: the stage is what it was before
(`Sound.start_stop`, `intermission_loses_nothing`).

So a course of actions may be interrupted by intermissions anywhere, even in the middle of a run
(`Interrupted`). The ticks that are played have the same reports, and the stage ends as it would
have done.
-/

namespace Playhouse

/-- The answer to an action that has played nothing. -/
def Reply.Quiet : Reply → Prop
  | .done => True
  | .report r => r = ∅
  | .played n => n = 0
  | _ => False

/-- Snapshots are restored only if they were captured on reachable stages. -/
def Action.Genuine (action : Action) : Prop :=
  ∀ snapshot, action = .restore snapshot →
    ∃ source : Stage, source.Reachable ∧ snapshot = source.capture

namespace Stage

/-! ## Courses -/

/-- The reports of the next `n` ticks. -/
def reports (s : Stage) : Nat → List Report
  | 0 => []
  | n + 1 => s.tick.2 :: s.tick.1.reports n

/-- The reports of the ticks that an action plays. -/
def playedBy (s : Stage) : Action → List Report
  | .tick => if s.running then s.reports 1 else []
  | .run n => if s.running then s.reports n else []
  | _ => []

/-- Does actions one after the other and collects the reports of the ticks that are played. -/
def course (s : Stage) : List Action → Option (Stage × List Report)
  | [] => some (s, [])
  | action :: later => do
    let (t, _) ← s.perform action
    let (final, reports) ← t.course later
    pure (final, s.playedBy action ++ reports)

/-- The actions lead from one stage to the other, and nothing is played. -/
def Uneventful (s : Stage) (actions : List Action) (t : Stage) : Prop :=
  ∃ log, s.performAll actions = some (t, log) ∧ ∀ entry ∈ log, entry.1.Quiet

/-- Stops, starts, and ticks and runs that are asked for while the stage is stopped. -/
inductive Rests : Stage → List Action → Prop where
  | nil {s : Stage} : Rests s []
  | start {s : Stage} {later : List Action} (rest : Rests s.start later) :
      Rests s (.start :: later)
  | stop {s : Stage} {later : List Action} (rest : Rests s.stop later) : Rests s (.stop :: later)
  | tick {s : Stage} {later : List Action} (stopped : s.running = false)
      (rest : Rests s.tick.1 later) : Rests s (.tick :: later)
  | run {s : Stage} {n : Nat} {later : List Action} (stopped : s.running = false)
      (rest : Rests (s.run n).1 later) : Rests s (.run n :: later)

/-- A rest between a stop and a start. -/
inductive Intermission (s : Stage) : List Action → Prop where
  | mk {middle : List Action} (rests : Rests s.stop middle) :
      Intermission s (.stop :: (middle ++ [.start]))

/-- `broken` is `plain` with intermissions, on a stage that goes through `broken`. A run may be
played in two parts. -/
inductive Interrupted : Stage → List Action → List Action → Prop where
  | nil {s : Stage} : Interrupted s [] []
  | act {s : Stage} {action : Action} {plain broken : List Action} (genuine : action.Genuine)
      (rest : ∀ t reply, s.perform action = some (t, reply) → Interrupted t plain broken) :
      Interrupted s (action :: plain) (action :: broken)
  | pause {s : Stage} {pause plain broken : List Action} (running : s.running = true)
      (intermission : s.Intermission pause)
      (rest : ∀ t log, s.performAll pause = some (t, log) → Interrupted t plain broken) :
      Interrupted s plain (pause ++ broken)
  | split {s : Stage} {m n : Nat} {plain broken : List Action}
      (rest : Interrupted s (.run m :: .run n :: plain) broken) :
      Interrupted s (.run (m + n) :: plain) broken

variable {s t u : Stage}

/-! ## A stop and a start -/

theorem perform_tick_of_stopped (stopped : s.running = false) :
    s.perform .tick = some (s, .report ∅) := by
  rw [perform, tick_of_stopped stopped]

theorem perform_run_of_stopped (stopped : s.running = false) (n : Nat) :
    s.perform (.run n) = some (s, .played 0) := by
  rw [perform, run_of_stopped stopped]

theorem playedBy_of_stopped (stopped : s.running = false) (action : Action) :
    s.playedBy action = [] := by
  cases action with
  | tick | run n =>
    rw [playedBy, stopped]
    rfl
  | _ => rfl

/-- The suspension begins and ends at the same time, so no deadline moves. -/
theorem Sound.start_stop (sound : s.Sound) (running : s.running = true) : s.stop.start = s := by
  have free := sound.suspendedAt_eq_none running
  rw [(Sound.stop sound).start_eq, Stage.stop, if_pos running]
  obtain ⟨config, offset, ⟨scene, ⟨live, paused, suspendedAt⟩⟩, random, ticks, _, diagnostics⟩ := s
  cases running
  cases free
  rfl

/-- A start ends an intermission wherever it comes. -/
theorem Sound.start_eq_of_either (sound : s.Sound) (running : s.running = true)
    (either : u = s ∨ u = s.stop) : u.start = s := by
  rcases either with rfl | rfl
  · exact start_of_running running
  · exact sound.start_stop running

theorem stop_eq_of_either (either : u = s ∨ u = s.stop) : u.stop = s.stop := by
  rcases either with rfl | rfl
  · rfl
  · exact stop_of_stopped (running_stop s)

/-! ## Intermissions -/

theorem uneventful_nil (s : Stage) : s.Uneventful [] s :=
  ⟨[], rfl, nofun⟩

theorem Uneventful.cons {action : Action} {reply : Reply} {later : List Action}
    (rest : t.Uneventful later u) (done : s.perform action = some (t, reply))
    (quiet : reply.Quiet) : s.Uneventful (action :: later) u := by
  obtain ⟨log, played, all⟩ := rest
  refine ⟨(reply, t.fingerprint) :: log, ?_, List.forall_mem_cons.2 ⟨quiet, all⟩⟩
  simp only [performAll, done, Option.bind_eq_bind, Option.bind_some, played]
  rfl

theorem course_cons_eq_some_iff {action : Action} {later : List Action} {reports : List Report} :
    s.course (action :: later) = some (u, reports) ↔
      ∃ t reply rest, s.perform action = some (t, reply) ∧ t.course later = some (u, rest) ∧
        reports = s.playedBy action ++ rest := by
  simp only [course, Option.bind_eq_bind, Option.bind_eq_some_iff]
  constructor
  · rintro ⟨⟨t, reply⟩, done, ⟨_, rest⟩, remaining, same⟩
    cases same
    exact ⟨t, reply, rest, done, remaining, rfl⟩
  · rintro ⟨t, reply, rest, done, remaining, rfl⟩
    exact ⟨(t, reply), done, (u, rest), remaining, rfl⟩

/-- An action that plays nothing leaves no trace in a course. -/
theorem course_cons {action : Action} {reply : Reply} {later : List Action}
    (done : s.perform action = some (t, reply)) (played : s.playedBy action = []) :
    s.course (action :: later) = t.course later := by
  rw [course, done, played]
  simp only [Option.bind_eq_bind, Option.bind_some, List.nil_append]
  exact Option.bind_fun_some _

section Rests

variable {middle later : List Action}

/-- During a rest the stage is as before or as after the stop, so a start brings it back. -/
theorem Rests.uneventful (rests : Rests u middle) (sound : s.Sound) (running : s.running = true)
    (either : u = s ∨ u = s.stop) : u.Uneventful (middle ++ [.start]) s := by
  induction rests with
  | nil =>
    rw [← sound.start_eq_of_either running either]
    exact (uneventful_nil _).cons rfl trivial
  | start _ ih => exact (ih (.inl (sound.start_eq_of_either running either))).cons rfl trivial
  | stop _ ih => exact (ih (.inr (stop_eq_of_either either))).cons rfl trivial
  | tick stopped _ ih =>
    rw [tick_of_stopped stopped] at ih
    exact (ih either).cons (perform_tick_of_stopped stopped) rfl
  | run stopped _ ih =>
    rw [run_of_stopped stopped] at ih
    exact (ih either).cons (perform_run_of_stopped stopped _) rfl

/-- Nothing is played in a rest, so the course goes on from where it was. -/
theorem Rests.course_append (rests : Rests u middle) (sound : s.Sound) (running : s.running = true)
    (either : u = s ∨ u = s.stop) : u.course (middle ++ .start :: later) = s.course later := by
  induction rests with
  | nil =>
    rw [← sound.start_eq_of_either running either]
    exact course_cons rfl rfl
  | start _ ih =>
    exact (course_cons rfl rfl).trans (ih (.inl (sound.start_eq_of_either running either)))
  | stop _ ih => exact (course_cons rfl rfl).trans (ih (.inr (stop_eq_of_either either)))
  | tick stopped _ ih =>
    rw [tick_of_stopped stopped] at ih
    exact (course_cons (perform_tick_of_stopped stopped) (playedBy_of_stopped stopped _)).trans
      (ih either)
  | run stopped _ ih =>
    rw [run_of_stopped stopped] at ih
    exact (course_cons (perform_run_of_stopped stopped _) (playedBy_of_stopped stopped _)).trans
      (ih either)

end Rests

theorem Intermission.uneventful {pause : List Action} (intermission : s.Intermission pause)
    (sound : s.Sound) (running : s.running = true) : s.Uneventful pause s := by
  obtain ⟨rests⟩ := intermission
  exact (rests.uneventful sound running (.inr rfl)).cons rfl trivial

theorem Intermission.course_append {pause later : List Action}
    (intermission : s.Intermission pause) (sound : s.Sound) (running : s.running = true) :
    s.course (pause ++ later) = s.course later := by
  obtain ⟨rests⟩ := intermission
  rw [List.cons_append, List.append_assoc]
  exact (course_cons rfl rfl).trans (rests.course_append sound running (.inr rfl))

/-! ## Runs in two parts -/

theorem playTicks_add (s : Stage) (m n : Nat) :
    s.playTicks (m + n) = (s.playTicks m).playTicks n := by
  induction m generalizing s with
  | zero => rw [Nat.zero_add, playTicks]
  | succ m ih => rw [Nat.succ_add, playTicks, playTicks, ih]

theorem reports_add (s : Stage) (m n : Nat) :
    s.reports (m + n) = s.reports m ++ (s.playTicks m).reports n := by
  induction m generalizing s with
  | zero => rw [Nat.zero_add, reports, playTicks, List.nil_append]
  | succ m ih => rw [Nat.succ_add, reports, reports, playTicks, ih, List.cons_append]

theorem course_run_add (s : Stage) (m n : Nat) (later : List Action) :
    s.course (.run m :: .run n :: later) = s.course (.run (m + n) :: later) := by
  cases running : s.running with
  | false =>
    have rests : ∀ n later, s.course (.run n :: later) = s.course later := fun n later =>
      course_cons (perform_run_of_stopped running n) (playedBy_of_stopped running _)
    rw [rests, rests, rests]
  | true =>
    have still : (s.playTicks m).running = true := (running_playTicks s m).trans running
    simp only [course, perform, run, playedBy, running, still, if_true, Option.bind_eq_bind,
      Option.bind_some, playTicks_add, reports_add]
    cases ((s.playTicks m).playTicks n).course later with
    | none => rfl
    | some final => simp [pure]

/-! ## Interrupted courses -/

theorem Reachable.perform_genuine {action : Action} {reply : Reply} (reachable : s.Reachable)
    (genuine : action.Genuine) (done : s.perform action = some (t, reply)) : t.Reachable := by
  cases action with
  | restore snapshot =>
    obtain ⟨source, captured, rfl⟩ := genuine snapshot rfl
    obtain ⟨answer, restored⟩ := exists_perform_restore s source.capture
    cases restored.symm.trans done
    exact .restore reachable captured trivial
  | _ => exact reachable.act _ rfl done

/-- An intermission changes nothing, and neither do any number of them in a course of actions. -/
theorem intermission_loses_nothing (reachable : s.Reachable) :
    (∀ pause, s.running = true → s.Intermission pause → s.Uneventful pause s) ∧
      ∀ plain broken, Interrupted s plain broken → s.course broken = s.course plain := by
  constructor
  · intro pause running intermission
    exact intermission.uneventful reachable.sound running
  · intro plain broken interrupted
    induction interrupted with
    | nil => rfl
    | @act s action plain broken genuine _ ih =>
      rw [course, course]
      cases done : s.perform action with
      | none => rfl
      | some answer =>
        obtain ⟨t, reply⟩ := answer
        simp only [Option.bind_eq_bind, Option.bind_some]
        rw [ih t reply done (reachable.perform_genuine genuine done)]
    | pause running intermission _ ih =>
      obtain ⟨log, played, -⟩ := intermission.uneventful reachable.sound running
      rw [intermission.course_append reachable.sound running]
      exact ih _ log played reachable
    | split _ ih => rw [ih reachable, course_run_add]

/-- An actor is interrupted in its speech, and a run of two ticks between them. -/
theorem intermission_loses_nothing_greeting :
    greeting.Reachable ∧
      greeting.Uneventful [.stop, .tick, .start, .stop, .run 3, .start] greeting ∧
      greeting.course [.run 1, .stop, .tick, .start, .run 1] = greeting.course [.run 2] := by
  have running : greeting.running = true := rfl
  obtain ⟨uneventful, same⟩ := intermission_loses_nothing reachable_greeting
  refine ⟨reachable_greeting, ?_, same [.run 2] _ ?_⟩
  · exact uneventful _ running
      (.mk (.tick (running_stop _) (.start (.stop (.run (running_stop _) .nil)))))
  · refine .split (m := 1) (n := 1) (.act nofun fun t reply done => ?_)
    have still : t.running = true := by
      simp only [perform, run, running, if_true] at done
      cases done
      exact (running_playTicks greeting 1).trans running
    exact .pause still (.mk (.tick (running_stop _) .nil)) fun _ _ _ =>
      .act nofun fun _ _ _ => .nil

end Stage

end Playhouse
