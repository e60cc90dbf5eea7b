import Playhouse.Proofs.Stage.Cast
import Playhouse.Proofs.Stage.Intermission
import Playhouse.Proofs.Tick.Log

/-!
# The log of a stage

Bubbles come and go in ticks, and the reports of the ticks say so. A tick that is asked for while
the stage is stopped is not played, and its report is empty. Nothing else that is done to a stage
takes a bubble or changes one, unless it installs a program, resets or restores the stage. In
particular a start moves no deadline, since no time passes while a stage is stopped.

So the bubble events of a course of actions log what becomes of the bubbles (`bubbles_logged`).
-/

namespace Playhouse

/-- What becomes of the bubbles is in the reports. -/
def Action.logged : Action → Bool
  | .setProgram .. | .install .. | .reset | .restore _ => false
  | _ => true

/-- All bubble events of some reports. -/
def bubbleEvents (reports : List Report) : List BubbleEvent :=
  reports.flatMap (·.bubbleEvents)

namespace Stage

variable {s t : Stage} {action : Action} {reply : Reply}

theorem Sound.live_start (sound : s.Sound) :
    s.start.world.bubbles.live = s.world.bubbles.live := by
  rw [sound.start_eq]

theorem live_stop (s : Stage) : s.stop.world.bubbles.live = s.world.bubbles.live := by
  unfold stop
  split <;> rfl

/-- Setting the scene leaves the bubbles alone, and so do starts and stops. -/
theorem live_perform (sound : s.Sound) (logged : action.logged = true)
    (edit : action.edits = true) (done : s.perform action = some (t, reply)) :
    t.world.bubbles.live = s.world.bubbles.live := by
  cases action with
  | addActor =>
    obtain ⟨x, y, _, random, -, -, rfl⟩ := perform_addActor done
    rfl
  | addActorAt _ _ | addDefaultActors =>
    cases done
    rfl
  | place id x y =>
    simp only [perform] at done
    split at done
    · rename_i found
      cases done
      obtain ⟨-, -, rfl⟩ := place_eq_ok_iff.1 found
      rfl
    · cases done
      rfl
  | start =>
    cases done
    exact sound.live_start
  | stop =>
    cases done
    exact live_stop s
  | tick | run _ => cases edit
  | setProgram _ _ | install _ _ | reset | restore _ => cases logged

theorem logs_tick (reachable : s.Reachable) :
    Logs s.world.bubbles.live s.tick.2.bubbleEvents s.tick.1.world.bubbles.live := by
  cases running : s.running with
  | false =>
    rw [tick_of_stopped running]
    exact .nil _
  | true =>
    obtain ⟨world, report⟩ := tick_eq running
    rw [world, report]
    exact World.logs_tick reachable.wellCast.fits s.offset s.time

theorem logs_playTicks (reachable : s.Reachable) (n : Nat) :
    Logs s.world.bubbles.live (bubbleEvents (s.reports n)) (s.playTicks n).world.bubbles.live := by
  induction n generalizing s with
  | zero => exact .nil _
  | succ n ih => exact (logs_tick reachable).append (ih (reachable.act .tick rfl rfl))

/-- One action. -/
theorem logs_perform (reachable : s.Reachable) (logged : action.logged = true)
    (done : s.perform action = some (t, reply)) :
    Logs s.world.bubbles.live (bubbleEvents (s.playedBy action)) t.world.bubbles.live := by
  cases action with
  | tick =>
    obtain rfl : s.tick.1 = t := congrArg Prod.fst (Option.some.inj done)
    simp only [playedBy]
    split
    · exact logs_playTicks reachable 1
    · rename_i stopped
      rw [tick_of_stopped (Bool.eq_false_iff.2 stopped)]
      exact .nil _
  | run n =>
    obtain rfl : (s.run n).1 = t := congrArg Prod.fst (Option.some.inj done)
    simp only [playedBy, run]
    split
    · exact logs_playTicks reachable n
    · exact .nil _
  | restore snapshot => cases logged
  | _ =>
    rw [live_perform reachable.sound logged rfl done]
    exact .nil _

/-- Whoever applies the bubble events of a course to the bubbles that there were has the bubbles
that there are in the end, deadlines included. No event is missing and none is out of place: only
bubbles that there are go, and none appears where there is another. -/
theorem bubbles_logged (reachable : s.Reachable) {actions : List Action} {reports : List Report}
    (logged : ∀ action ∈ actions, action.logged = true)
    (course : s.course actions = some (t, reports)) :
    Logs s.world.bubbles.live (bubbleEvents reports) t.world.bubbles.live := by
  induction actions generalizing s reports with
  | nil =>
    cases course
    exact .nil _
  | cons action later ih =>
    obtain ⟨first, others⟩ := List.forall_mem_cons.1 logged
    obtain ⟨next, reply, rest, done, remaining, rfl⟩ := course_cons_eq_some_iff.1 course
    have own : action.restores = false := by
      cases action <;> first | rfl | cases first
    rw [bubbleEvents, List.flatMap_append]
    exact (logs_perform reachable first done).append
      (ih (reachable.act action own done) others remaining)

/-- The actor of `greeting` with two short speeches and a restart. -/
def recurring : Stage :=
  greeting.install ⟨0⟩ [.speak .say "hello" 0.01, .speak .think "again" 0.01, .restart]

/-- Two bubbles come and go. Between them the stage is stopped, another actor enters and the speaker
is moved. -/
theorem bubbles_logged_recurring :
    recurring.Reachable ∧
      ∃ t reports,
        recurring.course [.run 2, .stop, .tick, .addActorAt 300.0 300.0, .place ⟨0⟩ 50.0 60.0,
          .start, .tick] = some (t, reports) ∧
        (bubbleEvents reports).length = 4 ∧
        Logs recurring.world.bubbles.live (bubbleEvents reports) t.world.bubbles.live := by
  have reachable : recurring.Reachable := reachable_greeting.act (.install ⟨0⟩ _) rfl rfl
  have events : (recurring.course [.run 2, .stop, .tick, .addActorAt 300.0 300.0,
      .place ⟨0⟩ 50.0 60.0, .start, .tick]).map (fun p => (bubbleEvents p.2).length) =
        some 4 := by
    decide +kernel
  obtain ⟨⟨t, reports⟩, course, count⟩ := Option.map_eq_some_iff.1 events
  exact ⟨reachable, t, reports, course, count, bubbles_logged reachable (by decide) course⟩

end Stage

end Playhouse
