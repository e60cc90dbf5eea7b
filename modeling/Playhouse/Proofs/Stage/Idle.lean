import Playhouse.Proofs.Stage.Cast
import Playhouse.Proofs.Stage.Intermission
import Playhouse.Proofs.Stage.Quiet

/-!
# Stages on which everybody is idle

Once all actors of a stage are at the end of their programs, it may be played, stopped and started
for as long as anybody likes: every report is quiet, and nothing changes but that whoever was held
is released (`all_idle_stays`).

`Scene.allIdle` looks at cursors only. What is needed besides is that no bubble is left whose end
could move a cursor. On a reachable stage whoever has a bubble is at a block of its program, so on
one where everybody is idle there is none (`ReachableBy.idle`).
-/

namespace Playhouse

/-- Starts, stops or plays. -/
def Action.conducts : Action → Bool
  | .start | .stop | .tick | .run _ => true
  | _ => false

theorem Scene.allIdle_iff {s : Scene} :
    s.allIdle = true ↔ ∀ id, s.actors.contains id = true →
      ∀ cursor, s.cursors.get? id = some cursor → cursor.isIdle = true := by
  unfold allIdle
  rw [List.all_eq_true]
  constructor
  · intro idle id present cursor found
    have own := idle id (IdMap.mem_keys_iff.2 present)
    simpa only [found] using own
  · intro idle id mem
    cases found : s.cursors.get? id with
    | none => rfl
    | some cursor => exact idle id (IdMap.mem_keys_iff.1 mem) cursor found

/-! ## Worlds in which nothing happens any more -/

namespace World

variable {w v : World} {offset now : Float} {id : ActorId}

/-- All actors are at the end of their programs, and there are no bubbles. -/
structure Idle (w : World) : Prop where
  ended : w.scene.allIdle = true
  silent : w.bubbles.live = ∅

/-- `v` is `w`, but for holds that have been released and time that has been suspended or not. -/
structure Stays (w v : World) : Prop where
  scene_eq : v.scene = w.scene ∨ v.scene = { w.scene with held := ∅ }
  live_eq : v.bubbles.live = w.bubbles.live
  paused_eq : v.bubbles.paused = w.bubbles.paused

theorem Idle.expired_eq_nil (idle : w.Idle) (now : Float) : w.bubbles.expired now = [] := by
  rw [List.eq_nil_iff_forall_not_mem]
  intro id mem
  obtain ⟨-, bubble, live, -⟩ := Bubbles.mem_expired_iff.1 mem
  rw [idle.silent] at live
  cases live

theorem Idle.acts_eq_nil (idle : w.Idle) (offset now : Float) : w.acts offset now = [] := by
  rw [List.eq_nil_iff_forall_not_mem]
  intro a mem
  obtain ⟨actor, cursor, program, block, ready, -⟩ := actOf_eq_some_iff.1 (mem_acts_iff.1 mem)
  have present : w.scene.actors.contains a.turn = true :=
    Option.isSome_iff_exists.2 ⟨actor, ready.actor_eq⟩
  have atEnd := Scene.allIdle_iff.1 idle.ended a.turn present cursor ready.cursor_eq
  rw [ready.not_idle] at atEnd
  cases atEnd

/-- Whatever the time, a tick passes without an event. -/
theorem Idle.isQuiet_tick (idle : w.Idle) (offset now : Float) :
    (w.tick offset now).2.isQuiet = true := by
  have none := idle.expired_eq_nil now
  refine isQuiet_tick_iff.2 ⟨none, ?_⟩
  rw [awake_of_none_expired none]
  exact idle.acts_eq_nil offset now

theorem Stays.refl (w : World) : w.Stays w :=
  ⟨.inl rfl, rfl, rfl⟩

theorem Stays.idle (stays : w.Stays v) (idle : w.Idle) : v.Idle where
  ended := by
    rcases stays.scene_eq with same | same
    · rw [same]
      exact idle.ended
    · rw [same]
      exact idle.ended
  silent := stays.live_eq.trans idle.silent

theorem Stays.released (stays : w.Stays v) : w.Stays v.released where
  scene_eq := by
    refine .inr ?_
    rcases stays.scene_eq with same | same
    · rw [World.released, same]
    · rw [World.released, same]
  live_eq := stays.live_eq
  paused_eq := stays.paused_eq

/-- One tick. -/
theorem Stays.tick (stays : w.Stays v) (idle : w.Idle) (offset now : Float) :
    (v.tick offset now).2.isQuiet = true ∧ w.Stays (v.tick offset now).1 := by
  have quiet := (stays.idle idle).isQuiet_tick offset now
  refine ⟨quiet, ?_⟩
  rw [tick_of_isQuiet_eq quiet]
  exact stays.released

/-- Any number of ticks, at any times. -/
theorem Stays.ticks (stays : w.Stays v) (idle : w.Idle) (offset : Float) (times : List Float) :
    ∀ played ∈ v.ticks offset times, played.2.isQuiet = true ∧ w.Stays played.1 := by
  induction times generalizing v with
  | nil => exact nofun
  | cons now later ih =>
    have step := stays.tick idle offset now
    exact List.forall_mem_cons.2 ⟨step, ih step.2⟩

/-- No deadline moves if there is none. -/
theorem Stays.resume (stays : w.Stays v) (silent : w.bubbles.live = ∅) (now : Float) :
    w.Stays { v with bubbles := v.bubbles.resume now } := by
  unfold Bubbles.resume
  cases v.bubbles.suspendedAt with
  | none => exact stays
  | some since =>
    refine ⟨stays.scene_eq, ?_, stays.paused_eq⟩
    have none : v.bubbles.live = ∅ := stays.live_eq.trans silent
    simp only [none, silent]
    rfl

end World

/-! ## Stages on which nothing happens any more -/

namespace Stage

variable {s : Stage} {w : World}

theorem stays_start (stays : w.Stays s.world) (idle : w.Idle) : w.Stays s.start.world := by
  unfold start
  split
  · exact stays
  · exact stays.resume idle.silent s.time

theorem stays_stop (stays : w.Stays s.world) : w.Stays s.stop.world := by
  unfold stop
  split
  · exact ⟨stays.scene_eq, stays.live_eq, stays.paused_eq⟩
  · exact stays

theorem stays_tick (stays : w.Stays s.world) (idle : w.Idle) :
    s.tick.2.isQuiet = true ∧ w.Stays s.tick.1.world := by
  cases running : s.running with
  | false =>
    rw [tick_of_stopped running]
    exact ⟨rfl, stays⟩
  | true =>
    obtain ⟨world, report⟩ := tick_eq running
    rw [world, report]
    exact stays.tick idle s.offset s.time

theorem stays_playTicks (stays : w.Stays s.world) (idle : w.Idle) (n : Nat) :
    (∀ r ∈ s.reports n, r.isQuiet = true) ∧ w.Stays (s.playTicks n).world := by
  induction n generalizing s with
  | zero => exact ⟨nofun, stays⟩
  | succ n ih =>
    obtain ⟨quiet, next⟩ := stays_tick stays idle
    obtain ⟨later, last⟩ := ih next
    exact ⟨List.forall_mem_cons.2 ⟨quiet, later⟩, last⟩

/-- One action. -/
theorem stays_perform (stays : w.Stays s.world) (idle : w.Idle) {action : Action}
    (conducts : action.conducts = true) :
    ∃ t reply, s.perform action = some (t, reply) ∧ (∀ r ∈ s.playedBy action, r.isQuiet = true) ∧
      w.Stays t.world := by
  cases action with
  | start => exact ⟨_, _, rfl, nofun, stays_start stays idle⟩
  | stop => exact ⟨_, _, rfl, nofun, stays_stop stays⟩
  | tick =>
    refine ⟨s.tick.1, .report s.tick.2, rfl, ?_, (stays_tick stays idle).2⟩
    simp only [playedBy]
    split
    · exact (stays_playTicks stays idle 1).1
    · exact List.forall_mem_nil _
  | run n =>
    refine ⟨(s.run n).1, .played (s.run n).2, rfl, ?_, ?_⟩
    · simp only [playedBy]
      split
      · exact (stays_playTicks stays idle n).1
      · exact List.forall_mem_nil _
    · unfold run
      split
      · exact (stays_playTicks stays idle n).2
      · exact stays
  | _ => cases conducts

/-- Any number of actions. -/
theorem stays_course (stays : w.Stays s.world) (idle : w.Idle) {actions : List Action}
    (conducted : ∀ action ∈ actions, action.conducts = true) :
    ∃ t reports, s.course actions = some (t, reports) ∧ (∀ r ∈ reports, r.isQuiet = true) ∧
      w.Stays t.world := by
  induction actions generalizing s with
  | nil => exact ⟨s, [], rfl, nofun, stays⟩
  | cons action later ih =>
    obtain ⟨first, rest⟩ := List.forall_mem_cons.1 conducted
    obtain ⟨next, reply, done, quiet, kept⟩ := stays_perform stays idle first
    obtain ⟨t, reports, course, calm, last⟩ := ih kept rest
    exact ⟨t, s.playedBy action ++ reports,
      course_cons_eq_some_iff.2 ⟨next, reply, reports, done, course, rfl⟩,
      List.forall_mem_append.2 ⟨quiet, calm⟩, last⟩

/-- Whoever has a bubble is not at the end of its program. -/
theorem ReachableBy.idle {legal : Action → Prop} (reachable : ReachableBy legal s)
    (ended : s.world.scene.allIdle = true) : s.world.Idle := by
  refine ⟨ended, IdMap.ext_get? fun id => ?_⟩
  cases live : s.world.bubbles.live.get? id with
  | none => rfl
  | some bubble =>
    obtain ⟨actor, cursor, program, seconds, stands⟩ :=
      (reachable.wellCast.fits id).speaks bubble live
    have present : s.world.scene.actors.contains id = true :=
      Option.isSome_iff_exists.2 ⟨actor, stands.actor_eq⟩
    have atEnd := Scene.allIdle_iff.1 ended id present cursor stands.cursor_eq
    rw [stands.not_idle] at atEnd
    cases atEnd

/-- A stage on which everybody is idle has no bubbles, and it stays as it is, however long it is
played, stopped and started, and whatever the times of its ticks. At most holds are released. -/
theorem all_idle_stays (reachable : s.Reachable) (ended : s.world.scene.allIdle = true)
    (actions : List Action) (conducted : ∀ action ∈ actions, action.conducts = true) :
    s.world.bubbles.live = ∅ ∧
      ∃ t reports, s.course actions = some (t, reports) ∧ (∀ r ∈ reports, r.isQuiet = true) ∧
        s.world.Stays t.world ∧
        ∀ offset times, ∀ played ∈ t.world.ticks offset times,
          played.2.isQuiet = true ∧ s.world.Stays played.1 := by
  have idle := reachable.idle ended
  obtain ⟨t, reports, course, quiet, stays⟩ := stays_course (.refl s.world) idle conducted
  exact ⟨idle.silent, t, reports, course, quiet, stays, stays.ticks idle⟩

/-- The second actor of `bumped` is released in the first tick, and after that nothing changes. -/
theorem all_idle_stays_bumped :
    bumped.Reachable ∧ bumped.world.scene.allIdle = true ∧
      ∃ t reports, bumped.course [.tick, .stop, .tick, .start, .run 3] = some (t, reports) ∧
        reports.length = 4 ∧ (∀ r ∈ reports, r.isQuiet = true) ∧ bumped.world.Stays t.world := by
  have ended : bumped.world.scene.allIdle = true := by decide +kernel
  obtain ⟨-, t, reports, course, quiet, stays, -⟩ :=
    all_idle_stays reachable_bumped ended [.tick, .stop, .tick, .start, .run 3] (by decide)
  refine ⟨reachable_bumped, ended, t, reports, course, ?_, quiet, stays⟩
  cases course
  rfl

end Stage

end Playhouse
