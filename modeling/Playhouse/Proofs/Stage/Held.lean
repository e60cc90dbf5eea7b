import Playhouse.Proofs.Stage.Quiet
import Playhouse.Proofs.Stage.Recital
import Playhouse.Proofs.Tick.Exchange
import Playhouse.Proofs.Tick.Rest

/-!
# Holds

An actor that is held after a collision sits out the next tick that is played, and no other one,
whatever happens to the stage until then (`Waits.sitsOut`): stops and starts, changes of other
actors, or a return to a snapshot that was taken while the actor was held.

A course of events (`Course`) remembers the last tick that has been played. As the second member of
a collision is held after it, it takes no part in the next one, so no two actors collide in two
ticks in a row unless the second one has been given a program in between (`held_for_one_tick`).
-/

namespace Playhouse

theorem Action.restores_eq_false_of_spares {action : Action} {id : ActorId}
    (spares : action.spares id = true) : action.restores = false := by
  cases action with
  | restore snapshot => cases spares
  | _ => rfl

namespace Stage

variable {s t u source : Stage} {id : ActorId} {action : Action} {reply : Reply}

/-! ## Until the next tick -/

/-- From `s` to `t` no tick is played and `id` is left its program. Snapshots are restored only if
`id` was held when they were taken. -/
inductive Waits (id : ActorId) (s : Stage) : Stage → Prop where
  | here : Waits id s s
  | act {t u : Stage} {reply : Reply} (before : Waits id s t) (action : Action)
      (spares : action.spares id = true) (unplayed : t.playedOn action = [])
      (done : t.perform action = some (u, reply)) : Waits id s u
  | restore {t source : Stage} (before : Waits id s t) (captured : source.Reachable)
      (held : source.world.scene.held.contains id = true) :
      Waits id s (t.restore source.capture).1

/-- The next tick passes an actor by, and then its hold is over. -/
structure SitsOut (t : Stage) (id : ActorId) : Prop where
  actor_eq : t.tick.1.world.scene.actors.get? id = t.world.scene.actors.get? id
  cursor_eq : t.tick.1.world.scene.cursors.get? id = t.world.scene.cursors.get? id
  program_eq : t.tick.1.world.scene.programs.get? id = t.world.scene.programs.get? id
  unmentioned : t.tick.2.about id = ∅
  released : t.tick.1.world.scene.held.contains id = false

/-- An action that plays no tick is an edit or changes nothing. -/
theorem edits_or_eq_of_unplayed (spares : action.spares id = true)
    (unplayed : t.playedOn action = []) (done : t.perform action = some (u, reply)) :
    action.edits = true ∨ u = t := by
  cases action with
  | tick =>
    cases running : t.running with
    | false =>
      rw [perform, tick_of_stopped running] at done
      cases done
      exact .inr rfl
    | true => simp [playedOn, running, upcoming] at unplayed
  | run n =>
    cases running : t.running with
    | false =>
      rw [perform, run_of_stopped running] at done
      cases done
      exact .inr rfl
    | true =>
      cases n with
      | succ n => simp [playedOn, running, upcoming] at unplayed
      | zero =>
        rw [perform, run, if_pos running] at done
        cases done
        exact .inr rfl
  | restore snapshot => cases spares
  | _ => exact .inl rfl

/-- An edit that leaves an actor its program does not end its hold. -/
theorem held_of_spares (reachable : t.Reachable) (held : (t.world.role id).held = true)
    (spares : action.spares id = true) (edit : action.edits = true)
    (done : t.perform action = some (u, reply)) : (u.world.role id).held = true := by
  have present := (reachable.wellCast.fits id).isSome_of_held held
  rcases role_of_spares reachable.sound reachable.wellCast present spares edit done with
    same | ⟨pose, same⟩
  · rw [same]
    exact held
  · rw [same]
    exact held

theorem Waits.reachable (waits : Waits id s t) (reachable : s.Reachable) : t.Reachable := by
  induction waits with
  | here => exact reachable
  | act _ _ spares _ done ih => exact ih.act _ (Action.restores_eq_false_of_spares spares) done
  | restore _ captured _ ih => exact .restore ih captured trivial

/-- Whoever waits for the next tick is held all the time. -/
theorem Waits.held (waits : Waits id s t) (reachable : s.Reachable)
    (held : (s.world.role id).held = true) : (t.world.role id).held = true := by
  induction waits with
  | here => exact held
  | act before _ spares unplayed done ih =>
    rcases edits_or_eq_of_unplayed spares unplayed done with edit | rfl
    · exact held_of_spares (before.reachable reachable) ih spares edit done
    · exact ih
  | @restore t source before _ captured ih =>
    rcases restore_capture_cases t source with same | same
    · rw [same]
      exact captured
    · rw [same]
      exact ih

theorem sitsOut_of_held (reachable : t.Reachable) (running : t.running = true)
    (held : (t.world.role id).held = true) : t.SitsOut id := by
  obtain ⟨world, report⟩ := tick_eq running
  obtain ⟨role, about⟩ :=
    reachable.sound.keyed.tick_of_held (reachable.wellCast.fits id) held t.offset t.time
  rw [← world] at role
  rw [← report] at about
  exact ⟨congrArg Role.actor role, congrArg Role.cursor role, congrArg Role.program role, about,
    congrArg Role.held role⟩

theorem Waits.sitsOut (waits : Waits id s t) (reachable : s.Reachable)
    (held : s.world.scene.held.contains id = true) (running : t.running = true) : t.SitsOut id :=
  sitsOut_of_held (waits.reachable reachable) running (waits.held reachable held)

/-- What a report does not mention has not collided. -/
theorem SitsOut.apart (sitsOut : t.SitsOut id) :
    ∀ c ∈ t.tick.2.collisions, c.involves id = false := by
  have none : t.tick.2.collisions.filter (·.involves id) = [] :=
    congrArg Report.collisions sitsOut.unmentioned
  intro c mem
  exact Bool.eq_false_iff.2 (List.filter_eq_nil_iff.1 none c mem)

/-! ## From tick to tick -/

/-- A course of ticks and edits from `s` to `t`. The last tick has been played on `last`, and since
then the ids in `given` have been given programs. -/
inductive Course (s : Stage) : Option Stage → List ActorId → Stage → Prop where
  | nil : Course s none [] s
  | tick {last : Option Stage} {given : List ActorId} {t : Stage} (before : Course s last given t)
      (running : t.running = true) : Course s (some t) [] t.tick.1
  | edit {last : Option Stage} {given : List ActorId} {t u : Stage} {reply : Reply}
      (before : Course s last given t) (action : Action) (edit : action.edits = true)
      (new : List ActorId) (spares : ∀ id ∉ new, action.spares id = true)
      (done : t.perform action = some (u, reply)) : Course s last (given ++ new) u

variable {last : Option Stage} {given : List ActorId}

theorem Course.reachable (course : Course s last given t) (reachable : s.Reachable) :
    t.Reachable := by
  induction course with
  | nil => exact reachable
  | tick _ _ ih => exact ih.act .tick rfl rfl
  | edit _ _ edit _ _ done ih => exact ih.edit edit done

/-- Since the last tick of a course everybody waits who has not been given a program. -/
theorem Course.waits (course : Course s (some u) given t) (reachable : s.Reachable)
    (kept : id ∉ given) : u.Reachable ∧ u.running = true ∧ Waits id u.tick.1 t := by
  generalize known : some u = last at course
  induction course with
  | nil => cases known
  | tick before running _ =>
    cases known
    exact ⟨before.reachable reachable, running, .here⟩
  | @edit _ _ t _ _ _ action edit new spares done ih =>
    rw [List.mem_append, not_or] at kept
    obtain ⟨made, running, waits⟩ := ih kept.1 known
    have unplayed : t.playedOn action = [] := by
      cases action with
      | tick | run n | restore snapshot => cases edit
      | _ => rfl
    exact ⟨made, running, waits.act action (spares id kept.2) unplayed done⟩

/-- An actor that is held sits out the next tick that is played, and then it is held no longer. As
the second members of collisions are held, they take no part in the collisions of the next tick,
unless they have been given a program in between. -/
theorem held_for_one_tick (reachable : s.Reachable) :
    (∀ id t, s.world.scene.held.contains id = true → Waits id s t → t.running = true →
      t.SitsOut id) ∧
    ∀ u given t, Course s (some u) given t → t.running = true →
      ∀ c ∈ u.tick.2.collisions, c.second ∉ given →
        ∀ d ∈ t.tick.2.collisions, d.involves c.second = false := by
  refine ⟨fun id t held waits running => waits.sitsOut reachable held running, ?_⟩
  intro u given t course running c collided kept
  obtain ⟨made, played, waits⟩ := course.waits reachable kept
  have held : u.tick.1.world.scene.held.contains c.second = true := by
    rw [(tick_eq played).2] at collided
    rw [(tick_eq played).1]
    exact (u.world.contains_held_tick u.offset u.time c.second).2 ⟨c, collided, rfl⟩
  exact (waits.sitsOut (made.act .tick rfl rfl) held running).apart

set_option maxRecDepth 4000 in
/-- The hold of `bumped` lasts through a stop, a return to the time of the collision and another
program for the first actor. The first actor then moves on alone. -/
theorem held_for_one_tick_bumped :
    bumped.Reachable ∧ bumped.world.scene.held.contains ⟨1⟩ = true ∧
      ∃ t u v, Waits ⟨1⟩ bumped t ∧ t.running = true ∧ t.SitsOut ⟨1⟩ ∧
        Course (fresh .default) (some u) [⟨0⟩] v ∧ v.running = true ∧
        ⟨⟨0⟩, ⟨1⟩, .left⟩ ∈ u.tick.2.collisions ∧ v.tick.2.executed = [⟨0⟩] ∧
        ∀ d ∈ v.tick.2.collisions, d.involves ⟨1⟩ = false := by
  have held : bumped.world.scene.held.contains ⟨1⟩ = true := by decide +kernel
  have stopped : Waits ⟨1⟩ bumped bumped.stop := Waits.here.act .stop rfl rfl rfl
  have back : Waits ⟨1⟩ bumped bumped.record.toStage := by
    have restored := stopped.restore reachable_bumped held
    rwa [restore_capture _ reachable_bumped.sound.valid] at restored
  have scripted := back.act (.install ⟨0⟩ [.move 5.0 0.0]) rfl rfl rfl
  have waits := scripted.act .start rfl rfl rfl
  have sitsOut := (held_for_one_tick reachable_bumped).1 ⟨1⟩ _ held waits rfl
  -- The same collision, as the last tick of a course that begins with an empty stage.
  have others (program : Program) (key : ActorId) :
      ∀ id ∉ [key], (Action.install key program).spares id = true := by
    intro id apart
    exact decide_eq_true (Ne.symm (List.ne_of_not_mem_cons apart))
  have first := (Course.nil (s := fresh .default)).edit (.addActorAt 100.0 100.0) rfl []
    (fun _ _ => rfl) rfl
  have second := first.edit (.addActorAt 200.0 100.0) rfl [] (fun _ _ => rfl) rfl
  have waiting := second.edit _ rfl _ (others [.move 0.0 0.0] ⟨0⟩) rfl
  have moving := waiting.edit _ rfl _ (others [.move (-10.0) 0.0] ⟨1⟩) rfl
  have started := moving.edit .start rfl [] (fun _ _ => rfl) rfl
  have course := (started.tick rfl).edit _ rfl _ (others [.move 5.0 0.0] ⟨0⟩) rfl
  have apart := (held_for_one_tick (reachable_fresh rfl)).2 _ _ _ course rfl
    ⟨⟨0⟩, ⟨1⟩, .left⟩ (by decide +kernel) (by decide)
  exact ⟨reachable_bumped, held, _, _, _, waits, rfl, sitsOut, course, rfl, by decide +kernel,
    by decide +kernel, apart⟩

end Stage

end Playhouse
