import Playhouse.Proofs.Stage.Cast
import Playhouse.Proofs.Tick.Recital

/-!
# Programs are performed in order

From the time at which a program is installed for an actor, whatever is done on the stage that
leaves its program to the actor (`Action.spares`), and as long as it does not collide, the actor
performs the blocks of the program in order, one in each tick (`performs_in_order`).

The course of events is a list of the stages on which ticks are played (`Spared`). What its ticks
and its edits keep holds at its end (`Spared.of_steps`).
-/

namespace Playhouse

/-- Neither gives an actor another program nor sets the whole stage back. -/
def Action.spares (id : ActorId) : Action → Bool
  | .setProgram key _ | .install key _ => key ≠ id
  | .reset | .restore _ => false
  | _ => true

namespace Stage

/-! ## Courses of events -/

/-- The stages before each of the next `n` ticks. -/
def upcoming (s : Stage) : Nat → List Stage
  | 0 => []
  | n + 1 => s :: s.tick.1.upcoming n

/-- The stages on which an action plays ticks. -/
def playedOn (s : Stage) : Action → List Stage
  | .tick => if s.running then s.upcoming 1 else []
  | .run n => if s.running then s.upcoming n else []
  | _ => []

/-- Actions that spare `id` lead from `s` to another stage. Ticks are played on the listed ones. -/
inductive Spared (id : ActorId) (s : Stage) : List Stage → Stage → Prop where
  | nil : Spared id s [] s
  | act {t u : Stage} {played : List Stage} {action : Action} {reply : Reply}
      (before : Spared id s played t) (spares : action.spares id = true)
      (done : t.perform action = some (u, reply)) : Spared id s (played ++ t.playedOn action) u

/-- The block that an actor performs in the next tick, if the report says that it performs one. -/
def performed (s : Stage) (id : ActorId) : Option Block :=
  if s.tick.2.turns id = 0 then none else ((s.world.awake s.time).scene.nextBlock id).map (·.2)

variable {s t u : Stage} {id : ActorId} {program : Program} {played : List Stage} {action : Action}
  {reply : Reply}

theorem performed_eq (running : s.running = true) (id : ActorId) :
    s.performed id = s.world.performed s.offset s.time id := by
  rw [performed, (tick_eq running).2]
  rfl

theorem run_one (s : Stage) : (s.run 1).1 = s.tick.1 := by
  cases running : s.running with
  | false => rw [run_of_stopped running, tick_of_stopped running]
  | true =>
    rw [run, if_pos running]
    rfl

/-- What holds at the start of a course, and is kept by the ticks and the edits that spare the
actor, holds at its end. -/
theorem Spared.of_steps {P : List Stage → Stage → Prop} (nil : P [] s)
    (tick : ∀ played t, Spared id s played t → P played t → t.running = true →
      P (played ++ [t]) t.tick.1)
    (edit : ∀ played t u action reply, Spared id s played t → P played t →
      action.spares id = true → action.edits = true → t.perform action = some (u, reply) →
      P played u)
    (spared : Spared id s played t) : P played t := by
  have one {played : List Stage} {t : Stage} (before : Spared id s played t)
      (running : t.running = true) : Spared id s (played ++ [t]) t.tick.1 := by
    have step := before.act rfl (rfl : t.perform .tick = some (t.tick.1, .report t.tick.2))
    rwa [playedOn, if_pos running] at step
  have ticks (n : Nat) {played : List Stage} {t : Stage} (before : Spared id s played t)
      (holds : P played t) (running : t.running = true) :
      P (played ++ t.upcoming n) (t.playTicks n) := by
    induction n generalizing played t with
    | zero => rwa [upcoming, List.append_nil]
    | succ n ih =>
      have next := ih (one before running) (tick played t before holds running)
        ((running_tick t).trans running)
      rwa [List.append_assoc] at next
  have run (n : Nat) {played : List Stage} {t : Stage} (before : Spared id s played t)
      (holds : P played t) : P (played ++ t.playedOn (.run n)) (t.run n).1 := by
    cases running : t.running with
    | false => simpa [playedOn, run_of_stopped running, running] using holds
    | true => simpa [playedOn, Stage.run, running] using ticks n before holds running
  induction spared with
  | nil => exact nil
  | @act t u played action reply before spares done ih =>
    cases action with
    | tick =>
      have ticked : t.tick.1 = u := congrArg Prod.fst (Option.some.inj done)
      rw [← ticked, ← run_one]
      exact run 1 before ih
    | run n =>
      have ran : (t.run n).1 = u := congrArg Prod.fst (Option.some.inj done)
      rw [← ran]
      exact run n before ih
    | restore snapshot => cases spares
    | _ =>
      change P (played ++ []) u
      rw [List.append_nil]
      exact edit played t u _ reply before ih spares rfl done

/-! ## What actions leave alone -/

theorem WellCast.role_enter (cast : s.WellCast) (present : (s.world.role id).actor.isSome = true)
    (x y : Float) : (s.addActorAt x y).1.world.role id = s.world.role id := by
  rw [role_addActorAt, if_neg]
  rintro rfl
  rw [cast.missing] at present
  cases present

theorem role_install_of_ne (s : Stage) {key : ActorId} (other : key ≠ id) (program : Program) :
    (s.install key program).world.role id = s.world.role id := by
  rw [role_install, if_neg other.symm]

/-- An action that spares an actor at most moves it. -/
theorem role_of_spares (sound : s.Sound) (cast : s.WellCast)
    (present : (s.world.role id).actor.isSome = true) (spares : action.spares id = true)
    (edit : action.edits = true) (done : s.perform action = some (t, reply)) :
    t.world.role id = s.world.role id ∨
      ∃ pose, t.world.role id = (s.world.role id).place pose := by
  cases action with
  | addActor =>
    obtain ⟨x, y, _, random, -, -, rfl⟩ := perform_addActor done
    exact .inl (cast.role_enter present x y)
  | addActorAt x y =>
    cases done
    exact .inl (cast.role_enter present x y)
  | addDefaultActors =>
    cases done
    have first := cast.role_enter present
    have present := fun x y => (congrArg (·.actor.isSome) (first x y)).trans present
    exact .inl (((cast.enter _ _).role_enter (present _ _) _ _).trans (first _ _))
  | setProgram key tokens =>
    cases done
    exact .inl (role_install_of_ne s (of_decide_eq_true spares) _)
  | install key program =>
    cases done
    exact .inl (role_install_of_ne s (of_decide_eq_true spares) program)
  | place key x y =>
    simp only [Stage.perform] at done
    split at done
    · rename_i found
      cases done
      obtain ⟨-, -, rfl⟩ := place_eq_ok_iff.1 found
      rw [role_place]
      split
      · exact .inr ⟨_, rfl⟩
      · exact .inl rfl
    · cases done
      exact .inl rfl
  | start =>
    cases done
    exact .inl (sound.role_start id)
  | stop =>
    cases done
    exact .inl (role_stop s id)
  | reset => cases spares
  | tick | run ticks | restore snapshot => cases edit

/-! ## The course of one actor -/

/-- The course of events since `program` has been installed for `id`, seen from `id`. -/
structure Recites (id : ActorId) (program : Program) (played : List Stage) (t : Stage) : Prop where
  sound : t.Sound
  cast : t.WellCast
  follows : (t.world.role id).Follows program (played.filterMap (·.performed id))
  waits : ∀ before u later, played = before ++ u :: later →
    u.tick.2.turns id = (u.performed id).toList.length ∧
      (u.performed id = none ↔
        (u.world.awake u.time).bubbles.live.contains id = true ∨
          program.repeats = false ∧ before.filterMap (·.performed id) = program)

theorem Recites.tick (recites : Recites id program played t) (running : t.running = true)
    (apart : ∀ c ∈ t.tick.2.collisions, c.involves id = false) :
    Recites id program (played ++ [t]) t.tick.1 where
  sound := recites.sound.tick running
  cast := recites.cast.tick recites.sound running
  follows := by
    obtain ⟨world, report⟩ := tick_eq running
    rw [report] at apart
    have next := recites.sound.keyed.follows_tick (recites.cast.fits id) recites.follows apart
    rw [← performed_eq running] at next
    rw [world, List.filterMap_append]
    cases found : t.performed id <;> simpa [found] using next
  waits := by
    intro before u later same
    rcases List.eq_nil_or_concat later with rfl | ⟨later, last, rfl⟩
    · obtain ⟨rfl, here⟩ := List.append_inj' same rfl
      cases here
      have keyed := recites.sound.keyed
      rw [performed_eq running, (tick_eq running).2]
      exact ⟨keyed.turns_eq t.offset t.time id,
        keyed.performed_eq_none_iff (recites.cast.fits id) recites.follows⟩
    · rw [List.concat_eq_append, ← List.cons_append, ← List.append_assoc] at same
      exact recites.waits before u later (List.append_inj_left' same rfl)

theorem Recites.edit (recites : Recites id program played t) (spares : action.spares id = true)
    (edit : action.edits = true) (done : t.perform action = some (u, reply)) :
    Recites id program played u := by
  obtain ⟨sound, cast⟩ := kept_base.toEditedOn.perform edit done ⟨recites.sound, recites.cast⟩
  refine ⟨sound, cast, ?_, recites.waits⟩
  rcases role_of_spares recites.sound recites.cast recites.follows.isSome_actor spares edit done
    with same | ⟨pose, same⟩
  · rw [same]
    exact recites.follows
  · rw [same]
    exact recites.follows.place pose

theorem Spared.recites {s : Stage} (sound : s.Sound) (cast : s.WellCast)
    (present : s.world.scene.actors.contains id = true)
    (spared : Spared id (s.install id program) played t)
    (apart : ∀ u ∈ played, ∀ c ∈ u.tick.2.collisions, c.involves id = false) :
    Recites id program played t := by
  revert apart
  refine spared.of_steps (P := fun played t =>
    (∀ u ∈ played, ∀ c ∈ u.tick.2.collisions, c.involves id = false) →
      Recites id program played t) ?_ ?_ ?_
  · intro _
    refine ⟨sound.install id program, cast.install id program, ?_, ?_⟩
    · rw [role_install, if_pos rfl]
      exact .install (r := s.world.role id) present program
    · intro before u later same
      simp at same
  · intro played t _ ih running apart
    obtain ⟨earlier, now⟩ := List.forall_mem_append.1 apart
    exact (ih earlier).tick running (now t (List.mem_singleton_self t))
  · intro played t u action reply _ ih spares edit done apart
    exact (ih apart).edit spares edit done

/-- From the time at which a program is installed for an actor, and as long as it keeps the program,
the actor performs the blocks of the program one after the other. If the program ends, that is a
beginning of it. If it starts over, it is a beginning of the endless repetition of its blocks up to
the first restart. A block is performed in every tick, unless a bubble of the actor is live or all
of a program that ends has been performed. -/
theorem performs_in_order (reachable : s.Reachable)
    (present : s.world.scene.actors.contains id = true) (program : Program)
    (spared : Spared id (s.install id program) played t)
    (apart : ∀ u ∈ played, ∀ c ∈ u.tick.2.collisions, c.involves id = false) :
    let done := played.filterMap (·.performed id)
    (program.repeats = false → done <+: program) ∧
    (∀ r, program.findIdx? Block.isRestart = some r →
      ∀ i < done.length, done[i]? = (program.take (r + 1))[i % (r + 1)]?) ∧
    ∀ before u later, played = before ++ u :: later →
      u.tick.2.turns id = (u.performed id).toList.length ∧
        (u.performed id = none ↔
          (u.world.awake u.time).bubbles.live.contains id = true ∨
            program.repeats = false ∧ before.filterMap (·.performed id) = program) := by
  intro done
  have recites := spared.recites reachable.sound reachable.wellCast present apart
  have begins := recites.follows.begins
  exact ⟨begins.isPrefix, fun r first i => begins.getElem?_eq first, recites.waits⟩

/-- A short speech and a move, again and again. -/
def refrain : Program :=
  [.speak .say "hello" 0.01, .move 5.0 0.0, .restart]

/-- The stage of `greeting` is played, stopped, changed and played again. -/
theorem performs_in_order_greeting :
    ∃ played t, greeting.Reachable ∧ greeting.world.scene.actors.contains ⟨0⟩ = true ∧
      Spared ⟨0⟩ (greeting.install ⟨0⟩ refrain) played t ∧
      (∀ u ∈ played, ∀ c ∈ u.tick.2.collisions, c.involves ⟨0⟩ = false) ∧
      (played.filterMap (·.performed ⟨0⟩)).length = 5 ∧
      ∀ i < 5, (played.filterMap (·.performed ⟨0⟩))[i]? = (refrain.take 3)[i % 3]? := by
  have present : greeting.world.scene.actors.contains ⟨0⟩ = true := by decide +kernel
  let s := greeting.install ⟨0⟩ refrain
  let stopped := (s.run 2).1.stop
  let entered := (stopped.addActorAt 300.0 300.0).1
  let started := (entered.install ⟨1⟩ [.turn 90.0]).start
  have first : Spared ⟨0⟩ s ([] ++ s.playedOn (.run 2)) (s.run 2).1 := .act .nil rfl rfl
  have pause := first.act rfl (rfl : (s.run 2).1.perform .stop = some (stopped, _))
  have entry := pause.act rfl (rfl : stopped.perform (.addActorAt 300.0 300.0) = some (entered, _))
  have script := entry.act rfl (rfl : entered.perform (.install ⟨1⟩ [.turn 90.0]) = some (_, _))
  have start := script.act rfl (rfl : Stage.perform _ .start = some (started, _))
  have last := start.act rfl (rfl : started.perform (.run 3) = some (_, _))
  have apart : ∀ u ∈ s.upcoming 2 ++ started.upcoming 3, ∀ c ∈ u.tick.2.collisions,
      c.involves ⟨0⟩ = false := by decide +kernel
  have order := performs_in_order reachable_greeting present refrain last apart
  have five : ((s.upcoming 2 ++ started.upcoming 3).filterMap (·.performed ⟨0⟩)).length = 5 := by
    decide +kernel
  exact ⟨_, _, reachable_greeting, present, last, apart, five, five ▸ order.2.1 2 rfl⟩

end Stage

end Playhouse
