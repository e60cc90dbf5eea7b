import Playhouse.Stage.Action

/-!
# Reachable stages

A stage is `Reachable` if it comes from a new one by any sequence of actions, restoring included as
long as the snapshots were captured on reachable stages. `ReachableBy` leaves room for a condition
on the actions.

Every action is made of a few elementary steps. A property that each of them keeps (`Kept`) and
that new stages have holds of all reachable stages (`ReachableBy.of_kept`). `KeptOn base` is for
properties that are kept only together with `base` (`KeptOn.and`), and `Edited` for those that may
change in a tick.
-/

namespace Playhouse

namespace Action

/-- Is it a return to a snapshot? -/
def restores : Action → Bool
  | .restore _ => true
  | _ => false

/-- Neither plays a tick nor returns to a snapshot. -/
def edits : Action → Bool
  | .tick | .run _ | .restore _ => false
  | _ => true

end Action

namespace Stage

/-- Stages that come from new ones by actions that are legal. Snapshots are restored only if they
were captured on such stages. -/
inductive ReachableBy (legal : Action → Prop) : Stage → Prop where
  | new {config : Config} {s : Stage} (made : Stage.new config = .ok s) : ReachableBy legal s
  | perform {s t : Stage} {action : Action} {reply : Reply} (before : ReachableBy legal s)
    (permitted : legal action) (own : action.restores = false)
    (done : s.perform action = some (t, reply)) : ReachableBy legal t
  | restore {s source : Stage} (before : ReachableBy legal s) (captured : ReachableBy legal source)
    (permitted : legal (.restore source.capture)) : ReachableBy legal (s.restore source.capture).1

abbrev Reachable : Stage → Prop :=
  ReachableBy fun _ => True

variable {legal : Action → Prop} {base I : Stage → Prop} {s t source : Stage}

theorem new_eq_ok_iff {config : Config} :
    Stage.new config = .ok s ↔ config.check = .ok () ∧ s = fresh config := by
  unfold Stage.new
  cases config.check with
  | error e => simp [bind, Except.bind]
  | ok u => simp [bind, Except.bind, pure, Except.pure, eq_comm]

theorem reachable_fresh {config : Config} (valid : config.check = .ok ()) :
    (fresh config).Reachable :=
  .new (new_eq_ok_iff.2 ⟨valid, rfl⟩)

/-- After an action that does not return to a snapshot. -/
theorem ReachableBy.act (reachable : ReachableBy legal s) (action : Action) {reply : Reply}
    (permitted : legal action) (own : action.restores = false)
    (done : s.perform action = some (t, reply)) : ReachableBy legal t :=
  .perform reachable permitted own done

theorem Reachable.act (reachable : s.Reachable) (action : Action) {reply : Reply}
    (own : action.restores = false) (done : s.perform action = some (t, reply)) : t.Reachable :=
  .perform reachable trivial own done

theorem Reachable.edit (reachable : s.Reachable) {action : Action} {reply : Reply}
    (edit : action.edits = true) (done : s.perform action = some (t, reply)) : t.Reachable := by
  refine reachable.act action ?_ done
  cases action <;> first | rfl | cases edit

/-- One actor, in the middle of its speech. -/
def greeting : Stage :=
  (((fresh .default).addActorAt 10.0 20.0).1.install ⟨0⟩
    [.speak .say "hello" 2.0, .move 5.0 0.0]).start.tick.1

theorem reachable_greeting : greeting.Reachable := by
  have new : (fresh .default).Reachable := reachable_fresh rfl
  have added := new.act (.addActorAt 10.0 20.0) rfl rfl
  have installed := added.act (.install ⟨0⟩ [.speak .say "hello" 2.0, .move 5.0 0.0]) rfl rfl
  exact (installed.act .start rfl rfl).act .tick rfl rfl

theorem place_eq_ok_iff {id : ActorId} {x y : Float} :
    s.place id x y = .ok t ↔
      s.running = false ∧ s.world.scene.actors.contains id = true ∧
        t = { s with world.scene := s.world.scene.place id x y } := by
  unfold place Scene.place?
  cases s.running with
  | true => simp [throw, throwThe, MonadExceptOf.throw, bind, Except.bind]
  | false =>
    cases s.world.scene.actors.contains id <;>
      simp [bind, Except.bind, pure, Except.pure, eq_comm]

/-- The coordinates of a random position are drawn one after the other. -/
theorem addActor_eq_some {id : ActorId} (added : s.addActor = some (t, id)) :
    ∃ x y between after, s.random.upTo s.world.scene.bounds.maxX = some (x, between) ∧
      between.upTo s.world.scene.bounds.maxY = some (y, after) ∧
      { s with random := after }.addActorAt x y = (t, id) := by
  simp only [Stage.addActor, Option.bind_eq_bind, Option.bind_eq_some_iff] at added
  obtain ⟨⟨x, between⟩, first, ⟨y, after⟩, second, added⟩ := added
  exact ⟨x, y, between, after, first, second, Option.some.inj added⟩

theorem perform_addActor {reply : Reply} (done : s.perform .addActor = some (t, reply)) :
    ∃ x y between after, s.random.upTo s.world.scene.bounds.maxX = some (x, between) ∧
      between.upTo s.world.scene.bounds.maxY = some (y, after) ∧
      t = ({ s with random := after }.addActorAt x y).1 := by
  obtain ⟨⟨added, id⟩, found, same⟩ := Option.map_eq_some_iff.1 done
  obtain ⟨x, y, between, after, first, second, found⟩ := addActor_eq_some found
  cases same
  exact ⟨x, y, between, after, first, second, (congrArg Prod.fst found).symm⟩

theorem get?_addActorAt (s : Stage) (x y : Float) (id : ActorId) :
    (s.addActorAt x y).1.world.scene.actors.get? id =
      if s.world.scene.nextId = id then
        some ⟨s.world.scene.nextId, s.world.scene.bounds.clampX x,
          s.world.scene.bounds.clampY y, 0.0⟩
      else s.world.scene.actors.get? id :=
  IdMap.get?_insert ..

theorem get?_addActorAt_of_ne (s : Stage) (x y : Float) {id : ActorId}
    (other : id ≠ s.world.scene.nextId) :
    (s.addActorAt x y).1.world.scene.actors.get? id = s.world.scene.actors.get? id :=
  (get?_addActorAt s x y id).trans (if_neg other.symm)

/-- A captured snapshot has the right fingerprint, so nothing but its configuration can be wrong. -/
theorem ofSnapshot_capture (source : Stage) :
    ofSnapshot source.capture =
      (source.config.check.mapError .invalidConfig).map fun _ => source.record.toStage := by
  unfold ofSnapshot
  change (source.config.check.mapError RestoreError.invalidConfig >>= fun _ => _) = _
  cases source.config.check with
  | error e => rfl
  | ok u => exact if_neg (not_not_intro rfl)

theorem restore_capture (s : Stage) (valid : source.config.check = .ok ()) :
    s.restore source.capture = (source.record.toStage, none) := by
  rw [restore, ofSnapshot_capture, valid]
  rfl

theorem restore_capture_cases (s source : Stage) :
    (s.restore source.capture).1 = source.record.toStage ∨ (s.restore source.capture).1 = s := by
  rw [restore, ofSnapshot_capture]
  cases source.config.check with
  | error e => exact .inr rfl
  | ok u => exact .inl rfl

theorem exists_perform_restore (s : Stage) (snapshot : Snapshot) :
    ∃ reply, s.perform (.restore snapshot) = some ((s.restore snapshot).1, reply) := by
  simp only [perform]
  generalize s.restore snapshot = answer
  obtain ⟨restored, _ | e⟩ := answer
  · exact ⟨.done, rfl⟩
  · exact ⟨.notRestored e, rfl⟩

/-! ## Running and stopped stages -/

theorem start_of_running (running : s.running = true) : s.start = s := by
  rw [start, if_pos running]

theorem stop_of_stopped (stopped : s.running = false) : s.stop = s := by
  rw [stop, stopped]
  rfl

theorem running_stop (s : Stage) : s.stop.running = false := by
  cases running : s.running with
  | true => rw [stop, if_pos running]
  | false => rwa [stop_of_stopped running]

theorem tick_of_stopped (stopped : s.running = false) : s.tick = (s, ∅) := by
  rw [tick, stopped]
  rfl

theorem run_of_stopped (stopped : s.running = false) (n : Nat) : s.run n = (s, 0) := by
  rw [run, stopped]
  rfl

theorem running_tick (s : Stage) : s.tick.1.running = s.running := by
  unfold tick
  split
  · rfl
  · rfl

theorem running_playTicks (s : Stage) (n : Nat) : (s.playTicks n).running = s.running := by
  induction n generalizing s with
  | zero => rfl
  | succ n ih => exact (ih s.tick.1).trans (running_tick s)

theorem running_run (s : Stage) (n : Nat) : (s.run n).1.running = s.running := by
  unfold run
  split
  · exact running_playTicks s n
  · rfl

/-! ## Elementary steps -/

/-- `I` is kept by the elementary steps of edits, on stages with `base`. -/
structure EditedOn (base I : Stage → Prop) : Prop where
  drawn : ∀ s random, base s → I s → I { s with random }
  entered : ∀ s x y, base s → I s → I (s.addActorAt x y).1
  installed : ∀ s id program, base s → I s → I (s.install id program)
  placed : ∀ s id x y, base s → I s → I { s with world.scene := s.world.scene.place id x y }
  started : ∀ s, base s → I s → I s.start
  stopped : ∀ s, base s → I s → I s.stop
  reset : ∀ s, base s → I s → I s.reset

/-- `I` is kept by all elementary steps, on stages with `base`. -/
structure KeptOn (base I : Stage → Prop) : Prop extends EditedOn base I where
  ticked : ∀ s, base s → I s → s.running = true → I s.tick.1
  restored : ∀ s, base s → I s → I s.record.toStage

abbrev Edited (I : Stage → Prop) : Prop :=
  EditedOn (fun _ => True) I

abbrev Kept (I : Stage → Prop) : Prop :=
  KeptOn (fun _ => True) I

theorem EditedOn.and (first : Edited base) (second : EditedOn base I) :
    Edited fun s => base s ∧ I s where
  drawn := fun s random _ h => ⟨first.drawn s random trivial h.1, second.drawn s random h.1 h.2⟩
  entered := fun s x y _ h => ⟨first.entered s x y trivial h.1, second.entered s x y h.1 h.2⟩
  installed := fun s id program _ h =>
    ⟨first.installed s id program trivial h.1, second.installed s id program h.1 h.2⟩
  placed := fun s id x y _ h => ⟨first.placed s id x y trivial h.1, second.placed s id x y h.1 h.2⟩
  started := fun s _ h => ⟨first.started s trivial h.1, second.started s h.1 h.2⟩
  stopped := fun s _ h => ⟨first.stopped s trivial h.1, second.stopped s h.1 h.2⟩
  reset := fun s _ h => ⟨first.reset s trivial h.1, second.reset s h.1 h.2⟩

theorem KeptOn.and (first : Kept base) (second : KeptOn base I) : Kept fun s => base s ∧ I s where
  toEditedOn := first.toEditedOn.and second.toEditedOn
  ticked := fun s _ h running =>
    ⟨first.ticked s trivial h.1 running, second.ticked s h.1 h.2 running⟩
  restored := fun s _ h => ⟨first.restored s trivial h.1, second.restored s h.1 h.2⟩

/-- What the elementary steps of edits keep every edit keeps. -/
theorem EditedOn.perform (edited : Edited I) {action : Action} {reply : Reply}
    (edit : action.edits = true) (done : s.perform action = some (t, reply)) (holds : I s) :
    I t := by
  cases action with
  | addActor =>
    obtain ⟨x, y, _, random, -, -, rfl⟩ := perform_addActor done
    exact edited.entered _ x y trivial (edited.drawn s random trivial holds)
  | addActorAt x y =>
    cases done
    exact edited.entered s x y trivial holds
  | addDefaultActors =>
    cases done
    exact edited.entered _ _ _ trivial (edited.entered s _ _ trivial holds)
  | setProgram id tokens =>
    cases done
    exact edited.installed s id _ trivial holds
  | install id program =>
    cases done
    exact edited.installed s id program trivial holds
  | place id x y =>
    simp only [Stage.perform] at done
    split at done
    · rename_i found
      cases done
      obtain ⟨-, -, rfl⟩ := place_eq_ok_iff.1 found
      exact edited.placed s id x y trivial holds
    · cases done
      exact holds
  | start =>
    cases done
    exact edited.started s trivial holds
  | stop =>
    cases done
    exact edited.stopped s trivial holds
  | reset =>
    cases done
    exact edited.reset s trivial holds
  | tick | run ticks | restore snapshot => cases edit

theorem KeptOn.tick (kept : Kept I) (holds : I s) : I s.tick.1 := by
  cases running : s.running with
  | true => exact kept.ticked s trivial holds running
  | false => rwa [Stage.tick, running]

theorem playTicks_of_tick (tick : ∀ u : Stage, I u → I u.tick.1) (n : Nat) (holds : I s) :
    I (s.playTicks n) := by
  induction n generalizing s with
  | zero => exact holds
  | succ n ih => exact ih (tick s holds)

/-- What a tick keeps a run keeps. -/
theorem run_of_tick (tick : ∀ u : Stage, I u → I u.tick.1) (n : Nat) (holds : I s) :
    I (s.run n).1 := by
  unfold run
  split
  · exact playTicks_of_tick tick n holds
  · exact holds

/-- What all elementary steps keep every action keeps that does not return to a snapshot. -/
theorem KeptOn.perform (kept : Kept I) {action : Action} {reply : Reply}
    (own : action.restores = false) (done : s.perform action = some (t, reply)) (holds : I s) :
    I t := by
  cases action with
  | tick =>
    cases done
    exact kept.tick holds
  | run ticks =>
    have ran : (s.run ticks).1 = t := congrArg Prod.fst (Option.some.inj done)
    rw [← ran]
    exact run_of_tick (fun u => kept.tick) ticks holds
  | restore snapshot => cases own
  | _ => exact kept.toEditedOn.perform rfl done holds

/-- What new stages have and elementary steps keep holds of all reachable stages. -/
theorem ReachableBy.of_kept (kept : Kept I)
    (fresh : ∀ config : Config, config.check = .ok () → I (Stage.fresh config))
    (reachable : ReachableBy legal s) : I s := by
  induction reachable with
  | new made =>
    obtain ⟨valid, rfl⟩ := new_eq_ok_iff.1 made
    exact fresh _ valid
  | perform _ _ own done ih => exact kept.perform own done ih
  | @restore s source _ _ _ before captured =>
    rcases restore_capture_cases s source with same | same
    · rw [same]
      exact kept.restored source trivial captured
    · rwa [same]

end Stage

end Playhouse
