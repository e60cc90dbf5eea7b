import Playhouse.Proofs.Stage.Cast

/-!
# Edits in either order

The edits of a scene are actors that enter at a point, programs, and actors that are moved. On a
reachable stage two of them can be done in either order, unless they do the same thing to the same
id: the stage that they lead to is the same, and so are the two answers (`edits_interchange`).

The only edits that meet in one store are a program and the actor that enters with its id. The
cursor of that id fits the program in the end, whichever of the two comes last
(`Scene.addActor_install`).
-/

namespace Playhouse

/-! ## Scenes -/

theorem Programs.lengthOf_insert (p : Programs) (id key : ActorId) (program : Program) :
    Programs.lengthOf (p.insert id program) key =
      if id = key then program.length else p.lengthOf key := by
  unfold lengthOf
  rw [IdMap.get?_insert]
  by_cases same : id = key <;> simp [same]

namespace Scene

variable (s : Scene) {id key : ActorId}

/-- An actor finds its program on entering, or is given it afterwards. -/
theorem addActor_install (id : ActorId) (program : Program) (x y : Float) :
    (s.install id program).addActor x y = (s.addActor x y).install id program := by
  have cursors :
      (s.cursors.insert id (.fresh program.length)).insert s.nextId
          (.fresh (Programs.lengthOf (s.programs.insert id program) s.nextId)) =
        (s.cursors.insert s.nextId (.fresh (s.programs.lengthOf s.nextId))).insert id
          (.fresh program.length) := by
    rw [Programs.lengthOf_insert]
    by_cases same : id = s.nextId
    · rw [if_pos same, same, IdMap.insert_insert, IdMap.insert_insert]
    · rw [if_neg same, IdMap.insert_comm _ same]
  simp only [addActor, install, cursors]

theorem addActor_place (old : id ≠ s.nextId) (px py x y : Float) :
    (s.place id px py).addActor x y = (s.addActor x y).place id px py := by
  simp only [addActor, place, IdMap.adjust_insert _ old]

theorem install_comm (apart : id ≠ key) (program other : Program) :
    (s.install id program).install key other = (s.install key other).install id program := by
  simp only [install, IdMap.insert_comm _ apart, IdMap.erase_comm s.held id]

theorem place_comm (apart : id ≠ key) (px py x y : Float) :
    (s.place id px py).place key x y = (s.place key x y).place id px py := by
  simp only [place, IdMap.adjust_comm _ apart]

theorem contains_actors_place (id key : ActorId) (x y : Float) :
    (s.place id x y).actors.contains key = s.actors.contains key := by
  simp only [place, IdMap.contains, IdMap.get?_adjust]
  split <;> simp

end Scene

theorem Bubbles.cancel_comm (b : Bubbles) (id key : ActorId) :
    (b.cancel id).cancel key = (b.cancel key).cancel id := by
  simp only [cancel, IdMap.erase_comm _ id]

/-- Do both let an actor enter, give a program to the same id, or move the same actor? -/
def Action.rivals : Action → Action → Bool
  | .addActorAt _ _, .addActorAt _ _ => true
  | .setProgram id _, .setProgram key _ => id = key
  | .setProgram id _, .install key _ => id = key
  | .install id _, .setProgram key _ => id = key
  | .install id _, .install key _ => id = key
  | .place id _ _, .place key _ _ => id = key
  | _, _ => false

/-! ## Stages -/

namespace Stage

variable {s t u : Stage} {a b : Action} {id key : ActorId}

/-- The edits of the scene of a stage. Only an actor that is there is moved. -/
inductive EditsScene (s : Stage) : Action → Prop where
  | enter (x y : Float) : EditsScene s (.addActorAt x y)
  | script (id : ActorId) (tokens : List String) : EditsScene s (.setProgram id tokens)
  | install (id : ActorId) (program : Program) : EditsScene s (.install id program)
  | place {id : ActorId} (known : s.world.scene.actors.contains id = true) (x y : Float) :
    EditsScene s (.place id x y)

/-- Two actions lead to the same stage in either order, and each has the same answer in both. -/
def Interchange (s : Stage) (a b : Action) : Prop :=
  ∃ t u final answerA answerB,
    s.perform a = some (t, answerA) ∧ t.perform b = some (final, answerB) ∧
      s.perform b = some (u, answerB) ∧ u.perform a = some (final, answerA)

theorem Interchange.symm (both : s.Interchange a b) : s.Interchange b a := by
  obtain ⟨t, u, final, answerA, answerB, first, second, first', second'⟩ := both
  exact ⟨u, t, final, answerB, answerA, first', second', first, second⟩

theorem perform_place_of_running (running : s.running = true) (id : ActorId) (x y : Float) :
    s.perform (.place id x y) = some (s, .notPlaced .running) := by
  simp [perform, place, running, throw, throwThe, MonadExceptOf.throw, bind, Except.bind]

theorem perform_place_of_stopped (stopped : s.running = false)
    (known : s.world.scene.actors.contains id = true) (x y : Float) :
    s.perform (.place id x y) =
      some ({ s with world.scene := s.world.scene.place id x y }, .done) := by
  have found : s.place id x y = .ok { s with world.scene := s.world.scene.place id x y } :=
    place_eq_ok_iff.2 ⟨stopped, known, rfl⟩
  simp only [perform, found]

theorem interchange_enter_install (s : Stage) (x y : Float) (id : ActorId) (program : Program) :
    s.Interchange (.addActorAt x y) (.install id program) := by
  refine ⟨_, _, _, _, _, rfl, rfl, rfl, ?_⟩
  have same := s.world.scene.addActor_install id program x y
  simp only [perform, addActorAt, install, World.install, same]
  rfl

theorem interchange_install_install (s : Stage) (apart : id ≠ key) (program other : Program) :
    s.Interchange (.install id program) (.install key other) := by
  refine ⟨_, _, _, _, _, rfl, rfl, rfl, ?_⟩
  simp only [perform, install, World.install, s.world.scene.install_comm apart program other,
    s.world.bubbles.cancel_comm id key]

/-- On a running stage nobody is moved, in either order. -/
theorem interchange_place_of_running (running : s.running = true) {answer : Reply} (x y : Float)
    (done : s.perform a = some (t, answer)) (still : t.running = true) :
    s.Interchange a (.place id x y) :=
  ⟨t, s, t, answer, _, done, perform_place_of_running still id x y,
    perform_place_of_running running id x y, done⟩

theorem interchange_enter_place (cast : s.WellCast)
    (known : s.world.scene.actors.contains id = true) (x y px py : Float) :
    s.Interchange (.addActorAt x y) (.place id px py) := by
  cases running : s.running with
  | true => exact interchange_place_of_running running px py rfl running
  | false =>
    have old : id ≠ s.world.scene.nextId := by
      rintro rfl
      exact ActorId.lt_irrefl _ ((cast.entered _).1 known)
    have still : (s.addActorAt x y).1.world.scene.actors.contains id = true := by
      change (s.world.scene.actors.insert _ _).contains id = true
      rw [IdMap.contains_insert, known, Bool.or_true]
    have second := perform_place_of_stopped (s := (s.addActorAt x y).1) running still px py
    refine ⟨_, _, _, _, _, rfl, second, perform_place_of_stopped running known px py, ?_⟩
    simp only [perform, addActorAt, s.world.scene.addActor_place old]
    rfl

theorem interchange_install_place (known : s.world.scene.actors.contains key = true)
    (id : ActorId) (program : Program) (x y : Float) :
    s.Interchange (.install id program) (.place key x y) := by
  cases running : s.running with
  | true => exact interchange_place_of_running running x y rfl running
  | false =>
    have second := perform_place_of_stopped (s := s.install id program) running known x y
    exact ⟨_, _, _, _, _, rfl, second, perform_place_of_stopped running known x y, rfl⟩

theorem interchange_place_place (apart : id ≠ key)
    (first : s.world.scene.actors.contains id = true)
    (second : s.world.scene.actors.contains key = true) (px py x y : Float) :
    s.Interchange (.place id px py) (.place key x y) := by
  cases running : s.running with
  | true =>
    exact interchange_place_of_running running x y (perform_place_of_running running id px py)
      running
  | false =>
    let moved := { s with world.scene := s.world.scene.place id px py }
    let moved' := { s with world.scene := s.world.scene.place key x y }
    have still : moved.world.scene.actors.contains key = true :=
      (Scene.contains_actors_place _ id key px py).trans second
    have still' : moved'.world.scene.actors.contains id = true :=
      (Scene.contains_actors_place _ key id x y).trans first
    refine ⟨moved, moved', _, _, _, perform_place_of_stopped running first px py,
      perform_place_of_stopped (s := moved) running still x y,
      perform_place_of_stopped running second x y, ?_⟩
    rw [perform_place_of_stopped (s := moved') running still' px py]
    simp only [moved, moved', s.world.scene.place_comm apart]

/-- Two edits of the scene can be done in either order, unless both let an actor enter, give a
program to the same id, or move the same actor. So a program can be installed before its actor
enters. -/
theorem edits_interchange (reachable : s.Reachable) :
    (∀ a b, s.EditsScene a → s.EditsScene b → a.rivals b = false → s.Interchange a b) ∧
      ∀ x y tokens, ((s.setProgram s.world.scene.nextId tokens).addActorAt x y).1 =
        (s.addActorAt x y).1.setProgram s.world.scene.nextId tokens := by
  have cast := reachable.wellCast
  constructor
  · intro a b first second apart
    cases first with
    | enter x y =>
      cases second with
      | enter _ _ => cases apart
      | script id _ | install id _ => exact interchange_enter_install s x y id _
      | place known px py => exact interchange_enter_place cast known x y px py
    | script id _ | install id _ =>
      cases second with
      | enter x y => exact (interchange_enter_install s x y id _).symm
      | script key _ | install key _ =>
        exact interchange_install_install s (of_decide_eq_false apart) _ _
      | place known x y => exact interchange_install_place known id _ x y
    | place known px py =>
      cases second with
      | enter x y => exact (interchange_enter_place cast known x y px py).symm
      | script id _ | install id _ => exact (interchange_install_place known id _ px py).symm
      | place other x y =>
        exact interchange_place_place (of_decide_eq_false apart) known other px py x y
  · intro x y tokens
    have same := s.world.scene.addActor_install s.world.scene.nextId (.ofTokens tokens) x y
    simp only [setProgram, addActorAt, install, World.install, same]

/-- While the actor of `greeting` speaks, a program is installed for the next actor. After a stop
the speaker is moved and given another program. -/
theorem edits_interchange_greeting :
    greeting.Reachable ∧
      greeting.Interchange (.setProgram ⟨1⟩ ["X_5", "REP"]) (.addActorAt 300.0 300.0) ∧
      greeting.stop.Interchange (.place ⟨0⟩ 50.0 60.0) (.setProgram ⟨0⟩ ["ROT_90"]) := by
  have known : greeting.stop.world.scene.actors.contains ⟨0⟩ = true := by decide +kernel
  have stopped : greeting.stop.Reachable := reachable_greeting.act .stop rfl rfl
  refine ⟨reachable_greeting, ?_, ?_⟩
  · exact (edits_interchange reachable_greeting).1 _ _ (.script _ _) (.enter _ _) rfl
  · exact (edits_interchange stopped).1 _ _ (.place known _ _) (.script _ _) rfl

end Stage

end Playhouse
