import Playhouse.Proofs.Stage.Placement
import Playhouse.Stage.Scenario

/-!
# Random positions

The random positions on a stage come from one sequence that its seed and its canvas decide
(`Config.entrant`). `Stage.HasDrawn` counts how many of them have been drawn since the stage was
made or last reset; nothing but the entry of an actor at a random position draws one, and a snapshot
takes the count along. So the next one is always the one of that number, whatever else has been done
(`Stage.HasDrawn.addActor_eq_entrant`).

In a scenario the number is that of the parts before it that have no position
(`Scenario.entrant_of_build`).
-/

namespace Playhouse

namespace Random

/-- A position from the origin to the greatest coordinates. -/
def position (r : Random) (b : Bounds) : Option (Point × Random) := do
  let (x, r) ← r.upTo b.maxX
  let (y, r) ← r.upTo b.maxY
  pure (⟨x, y⟩, r)

/-- The source that is left after `k` positions. -/
def afterPositions (r : Random) (b : Bounds) : Nat → Option Random
  | 0 => some r
  | k + 1 => (r.afterPositions b k).bind fun r => (r.position b).map (·.2)

/-- The position that comes after `k` others. -/
def nthPosition (r : Random) (b : Bounds) (k : Nat) : Option Point :=
  (r.afterPositions b k).bind fun r => (r.position b).map (·.1)

end Random

/-- The actor that enters with an id at the position that comes after `k` others in the sequence of
a configuration. -/
def Config.entrant (c : Config) (k : Nat) (id : ActorId) : Option Actor :=
  ((Random.ofSeed c.seed).nthPosition c.bounds k).map fun p =>
    ⟨id, c.bounds.clampX p.x, c.bounds.clampY p.y, 0.0⟩

/-- Leaves the source of random positions alone. -/
def Action.sparesRandom : Action → Bool
  | .addActor | .reset | .restore _ => false
  | _ => true

/-- How many random positions have been drawn since the last reset, after one more action. -/
def Action.draws (k : Nat) : Action → Nat
  | .addActor => k + 1
  | .reset => 0
  | _ => k

namespace Stage

variable {s t u : Stage} {k : Nat}

/-- So many random positions have been drawn since the stage was made or last reset. A restored
stage has drawn as many as the one on which its snapshot was captured. -/
inductive HasDrawn : Nat → Stage → Prop where
  | new {config : Config} {s : Stage} (made : Stage.new config = .ok s) : HasDrawn 0 s
  | reset {s : Stage} (before : s.Reachable) : HasDrawn 0 s.reset
  | enter {k : Nat} {s t : Stage} {id : ActorId} (before : HasDrawn k s)
    (entered : s.addActor = some (t, id)) : HasDrawn (k + 1) t
  | perform {k : Nat} {s t : Stage} {action : Action} {reply : Reply} (before : HasDrawn k s)
    (spares : action.sparesRandom = true) (done : s.perform action = some (t, reply)) :
    HasDrawn k t
  | restore {k : Nat} {s source : Stage} (captured : HasDrawn k source) :
    HasDrawn k (s.restore source.capture).1

/-! ## Counting -/

theorem HasDrawn.reachable (drawn : s.HasDrawn k) : s.Reachable := by
  induction drawn with
  | new made => exact .new made
  | reset before => exact before.act .reset rfl rfl
  | enter _ entered ih => exact ih.act .addActor rfl (by rw [Stage.perform, entered]; rfl)
  | @perform k s t action reply _ spares done ih =>
    refine ih.act action ?_ done
    cases action <;> first | rfl | cases spares
  | @restore k s source _ ih =>
    rw [restore_capture s ih.sound.valid, ← restore_capture source ih.sound.valid]
    exact .restore ih ih trivial

/-- After an action that does not return to a snapshot. -/
theorem HasDrawn.act (drawn : s.HasDrawn k) (action : Action) {reply : Reply}
    (own : action.restores = false) (done : s.perform action = some (t, reply)) :
    t.HasDrawn (action.draws k) := by
  cases action with
  | addActor =>
    obtain ⟨⟨_, id⟩, entered, same⟩ := Option.map_eq_some_iff.1 done
    cases same
    exact drawn.enter entered
  | reset =>
    cases done
    exact .reset drawn.reachable
  | restore snapshot => cases own
  | _ => exact drawn.perform rfl done

theorem HasDrawn.performAll {actions : List Action} {log : List (Reply × String)}
    (drawn : s.HasDrawn k) (own : ∀ action ∈ actions, action.restores = false)
    (done : s.performAll actions = some (t, log)) : t.HasDrawn (actions.foldl Action.draws k) := by
  induction actions generalizing s k log with
  | nil =>
    cases done
    exact drawn
  | cons action later ih =>
    obtain ⟨first, own⟩ := List.forall_mem_cons.1 own
    obtain ⟨⟨u, reply⟩, performed, ended⟩ := Option.bind_eq_some_iff.1 done
    obtain ⟨⟨final, log⟩, rest, same⟩ := Option.bind_eq_some_iff.1 ended
    cases same
    exact ih (drawn.act action first performed) own rest

theorem Reachable.exists_hasDrawn (reachable : s.Reachable) : ∃ k, s.HasDrawn k := by
  induction reachable with
  | new made => exact ⟨0, .new made⟩
  | perform _ _ own done ih =>
    obtain ⟨k, drawn⟩ := ih
    exact ⟨_, drawn.act _ own done⟩
  | restore _ _ _ _ ih =>
    obtain ⟨k, drawn⟩ := ih
    exact ⟨k, drawn.restore⟩

/-! ## The source -/

theorem addActor_eq (s : Stage) :
    s.addActor = (s.random.position s.world.scene.bounds).map fun (p, random) =>
      { s with random }.addActorAt p.x p.y := by
  simp only [addActor, Random.position, Option.bind_eq_bind]
  cases s.random.upTo s.world.scene.bounds.maxX with
  | none => rfl
  | some drawn =>
    obtain ⟨x, random⟩ := drawn
    simp only [Option.bind_some]
    cases random.upTo s.world.scene.bounds.maxY with
    | none => rfl
    | some drawn => rfl

theorem random_tick (s : Stage) : s.tick.1.random = s.random := by
  unfold tick
  split <;> rfl

/-- Programs, ticks and explicit positions draw nothing. -/
theorem random_perform {action : Action} {reply : Reply} (spares : action.sparesRandom = true)
    (done : s.perform action = some (t, reply)) : t.random = s.random := by
  cases action with
  | addActorAt x y | addDefaultActors | setProgram id tokens | install id program =>
    cases done
    rfl
  | place id x y =>
    simp only [Stage.perform] at done
    split at done
    · rename_i found
      cases done
      obtain ⟨-, -, rfl⟩ := place_eq_ok_iff.1 found
      rfl
    · cases done
      rfl
  | start =>
    cases done
    unfold start
    split <;> rfl
  | stop =>
    cases done
    unfold stop
    split <;> rfl
  | tick =>
    cases done
    exact random_tick s
  | run n =>
    have ran : (s.run n).1 = t := congrArg Prod.fst (Option.some.inj done)
    rw [← ran]
    exact run_of_tick (I := fun u => u.random = s.random)
      (fun u same => (random_tick u).trans same) n rfl
  | addActor | reset | restore snapshot => cases spares

theorem config_perform {action : Action} {reply : Reply} (own : action.restores = false)
    (done : s.perform action = some (t, reply)) : t.config = s.config :=
  (kept_setting fun config _ => config = s.config).perform own done rfl

/-- The source is the one that is left of a new one after so many positions. -/
theorem HasDrawn.random_eq (drawn : s.HasDrawn k) :
    (Random.ofSeed s.config.seed).afterPositions s.config.bounds k = some s.random := by
  induction drawn with
  | new made =>
    obtain ⟨-, rfl⟩ := new_eq_ok_iff.1 made
    rfl
  | reset _ => rfl
  | @enter k s t id before entered ih =>
    rw [addActor_eq, before.reachable.bounds_eq] at entered
    obtain ⟨⟨p, random⟩, found, same⟩ := Option.map_eq_some_iff.1 entered
    cases same
    change (Random.ofSeed s.config.seed).afterPositions s.config.bounds (k + 1) = some random
    rw [Random.afterPositions, ih, Option.bind_some, found]
    rfl
  | @perform k s t action reply _ spares done ih =>
    have own : action.restores = false := by
      cases action <;> first | rfl | cases spares
    rw [random_perform spares done, config_perform own done]
    exact ih
  | @restore k s source captured ih =>
    rw [restore_capture s captured.reachable.sound.valid]
    exact ih

/-! ## Entrances -/

theorem HasDrawn.nthPosition_eq (drawn : s.HasDrawn k) :
    (Random.ofSeed s.config.seed).nthPosition s.config.bounds k =
      (s.random.position s.config.bounds).map (·.1) := by
  rw [Random.nthPosition, drawn.random_eq, Option.bind_some]

/-- The actor that enters at a random position is the one with its number. Nobody enters if there is
no such position. -/
theorem HasDrawn.addActor_eq_entrant (drawn : s.HasDrawn k) :
    s.addActor.map (fun (t, id) => (id, t.world.scene.actors.get? id)) =
      (s.config.entrant k s.world.scene.nextId).map fun actor => (actor.id, some actor) := by
  rw [Config.entrant, drawn.nthPosition_eq, addActor_eq, ← drawn.reachable.bounds_eq]
  cases s.random.position s.world.scene.bounds with
  | none => rfl
  | some found =>
    obtain ⟨p, random⟩ := found
    have entered := get?_addActorAt { s with random } p.x p.y s.world.scene.nextId
    rw [if_pos rfl] at entered
    exact congrArg (fun actor? => some (s.world.scene.nextId, actor?)) entered

end Stage

/-! ## Scenarios -/

namespace Scenario

open Stage

variable {s t : Stage} {part : Part} {parts : List Part} {k n : Nat}

/-- How many of the parts have no position. -/
def drawsOf (parts : List Part) : Nat :=
  parts.countP (·.position.isNone)

/-- The actor of a part has entered. All others are where they were. -/
structure Enters (s : Stage) (k : Nat) (part : Part) (t : Stage) : Prop where
  drawn : t.HasDrawn (k + drawsOf [part])
  config_eq : t.config = s.config
  nextId_eq : t.world.scene.nextId = s.world.scene.nextId.next
  others : ∀ id, id ≠ s.world.scene.nextId →
    t.world.scene.actors.get? id = s.world.scene.actors.get? id
  entrant : part.position = none → ∃ actor, s.config.entrant k s.world.scene.nextId = some actor ∧
    t.world.scene.actors.get? s.world.scene.nextId = some actor

theorem drawsOf_cons (part : Part) (parts : List Part) :
    drawsOf (part :: parts) = drawsOf [part] + drawsOf parts := by
  rw [drawsOf, ← List.singleton_append, List.countP_append]
  rfl

theorem enters_of_position (drawn : s.HasDrawn k) {x y : Float}
    (placed : part.position = some (x, y)) :
    Enters s k part ((s.addActorAt x y).1.setProgram s.world.scene.nextId part.tokens) where
  drawn := by
    have count : drawsOf [part] = 0 := by simp [drawsOf, placed]
    rw [count]
    exact (drawn.act (.addActorAt x y) rfl rfl).act
      (.setProgram s.world.scene.nextId part.tokens) rfl rfl
  config_eq := rfl
  nextId_eq := rfl
  others := fun _ => get?_addActorAt_of_ne s x y
  entrant := fun unplaced => by rw [placed] at unplaced; cases unplaced

theorem enters_at_random (drawn : s.HasDrawn k) (unplaced : part.position = none) {u : Stage}
    {id : ActorId} (entered : s.addActor = some (u, id)) :
    Enters s k part (u.setProgram id part.tokens) := by
  have same := drawn.addActor_eq_entrant
  rw [entered] at same
  obtain ⟨actor, found, same⟩ := Option.map_eq_some_iff.1 same.symm
  have count : drawsOf [part] = 1 := by simp [drawsOf, unplaced]
  have drawn : (u.setProgram id part.tokens).HasDrawn (k + drawsOf [part]) := by
    rw [count]
    exact (drawn.enter entered).act (.setProgram id part.tokens) rfl rfl
  obtain ⟨x, y, _, random, -, -, here⟩ := addActor_eq_some entered
  cases here
  exact {
    drawn
    config_eq := rfl
    nextId_eq := rfl
    others := fun _ => get?_addActorAt_of_ne { s with random } x y
    entrant := fun _ => ⟨actor, found, (Prod.mk.inj same).2.symm⟩ }

theorem enters_of_addPart (drawn : s.HasDrawn k) (added : addPart s part = .ok t) :
    Enters s k part t := by
  unfold addPart at added
  cases placed : part.position with
  | some place =>
    rw [placed] at added
    cases added
    exact enters_of_position drawn placed
  | none =>
    rw [placed] at added
    dsimp only at added
    cases result : s.addActor with
    | none =>
      rw [result] at added
      cases added
    | some entered =>
      rw [result] at added
      cases added
      exact enters_at_random drawn placed result

/-- A part is where it entered when all the parts behind it have entered. -/
theorem entrant_of_foldlM (drawn : s.HasDrawn k) (index : s.world.scene.nextId.index = n)
    (built : parts.foldlM addPart s = .ok t) :
    (∀ id : ActorId, id.index < n →
      t.world.scene.actors.get? id = s.world.scene.actors.get? id) ∧
    ∀ before part after, parts = before ++ part :: after → part.position = none →
      ∃ actor, s.config.entrant (k + drawsOf before) ⟨n + before.length⟩ = some actor ∧
        t.world.scene.actors.get? ⟨n + before.length⟩ = some actor := by
  induction parts generalizing s k n with
  | nil =>
    cases built
    refine ⟨fun _ _ => rfl, fun before part after split => ?_⟩
    simp at split
  | cons first parts ih =>
    rw [List.foldlM_cons] at built
    obtain ⟨u, added, built⟩ := exists_of_bind_eq_ok built
    have enters := enters_of_addPart drawn added
    have next : u.world.scene.nextId.index = n + 1 := by
      rw [enters.nextId_eq, ← index]
      rfl
    obtain ⟨stay, later⟩ := ih enters.drawn next built
    have old : ∀ id : ActorId, id.index < n → id ≠ s.world.scene.nextId := by
      rintro id less rfl
      omega
    refine ⟨fun id less => (stay id (by omega)).trans (enters.others id (old id less)), ?_⟩
    intro before part after split unplaced
    cases before with
    | nil =>
      obtain ⟨rfl, rfl⟩ := List.cons.inj split
      obtain ⟨actor, found, here⟩ := enters.entrant unplaced
      have own : s.world.scene.nextId = ⟨n⟩ := ActorId.index_inj.1 index
      rw [own] at found here
      exact ⟨actor, found, (stay ⟨n⟩ (Nat.lt_succ_self n)).trans here⟩
    | cons _ before =>
      obtain ⟨rfl, rest⟩ := List.cons.inj split
      obtain ⟨actor, found, here⟩ := later before part after rest unplaced
      rw [enters.config_eq] at found
      rw [drawsOf_cons, List.length_cons, ← Nat.add_assoc, Nat.add_comm before.length 1,
        ← Nat.add_assoc]
      exact ⟨actor, found, here⟩

theorem entrant_of_build {scenario : Scenario} (built : scenario.build = .ok t)
    {before after : List Part} (split : scenario.parts = before ++ part :: after)
    (unplaced : part.position = none) :
    ∃ actor, scenario.config.entrant (drawsOf before) ⟨before.length⟩ = some actor ∧
      t.world.scene.actors.get? ⟨before.length⟩ = some actor := by
  obtain ⟨s, made, built⟩ := exists_of_bind_eq_ok built
  have made := eq_ok_of_mapError made
  obtain ⟨-, rfl⟩ := new_eq_ok_iff.1 made
  have cast : scenario.parts.isEmpty = false := by simp [split]
  rw [cast] at built
  obtain ⟨-, found⟩ := entrant_of_foldlM (n := 0) (.new made) rfl built
  have found := found before part after split unplaced
  rw [Nat.zero_add, Nat.zero_add] at found
  exact found

end Scenario

/-- The random positions of a stage are those of the sequence that its configuration decides, one
after the other. Whatever is done between two of them, and wherever a snapshot is restored between
them, they follow each other; a scenario takes as many as it has parts without a position. -/
theorem random_positions_in_order :
    (∀ s : Stage, s.Reachable → ∃ k, s.HasDrawn k) ∧
    (∀ (s t : Stage) (k : Nat) (actions : List Action) (log : List (Reply × String)),
      s.HasDrawn k → (∀ action ∈ actions, action.restores = false) →
        s.performAll actions = some (t, log) → t.HasDrawn (actions.foldl Action.draws k)) ∧
    (∀ (s : Stage) (k : Nat), s.HasDrawn k →
      s.addActor.map (fun (t, id) => (id, t.world.scene.actors.get? id)) =
        (s.config.entrant k s.world.scene.nextId).map fun actor => (actor.id, some actor)) ∧
    ∀ (scenario : Scenario) (t : Stage), scenario.build = .ok t →
      ∀ before part after, scenario.parts = before ++ part :: after → part.position = none →
        ∃ actor, scenario.config.entrant (Scenario.drawsOf before) ⟨before.length⟩ = some actor ∧
          t.world.scene.actors.get? ⟨before.length⟩ = some actor :=
  ⟨fun _ => Stage.Reachable.exists_hasDrawn, fun _ _ _ _ _ => Stage.HasDrawn.performAll,
    fun _ _ => Stage.HasDrawn.addActor_eq_entrant,
    fun _ _ built _ _ _ => Scenario.entrant_of_build built⟩

/-- Two actors without a position, and one with a position between them. -/
def rehearsed : Scenario :=
  ⟨.default, [⟨none, ["X_5"]⟩, ⟨some (10.0, 20.0), []⟩, ⟨none, []⟩], 3⟩

/-- The second actor without a position is the same one on a stage that goes on from a snapshot and
in a scenario. -/
theorem random_positions_in_order_rehearsed :
    (∃ t branch, Stage.greeting.addActor = some (t, ⟨1⟩) ∧
      (Stage.fresh .default).restore t.capture = (branch, none) ∧ branch.HasDrawn 1 ∧
      branch.addActor.map (fun (u, id) => (id, u.world.scene.actors.get? id)) =
        (Config.default.entrant 1 ⟨2⟩).map fun actor => (actor.id, some actor)) ∧
    ∃ t, rehearsed.build = .ok t ∧ ∃ actor, Config.default.entrant 1 ⟨2⟩ = some actor ∧
      t.world.scene.actors.get? ⟨2⟩ = some actor := by
  obtain ⟨-, -, enters, parts⟩ := random_positions_in_order
  constructor
  · have new : (Stage.fresh .default).HasDrawn 0 := .new (Stage.new_eq_ok_iff.2 ⟨rfl, rfl⟩)
    have added := new.act (.addActorAt 10.0 20.0) rfl rfl
    have installed := added.act (.install ⟨0⟩ [.speak .say "hello" 2.0, .move 5.0 0.0]) rfl rfl
    have drawn : Stage.greeting.HasDrawn 0 := (installed.act .start rfl rfl).act .tick rfl rfl
    have isSome : Stage.greeting.addActor.isSome = true := by decide +kernel
    obtain ⟨⟨t, id⟩, entered⟩ := Option.isSome_iff_exists.1 isSome
    obtain ⟨_, _, _, _, -, -, same⟩ := Stage.addActor_eq_some entered
    cases same
    have once := drawn.enter entered
    have restored := Stage.restore_capture (Stage.fresh .default) once.reachable.sound.valid
    have branch := once.restore (s := Stage.fresh .default)
    rw [restored] at branch
    exact ⟨_, _, entered, restored, branch, enters _ 1 branch⟩
  · have isSome : rehearsed.build.toOption.isSome = true := by decide +kernel
    cases built : rehearsed.build with
    | error e =>
      rw [built] at isSome
      cases isSome
    | ok t => exact ⟨t, rfl, parts rehearsed t built [_, _] _ [] rfl rfl⟩

end Playhouse
