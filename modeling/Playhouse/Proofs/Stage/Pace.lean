import Playhouse.Proofs.Stage.Intermission
import Playhouse.Proofs.Stage.Quiet
import Playhouse.Proofs.Tick.Exchange

/-!
# The pace of a stage

The seconds that a tick takes decide when a bubble goes, and nothing else. So they have no influence
on a stage on which nobody speaks: another pace, and another offset of bubbles, lead to the same
scene, the same random numbers and the same reports (`pace_without_influence`).

A world is `Mute` if it has no bubbles and none of its programs has a speech. A collision exchanges
programs but makes none, so a mute world stays mute, and what happens in a tick of it depends on its
scene alone (`World.Mute.tick_congr`).
-/

namespace Playhouse

/-- Is there no speech in the program? -/
def Program.isMute (p : Program) : Bool :=
  p.all fun block => !block.isSpeech

/-- Installs no program with a speech, and returns to no snapshot. -/
def Action.isMute : Action → Bool
  | .setProgram _ tokens => (Program.ofTokens tokens).isMute
  | .install _ program => program.isMute
  | .restore _ => false
  | _ => true

/-! ## Mute worlds -/

namespace World

variable {w v : World} {offset offset' now now' : Float}

/-- Nobody speaks, and no program lets anybody speak. -/
structure Mute (w : World) : Prop where
  live_eq : w.bubbles.live = ∅
  paused_eq : w.bubbles.paused = ∅
  programs : ∀ id program, w.scene.programs.get? id = some program → program.isMute = true

namespace Mute

theorem empty (bounds : Bounds) : Mute ⟨.empty bounds, ∅⟩ :=
  ⟨rfl, rfl, nofun⟩

theorem expired_eq_nil (mute : w.Mute) (now : Float) : w.bubbles.expired now = [] := by
  rw [List.eq_nil_iff_forall_not_mem]
  intro id mem
  obtain ⟨-, bubble, live, -⟩ := Bubbles.mem_expired_iff.1 mem
  rw [mute.live_eq] at live
  cases live

theorem isPaused_eq (mute : w.Mute) (id : ActorId) : w.bubbles.isPaused id = false := by
  rw [Bubbles.isPaused, mute.paused_eq]
  rfl

theorem isSpeech_of_nextBlock (mute : w.Mute) {id : ActorId} {cursor : Cursor} {block : Block}
    (next : w.scene.nextBlock id = some (cursor, block)) : block.isSpeech = false := by
  obtain ⟨-, -, program, installed, found⟩ := Scene.nextBlock_eq_some_iff.1 next
  have plain := List.all_eq_true.1 (mute.programs id program installed) block
    (List.mem_of_getElem? found)
  simpa using plain

/-- Who does not speak looks neither at the time nor at the bubbles. -/
theorem enact_of_plain {block : Block} (plain : block.isSpeech = false) (w : World)
    (offset now : Float) (id : ActorId) (actor : Actor) (heading : Heading) :
    w.enact offset now id actor heading block =
      .motion (.of w.scene.bounds id actor heading block) := by
  cases block with
  | speak kind text seconds => cases plain
  | move _ _ | turn _ | restart => rfl

theorem act_congr (mute : w.Mute) (mute' : v.Mute) (scene : w.scene = v.scene) (id : ActorId)
    (actor : Actor) : w.act offset now id actor = v.act offset' now' id actor := by
  rw [act, act, mute.isPaused_eq, mute'.isPaused_eq, scene]
  cases next : v.scene.nextBlock id with
  | none => simp only [Option.map_none]
  | some found =>
    have plain := mute'.isSpeech_of_nextBlock next
    simp only [Option.map_some, enact_of_plain plain, scene]

theorem acts_congr (mute : w.Mute) (mute' : v.Mute) (scene : w.scene = v.scene) :
    w.acts offset now = v.acts offset' now' := by
  rw [acts, acts, scene]
  exact congrArg (List.filterMap · _) (funext fun p => mute.act_congr mute' scene p.1 p.2)

/-- Neither the time nor the offset of bubbles makes a difference. -/
theorem tick_congr (mute : w.Mute) (mute' : v.Mute) (scene : w.scene = v.scene)
    (offset offset' now now' : Float) :
    (w.tick offset now).1.scene = (v.tick offset' now').1.scene ∧
      (w.tick offset now).2 = (v.tick offset' now').2 := by
  have none := mute.expired_eq_nil now
  have none' := mute'.expired_eq_nil now'
  have acts : w.acts offset now = v.acts offset' now' := mute.acts_congr mute' scene
  simp only [World.tick, awake_of_none_expired none, awake_of_none_expired none', none, none', acts,
    scene, and_self]

theorem speeches_eq_nil (mute : w.Mute) (offset now : Float) : w.speeches offset now = [] := by
  rw [List.eq_nil_iff_forall_not_mem]
  rintro ⟨id, bubble⟩ mem
  obtain ⟨actor, cursor, program, kind, text, seconds, ready, -⟩ :=
    actOf_eq_speech (mem_speeches_iff.1 mem)
  have next : w.scene.nextBlock id = some (cursor, .speak kind text seconds) :=
    Scene.nextBlock_eq_some_iff.2
      ⟨ready.cursor_eq, ready.not_idle, program, ready.program_eq, ready.block_eq⟩
  cases mute.isSpeech_of_nextBlock next

theorem bubbles_tick (mute : w.Mute) (offset now : Float) :
    (w.tick offset now).1.bubbles = w.bubbles := by
  rw [tick_eq_play, awake_of_none_expired (mute.expired_eq_nil now), play,
    mute.speeches_eq_nil offset now]
  rfl

/-- Programs change hands in a tick, but they are the same programs. -/
theorem tick (mute : w.Mute) (offset now : Float) : (w.tick offset now).1.Mute := by
  have bubbles := mute.bubbles_tick offset now
  refine ⟨bubbles ▸ mute.live_eq, bubbles ▸ mute.paused_eq, fun id program found => ?_⟩
  have mem := (w.values_programs_tick offset now).mem_iff.1 (IdMap.mem_values_iff.2 ⟨id, found⟩)
  obtain ⟨key, installed⟩ := IdMap.mem_values_iff.1 mem
  exact mute.programs key program installed

theorem scene (mute : w.Mute) {scene : Scene} (same : scene.programs = w.scene.programs) :
    Mute { w with scene } :=
  ⟨mute.live_eq, mute.paused_eq, same ▸ mute.programs⟩

theorem install (mute : w.Mute) (id : ActorId) {program : Program} (plain : program.isMute = true) :
    (w.install id program).Mute where
  live_eq := by
    change w.bubbles.live.erase id = ∅
    rw [mute.live_eq]
    rfl
  paused_eq := by
    change w.bubbles.paused.erase id = ∅
    rw [mute.paused_eq]
    rfl
  programs := by
    intro key found installed
    change (w.scene.programs.insert id program).get? key = some found at installed
    rw [IdMap.get?_insert] at installed
    split at installed
    · cases installed
      exact plain
    · exact mute.programs key found installed

theorem suspend (mute : w.Mute) (now : Float) :
    Mute { w with bubbles := w.bubbles.suspend now } :=
  ⟨mute.live_eq, mute.paused_eq, mute.programs⟩

theorem resume (mute : w.Mute) (now : Float) : Mute { w with bubbles := w.bubbles.resume now } := by
  unfold Bubbles.resume
  split
  · exact mute
  · refine ⟨?_, mute.paused_eq, mute.programs⟩
    simp only [mute.live_eq]
    rfl

end Mute

end World

namespace Stage

variable {s t : Stage}

/-! ## Two stages in step -/

/-- The same scene, the same random numbers to come and the same number of ticks played. -/
structure Resembles (s t : Stage) : Prop where
  scene_eq : s.world.scene = t.world.scene
  random_eq : s.random = t.random
  ticks_eq : s.ticks = t.ticks

/-- The stages differ in nothing but the times of their ticks and the places of bubbles, and nobody
speaks on them. -/
structure InStep (s t : Stage) : Prop extends s.Resembles t where
  bounds_eq : s.config.bounds = t.config.bounds
  seed_eq : s.config.seed = t.config.seed
  running_eq : s.running = t.running
  mute : s.world.Mute
  mute' : t.world.Mute

namespace InStep

theorem draw (inStep : s.InStep t) (random : Random) :
    InStep { s with random } { t with random } :=
  { inStep with random_eq := rfl }

theorem addActorAt (inStep : s.InStep t) (x y : Float) :
    (s.addActorAt x y).1.InStep (t.addActorAt x y).1 ∧
      (s.addActorAt x y).2 = (t.addActorAt x y).2 :=
  ⟨{ inStep with
      scene_eq := congrArg (·.addActor x y) inStep.scene_eq
      mute := inStep.mute.scene rfl
      mute' := inStep.mute'.scene rfl },
    congrArg Scene.nextId inStep.scene_eq⟩

theorem install (inStep : s.InStep t) (id : ActorId) {program : Program}
    (plain : program.isMute = true) : (s.install id program).InStep (t.install id program) :=
  { inStep with
    scene_eq := congrArg (·.install id program) inStep.scene_eq
    mute := inStep.mute.install id plain
    mute' := inStep.mute'.install id plain }

/-- An actor is moved by hand on both stages or on neither of them. -/
theorem place (inStep : s.InStep t) (id : ActorId) (x y : Float) :
    (∃ u v, s.place id x y = .ok u ∧ t.place id x y = .ok v ∧ u.InStep v) ∨
      ∃ e, s.place id x y = .error e ∧ t.place id x y = .error e := by
  simp only [Stage.place, Scene.place?, ← inStep.running_eq, ← inStep.scene_eq]
  cases s.running with
  | true => exact .inr ⟨_, rfl, rfl⟩
  | false =>
    cases s.world.scene.actors.contains id with
    | false => exact .inr ⟨_, rfl, rfl⟩
    | true =>
      have programs : s.world.scene.programs = t.world.scene.programs :=
        congrArg Scene.programs inStep.scene_eq
      exact .inl ⟨_, _, rfl, rfl, { inStep with
        scene_eq := rfl
        running_eq := rfl
        mute := inStep.mute.scene rfl
        mute' := inStep.mute'.scene programs }⟩

theorem start (inStep : s.InStep t) : s.start.InStep t.start := by
  have running := inStep.running_eq
  unfold Stage.start
  rw [← running]
  split
  · exact inStep
  · exact { inStep with
      running_eq := rfl
      mute := inStep.mute.resume s.time
      mute' := inStep.mute'.resume t.time }

theorem stop (inStep : s.InStep t) : s.stop.InStep t.stop := by
  have running := inStep.running_eq
  unfold Stage.stop
  rw [← running]
  split
  · exact { inStep with
      running_eq := rfl
      mute := inStep.mute.suspend s.time
      mute' := inStep.mute'.suspend t.time }
  · exact inStep

theorem reset (inStep : s.InStep t) : s.reset.InStep t.reset where
  bounds_eq := inStep.bounds_eq
  seed_eq := inStep.seed_eq
  scene_eq := congrArg (fun scene : Scene => Scene.empty scene.bounds) inStep.scene_eq
  random_eq := congrArg Random.ofSeed inStep.seed_eq
  ticks_eq := rfl
  running_eq := rfl
  mute := .empty _
  mute' := .empty _

theorem tick (inStep : s.InStep t) : s.tick.1.InStep t.tick.1 ∧ s.tick.2 = t.tick.2 := by
  have running := inStep.running_eq
  obtain ⟨scene, report⟩ :=
    inStep.mute.tick_congr inStep.mute' inStep.scene_eq s.offset t.offset s.time t.time
  unfold Stage.tick
  rw [← running]
  split
  · refine ⟨{ inStep with
      scene_eq := scene
      ticks_eq := congrArg (· + 1) inStep.ticks_eq
      running_eq := rfl
      mute := inStep.mute.tick _ _
      mute' := inStep.mute'.tick _ _ }, report⟩
  · exact ⟨inStep, rfl⟩

theorem playTicks (inStep : s.InStep t) (n : Nat) :
    (s.playTicks n).InStep (t.playTicks n) ∧ s.reports n = t.reports n := by
  induction n generalizing s t with
  | zero => exact ⟨inStep, rfl⟩
  | succ n ih =>
    obtain ⟨next, report⟩ := inStep.tick
    obtain ⟨last, later⟩ := ih next
    exact ⟨last, by rw [reports, reports, report, later]⟩

theorem playedBy (inStep : s.InStep t) (action : Action) :
    s.playedBy action = t.playedBy action := by
  cases action with
  | tick => simp only [Stage.playedBy, inStep.running_eq, (inStep.playTicks 1).2]
  | run n => simp only [Stage.playedBy, inStep.running_eq, (inStep.playTicks n).2]
  | _ => rfl

/-- Stages in step answer alike and stay in step. -/
theorem perform (inStep : s.InStep t) {action : Action} (plain : action.isMute = true) :
    Option.Rel (fun p q => p.1.InStep q.1 ∧ p.2 = q.2) (s.perform action) (t.perform action) := by
  cases action with
  | addActor =>
    simp only [Stage.perform, addActor, Option.bind_eq_bind, ← inStep.scene_eq, ← inStep.random_eq]
    cases s.random.upTo s.world.scene.bounds.maxX with
    | none => exact .none
    | some drawn =>
      obtain ⟨x, random⟩ := drawn
      simp only [Option.bind_some]
      cases random.upTo s.world.scene.bounds.maxY with
      | none => exact .none
      | some drawn =>
        obtain ⟨entered, same⟩ := (inStep.draw drawn.2).addActorAt x drawn.1
        exact .some ⟨entered, congrArg (fun id => Reply.added [id]) same⟩
  | addActorAt x y =>
    obtain ⟨entered, same⟩ := inStep.addActorAt x y
    exact .some ⟨entered, congrArg (fun id => Reply.added [id]) same⟩
  | addDefaultActors =>
    simp only [Stage.perform, addDefaultActors, ← inStep.bounds_eq]
    generalize s.config.bounds = b
    obtain ⟨entered, first⟩ := inStep.addActorAt
      (b.canvas.width * 0.25 - b.actor.width / 2.0) (b.canvas.height / 2.0 - b.actor.height / 2.0)
    obtain ⟨entered, second⟩ := entered.addActorAt
      (b.canvas.width * 0.75 - b.actor.width / 2.0) (b.canvas.height / 2.0 - b.actor.height / 2.0)
    exact .some ⟨entered, by rw [first, second]⟩
  | setProgram id tokens => exact .some ⟨inStep.install id plain, rfl⟩
  | install id program => exact .some ⟨inStep.install id plain, rfl⟩
  | place id x y =>
    simp only [Stage.perform]
    obtain ⟨u, v, first, second, placed⟩ | ⟨e, first, second⟩ := inStep.place id x y
    · rw [first, second]
      exact .some ⟨placed, rfl⟩
    · rw [first, second]
      exact .some ⟨inStep, rfl⟩
  | start => exact .some ⟨inStep.start, rfl⟩
  | stop => exact .some ⟨inStep.stop, rfl⟩
  | tick => exact .some ⟨inStep.tick.1, congrArg Reply.report inStep.tick.2⟩
  | run n =>
    simp only [Stage.perform, run, ← inStep.running_eq]
    split
    · exact .some ⟨(inStep.playTicks n).1, rfl⟩
    · exact .some ⟨inStep, rfl⟩
  | reset => exact .some ⟨inStep.reset, rfl⟩
  | restore snapshot => cases plain

theorem performAll (inStep : s.InStep t) {actions : List Action}
    (plain : ∀ action ∈ actions, action.isMute = true) :
    Option.Rel (fun p q => p.1.Resembles q.1 ∧ p.2.map Prod.fst = q.2.map Prod.fst)
      (s.performAll actions) (t.performAll actions) := by
  induction actions generalizing s t with
  | nil => exact .some ⟨inStep.toResembles, rfl⟩
  | cons action later ih =>
    obtain ⟨first, plain⟩ := List.forall_mem_cons.1 plain
    refine rel_bind (inStep.perform first) fun p q ⟨next, reply⟩ => ?_
    refine rel_bind (ih next plain) fun left right ⟨last, replies⟩ => .some ⟨last, ?_⟩
    exact congrArg₂ List.cons reply replies

theorem course (inStep : s.InStep t) {actions : List Action}
    (plain : ∀ action ∈ actions, action.isMute = true) :
    Option.Rel (fun p q => p.1.Resembles q.1 ∧ p.2 = q.2)
      (s.course actions) (t.course actions) := by
  induction actions generalizing s t with
  | nil => exact .some ⟨inStep.toResembles, rfl⟩
  | cons action later ih =>
    obtain ⟨first, plain⟩ := List.forall_mem_cons.1 plain
    refine rel_bind (inStep.perform first) fun p q ⟨next, reply⟩ => ?_
    refine rel_bind (ih next plain) fun left right ⟨last, reports⟩ => .some ⟨last, ?_⟩
    exact congrArg₂ (· ++ ·) (inStep.playedBy action) reports

end InStep

/-! ## Pace -/

theorem inStep_fresh (config : Config) (seconds offset : Float) :
    (fresh config).InStep
      (fresh { config with tickSeconds := seconds, bubbleOffset := offset }) where
  scene_eq := rfl
  random_eq := rfl
  ticks_eq := rfl
  bounds_eq := rfl
  seed_eq := rfl
  running_eq := rfl
  mute := .empty _
  mute' := .empty _

/-- Whoever plays without speeches plays the same at every pace: the stages resemble each other
whatever has been done to both of them, and give the same answers and the same reports. -/
theorem pace_without_influence {config : Config} {seconds offset : Float}
    (made : Stage.new config = .ok s)
    (made' : Stage.new { config with tickSeconds := seconds, bubbleOffset := offset } = .ok t)
    {actions : List Action} (plain : ∀ action ∈ actions, action.isMute = true) :
    Option.Rel (fun p q => p.1.Resembles q.1 ∧ p.2.map Prod.fst = q.2.map Prod.fst)
        (s.performAll actions) (t.performAll actions) ∧
      Option.Rel (fun p q => p.1.Resembles q.1 ∧ p.2 = q.2)
        (s.course actions) (t.course actions) := by
  obtain ⟨-, rfl⟩ := new_eq_ok_iff.1 made
  obtain ⟨-, rfl⟩ := new_eq_ok_iff.1 made'
  have inStep := inStep_fresh config seconds offset
  exact ⟨inStep.performAll plain, inStep.course plain⟩

/-- Two actors run into each other, with a break after the second tick, and the stage is set up
anew. -/
def encounter : List Action :=
  [.addActorAt 0.0 50.0, .addActorAt 110.0 50.0, .setProgram ⟨0⟩ ["X_10", "REP"],
    .setProgram ⟨1⟩ ["LEFT_10"], .start, .run 2, .stop, .place ⟨0⟩ 300.0 0.0, .start, .tick,
    .reset, .addActor]

/-- At sixty ticks a second and at one in ten seconds the encounter is the same. -/
theorem pace_without_influence_encounter :
    ∃ slow, Stage.new { Config.default with tickSeconds := 10.0, bubbleOffset := -3.0 } = .ok slow ∧
      ((fresh .default).course encounter).map (·.2.map (·.collisions.length)) = some [1, 0, 0] ∧
      Option.Rel (fun p q => p.1.Resembles q.1 ∧ p.2 = q.2)
        ((fresh .default).course encounter) (slow.course encounter) := by
  have made : Stage.new .default = .ok (fresh .default) := rfl
  have valid : Config.check { Config.default with tickSeconds := 10.0, bubbleOffset := -3.0 } =
      .ok () := Config.check_eq_ok_iff.2 (by decide +kernel)
  have plain : ∀ action ∈ encounter, action.isMute = true := by decide +kernel
  have made' := new_eq_ok_iff.2 ⟨valid, rfl⟩
  exact ⟨_, made', by decide +kernel, (pace_without_influence made made' plain).2⟩

end Stage

end Playhouse
