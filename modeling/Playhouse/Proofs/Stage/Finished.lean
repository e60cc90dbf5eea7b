import Playhouse.CommandLine
import Playhouse.Proofs.Json.Yield
import Playhouse.Proofs.Stage.Storable

/-!
# Finished runs

A scenario is built and run by sane actions, and only actors get programs in it. So the stage at the
end of a run is `Savable` (`Scenario.savable_of_run`), and its printed snapshot brings it back if
its live bubbles are finite (`Scenario.finished_run_loads`).

Sums of finite numbers may be infinite, and so may be the deadline of a bubble. Then the printed
snapshot is no snapshot.
-/

namespace Playhouse

namespace Stage

variable {s t : Stage}

/-! ## What a run changes -/

theorem nextId_run (s : Stage) (n : ℕ) :
    (s.run n).1.world.scene.nextId = s.world.scene.nextId := by
  refine run_of_tick (I := fun u => u.world.scene.nextId = s.world.scene.nextId)
    (fun u same => ?_) n rfl
  cases running : u.running with
  | false => rwa [tick_of_stopped running]
  | true => rw [(tick_eq running).1, World.nextId_tick, same]

theorem ticks_playTicks (running : s.running = true) (n : ℕ) :
    (s.playTicks n).ticks = s.ticks + n := by
  induction n generalizing s with
  | zero => rfl
  | succ n ih =>
    have next : s.tick.1.ticks = s.ticks + 1 := by
      rw [tick, if_pos running]
    rw [playTicks, ih (by rw [running_tick, running]), next]
    omega

theorem ticks_run (running : s.running = true) (n : ℕ) : (s.run n).1.ticks = s.ticks + n := by
  rw [run, if_pos running]
  exact ticks_playTicks running n

/-- A stop suspends the bubbles at the time of the stage. -/
theorem Sound.suspendedAt_stop (sound : s.Sound) (running : s.running = true) :
    s.stop.world.bubbles.suspendedAt = some s.stop.time := by
  rw [Stage.stop, if_pos running]
  change s.world.bubbles.suspendedAt.or (some s.time) = some s.time
  rw [sound.suspendedAt_eq_none running]
  rfl

/-! ## Setting up -/

/-- A stage before its run, with so many actors. -/
structure Staged (s : Stage) (count : ℕ) : Prop where
  reachable : ReachableBy Action.IsSane s
  scripted : s.Scripted
  nextId_eq : s.world.scene.nextId.index = count
  ticks_eq : s.ticks = 0

theorem staged_fresh {config : Config} (valid : config.check = .ok ()) :
    (fresh config).Staged 0 where
  reachable := .new (new_eq_ok_iff.2 ⟨valid, rfl⟩)
  scripted := fun _ => .vacant
  nextId_eq := rfl
  ticks_eq := rfl

variable {count : ℕ}

/-- An actor that has just entered gets its program. -/
theorem Staged.setProgram (staged : s.Staged count) {x y : Float} (random : Random)
    (reachable : ReachableBy Action.IsSane ({ s with random }.addActorAt x y).1)
    {tokens : List String} (short : IsWord64 tokens.length) :
    (({ s with random }.addActorAt x y).1.setProgram s.world.scene.nextId tokens).Staged
      (count + 1) where
  reachable := reachable.act (.setProgram s.world.scene.nextId tokens) trivial rfl rfl
  scripted := by
    have scripted : Scripted { s with random } := staged.scripted
    refine (scripted.enter x y).install ?_ (Nat.le_trans (List.length_filterMap_le _ _) short)
    rw [role_addActorAt, if_pos rfl]
    rfl
  nextId_eq := congrArg (· + 1) staged.nextId_eq
  ticks_eq := staged.ticks_eq

theorem Staged.addDefaultActors (staged : s.Staged count) :
    s.addDefaultActors.1.Staged (count + 2) where
  reachable := staged.reachable.act .addDefaultActors trivial rfl rfl
  scripted := (staged.scripted.enter _ _).enter _ _
  nextId_eq := congrArg (· + 2) staged.nextId_eq
  ticks_eq := staged.ticks_eq

/-- A stage that has been set up is played and stopped. -/
theorem Staged.savable (staged : s.Staged count) (bound : count ≤ 0xFFFFFFFF) {n : ℕ}
    (ticks : IsWord64 n) :
    (s.start.run n).1.stop.Savable ∧
      (s.start.run n).1.stop.world.bubbles.suspendedAt = some (s.start.run n).1.stop.time := by
  have started : ReachableBy Action.IsSane s.start := staged.reachable.act .start trivial rfl rfl
  have played : ReachableBy Action.IsSane (s.start.run n).1 :=
    started.act (.run n) trivial rfl rfl
  have stopped : ReachableBy Action.IsSane (s.start.run n).1.stop :=
    played.act .stop trivial rfl rfl
  have sound := staged.reachable.sound
  have start := sound.start_eq
  have running : s.start.running = true := by rw [start]
  have still : (s.start.run n).1.running = true := by rw [running_run, running]
  have stop : (s.start.run n).1.stop.world.scene = (s.start.run n).1.world.scene ∧
      (s.start.run n).1.stop.ticks = (s.start.run n).1.ticks := by
    rw [Stage.stop, if_pos still]
    exact ⟨rfl, rfl⟩
  refine ⟨?_, played.sound.suspendedAt_stop still⟩
  exact {
    sound := stopped.sound
    cast := stopped.wellCast
    posed := stopped.posed
    scripted := ((staged.scripted.start sound).run started.sound n).stop
    bounds_eq := stopped.bounds_eq
    nextId := by
      rw [stop.1, nextId_run, start]
      exact staged.nextId_eq.trans_le bound
    ticks := by
      rw [stop.2, ticks_run running, start, staged.ticks_eq, Nat.zero_add]
      exact ticks }

end Stage

namespace Scenario

variable {s t : Stage} {scenario : Scenario} {count : ℕ}

/-- Ids and lengths of programs are machine words. -/
structure IsWord (scenario : Scenario) : Prop where
  parts : scenario.parts.length ≤ 0xFFFFFFFF
  tokens : ∀ part ∈ scenario.parts, IsWord64 part.tokens.length

/-! ## What is read -/

theorem yields_part : Part.codec.Yields Part.IsFinite :=
  Codec.yields_record true _
    (.cons (Codec.yields_float.pair Codec.yields_float).optional (by rintro _ ⟨⟩; nofun)
      (.cons (Codec.yields_any _) (fun _ _ => trivial) .nil))
    fun _ all => all.1

theorem yields_scenario :
    codec.Yields fun s => (∀ part ∈ s.parts, part.IsFinite) ∧ IsWord64 s.ticks :=
  Codec.yields_record true _
    (.cons (Codec.yields_any _) (fun _ _ => trivial)
      (.cons yields_part.list (by rintro _ ⟨⟩; nofun)
        (.cons (Codec.yields_natural _) (by rintro _ ⟨⟩; exact Nat.zero_le _) .nil)))
    fun _ all => ⟨all.2.1, all.2.2.1⟩

theorem of_ofText {text : String} (accepted : ofText text = .ok scenario) :
    (∀ part ∈ scenario.parts, part.IsFinite) ∧ IsWord64 scenario.ticks := by
  obtain ⟨_, read, accepted⟩ := exists_of_bind_eq_ok accepted
  obtain ⟨_, -, same⟩ := exists_of_bind_eq_ok accepted
  cases same
  exact yields_scenario.ofText (eq_ok_of_mapError read)

/-! ## Building and running -/

theorem staged_addPart (staged : s.Staged count) {part : Part} (finite : part.IsFinite)
    (short : IsWord64 part.tokens.length) (added : addPart s part = .ok t) :
    t.Staged (count + 1) := by
  unfold addPart at added
  cases placed : part.position with
  | some place =>
    obtain ⟨x, y⟩ := place
    obtain ⟨hx, hy⟩ := finite _ placed
    rw [placed] at added
    cases added
    exact staged.setProgram s.random (staged.reachable.act (.addActorAt x y)
      ⟨Binary64.number_of_isFinite hx, Binary64.number_of_isFinite hy⟩ rfl rfl) short
  | none =>
    rw [placed] at added
    dsimp only at added
    cases drawn : s.addActor with
    | none =>
      rw [drawn] at added
      cases added
    | some result =>
      obtain ⟨u, id⟩ := result
      rw [drawn] at added
      cases added
      have entered : Stage.ReachableBy Action.IsSane u :=
        staged.reachable.act .addActor trivial rfl (by rw [Stage.perform, drawn]; rfl)
      obtain ⟨x, y, -, random, -, -, same⟩ := Stage.addActor_eq_some drawn
      cases same
      exact staged.setProgram random entered short

theorem staged_foldlM {parts : List Part} (staged : s.Staged count)
    (finite : ∀ part ∈ parts, part.IsFinite) (short : ∀ part ∈ parts, IsWord64 part.tokens.length)
    (built : parts.foldlM addPart s = .ok t) : t.Staged (count + parts.length) := by
  induction parts generalizing s count with
  | nil =>
    cases built
    exact staged
  | cons part parts ih =>
    rw [List.foldlM_cons] at built
    obtain ⟨u, added, built⟩ := exists_of_bind_eq_ok built
    obtain ⟨first, finite⟩ := List.forall_mem_cons.1 finite
    obtain ⟨word, short⟩ := List.forall_mem_cons.1 short
    have staged := ih (staged_addPart staged first word added) finite short built
    rwa [List.length_cons, Nat.add_comm parts.length 1, ← Nat.add_assoc]

theorem staged_build (finite : ∀ part ∈ scenario.parts, part.IsFinite) (word : scenario.IsWord)
    (built : scenario.build = .ok t) : ∃ count ≤ 0xFFFFFFFF, t.Staged count := by
  obtain ⟨s, made, built⟩ := exists_of_bind_eq_ok built
  obtain ⟨valid, rfl⟩ := Stage.new_eq_ok_iff.1 (eq_ok_of_mapError made)
  have staged := Stage.staged_fresh valid
  split at built
  · cases built
    exact ⟨2, by decide, staged.addDefaultActors⟩
  · refine ⟨scenario.parts.length, word.parts, ?_⟩
    have staged := staged_foldlM staged finite word.tokens built
    rwa [Nat.zero_add] at staged

/-- All that is needed of the stage at the end of a run. -/
theorem savable_of_run (finite : ∀ part ∈ scenario.parts, part.IsFinite)
    (ticks : IsWord64 scenario.ticks) (word : scenario.IsWord) (played : scenario.run = .ok t) :
    t.Savable ∧ t.world.bubbles.suspendedAt = some t.time := by
  obtain ⟨s, built, same⟩ := exists_of_bind_eq_ok played
  cases same
  obtain ⟨count, bound, staged⟩ := staged_build finite word built
  exact staged.savable bound ticks

/-! ## What is printed -/

theorem output_of_run {file : Option ByteArray} {text : String}
    (readable : fileText file = .ok text) (accepted : ofText text = .ok scenario)
    (played : scenario.run = .ok t) :
    (playFile file).output = Snapshot.codec.pretty t.capture ++ "\n" := by
  have loaded : (fileText file >>= ofText) = .ok scenario := by
    rw [readable]
    exact accepted
  rw [playFile, loaded]
  dsimp only
  rw [played]

/-- The printed snapshot of the stage at the end of a run brings this stage back wherever it is
restored, if all live bubbles are finite. It cannot be read if one is not. -/
theorem finished_run_loads {file : Option ByteArray} {text : String}
    (readable : fileText file = .ok text) (accepted : ofText text = .ok scenario)
    (word : scenario.IsWord) (played : scenario.run = .ok t) :
    (t.BubblesFinite → ∃ snapshot, Snapshot.codec.ofText (playFile file).output = .ok snapshot ∧
      ∀ other : Stage, ∃ restored, other.restore snapshot = (restored, none) ∧
        restored.record = t.record) ∧
    (¬ t.BubblesFinite → ∃ fault, Snapshot.codec.ofText (playFile file).output = .error fault) := by
  obtain ⟨finite, ticks⟩ := of_ofText accepted
  obtain ⟨savable, suspended⟩ := savable_of_run finite ticks word played
  rw [output_of_run readable accepted played]
  refine ⟨fun bubbles => ?_, savable.refuse⟩
  exact ⟨_, savable.load bubbles, Stage.record_restored savable.sound suspended⟩

/-! ### Two runs -/

theorem fileText_toUTF8 (s : String) : fileText (some s.toUTF8) = .ok s := by
  have text : String.fromUTF8? s.toUTF8 = some s := dif_pos s.isValidUTF8
  rw [fileText, text]

theorem ofText_compact (storable : scenario.Storable) (valid : scenario.config.check = .ok ()) :
    ofText (codec.compact scenario) = .ok scenario := by
  rw [ofText, storable.reads.texts.1]
  change (scenario.config.check.mapError LoadError.invalid >>= fun _ => .ok scenario) = _
  rw [valid]
  rfl

/-- One actor, in the middle of its speech when the run ends. -/
def greeting : Scenario :=
  ⟨.default, [⟨some (10.0, 20.0), ["SAY_hello_2", "X_5"]⟩], 3⟩

theorem finished_run_loads_greeting :
    ∃ stage, ofText (codec.compact greeting) = .ok greeting ∧ greeting.IsWord ∧
      greeting.run = .ok stage ∧ stage.BubblesFinite ∧ stage.world.bubbles.live.size = 1 ∧
      ∃ snapshot, Snapshot.codec.ofText
          (playFile (some (codec.compact greeting).toUTF8)).output = .ok snapshot ∧
        ∀ other : Stage, ∃ restored, other.restore snapshot = (restored, none) ∧
          restored.record = stage.record := by
  have accepted : ofText (codec.compact greeting) = .ok greeting :=
    ofText_compact (by decide) rfl
  have word : greeting.IsWord := ⟨by decide, by decide⟩
  let stage : Stage :=
    ((((Stage.fresh .default).addActorAt 10.0 20.0).1.setProgram ⟨0⟩
      ["SAY_hello_2", "X_5"]).start.run 3).1.stop
  have played : greeting.run = .ok stage := rfl
  have finite : stage.BubblesFinite := by decide +kernel
  refine ⟨stage, accepted, word, played, finite, by decide +kernel, ?_⟩
  exact (finished_run_loads (fileText_toUTF8 _) accepted word played).1 finite

/-- A tick takes half of the greatest time there is, and so does a speech. -/
def endless : Scenario :=
  ⟨{ Config.default with tickSeconds := 1e308 },
    [⟨some (10.0, 20.0), ["X_5", "SAY_hello_1e308"]⟩], 2⟩

/-- The deadline of the speech is infinite, so the printed snapshot cannot be read. -/
theorem endless_run_lost :
    ∃ stage, ofText (codec.compact endless) = .ok endless ∧ endless.IsWord ∧
      endless.run = .ok stage ∧
      ∀ snapshot, Snapshot.codec.ofText
        (playFile (some (codec.compact endless).toUTF8)).output ≠ .ok snapshot := by
  have valid : endless.config.check = .ok () := Config.check_eq_ok_iff.2 {
    canvasWidth := ⟨by decide, by decide⟩
    canvasHeight := ⟨by decide, by decide⟩
    actorWidth := ⟨by decide, by decide⟩
    actorHeight := ⟨by decide, by decide⟩
    tickSeconds := ⟨by decide +kernel, by decide +kernel⟩
    width := by decide
    height := by decide
    offset := by decide }
  have accepted : ofText (codec.compact endless) = .ok endless :=
    ofText_compact (by decide +kernel) valid
  have word : endless.IsWord := ⟨by decide, by decide⟩
  let stage : Stage :=
    ((((Stage.fresh endless.config).addActorAt 10.0 20.0).1.setProgram ⟨0⟩
      ["X_5", "SAY_hello_1e308"]).start.run 2).1.stop
  have played : endless.run = .ok stage := by
    have made : Stage.new endless.config = .ok (.fresh endless.config) :=
      Stage.new_eq_ok_iff.2 ⟨valid, rfl⟩
    rw [run, build, made]
    rfl
  have infinite : ¬ stage.BubblesFinite := by decide +kernel
  refine ⟨stage, accepted, word, played, fun snapshot read => ?_⟩
  obtain ⟨finite, ticks⟩ := of_ofText accepted
  obtain ⟨fault, refused⟩ := (savable_of_run finite ticks word played).1.refuse infinite
  rw [output_of_run (fileText_toUTF8 _) accepted played, refused] at read
  cases read

end Scenario

end Playhouse
