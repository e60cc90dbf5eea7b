import Playhouse.Proofs.Format.Scene
import Playhouse.Stage.Scenario

/-!
# Saved values

Snapshots, scenarios and tick reports read back from their text, compact or pretty, whatever they
hold: nothing is asked for but that real numbers are finite and that ids and counters are machine
words (`storable_round_trip`).
-/

namespace Playhouse

open Codec

variable {room : ℕ}

/-- All sizes and the length of a tick are finite. -/
@[mk_iff]
structure Config.IsFinite (c : Config) : Prop where
  canvasWidth : c.canvasWidth.isFinite = true
  canvasHeight : c.canvasHeight.isFinite = true
  actorWidth : c.actorWidth.isFinite = true
  actorHeight : c.actorHeight.isFinite = true
  tickSeconds : c.tickSeconds.isFinite = true
  bubbleOffset : c.bubbleOffset.isFinite = true

instance (c : Config) : Decidable c.IsFinite :=
  decidable_of_iff' _ (Config.isFinite_iff c)

theorem reads_seed (seed : UInt64) : word64Seed.Reads room seed := by
  have bits := seed.toNat_lt
  refine (reads_natural (by omega)).via ?_
  rw [UInt64.ofNat_toNat]

theorem Config.IsFinite.reads {c : Config} (finite : c.IsFinite) :
    Config.codec.Reads (room + 1) c :=
  reads_record (by decide)
    (.cons (reads_float finite.canvasWidth) (.cons (reads_float finite.canvasHeight)
      (.cons (reads_float finite.actorWidth) (.cons (reads_float finite.actorHeight)
        (.cons (reads_float finite.tickSeconds) (.cons (reads_float finite.bubbleOffset)
          (.cons (reads_seed c.seed) .nil))))))) rfl

theorem Random.reads (r : Random) : Random.codec.Reads (room + 1) r :=
  reads_record (by decide)
    (.cons (reads_word128 r.state) (.cons (reads_word128 r.increment) .nil)) rfl

/-! ## Snapshots -/

@[mk_iff]
structure Record.Storable (r : Record) : Prop where
  config : r.config.IsFinite
  scene : r.scene.Storable
  bubbles : r.bubbles.Storable
  ticks : IsWord64 r.ticks

instance (r : Record) : Decidable r.Storable :=
  decidable_of_iff' _ (Record.storable_iff r)

theorem Record.Storable.reads {r : Record} (storable : r.Storable) (hash : String) :
    Snapshot.codec.Reads (room + 6) ⟨r, hash⟩ :=
  reads_record (by decide)
    (.cons storable.config.reads (.cons storable.scene.reads (.cons storable.bubbles.reads
      (.cons r.random.reads (.cons (reads_natural storable.ticks)
        (.cons (reads_text hash) .nil)))))) rfl

theorem Record.Storable.reads_record {r : Record} (storable : r.Storable) :
    Record.codec.Reads (room + 6) r :=
  Codec.reads_record (by decide)
    (.cons storable.config.reads (.cons storable.scene.reads (.cons storable.bubbles.reads
      (.cons r.random.reads (.cons (reads_natural storable.ticks) .nil))))) rfl

/-- A snapshot is refused if its bubbles are. -/
theorem Snapshot.refuses {s : Snapshot} (config : s.record.config.IsFinite)
    (scene : s.record.scene.Storable)
    (bubbles : Bubbles.codec.Refuses (room + 5) s.record.bubbles) :
    Snapshot.codec.Refuses (room + 6) s :=
  refuses_record (by decide) (.later config.reads (.later scene.reads (.first bubbles)))

/-! ## Scenarios -/

/-- The position is finite, if there is one. -/
def Part.IsFinite (p : Part) : Prop :=
  ∀ place ∈ p.position, place.1.isFinite = true ∧ place.2.isFinite = true

instance (p : Part) : Decidable p.IsFinite :=
  inferInstanceAs (Decidable (∀ place ∈ p.position,
    place.1.isFinite = true ∧ place.2.isFinite = true))

theorem Part.IsFinite.reads {p : Part} (finite : p.IsFinite) : Part.codec.Reads (room + 2) p := by
  have position : (optional (pair float float)).Reads (room + 1) p.position := by
    unfold IsFinite at finite
    cases placed : p.position with
    | none => exact reads_none
    | some place =>
      obtain ⟨x, y⟩ := finite place placed
      exact ((reads_float x).pair (reads_float y)).optional nofun
  exact reads_record (by decide)
    (.cons position (.cons (reads_list fun token _ => reads_text token) .nil)) rfl

@[mk_iff]
structure Scenario.Storable (s : Scenario) : Prop where
  config : s.config.IsFinite
  parts : ∀ p ∈ s.parts, p.IsFinite
  ticks : IsWord64 s.ticks

instance (s : Scenario) : Decidable s.Storable :=
  decidable_of_iff' _ (Scenario.storable_iff s)

theorem Scenario.Storable.reads {s : Scenario} (storable : s.Storable) :
    Scenario.codec.Reads (room + 4) s :=
  reads_record (by decide)
    (.cons storable.config.reads
      (.cons (reads_list fun p mem => (storable.parts p mem).reads)
        (.cons (reads_natural storable.ticks) .nil))) rfl

/-! ## Texts -/

/-- What reads back reads back from both of its texts. -/
theorem Codec.Reads.texts {α : Type} {c : Codec α} {a : α} (reads : c.Reads Node.deepest a) :
    c.ofText (c.compact a) = .ok a ∧ c.ofText (c.pretty a) = .ok a :=
  ⟨reads.ofText Json.Spacing.blank_compact nofun, reads.ofText Json.Spacing.blank_pretty nofun⟩

/-- Records that can be stored are told apart by their texts. -/
theorem Record.Storable.compact_inj {r other : Record} (storable : r.Storable)
    (readable : other.Storable) (same : Record.codec.compact r = Record.codec.compact other) :
    r = other := by
  have left := storable.reads_record.texts.1
  rw [same, readable.reads_record.texts.1] at left
  exact (Except.ok.inj left).symm

/-- Snapshots, scenarios and reports are read back from their compact and from their pretty text,
real numbers bit for bit. -/
theorem storable_round_trip (snapshot : Snapshot) (scenario : Scenario) (report : Report)
    (savable : snapshot.record.Storable) (playable : scenario.Storable)
    (reportable : report.Storable) :
    (Snapshot.codec.ofText (Snapshot.codec.compact snapshot) = .ok snapshot ∧
      Snapshot.codec.ofText (Snapshot.codec.pretty snapshot) = .ok snapshot) ∧
    (Scenario.codec.ofText (Scenario.codec.compact scenario) = .ok scenario ∧
      Scenario.codec.ofText (Scenario.codec.pretty scenario) = .ok scenario) ∧
    Report.codec.ofText (Report.codec.compact report) = .ok report ∧
      Report.codec.ofText (Report.codec.pretty report) = .ok report :=
  ⟨(savable.reads snapshot.hash).texts, playable.reads.texts, reportable.reads.texts⟩

/-- A record as no stage makes it: the bubble, the pause and the program belong to other ids than
the actor, who stands at a negative zero. -/
def Record.adrift : Record where
  config := .default
  scene :=
    { bounds := Config.default.bounds
      actors := IdMap.insert ∅ ⟨0xFFFFFFFF⟩ ⟨⟨3⟩, -0.0, 0.1, 270.0⟩
      cursors := IdMap.insert ∅ ⟨10⟩ ⟨0xFFFFFFFFFFFFFFFF, .backward, 2⟩
      programs := IdMap.insert ∅ ⟨2⟩ [.speak .think "\"où?\"\n" 2.5, .restart]
      held := IdSet.insert ∅ ⟨7⟩
      nextId := ⟨0⟩ }
  bubbles := ⟨IdMap.insert ∅ ⟨5⟩ ⟨.say, "\t😀", ⟨-1.5, 0.0⟩, -7.25⟩, IdSet.insert ∅ ⟨6⟩, some 0.0⟩
  random := ⟨0, 1⟩
  ticks := 0xFFFFFFFFFFFFFFFF

theorem round_trip_adrift :
    let snapshot : Snapshot := ⟨.adrift, "no digest"⟩
    let scenario : Scenario := ⟨.default, [⟨some (-0.0, 12.5), ["SAY_é_1"]⟩, ⟨none, []⟩], 3⟩
    let report : Report :=
      ⟨[.hidden ⟨0⟩, .shown ⟨1⟩ ⟨.think, "", ⟨0.0, 0.0⟩, 0.5⟩], [⟨⟨0⟩, ⟨1⟩, .left⟩],
        [⟨⟨0⟩, .y⟩], [⟨0⟩]⟩
    Snapshot.codec.ofText (Snapshot.codec.pretty snapshot) = .ok snapshot ∧
      Scenario.codec.ofText (Scenario.codec.pretty scenario) = .ok scenario ∧
      Report.codec.ofText (Report.codec.compact report) = .ok report := by
  intro snapshot scenario report
  obtain ⟨⟨-, saved⟩, ⟨-, planned⟩, reported, -⟩ :=
    storable_round_trip snapshot scenario report (by decide) (by decide) (by decide)
  exact ⟨saved, planned, reported⟩

end Playhouse
