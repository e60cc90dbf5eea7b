import Playhouse.Proofs.Stage.Fits

/-!
# Bubble events as a log

Someone who sees nothing but the bubble events can keep an own list of the bubbles: `Logs` says that
the events lead from the bubbles before them to the bubbles after them, and that each one fits. A
bubble appears only where there is none, and goes only where there is one.

The events of a tick log what the tick does to the bubbles, as long as all roles fit
(`World.logs_tick`). Then whoever speaks has no bubble: it has none after the start of the tick, or
it would pause.
-/

namespace Playhouse

namespace BubbleEvent

/-- What an event says that becomes of the bubbles. -/
def apply (live : IdMap Bubble) : BubbleEvent → IdMap Bubble
  | .shown actor bubble => live.insert actor bubble
  | .hidden actor => live.erase actor

/-- A bubble appears where there is none, or goes where there is one. -/
def Fits (live : IdMap Bubble) : BubbleEvent → Prop
  | .shown actor _ => live.contains actor = false
  | .hidden actor => live.contains actor = true

end BubbleEvent

/-- The events lead from some bubbles to others, and each of them fits when it comes. -/
structure Logs (live : IdMap Bubble) (events : List BubbleEvent) (final : IdMap Bubble) : Prop where
  replay_eq : events.foldl BubbleEvent.apply live = final
  fits : ∀ before event later, events = before ++ event :: later →
    event.Fits (before.foldl BubbleEvent.apply live)

namespace Logs

variable {live between final : IdMap Bubble} {event : BubbleEvent} {events later : List BubbleEvent}

theorem nil (live : IdMap Bubble) : Logs live [] live where
  replay_eq := rfl
  fits := by
    intro before event later same
    cases before <;> cases same

theorem cons_iff : Logs live (event :: later) final ↔
    event.Fits live ∧ Logs (event.apply live) later final := by
  constructor
  · intro logs
    refine ⟨logs.fits [] event later rfl, logs.replay_eq, ?_⟩
    intro before next after same
    exact logs.fits (event :: before) next after (congrArg (event :: ·) same)
  · rintro ⟨fits, rest⟩
    refine ⟨rest.replay_eq, ?_⟩
    intro before next after same
    cases before with
    | nil =>
      cases same
      exact fits
    | cons first before =>
      cases same
      exact rest.fits before next after rfl

theorem append (first : Logs live events between) (second : Logs between later final) :
    Logs live (events ++ later) final := by
  induction events generalizing live with
  | nil =>
    obtain rfl : live = between := first.replay_eq
    exact second
  | cons event rest ih =>
    obtain ⟨fits, remaining⟩ := cons_iff.1 first
    exact cons_iff.2 ⟨fits, ih remaining⟩

end Logs

/-! ## Ticks -/

namespace Bubbles

theorem logs_cancel {ids : List ActorId} {b : Bubbles} (nodup : ids.Nodup)
    (live : ∀ id ∈ ids, b.live.contains id = true) :
    Logs b.live (ids.map .hidden) (ids.foldl cancel b).live := by
  induction ids generalizing b with
  | nil => exact .nil b.live
  | cons id rest ih =>
    obtain ⟨fresh, nodup⟩ := List.nodup_cons.1 nodup
    obtain ⟨here, others⟩ := List.forall_mem_cons.1 live
    refine Logs.cons_iff.2 ⟨here, ih (b := b.cancel id) nodup fun key mem => ?_⟩
    have apart : id ≠ key := fun same => fresh (same ▸ mem)
    rw [cancel, IdMap.contains_erase, decide_eq_true apart, others key mem]
    rfl

theorem logs_put {l : List (ActorId × Bubble)} {b : Bubbles}
    (nodup : l.Pairwise fun p q => p.1 ≠ q.1) (free : ∀ p ∈ l, b.live.contains p.1 = false) :
    Logs b.live (l.map fun p => .shown p.1 p.2) (l.foldl (fun b p => b.put p.1 p.2) b).live := by
  induction l generalizing b with
  | nil => exact .nil b.live
  | cons p rest ih =>
    obtain ⟨fresh, nodup⟩ := List.pairwise_cons.1 nodup
    obtain ⟨here, others⟩ := List.forall_mem_cons.1 free
    refine Logs.cons_iff.2 ⟨here, ih (b := b.put p.1 p.2) nodup fun q mem => ?_⟩
    rw [put, IdMap.contains_insert, decide_eq_false (fresh q mem), others q mem]
    rfl

/-- Only bubbles that there are expire. -/
theorem logs_expire (b : Bubbles) (now : Float) :
    Logs b.live ((b.expired now).map .hidden) (b.expire now).live := by
  refine logs_cancel (b.nodup_expired now) fun id mem => ?_
  obtain ⟨-, bubble, live, -⟩ := mem_expired_iff.1 mem
  exact Option.isSome_iff_exists.2 ⟨bubble, live⟩

end Bubbles

namespace World

variable {w : World}

/-- Who speaks has no bubble. -/
theorem logs_play (fits : ∀ id, (w.role id).Fits) (offset now : Float) :
    Logs w.bubbles.live ((w.speeches offset now).map fun p => .shown p.1 p.2)
      (w.play offset now).bubbles.live := by
  refine Bubbles.logs_put ((w.pairwise_speeches offset now).imp ActorId.ne_of_lt) ?_
  rintro ⟨id, bubble⟩ mem
  obtain ⟨actor, cursor, program, kind, text, seconds, ready, -⟩ :=
    actOf_eq_speech (mem_speeches_iff.1 mem)
  have none : w.bubbles.live.get? id = none := (fits id).bubble_eq_none ready.not_paused
  rw [IdMap.contains, none]
  rfl

/-- The bubbles of a tick go before others appear. -/
theorem logs_tick (fits : ∀ id, (w.role id).Fits) (offset now : Float) :
    Logs w.bubbles.live (w.tick offset now).2.bubbleEvents
      (w.tick offset now).1.bubbles.live := by
  rw [tick_eq]
  have awake : ∀ id, ((w.awake now).role id).Fits := fun id => fits_awake (fits id) now
  exact (w.bubbles.logs_expire now).append (logs_play awake offset now)

end World

end Playhouse
