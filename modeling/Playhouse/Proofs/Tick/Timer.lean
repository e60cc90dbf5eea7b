import Mathlib.Data.List.DropRight
import Playhouse.Proofs.Tick.Role

/-!
# The time of bubbles

What is done to bubbles from the beginning is a list of calls. Here the fate of a bubble is read off
from such a list: since when time is suspended (`suspendedSince`), by how much suspensions have
moved the deadline of a bubble (`shifts`), and when it has come (`Due`). Times are arbitrary. They
may go back, and suspensions may be begun and ended twice.

A bubble stays until its actor gets another one, it is cancelled, all are cleared, or a tick comes
at which it is due (`live_after`). So what ticks report are the first ticks at which bubbles are due
(`timer_law`).
-/

namespace Playhouse

/-- What an actor says, for how many seconds, and where and when its bubble appears. -/
structure Utterance where
  actor : ActorId
  kind : SpeechKind
  text : String
  seconds : Float
  anchor : Point
  now : Float

/-- How long the bubble stays. -/
def Utterance.duration (u : Utterance) : Float :=
  if Block.isDuration u.seconds then u.seconds else Block.defaultSeconds

namespace Bubbles

/-! ## Calls -/

inductive Call where
  | put (u : Utterance)
  | expire (now : Float)
  | cancel (id : ActorId)
  | suspend (now : Float)
  | resume (now : Float)
  | clear

namespace Call

/-- Neither takes the bubble of an actor nor gives it another one, unless by the time. -/
def spares (id : ActorId) : Call → Bool
  | .put u => u.actor ≠ id
  | .cancel key => key ≠ id
  | .clear => false
  | _ => true

def endsSuspension : Call → Bool
  | .resume _ | .clear => true
  | _ => false

/-- When the call suspends time. -/
def suspension? : Call → Option Float
  | .suspend now => some now
  | _ => none

end Call

def call (b : Bubbles) : Call → Bubbles
  | .put u => b.put u.actor (b.bubble u.kind u.text u.seconds u.anchor u.now)
  | .expire now => b.expire now
  | .cancel id => b.cancel id
  | .suspend now => b.suspend now
  | .resume now => b.resume now
  | .clear => ∅

/-- The bubbles after some calls. -/
def after (calls : List Call) : Bubbles :=
  calls.foldl call ∅

/-! ### What calls say about time -/

/-- Since when time is suspended: since the first suspension after the last end of one. -/
def suspendedSince (calls : List Call) : Option Float :=
  (calls.rtakeWhile fun call => !call.endsSuspension).findSome? Call.suspension?

/-- How long the suspension was that a call ends. -/
def shift? (past : List Call) : Call → Option Float
  | .resume now => (suspendedSince past).map fun since => positivePart (now - since)
  | _ => none

/-- How long the suspensions were that are ended in `during`. -/
def shifts (past : List Call) : List Call → List Float
  | [] => []
  | call :: later => (shift? past call).toList ++ shifts (past ++ [call]) later

/-- When the time of a bubble comes. -/
def deadline (past : List Call) (u : Utterance) (during : List Call) : Float :=
  (shifts (past ++ [.put u]) during).foldl (· + ·)
    ((suspendedSince past).getD u.now + u.duration)

/-- After `during` a tick finds that the time of the bubble has come. -/
def Due (past : List Call) (u : Utterance) (during : List Call) (now : Float) : Prop :=
  suspendedSince (past ++ .put u :: during) = none ∧ deadline past u during ≤ now

/-- There was such a tick. -/
def Went (past : List Call) (u : Utterance) (during : List Call) : Prop :=
  ∃ earlier now later, during = earlier ++ .expire now :: later ∧ Due past u earlier now

/-- After `during` a tick reports the actor of `u`, which has got no other bubble and has not been
cancelled. -/
structure Reports (past : List Call) (u : Utterance) (during : List Call) (now : Float) :
    Prop where
  spared : ∀ call ∈ during, call.spares u.actor = true
  mem : u.actor ∈ (after (past ++ .put u :: during)).expired now

/-- The tick after `during` is the first one that finds that the time of the bubble has come, and
nothing else took the bubble before. -/
structure FirstDue (past : List Call) (u : Utterance) (during : List Call) (now : Float) :
    Prop where
  spared : ∀ call ∈ during, call.spares u.actor = true
  due : Due past u during now
  first : ¬ Went past u during

variable {b : Bubbles} {calls past during later : List Call} {call : Call} {u : Utterance}
  {id : ActorId} {now : Float}

/-! ## One more call -/

theorem after_concat (calls : List Call) (call : Call) :
    after (calls ++ [call]) = (after calls).call call := by
  rw [after, List.foldl_concat]
  rfl

theorem suspendedSince_concat (calls : List Call) (call : Call) :
    suspendedSince (calls ++ [call]) =
      if call.endsSuspension then none else (suspendedSince calls).or call.suspension? := by
  unfold suspendedSince
  cases ends : call.endsSuspension with
  | true =>
    rw [List.rtakeWhile_concat_neg _ _ _ (by simp [ends])]
    rfl
  | false =>
    have last : [call].findSome? Call.suspension? = call.suspension? := by
      cases call <;> rfl
    rw [List.rtakeWhile_concat_pos _ _ _ (by simp [ends]), List.findSome?_append, last]
    rfl

theorem shifts_concat (past during : List Call) (call : Call) :
    shifts past (during ++ [call]) =
      shifts past during ++ (shift? (past ++ during) call).toList := by
  induction during generalizing past with
  | nil => simp [shifts]
  | cons first rest ih => simp [shifts, ih]

theorem deadline_concat (past : List Call) (u : Utterance) (during : List Call) (call : Call) :
    deadline past u (during ++ [call]) =
      (shift? (past ++ .put u :: during) call).toList.foldl (· + ·) (deadline past u during) := by
  rw [deadline, shifts_concat, List.foldl_append, ← List.append_cons]
  rfl

theorem went_concat :
    Went past u (during ++ [call]) ↔
      Went past u during ∨ ∃ now, call = .expire now ∧ Due past u during now := by
  constructor
  · rintro ⟨earlier, now, later, same, due⟩
    rcases later.eq_nil_or_concat with rfl | ⟨later, last, rfl⟩
    · obtain ⟨rfl, last⟩ := List.append_inj' same rfl
      exact .inr ⟨now, List.singleton_inj.1 last, due⟩
    · rw [List.concat_eq_append, ← List.cons_append, ← List.append_assoc] at same
      exact .inl ⟨earlier, now, later, (List.append_inj' same rfl).1, due⟩
  · rintro (⟨earlier, now, later, rfl, due⟩ | ⟨now, rfl, due⟩)
    · exact ⟨earlier, now, later ++ [call], List.append_assoc _ _ _, due⟩
    · exact ⟨during, now, [], rfl, due⟩

/-! ## Suspensions -/

theorem suspendedAt_after (calls : List Call) :
    (after calls).suspendedAt = suspendedSince calls := by
  induction calls using List.reverseRecOn with
  | nil => rfl
  | append_singleton calls last ih =>
    rw [after_concat, suspendedSince_concat, ← ih]
    cases last with
    | put u => exact Option.or_none.symm
    | expire now => exact (suspendedAt_expire _ now).trans Option.or_none.symm
    | cancel id => exact Option.or_none.symm
    | suspend now => rfl
    | resume now =>
      change ((after calls).resume now).suspendedAt = none
      unfold resume
      split
      · assumption
      · rfl
    | clear => rfl

/-- As long as time is suspended ticks do nothing. -/
theorem expired_of_suspended (suspended : b.isSuspended = true) (now : Float) :
    b.expired now = [] := by
  rw [expired, if_pos suspended]

theorem expire_of_suspended (suspended : b.isSuspended = true) (now : Float) :
    b.expire now = b := by
  rw [expire, expired_of_suspended suspended, List.foldl_nil]

/-! ## Pauses -/

/-- Exactly those pause who have a bubble. -/
theorem isPaused_after (calls : List Call) (id : ActorId) :
    (after calls).isPaused id = (after calls).live.contains id := by
  induction calls using List.reverseRecOn with
  | nil => rfl
  | append_singleton calls last ih =>
    have before : (after calls).paused.contains id = (after calls).live.contains id := ih
    rw [after_concat]
    cases last with
    | put u =>
      simp only [call, put, isPaused, IdSet.contains_insert, IdMap.contains_insert, before]
    | expire now =>
      obtain ⟨live, paused, -⟩ := foldl_cancel ((after calls).expired now) (after calls) id
      refine paused.trans ?_
      rw [ih, IdMap.contains, IdMap.contains, call, expire, live]
      by_cases mem : id ∈ (after calls).expired now
      · simp [mem]
      · simp [mem]
    | cancel key => simp only [call, cancel, isPaused, IdMap.contains_erase, before]
    | suspend now => exact before
    | resume now =>
      simp only [call, resume]
      split
      · exact before
      · refine before.trans ?_
        rw [IdMap.contains, IdMap.contains, IdMap.get?_mapEntries, Option.isSome_map]
    | clear => rfl

/-! ## The fate of a bubble -/

/-- The bubble as it is after `during`, as long as it is there. -/
def kept (past : List Call) (u : Utterance) (during : List Call) : Bubble :=
  ⟨u.kind, u.text, u.anchor, deadline past u during⟩

theorem get?_expire (b : Bubbles) (now : Float) (id : ActorId) :
    (b.expire now).live.get? id = if id ∈ b.expired now then none else b.live.get? id :=
  (foldl_cancel (b.expired now) b id).1

/-- Unless a tick takes it, a bubble that is spared is moved by the time that was spent in
suspension. -/
theorem get?_after_concat (spares : call.spares id = true)
    (stays : ∀ now, call = .expire now → id ∉ (after calls).expired now) :
    (after (calls ++ [call])).live.get? id =
      ((after calls).live.get? id).map fun bubble =>
        { bubble with
          deadline := (shift? calls call).toList.foldl (· + ·) bubble.deadline } := by
  rw [after_concat]
  cases call with
  | put u =>
    have other : u.actor ≠ id := of_decide_eq_true spares
    simp [Bubbles.call, put, IdMap.get?_insert, other, shift?]
  | expire now =>
    simp [Bubbles.call, get?_expire, stays now rfl, shift?]
  | cancel key =>
    have other : key ≠ id := of_decide_eq_true spares
    simp [Bubbles.call, cancel, IdMap.get?_erase, other, shift?]
  | suspend now => simp [Bubbles.call, suspend, shift?]
  | resume now =>
    simp only [Bubbles.call, resume, shift?, ← suspendedAt_after]
    cases (after calls).suspendedAt with
    | none => simp
    | some since => simp [IdMap.get?_mapEntries]
  | clear => cases spares

theorem mem_expired_iff_due
    (live : (after (past ++ .put u :: during)).live.get? u.actor = some (kept past u during)) :
    u.actor ∈ (after (past ++ .put u :: during)).expired now ↔ Due past u during now := by
  rw [mem_expired_iff, suspendedAt_after, live, Due]
  simp only [Option.some.injEq, exists_eq_left', kept]

/-- A bubble stays what it was but for its deadline, until a tick finds that its time has come. -/
theorem live_after (past : List Call)
    (spared : ∀ call ∈ during, call.spares u.actor = true) :
    (Went past u during ∧ (after (past ++ .put u :: during)).live.get? u.actor = none) ∨
      ¬ Went past u during ∧
        (after (past ++ .put u :: during)).live.get? u.actor = some (kept past u during) := by
  induction during using List.reverseRecOn with
  | nil =>
    refine .inr ⟨?_, ?_⟩
    · rintro ⟨earlier, now, later, same, -⟩
      cases earlier <;> cases same
    · rw [after_concat, Bubbles.call, put, IdMap.get?_insert, if_pos rfl, bubble,
        suspendedAt_after]
      rfl
  | append_singleton during last ih =>
    have others : ∀ call ∈ during, call.spares u.actor = true :=
      fun call mem => spared call (List.mem_append_left _ mem)
    have spares : last.spares u.actor = true := spared last (by simp)
    have history : past ++ .put u :: (during ++ [last]) = past ++ .put u :: during ++ [last] :=
      (List.append_assoc past (.put u :: during) [last]).symm
    rw [history]
    -- Either the last call is a tick that takes the bubble, or it leaves the bubble to its actor
    -- and at most moves the deadline.
    by_cases taken : ∃ now, last = .expire now ∧
        u.actor ∈ (after (past ++ .put u :: during)).expired now
    · obtain ⟨now, rfl, mem⟩ := taken
      refine .inl ⟨went_concat.2 ?_, ?_⟩
      · rcases ih others with ⟨went, -⟩ | ⟨-, live⟩
        · exact .inl went
        · exact .inr ⟨now, rfl, (mem_expired_iff_due live).1 mem⟩
      · rw [after_concat, Bubbles.call, get?_expire, if_pos mem]
    · have stays : ∀ now, last = .expire now →
          u.actor ∉ (after (past ++ .put u :: during)).expired now :=
        fun now same mem => taken ⟨now, same, mem⟩
      rw [get?_after_concat spares stays, went_concat]
      rcases ih others with ⟨went, gone⟩ | ⟨waits, live⟩
      · rw [gone]
        exact .inl ⟨.inl went, rfl⟩
      · rw [live]
        refine .inr ⟨?_, ?_⟩
        · rintro (went | ⟨now, same, due⟩)
          · exact waits went
          · exact stays now same ((mem_expired_iff_due live).2 due)
        · rw [Option.map_some, kept, kept, deadline_concat]

/-- A tick reports a bubble if it is the first one that finds that its time has come. -/
theorem reports_iff : Reports past u during now ↔ FirstDue past u during now := by
  constructor
  · rintro ⟨spared, mem⟩
    rcases live_after past spared with ⟨-, gone⟩ | ⟨waits, live⟩
    · obtain ⟨-, bubble, live, -⟩ := mem_expired_iff.1 mem
      rw [gone] at live
      cases live
    · exact ⟨spared, (mem_expired_iff_due live).1 mem, waits⟩
  · rintro ⟨spared, due, first⟩
    rcases live_after past spared with ⟨went, -⟩ | ⟨-, live⟩
    · exact absurd went first
    · exact ⟨spared, (mem_expired_iff_due live).2 due⟩

/-- A bubble of two seconds, of which ten are spent in suspension. -/
example :
    let calls : List Call :=
      [.put ⟨⟨1⟩, .say, "wait", 2.0, ⟨0.0, 0.0⟩, 0.0⟩, .suspend 1.0, .suspend 4.0, .resume 11.0]
    (after calls).expired 11.5 = [] ∧ (after calls).expired 12.0 = [⟨1⟩] := by
  decide +kernel

/-- Every bubble that there is has appeared some time. -/
theorem exists_put {bubble : Bubble} (live : (after calls).live.get? id = some bubble) :
    ∃ past u during, calls = past ++ .put u :: during ∧ u.actor = id ∧
      ∀ call ∈ during, call.spares id = true := by
  induction calls using List.reverseRecOn generalizing bubble with
  | nil => cases live
  | append_singleton calls last ih =>
    -- The last call is the one by which the bubble appeared, or there was a bubble before it.
    by_cases own : ∃ u, last = .put u ∧ u.actor = id
    · obtain ⟨u, rfl, same⟩ := own
      exact ⟨calls, u, [], rfl, same, nofun⟩
    · have spares : last.spares id = true := by
        cases last with
        | put u => exact decide_eq_true fun same => own ⟨u, rfl, same⟩
        | cancel key =>
          refine decide_eq_true ?_
          rintro rfl
          rw [after_concat, call, cancel, IdMap.get?_erase, if_pos rfl] at live
          cases live
        | clear =>
          rw [after_concat] at live
          cases live
        | expire _ | suspend _ | resume _ => rfl
      have stays : ∀ now, last = .expire now → id ∉ (after calls).expired now := by
        rintro now rfl mem
        rw [after_concat, call, get?_expire, if_pos mem] at live
        cases live
      rw [get?_after_concat spares stays] at live
      obtain ⟨before, found, -⟩ := Option.map_eq_some_iff.1 live
      obtain ⟨past, u, during, rfl, same, spared⟩ := ih found
      refine ⟨past, u, during ++ [last], List.append_assoc _ _ _, same, ?_⟩
      exact List.forall_mem_append.2 ⟨spared, List.forall_mem_singleton.2 spares⟩

/-- What holds of the bubbles after some calls, and of what was reported on the way. -/
structure Timed (calls : List Call) : Prop where
  /-- Exactly those pause who have a bubble. -/
  paused_eq : ∀ id, (after calls).isPaused id = (after calls).live.contains id
  suspendedAt_eq : (after calls).suspendedAt = suspendedSince calls
  /-- As long as time is suspended ticks report nothing and change nothing. -/
  expire_of_suspended : (after calls).isSuspended = true → ∀ now,
    (after calls).expired now = [] ∧ (after calls).expire now = after calls
  /-- What is reported is a bubble that has appeared. -/
  raised : ∀ id now, id ∈ (after calls).expired now →
    ∃ past u during, calls = past ++ .put u :: during ∧ u.actor = id ∧
      Reports past u during now
  reports_iff : ∀ past u during, calls = past ++ .put u :: during →
    ∀ now, Reports past u during now ↔ FirstDue past u during now
  /-- No bubble is reported twice. -/
  once : ∀ past u during now later,
    calls = past ++ .put u :: (during ++ .expire now :: later) → Reports past u during now →
      ∀ again, ¬ Reports past u (during ++ .expire now :: later) again

theorem timer_law (calls : List Call) : Timed calls where
  paused_eq := isPaused_after calls
  suspendedAt_eq := suspendedAt_after calls
  expire_of_suspended := fun suspended now =>
    ⟨expired_of_suspended suspended now, expire_of_suspended suspended now⟩
  raised := by
    intro id now mem
    obtain ⟨-, bubble, live, -⟩ := mem_expired_iff.1 mem
    obtain ⟨past, u, during, rfl, rfl, spared⟩ := exists_put live
    exact ⟨past, u, during, rfl, rfl, spared, mem⟩
  reports_iff := fun past u during _ now => reports_iff
  once := by
    intro past u during now later _ reported again twice
    have due := (reports_iff.1 reported).due
    exact (reports_iff.1 twice).first ⟨during, now, later, rfl, due⟩

end Bubbles

end Playhouse
