import Playhouse.Proofs.Tick.Contact
import Playhouse.Tick.Sweep

/-!
# The sweep finds the contacts

A sweep overwrites proposals in the list that it is going through. Only proposals that have collided
are overwritten, and these are never compared again, so it finds just the contacts among the
proposals as they were made and leaves the others as they are (`through_eq`).

Before the turn of each proposal the list is that of the proposals as they were made, those reverted
that are in a contact found so far (`Proposal.mark`), and the contacts that are still to come are
those among the proposals from there on (`foldl_advance`).
-/

namespace Playhouse

namespace Contact

variable {bounds : Bounds} {taken taken' : List ActorId} {p q : Proposal} {l others : List Proposal}
  {c : Contact}

theorem partner?_cons :
    partner? bounds taken p (q :: others) =
      if q.turn ∈ taken then partner? bounds taken p others
      else
        match (p.box bounds).contactSide (q.box bounds) with
        | none => partner? bounds taken p others
        | some side => some ⟨p, q, side⟩ := by
  unfold partner?
  rw [List.findSome?_cons]
  by_cases busy : q.turn ∈ taken
  · rw [if_pos busy, if_pos busy]
  · rw [if_neg busy, if_neg busy]
    cases (p.box bounds).contactSide (q.box bounds) <;> rfl

theorem partner?_congr (same : ∀ q ∈ others, q.turn ∈ taken ↔ q.turn ∈ taken') :
    partner? bounds taken p others = partner? bounds taken' p others := by
  induction others with
  | nil => rfl
  | cons q others ih =>
    obtain ⟨first, rest⟩ := List.forall_mem_cons.1 same
    simp only [partner?_cons, first, ih rest]

/-- Which contacts there are depends on who of these actors is taken, and on nobody else. -/
theorem among_congr (same : ∀ p ∈ l, p.turn ∈ taken ↔ p.turn ∈ taken') :
    among bounds taken l = among bounds taken' l := by
  induction l generalizing taken taken' with
  | nil => rfl
  | cons p others ih =>
    obtain ⟨first, rest⟩ := List.forall_mem_cons.1 same
    simp only [among, first, partner?_congr rest, ih rest]
    split
    · rfl
    · split
      · rfl
      · rename_i contact _
        have later : ∀ q ∈ others,
            q.turn ∈ contact.second.turn :: taken ↔ q.turn ∈ contact.second.turn :: taken' := by
          intro q mem
          rw [List.mem_cons, List.mem_cons, rest q mem]
        rw [ih later]

end Contact

namespace Proposal

variable {taken : List ActorId} {p : Proposal}

/-- What is left of a proposal once the given actors have collided. -/
def mark (taken : List ActorId) (p : Proposal) : Proposal :=
  if p.turn ∈ taken then p.revert else p

theorem mark_of_notMem (free : p.turn ∉ taken) : p.mark taken = p :=
  if_neg free

theorem mark_congr {taken' : List ActorId} (same : ∀ id, id ∈ taken ↔ id ∈ taken') :
    mark taken = mark taken' := by
  funext p
  unfold mark
  simp only [same]

theorem collided_mark (fresh : p.collided = false) :
    (p.mark taken).collided = decide (p.turn ∈ taken) := by
  unfold mark
  split
  · rename_i mem
    exact (decide_eq_true mem).symm
  · rename_i free
    rw [fresh, decide_eq_false free]

end Proposal

namespace Sweep

open Contact Proposal

variable {bounds : Bounds} {taken : List ActorId} {p q : Proposal} {l others : List Proposal}
  {c : Contact} {i : Nat}

theorem meet?_cons {later : List (Proposal × Nat)} :
    meet? bounds p ((q, i) :: later) =
      if q.collided then meet? bounds p later
      else
        match (p.box bounds).contactSide (q.box bounds) with
        | none => meet? bounds p later
        | some side => some (i, ⟨p.after.id, q.after.id, side⟩) := by
  unfold meet?
  rw [List.findSome?_cons]
  by_cases busy : q.collided = true
  · simp only [busy, if_true]
  · simp only [busy, Bool.false_eq_true, if_false]
    cases (p.box bounds).contactSide (q.box bounds) <;> rfl

theorem meet?_mark_cons (fresh : q.collided = false) (i : Nat) :
    meet? bounds p (((q :: others).map (mark taken)).zipIdx i) =
      if q.turn ∈ taken then meet? bounds p ((others.map (mark taken)).zipIdx (i + 1))
      else
        match (p.box bounds).contactSide (q.box bounds) with
        | none => meet? bounds p ((others.map (mark taken)).zipIdx (i + 1))
        | some side => some (i, ⟨p.after.id, q.after.id, side⟩) := by
  rw [List.map_cons, List.zipIdx_cons, meet?_cons, collided_mark fresh]
  by_cases busy : q.turn ∈ taken
  · simp only [busy, decide_true, if_true]
  · simp only [mark_of_notMem busy, busy, decide_false, Bool.false_eq_true, if_false]

/-- Overwritten proposals are passed over, so `p` meets nobody if it has no partner. -/
theorem meet?_mark_of_none (fresh : ∀ q ∈ others, q.collided = false)
    (alone : partner? bounds taken p others = none) (i : Nat) :
    meet? bounds p ((others.map (mark taken)).zipIdx i) = none := by
  induction others generalizing i with
  | nil => rfl
  | cons q others ih =>
    obtain ⟨first, rest⟩ := List.forall_mem_cons.1 fresh
    rw [partner?_cons] at alone
    rw [meet?_mark_cons first]
    split at alone
    · rename_i busy
      rw [if_pos busy]
      exact ih rest alone (i + 1)
    · rename_i free
      rw [if_neg free]
      split at alone
      · exact ih rest alone (i + 1)
      · cases alone

/-- Overwritten proposals are passed over, so `p` meets the partner that it has, where it stands. -/
theorem meet?_mark_of_some (fresh : ∀ q ∈ others, q.collided = false)
    (found : partner? bounds taken p others = some c) (i : Nat) :
    ∃ j, others[j]? = some c.second ∧
      meet? bounds p ((others.map (mark taken)).zipIdx i) = some (i + j, c.collision) := by
  induction others generalizing i with
  | nil => cases found
  | cons q others ih =>
    obtain ⟨first, rest⟩ := List.forall_mem_cons.1 fresh
    have step : partner? bounds taken p others = some c →
        ∃ j, (q :: others)[j]? = some c.second ∧
          meet? bounds p ((others.map (mark taken)).zipIdx (i + 1)) =
            some (i + j, c.collision) := by
      intro found
      obtain ⟨j, there, met⟩ := ih rest found (i + 1)
      exact ⟨j + 1, there, by rw [met, Nat.add_assoc, Nat.add_comm 1 j]⟩
    rw [partner?_cons] at found
    rw [meet?_mark_cons first]
    split at found
    · rename_i busy
      rw [if_pos busy]
      exact step found
    · rename_i free
      rw [if_neg free]
      split at found
      · exact step found
      · cases found
        exact ⟨0, rfl, rfl⟩

/-! ## From one proposal to the next -/

theorem modify_mark (nodup : (l.map (·.turn)).Nodup) (there : l[i]? = some p)
    (free : p.turn ∉ taken) :
    (l.map (mark taken)).modify i revert = l.map (mark (p.turn :: taken)) := by
  refine List.ext_getElem? fun n => ?_
  rw [List.getElem?_modify, List.getElem?_map, List.getElem?_map]
  cases found : l[n]? with
  | none => rfl
  | some q =>
    simp only [Option.map_some, Option.map_eq_map, Option.some.injEq]
    by_cases same : i = n
    · obtain rfl : p = q := Option.some.inj (by rw [← there, ← found, same])
      rw [if_pos same, mark_of_notMem free, mark, if_pos List.mem_cons_self]
    · have differ : q.turn ≠ p.turn := by
        intro turns
        have inside : i < (l.map (·.turn)).length := by
          rw [List.length_map]
          exact (List.getElem?_eq_some_iff.1 there).1
        refine same ((List.getElem?_inj inside nodup).1 ?_)
        rw [List.getElem?_map, List.getElem?_map, there, found, Option.map_some, Option.map_some,
          turns]
      rw [if_neg same, mark, mark]
      simp only [List.mem_cons, differ, false_or]

variable {before : List Proposal} {collisions : List Collision}

theorem turn_ne_of_nodup (nodup : ((before ++ p :: others).map (·.turn)).Nodup) :
    ∀ q ∈ others, q.turn ≠ p.turn := by
  rw [List.map_append, List.map_cons] at nodup
  have first := (List.nodup_cons.1 (List.nodup_append.1 nodup).2.1).1
  exact fun q mem same => first (same ▸ List.mem_map_of_mem mem)

/-- What the sweep does at `p`, if those before it have been swept. -/
theorem advance_mark (nodup : ((before ++ p :: others).map (·.turn)).Nodup)
    (fresh : ∀ q ∈ before ++ p :: others, q.collided = false) :
    advance bounds ⟨(before ++ p :: others).map (mark taken), collisions⟩ before.length =
      if p.turn ∈ taken then ⟨(before ++ p :: others).map (mark taken), collisions⟩
      else
        match partner? bounds taken p others with
        | none => ⟨(before ++ p :: others).map (mark taken), collisions⟩
        | some c =>
          ⟨(before ++ p :: others).map (mark (c.second.turn :: p.turn :: taken)),
            collisions ++ [c.collision]⟩ := by
  have here : (before ++ p :: others)[before.length]? = some p := by simp
  have later : ((before ++ p :: others).map (mark taken)).zipIdx.drop (before.length + 1) =
      (others.map (mark taken)).zipIdx (before.length + 1) := by
    rw [List.append_cons, List.map_append, List.zipIdx_append, List.drop_left']
    · simp
    · simp
  have mine : p.collided = false := fresh p (by simp)
  have theirs : ∀ q ∈ others, q.collided = false := fun q mem => fresh q (by simp [mem])
  simp only [advance, List.getElem?_map, here, Option.map_some, collided_mark mine, later]
  by_cases busy : p.turn ∈ taken
  · simp only [busy, decide_true, if_true]
  · simp only [busy, decide_false, Bool.false_eq_true, if_false, mark_of_notMem busy]
    cases found : partner? bounds taken p others with
    | none => rw [meet?_mark_of_none theirs found]
    | some c =>
      obtain ⟨j, there, met⟩ := meet?_mark_of_some theirs found (before.length + 1)
      obtain ⟨-, second, untaken⟩ := partner?_eq_some found
      have place : (before ++ p :: others)[before.length + 1 + j]? = some c.second := by
        rw [List.append_cons, List.getElem?_append_right (by simp)]
        simpa using there
      have free : c.second.turn ∉ p.turn :: taken := by
        rw [List.mem_cons, not_or]
        exact ⟨turn_ne_of_nodup nodup _ second, untaken⟩
      simp only [met, modify_mark nodup here busy, modify_mark nodup place free]

/-- The rest of the sweep, if those before it have been swept. -/
theorem foldl_advance (before rest : List Proposal) (taken : List ActorId)
    (collisions : List Collision) (nodup : ((before ++ rest).map (·.turn)).Nodup)
    (fresh : ∀ q ∈ before ++ rest, q.collided = false) :
    (List.range' before.length rest.length).foldl (advance bounds)
        ⟨(before ++ rest).map (mark taken), collisions⟩ =
      ⟨(before ++ rest).map (mark (turns (among bounds taken rest) ++ taken)),
        collisions ++ (among bounds taken rest).map collision⟩ := by
  induction rest generalizing before taken collisions with
  | nil => simp [among, turns]
  | cons p others ih =>
    have next : ∀ (taken : List ActorId) (collisions : List Collision),
        (List.range' (before.length + 1) others.length).foldl (advance bounds)
            ⟨(before ++ p :: others).map (mark taken), collisions⟩ =
          ⟨(before ++ p :: others).map (mark (turns (among bounds taken others) ++ taken)),
            collisions ++ (among bounds taken others).map collision⟩ := by
      intro taken collisions
      rw [List.append_cons] at nodup fresh ⊢
      simpa using ih (before ++ [p]) taken collisions nodup fresh
    rw [List.length_cons, List.range'_succ, List.foldl_cons, advance_mark nodup fresh, among]
    by_cases busy : p.turn ∈ taken
    · rw [if_pos busy, if_pos busy]
      exact next taken collisions
    · rw [if_neg busy, if_neg busy]
      cases found : partner? bounds taken p others with
      | none => exact next taken collisions
      | some c =>
        obtain ⟨rfl, -⟩ := partner?_eq_some found
        have apart := turn_ne_of_nodup nodup
        have rest : among bounds (c.second.turn :: c.first.turn :: taken) others =
            among bounds (c.second.turn :: taken) others := by
          refine among_congr fun q mem => ?_
          simp only [List.mem_cons, apart q mem, false_or]
        have marks : mark (turns (among bounds (c.second.turn :: taken) others) ++
              c.second.turn :: c.first.turn :: taken) =
            mark (turns (c :: among bounds (c.second.turn :: taken) others) ++ taken) := by
          refine mark_congr fun id => ?_
          simp only [turns, List.flatMap_cons, List.mem_append, List.mem_cons, List.not_mem_nil]
          grind
        rw [next, rest, marks, List.append_assoc]
        rfl

/-- A sweep over proposals as they were made finds their contacts, and reverts just those that are
in one of them. -/
theorem through_eq (ordered : l.Pairwise fun p q => p.turn < q.turn)
    (fresh : ∀ p ∈ l, p.collided = false) :
    through bounds l =
      ⟨l.map (mark (turns (among bounds [] l))), (among bounds [] l).map collision⟩ := by
  have nodup : (l.map (·.turn)).Nodup := by
    rw [List.Nodup, List.pairwise_map]
    exact ordered.imp ActorId.ne_of_lt
  have start : l.map (mark []) = l := by
    rw [List.map_congr_left fun p _ => mark_of_notMem List.not_mem_nil, List.map_id']
  have swept : (List.range' 0 l.length).foldl (advance bounds) ⟨l.map (mark []), []⟩ =
      ⟨l.map (mark (turns (among bounds [] l) ++ [])), [] ++ (among bounds [] l).map collision⟩ :=
    foldl_advance [] l [] [] nodup fresh
  rw [through, List.range_eq_range']
  simpa [start] using swept

end Sweep

end Playhouse
