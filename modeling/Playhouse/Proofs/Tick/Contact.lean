import Playhouse.Proofs.IdMap
import Playhouse.Tick.Proposal

/-!
# Contacts

A `Contact` joins two proposals that collide. `Contact.among` finds the contacts by recursion on the
list of proposals: it never changes a proposal, but remembers the actors that have collided.

The contacts among proposals in strictly ascending order of turns join an earlier one with a later
one (`joins_of_mem_among`), and no actor is in two of them (`nodup_turns_among`). So two contacts
that share an actor are the same one (`eq_of_mem_turns`).
-/

namespace Playhouse

/-- Two proposals that collide. -/
structure Contact where
  first : Proposal
  second : Proposal
  side : Side

namespace Contact

def collision (c : Contact) : Collision :=
  ⟨c.first.after.id, c.second.after.id, c.side⟩

/-- The first of the given proposals that `p` meets, those of actors in `taken` left out. -/
def partner? (bounds : Bounds) (taken : List ActorId) (p : Proposal) (others : List Proposal) :
    Option Contact :=
  others.findSome? fun q =>
    if q.turn ∈ taken then none
    else ((p.box bounds).contactSide (q.box bounds)).map fun side => ⟨p, q, side⟩

/-- The contacts among proposals. The actors in `taken` have collided already. -/
def among (bounds : Bounds) (taken : List ActorId) : List Proposal → List Contact
  | [] => []
  | p :: others =>
    if p.turn ∈ taken then among bounds taken others
    else
      match partner? bounds taken p others with
      | none => among bounds taken others
      | some contact => contact :: among bounds (contact.second.turn :: taken) others

/-- The actors in some contact. -/
def turns (contacts : List Contact) : List ActorId :=
  contacts.flatMap fun c => [c.first.turn, c.second.turn]

variable {bounds : Bounds} {taken : List ActorId} {p : Proposal} {l others : List Proposal}
  {c d : Contact}

/-- The contact joins two of the proposals, none of them of a taken actor. -/
structure Joins (c : Contact) (taken : List ActorId) (l : List Proposal) : Prop where
  first_mem : c.first ∈ l
  second_mem : c.second ∈ l
  less : c.first.turn < c.second.turn
  first_free : c.first.turn ∉ taken
  second_free : c.second.turn ∉ taken

theorem Joins.mono {taken' : List ActorId} {l' : List Proposal} (joins : c.Joins taken' l')
    (proposals : ∀ q ∈ l', q ∈ l) (ids : ∀ id ∈ taken, id ∈ taken') : c.Joins taken l where
  first_mem := proposals _ joins.first_mem
  second_mem := proposals _ joins.second_mem
  less := joins.less
  first_free := fun mem => joins.first_free (ids _ mem)
  second_free := fun mem => joins.second_free (ids _ mem)

theorem partner?_eq_some (found : partner? bounds taken p others = some c) :
    c.first = p ∧ c.second ∈ others ∧ c.second.turn ∉ taken := by
  obtain ⟨q, mem, found⟩ := List.exists_of_findSome?_eq_some found
  split at found
  · cases found
  · rename_i free
    obtain ⟨side, -, rfl⟩ := Option.map_eq_some_iff.1 found
    exact ⟨rfl, mem, free⟩

theorem joins_of_mem_among (ordered : l.Pairwise fun p q => p.turn < q.turn)
    (mem : c ∈ among bounds taken l) : c.Joins taken l := by
  induction l generalizing taken with
  | nil => cases mem
  | cons p others ih =>
    obtain ⟨first, tail⟩ := List.pairwise_cons.1 ordered
    have later : ∀ q ∈ others, q ∈ p :: others := fun q => List.mem_cons_of_mem p
    simp only [among] at mem
    split at mem
    · exact (ih tail mem).mono later fun _ => id
    · rename_i free
      split at mem
      · exact (ih tail mem).mono later fun _ => id
      · rename_i contact found
        obtain ⟨rfl, second, untaken⟩ := partner?_eq_some found
        rcases List.mem_cons.1 mem with rfl | mem
        · exact ⟨List.mem_cons_self, later _ second, first _ second, free, untaken⟩
        · exact (ih tail mem).mono later fun _ => List.mem_cons_of_mem _

theorem mem_turns_iff {contacts : List Contact} {id : ActorId} :
    id ∈ turns contacts ↔ ∃ c ∈ contacts, id = c.first.turn ∨ id = c.second.turn := by
  simp [turns]

/-- No actor is in two contacts. -/
theorem nodup_turns_among (ordered : l.Pairwise fun p q => p.turn < q.turn) :
    (turns (among bounds taken l)).Nodup := by
  induction l generalizing taken with
  | nil => exact List.nodup_nil
  | cons p others ih =>
    obtain ⟨first, tail⟩ := List.pairwise_cons.1 ordered
    simp only [among]
    split
    · exact ih tail
    · split
      · exact ih tail
      · rename_i contact found
        obtain ⟨rfl, second, -⟩ := partner?_eq_some found
        have less : contact.first.turn < contact.second.turn := first _ second
        have joins : ∀ d ∈ among bounds (contact.second.turn :: taken) others,
            d.Joins (contact.second.turn :: taken) others :=
          fun d => joins_of_mem_among tail
        change (contact.first.turn :: contact.second.turn :: turns _).Nodup
        refine List.nodup_cons.2 ⟨fun mem => ?_, List.nodup_cons.2 ⟨fun mem => ?_, ih tail⟩⟩
        · rcases List.mem_cons.1 mem with same | mem
          · exact ActorId.ne_of_lt less same
          · -- All later contacts are between proposals behind the first one.
            obtain ⟨d, mem, same | same⟩ := mem_turns_iff.1 mem
            · exact ActorId.ne_of_lt (first _ (joins d mem).first_mem) same
            · exact ActorId.ne_of_lt (first _ (joins d mem).second_mem) same
        · obtain ⟨d, mem, same | same⟩ := mem_turns_iff.1 mem
          · exact (joins d mem).first_free (same ▸ List.mem_cons_self)
          · exact (joins d mem).second_free (same ▸ List.mem_cons_self)

theorem nodup_of_nodup_turns {contacts : List Contact} (nodup : (turns contacts).Nodup) :
    contacts.Nodup := by
  induction contacts with
  | nil => exact List.nodup_nil
  | cons c rest ih =>
    obtain ⟨first, nodup⟩ := List.nodup_cons.1 nodup
    obtain ⟨-, nodup⟩ := List.nodup_cons.1 nodup
    refine List.nodup_cons.2 ⟨fun mem => first ?_, ih nodup⟩
    exact List.mem_cons_of_mem _ (mem_turns_iff.2 ⟨c, mem, .inl rfl⟩)

/-- An actor is in one contact at most. -/
theorem eq_of_mem_turns {contacts : List Contact} (nodup : (turns contacts).Nodup)
    {id : ActorId} (hc : c ∈ contacts) (hd : d ∈ contacts)
    (inc : id = c.first.turn ∨ id = c.second.turn)
    (ind : id = d.first.turn ∨ id = d.second.turn) : c = d := by
  induction contacts with
  | nil => cases hc
  | cons e rest ih =>
    have parts : [e.first.turn, e.second.turn].Nodup ∧ (turns rest).Nodup ∧ _ :=
      List.nodup_append.1 nodup
    rcases List.mem_cons.1 hc with rfl | cin <;> rcases List.mem_cons.1 hd with rfl | din
    · rfl
    · exact absurd rfl (parts.2.2 id (by simpa using inc) id (mem_turns_iff.2 ⟨d, din, ind⟩))
    · exact absurd rfl (parts.2.2 id (by simpa using ind) id (mem_turns_iff.2 ⟨c, cin, inc⟩))
    · exact ih parts.2.1 cin din

end Contact

end Playhouse
