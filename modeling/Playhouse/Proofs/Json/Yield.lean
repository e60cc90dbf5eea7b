import Playhouse.Proofs.Binary64.Magnitude
import Playhouse.Proofs.Json.Codec
import Playhouse.Proofs.Stage.Config

/-!
# What codecs yield

Reading checks more than the form of a document: a real number is finite and a counter fits its
bits. `Codec.Yields` says what is known of all values that a codec reads, from whatever text. There
is a rule for each combinator that scenarios are read with.
-/

namespace Playhouse

variable {α β γ σ : Type}

theorem exists_of_map_eq_ok {ε : Type} {x : Except ε α} {f : α → β} {b : β}
    (mapped : x.map f = .ok b) : ∃ a, x = .ok a ∧ f a = b := by
  cases x with
  | error e => cases mapped
  | ok a => exact ⟨a, rfl, Except.ok.inj mapped⟩

/-- A decimal that does not overflow is read as a finite value. -/
theorem Numeral.isFinite_toFloat {n : Numeral} (fits : n.overflows = false) :
    n.toFloat.isFinite = true := by
  have least : n.decimal.toMagnitude ≤ Binary64.infinite := by
    unfold Decimal.toMagnitude
    split_ifs
    · exact Nat.zero_le _
    · exact Nat.le_refl _
    · exact Nat.zero_le _
    · split <;> exact Binary64.nearestMagnitude_le_infinite _ _
  have other : n.decimal.toMagnitude ≠ Binary64.infinite := of_decide_eq_false fits
  exact Binary64.isFinite_ofMagnitude (Nat.lt_of_le_of_ne least other)

/-- All values that are read have the property. -/
def Codec.Yields (c : Codec α) (P : α → Prop) : Prop :=
  ∀ p n a, c.read p n = .ok a → P a

/-! ## Records -/

namespace Fields

/-- The fields yield values with the one property, and what is read on the way has the other. -/
inductive Yields : {γ σ : Type} → Fields γ σ → (γ → Prop) → (σ → Prop) → Prop where
  | nil : Yields .nil (fun _ => True) fun _ => True
  | cons {α β σ : Type} {name : String} {codec : Codec α} {missing : Option α} {rest : Fields β σ}
      {P : α → Prop} {Q : β → Prop} {S : σ → Prop} (first : codec.Yields P)
      (default : ∀ a ∈ missing, P a) (more : Yields rest Q S) :
      Yields (.cons name codec missing rest) (fun c => P c.1 ∧ Q c.2)
        fun slots => (∀ a ∈ slots.1, P a) ∧ S slots.2

variable {fs : Fields γ σ} {Q : γ → Prop} {S : σ → Prop} {p : Place}

theorem Yields.blank (yields : fs.Yields Q S) : S fs.blank := by
  induction yields with
  | nil => trivial
  | cons _ _ _ ih => exact ⟨nofun, ih⟩

theorem Yields.readMember (yields : fs.Yields Q S) {key : String} {n : Node} {slots slots' : σ}
    (sure : S slots) (read : fs.readMember p key n slots = some (.ok slots')) : S slots' := by
  induction yields with
  | nil => cases read
  | @cons α β σ name codec missing rest P Q S first _ _ ih =>
    obtain ⟨slot, slots⟩ := slots
    rw [readMember_cons] at read
    split at read
    · cases slot with
      | some _ => cases read
      | none =>
        obtain ⟨a, found, rfl⟩ := exists_of_map_eq_ok (Option.some.inj read)
        refine ⟨fun b mem => ?_, sure.2⟩
        cases mem
        exact first p n a found
    · obtain ⟨r, tried, kept⟩ := Option.map_eq_some_iff.1 read
      obtain ⟨slots, rfl, rfl⟩ := exists_of_map_eq_ok kept
      exact ⟨sure.1, ih sure.2 tried⟩

theorem Yields.readMembers (yields : fs.Yields Q S) {members : List Node.Member} {slots slots' : σ}
    (sure : S slots) (read : fs.readMembers p slots members = .ok slots') : S slots' := by
  induction members generalizing slots with
  | nil =>
    cases read
    exact sure
  | cons m members ih =>
    obtain ⟨_ | q, n⟩ := m
    · cases read
    · rw [Fields.readMembers] at read
      obtain ⟨key, -, read⟩ := exists_of_bind_eq_ok read
      split at read
      · rename_i r tried
        obtain ⟨slots, rfl, read⟩ := exists_of_bind_eq_ok read
        exact ih (yields.readMember sure tried) read
      · obtain ⟨-, -, read⟩ := exists_of_bind_eq_ok read
        exact ih sure read

theorem Yields.complete (yields : fs.Yields Q S) {slots : σ} {c : γ} (sure : S slots)
    (completed : fs.complete slots = .ok c) : Q c := by
  induction yields with
  | nil => trivial
  | @cons α β σ name codec missing rest P Q S _ default _ ih =>
    obtain ⟨slot, slots⟩ := slots
    rw [Fields.complete] at completed
    split at completed
    · rename_i a found
      obtain ⟨others, rests, same⟩ := exists_of_bind_eq_ok completed
      cases same
      refine ⟨?_, ih sure.2 rests⟩
      rcases Option.or_eq_some_iff.1 found with read | ⟨-, missing⟩
      · exact sure.1 a read
      · exact default a missing
    · cases completed

theorem Yields.readItems (yields : fs.Yields Q S) {short : Bool} {stop : Option Fault}
    {items : List Node} {c : γ} (read : fs.readItems p short stop items = .ok c) : Q c := by
  induction yields generalizing items with
  | nil => trivial
  | @cons α β σ name codec missing rest P Q S first default _ ih =>
    cases items with
    | cons n items =>
      rw [Fields.readItems] at read
      obtain ⟨a, found, read⟩ := exists_of_bind_eq_ok read
      obtain ⟨others, rests, same⟩ := exists_of_bind_eq_ok read
      cases same
      exact ⟨first p n a found, ih rests⟩
    | nil =>
      rw [Fields.readItems.eq_def] at read
      dsimp only at read
      obtain ⟨-, -, read⟩ := exists_of_bind_eq_ok read
      cases missing with
      | none => cases read
      | some a =>
        dsimp only at read
        split at read
        · obtain ⟨others, rests, same⟩ := exists_of_bind_eq_ok read
          cases same
          exact ⟨default a rfl, ih rests⟩
        · cases read

end Fields

/-! ## Codecs -/

namespace Codec

variable {c : Codec α} {P : α → Prop}

theorem Yields.ofText (yields : c.Yields P) {s : String} {a : α} (read : c.ofText s = .ok a) :
    P a := by
  obtain ⟨b, found, read⟩ := exists_of_bind_eq_ok read
  dsimp only at read
  split at read
  · cases read
  · cases read
    exact yields _ _ _ found

theorem yields_any (c : Codec α) : c.Yields fun _ => True :=
  fun _ _ _ _ => trivial

theorem yields_float : float.Yields fun x => x.isFinite = true := by
  intro p n x read
  cases n with
  | number n =>
    change (if n.overflows then Except.error Fault.malformed else .ok n.toFloat) = _ at read
    split at read
    · cases read
    · rename_i fits
      cases read
      exact Numeral.isFinite_toFloat (by simpa using fits)
  | _ => cases read

theorem yields_natural (greatest : ℕ) : (natural greatest).Yields fun n => n ≤ greatest := by
  intro p n k read
  cases n with
  | number x =>
    unfold natural at read
    dsimp only at read
    split at read
    · split at read
      · cases read
        assumption
      · cases read
    · cases read
  | _ => cases read

theorem Yields.optional (yields : c.Yields P) : (optional c).Yields fun a? => ∀ a ∈ a?, P a := by
  intro p n a? read
  unfold Codec.optional at read
  dsimp only at read
  split at read
  · cases read
    nofun
  · obtain ⟨a, found, rfl⟩ := exists_of_map_eq_ok read
    intro b mem
    cases mem
    exact yields _ _ _ found

theorem Yields.pair {d : Codec β} {Q : β → Prop} (first : c.Yields P) (second : d.Yields Q) :
    (pair c d).Yields fun q => P q.1 ∧ Q q.2 := by
  intro p n q read
  cases n with
  | array items stop =>
    obtain ⟨⟨a, b, u⟩, found, same⟩ := exists_of_bind_eq_ok read
    cases same
    have fields : Fields.Yields (.cons "" c none (.cons "" d none .nil)) _ _ :=
      .cons first nofun (.cons second nofun .nil)
    obtain ⟨ha, hb, -⟩ := fields.readItems found
    exact ⟨ha, hb⟩
  | _ => cases read

theorem yields_readItems {read : Node → Except Fault α} (yields : ∀ n a, read n = .ok a → P a)
    {items : List Node} {l : List α} (found : readItems read items = .ok l) : ∀ a ∈ l, P a := by
  induction items generalizing l with
  | nil =>
    cases found
    nofun
  | cons n items ih =>
    obtain ⟨a, first, found⟩ := exists_of_bind_eq_ok found
    obtain ⟨others, rests, same⟩ := exists_of_bind_eq_ok found
    cases same
    exact List.forall_mem_cons.2 ⟨yields n a first, ih rests⟩

theorem Yields.list (yields : c.Yields P) : (list c).Yields fun l => ∀ a ∈ l, P a := by
  intro p n l read
  cases n with
  | array items stop =>
    obtain ⟨l, found, read⟩ := exists_of_bind_eq_ok read
    obtain ⟨-, -, same⟩ := exists_of_bind_eq_ok read
    cases same
    exact yields_readItems (yields p.inner) found
  | _ => cases read

theorem yields_record {fs : Fields γ σ} {Q : γ → Prop} {S : σ → Prop} (short : Bool)
    (parts : α → γ) {build : γ → α} (yields : fs.Yields Q S) (built : ∀ c, Q c → P (build c)) :
    (record fs short parts build).Yields P := by
  intro p n a read
  cases n with
  | object members stop =>
    obtain ⟨slots, found, read⟩ := exists_of_bind_eq_ok read
    obtain ⟨-, -, read⟩ := exists_of_bind_eq_ok read
    obtain ⟨c, completed, same⟩ := exists_of_bind_eq_ok read
    cases same
    exact built c (yields.complete (yields.readMembers yields.blank found) completed)
  | array items stop =>
    obtain ⟨c, found, same⟩ := exists_of_bind_eq_ok read
    cases same
    exact built c (yields.readItems found)
  | _ => cases read

end Codec

end Playhouse
