import Mathlib.Data.List.Forall2
import Playhouse.Json.Codec
import Playhouse.Proofs.Binary64.Order
import Playhouse.Proofs.Json.Writer

/-!
# The text of equal values

Equality of real numbers does not tell `0.0` from `-0.0`, but their texts differ. Values that are
`Json.Alike` differ in nothing else. They have the same text exactly if they hold the same numbers,
one after the other (`Json.Alike.compact_iff`).

A codec `WritesAlike` what is equal if the types of its parts have codecs that do. There is a rule
for each combinator.
-/

namespace Playhouse

open Binary64

namespace Json

mutual

/-- The same but for the signs of zeros. -/
inductive Alike : Json → Json → Prop where
  | refl (v : Json) : Alike v v
  | real {x y : Float} (equal : EqualToSign x y) : Alike (.real x) (.real y)
  | array {l m : List Json} (items : AlikeItems l m) : Alike (.array l) (.array m)
  | object {l m : List (String × Json)} (members : AlikeMembers l m) :
    Alike (.object l) (.object m)

inductive AlikeItems : List Json → List Json → Prop where
  | nil : AlikeItems [] []
  | cons {v w : Json} {l m : List Json} (item : Alike v w) (items : AlikeItems l m) :
    AlikeItems (v :: l) (w :: m)

inductive AlikeMembers : List (String × Json) → List (String × Json) → Prop where
  | nil : AlikeMembers [] []
  | cons {v w : Json} {l m : List (String × Json)} (key : String) (value : Alike v w)
    (members : AlikeMembers l m) : AlikeMembers ((key, v) :: l) ((key, w) :: m)

end

mutual

/-- The real numbers of a value in the order in which they are written. -/
def reals : Json → List Float
  | .real x => [x]
  | .array items => realsOfItems items
  | .object members => realsOfMembers members
  | .null | .bool _ | .integer _ | .text _ => []

def realsOfItems : List Json → List Float
  | [] => []
  | item :: items => reals item ++ realsOfItems items

def realsOfMembers : List (String × Json) → List Float
  | [] => []
  | (_, value) :: members => reals value ++ realsOfMembers members

end

variable {spacing : Spacing} {depth : Nat} {rest rest' : List Char} {v w : Json}

/-! ## Numbers -/

mutual

theorem Alike.forall₂_reals {v w : Json} (alike : v.Alike w) :
    v.reals.Forall₂ EqualToSign w.reals := by
  cases alike with
  | refl => exact List.forall₂_same.2 fun x _ => .inl rfl
  | real equal => exact .cons equal .nil
  | array items => exact items.forall₂_reals
  | object members => exact members.forall₂_reals

theorem AlikeItems.forall₂_reals {l m : List Json} (alike : AlikeItems l m) :
    (realsOfItems l).Forall₂ EqualToSign (realsOfItems m) := by
  cases alike with
  | nil => exact .nil
  | cons item items => exact List.rel_append item.forall₂_reals items.forall₂_reals

theorem AlikeMembers.forall₂_reals {l m : List (String × Json)} (alike : AlikeMembers l m) :
    (realsOfMembers l).Forall₂ EqualToSign (realsOfMembers m) := by
  cases alike with
  | nil => exact .nil
  | cons key value members => exact List.rel_append value.forall₂_reals members.forall₂_reals

end

/-- Without a minus sign on a zero nothing is left in which the numbers could differ. -/
theorem Alike.reals_eq (alike : v.Alike w) (plain : ∀ x ∈ v.reals, x ≠ -0.0)
    (plain' : ∀ x ∈ w.reals, x ≠ -0.0) : v.reals = w.reals := by
  have pairs := alike.forall₂_reals
  generalize v.reals = l at pairs plain
  generalize w.reals = m at pairs plain'
  induction pairs with
  | nil => rfl
  | cons pair _ ih =>
    obtain ⟨left, plain⟩ := List.forall_mem_cons.1 plain
    obtain ⟨right, plain'⟩ := List.forall_mem_cons.1 plain'
    rw [pair.eq left right, ih plain plain']

mutual

theorem Alike.eq_of_reals {v w : Json} (alike : v.Alike w) (same : v.reals = w.reals) :
    v = w := by
  cases alike with
  | refl => rfl
  | real _ =>
    cases same
    rfl
  | array items => rw [items.eq_of_reals same]
  | object members => rw [members.eq_of_reals same]

theorem AlikeItems.eq_of_reals {l m : List Json} (alike : AlikeItems l m)
    (same : realsOfItems l = realsOfItems m) : l = m := by
  cases alike with
  | nil => rfl
  | cons item items =>
    obtain ⟨first, others⟩ := List.append_inj same item.forall₂_reals.length_eq
    rw [item.eq_of_reals first, items.eq_of_reals others]

theorem AlikeMembers.eq_of_reals {l m : List (String × Json)} (alike : AlikeMembers l m)
    (same : realsOfMembers l = realsOfMembers m) : l = m := by
  cases alike with
  | nil => rfl
  | cons key value members =>
    obtain ⟨first, others⟩ := List.append_inj same value.forall₂_reals.length_eq
    rw [value.eq_of_reals first, members.eq_of_reals others]

end

/-! ## Texts -/

theorem write_real_zero : (real 0.0).write spacing depth rest = '0' :: '.' :: '0' :: rest := by
  simp only [write]
  rfl

theorem write_real_minus_zero :
    (real (-0.0)).write spacing depth rest = '-' :: '0' :: '.' :: '0' :: rest := by
  simp only [write]
  rfl

mutual

/-- The texts of values that are alike part at the first zero with another sign, whatever follows
the values. -/
theorem Alike.eq_of_write {v w : Json} (alike : v.Alike w) (depth : Nat) {rest rest' : List Char}
    (same : v.write spacing depth rest = w.write spacing depth rest') : v = w ∧ rest = rest' := by
  cases alike with
  | refl => exact ⟨rfl, write_right_iff.1 same⟩
  | real equal =>
    -- One of two zeros with different signs is written with a minus sign in front.
    rcases equal with rfl | ⟨rfl | rfl, rfl | rfl⟩
    · exact ⟨rfl, write_right_iff.1 same⟩
    · exact ⟨rfl, write_right_iff.1 same⟩
    · rw [write_real_zero, write_real_minus_zero] at same
      cases (List.cons.inj same).1
    · rw [write_real_zero, write_real_minus_zero] at same
      cases (List.cons.inj same).1
    · exact ⟨rfl, write_right_iff.1 same⟩
  | array items =>
    cases items with
    | nil => exact ⟨rfl, write_right_iff.1 same⟩
    | cons item items =>
      -- What follows the first item are the texts of the others, up to the end.
      simp only [write, List.cons.injEq, true_and, List.append_right_inj] at same
      obtain ⟨rfl, tail⟩ := item.eq_of_write _ same
      obtain ⟨rfl, rfl⟩ := items.eq_of_write _ tail
      exact ⟨rfl, rfl⟩
  | object members =>
    cases members with
    | nil => exact ⟨rfl, write_right_iff.1 same⟩
    | cons key value members =>
      simp only [write, quotedText, List.cons.injEq, true_and, List.append_right_inj] at same
      obtain ⟨rfl, tail⟩ := value.eq_of_write _ same
      obtain ⟨rfl, rfl⟩ := members.eq_of_write _ tail
      exact ⟨rfl, rfl⟩

theorem AlikeItems.eq_of_write {l m : List Json} (alike : AlikeItems l m) (depth : Nat)
    {rest rest' : List Char}
    (same : writeItems spacing depth rest l = writeItems spacing depth rest' m) :
    l = m ∧ rest = rest' := by
  cases alike with
  | nil =>
    simp only [writeItems, List.append_right_inj, List.cons.injEq, true_and] at same
    exact ⟨rfl, same⟩
  | cons item items =>
    simp only [writeItems, List.cons.injEq, true_and, List.append_right_inj] at same
    obtain ⟨rfl, tail⟩ := item.eq_of_write _ same
    obtain ⟨rfl, rfl⟩ := items.eq_of_write _ tail
    exact ⟨rfl, rfl⟩

theorem AlikeMembers.eq_of_write {l m : List (String × Json)} (alike : AlikeMembers l m)
    (depth : Nat) {rest rest' : List Char}
    (same : writeMembers spacing depth rest l = writeMembers spacing depth rest' m) :
    l = m ∧ rest = rest' := by
  cases alike with
  | nil =>
    simp only [writeMembers, List.append_right_inj, List.cons.injEq, true_and] at same
    exact ⟨rfl, same⟩
  | cons key value members =>
    simp only [writeMembers, quotedText, List.cons.injEq, true_and,
      List.append_right_inj] at same
    obtain ⟨rfl, tail⟩ := value.eq_of_write _ same
    obtain ⟨rfl, rfl⟩ := members.eq_of_write _ tail
    exact ⟨rfl, rfl⟩

end

theorem Alike.compact_iff (alike : v.Alike w) : v.compact = w.compact ↔ v.reals = w.reals := by
  constructor
  · intro same
    rw [(alike.eq_of_write 0 (String.ofList_injective same)).1]
  · intro same
    rw [alike.eq_of_reals same]

end Json

/-! ## Codecs -/

namespace Codec

open Json

variable {α γ σ : Type} {c : Codec α}

/-- Equal values are written alike. -/
def WritesAlike [BEq α] (c : Codec α) : Prop :=
  ∀ ⦃a b⦄, (a == b) = true → (c.write a).Alike (c.write b)

theorem writesAlike_of_lawful [BEq α] [LawfulBEq α] (c : Codec α) : c.WritesAlike := by
  intro a b same
  rw [eq_of_beq same]
  exact .refl _

theorem writesAlike_float : float.WritesAlike :=
  fun _ _ same => .real (equalToSign_of_beq same)

section Parts

variable [BEq α]

/-- Lists are compared item by item. -/
theorem forall₂_of_beq {l m : List α} (same : (l == m) = true) :
    l.Forall₂ (fun a b => (a == b) = true) m := by
  induction l generalizing m with
  | nil =>
    cases m with
    | nil => exact .nil
    | cons b m => cases same
  | cons a l ih =>
    cases m with
    | nil => cases same
    | cons b m =>
      obtain ⟨first, others⟩ := Bool.and_eq_true_iff.1 same
      exact .cons first (ih others)

theorem WritesAlike.list (alike : c.WritesAlike) : (list c).WritesAlike := by
  intro l m same
  have pairs := forall₂_of_beq same
  clear same
  refine .array ?_
  induction pairs with
  | nil => exact .nil
  | cons first _ ih => exact .cons (alike first) ih

theorem WritesAlike.optional (alike : c.WritesAlike) : (optional c).WritesAlike := by
  intro a b same
  cases a with
  | none =>
    cases b with
    | none => exact .refl _
    | some b => cases same
  | some a =>
    cases b with
    | none => cases same
    | some b => exact alike same

theorem WritesAlike.idMap (alike : c.WritesAlike) : (idMap c).WritesAlike := by
  intro m n same
  have pairs : m.entries.Forall₂ _ n.entries := forall₂_of_beq same
  refine .object ?_
  clear same
  generalize m.entries = l at pairs ⊢
  generalize n.entries = l' at pairs ⊢
  induction pairs with
  | nil => exact .nil
  | cons first _ ih =>
    obtain ⟨key, value⟩ := Bool.and_eq_true_iff.1 first
    rw [List.map_cons, List.map_cons, eq_of_beq key]
    exact .cons _ (alike value) ih

theorem writesAlike_idSet : idSet.WritesAlike := by
  intro s t same
  rw [IdMap.ext (eq_of_beq (a := s.entries) same)]
  exact .refl _

end Parts

end Codec

namespace Fields

open Json

variable {α β γ σ : Type}

def WritesAlike [BEq γ] (fs : Fields γ σ) : Prop :=
  ∀ ⦃a b⦄, (a == b) = true → AlikeMembers (fs.write a) (fs.write b)

theorem WritesAlike.nil : Fields.nil.WritesAlike :=
  fun _ _ _ => .nil

theorem WritesAlike.cons [BEq α] [BEq β] {c : Codec α} {name : String} {missing : Option α}
    {fs : Fields β σ} (first : c.WritesAlike) (others : fs.WritesAlike) :
    (Fields.cons name c missing fs).WritesAlike := by
  intro a b same
  obtain ⟨value, rest⟩ := Bool.and_eq_true_iff.1 same
  exact .cons name (first value) (others rest)

end Fields

namespace Codec

variable {α γ σ : Type} [BEq α]

/-- The values of fields are compared one after the other. -/
theorem beq_mk {β : Type} [BEq β] {a a' : α} {b b' : β} :
    ((a, b) == (a', b')) = (a == a' && b == b') := rfl

theorem WritesAlike.record [BEq γ] {fs : Fields γ σ} {short : Bool} {parts : α → γ} {build : γ → α}
    (alike : fs.WritesAlike) (fair : ∀ a b, (a == b) = true → (parts a == parts b) = true) :
    (record fs short parts build).WritesAlike :=
  fun a b same => .object (alike (fair a b same))

/-- Equal values have the same tag. -/
theorem WritesAlike.tagged {tag : String} {kinds : List (Kind α)}
    {write : α → String × List (String × Json)}
    (alike : ∀ a b, (a == b) = true →
      (write a).1 = (write b).1 ∧ Json.AlikeMembers (write a).2 (write b).2) :
    (tagged tag kinds write).WritesAlike := by
  intro a b same
  obtain ⟨kind, members⟩ := alike a b same
  refine .object (.cons tag ?_ members)
  rw [kind]
  exact .refl _

end Codec

end Playhouse
