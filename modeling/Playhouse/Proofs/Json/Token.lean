import Playhouse.Json.Token
import Playhouse.Proofs.Decimal.Layout
import Playhouse.Proofs.Json.Quoted
import Playhouse.Proofs.Json.Writer

/-!
# The tokens of what is written

`Json.tokens` are the tokens of a value. Its text is cut into them whatever blanks a format puts
between them (`Json.tokens_write`); a value that is no number is cut into `null`.

`Cut` is the cutting itself, without its accumulator and its bound.
-/

namespace Playhouse

namespace Token

variable {rest rest' : List Char} {ts : List Token}

/-- A text is cut into tokens. -/
inductive Cut : List Char → List Token → Prop where
  | nil : Cut [] []
  | blank {c : Char} {rest : List Char} {ts : List Token} (blank : isBlank c = true)
      (cut : Cut rest ts) : Cut (c :: rest) ts
  | token {c : Char} {rest rest' : List Char} {t : Token} {ts : List Token}
      (solid : isBlank c = false) (first : read c rest = (t, rest'))
      (shorter : rest'.length ≤ rest.length) (cut : Cut rest' ts) : Cut (c :: rest) (t :: ts)

theorem Cut.scan_eq {cs : List Char} (cut : Cut cs ts) {done : List Token} {bound : ℕ}
    (enough : cs.length ≤ bound) : scan done bound cs = done.reverse ++ ts := by
  induction cut generalizing done bound with
  | nil => cases bound <;> simp [scan]
  | blank blank _ ih =>
    obtain ⟨bound, rfl⟩ := Nat.exists_eq_add_of_lt (Nat.lt_of_lt_of_le (Nat.succ_pos _) enough)
    rw [Nat.zero_add] at *
    rw [scan, if_pos blank]
    exact ih (Nat.le_of_succ_le_succ enough)
  | token solid first shorter _ ih =>
    obtain ⟨bound, rfl⟩ := Nat.exists_eq_add_of_lt (Nat.lt_of_lt_of_le (Nat.succ_pos _) enough)
    rw [Nat.zero_add] at *
    rw [scan, if_neg (by simp [solid]), first]
    dsimp only
    rw [ih (shorter.trans (Nat.le_of_succ_le_succ enough)), List.reverse_cons, List.append_assoc]
    rfl

theorem Cut.tokens_eq {cs : List Char} (cut : Cut cs ts) : tokens cs = ts :=
  cut.scan_eq (Nat.le_refl _)

theorem Cut.blanks {blanks : List Char} (all : ∀ c ∈ blanks, isBlank c = true)
    (cut : Cut rest ts) : Cut (blanks ++ rest) ts := by
  induction blanks with
  | nil => exact cut
  | cons c blanks ih =>
    exact .blank (all c List.mem_cons_self) (ih fun c mem => all c (List.mem_cons_of_mem _ mem))

/-! ## Scalars -/

/-- A numeral is read whatever sign or digit it starts with. -/
theorem read_numeral {c : Char} {n : Numeral} (scanned : Numeral.scan (c :: rest) = .ok (n, rest'))
    (start : c = '-' ∨ c.isDigit = true) :
    isBlank c = false ∧ read c rest = (.number n, rest') := by
  have other : ∀ c' : Char, c' ≠ '-' ∧ c'.isDigit = false → c ≠ c' := by
    rintro _ ⟨sign, digit⟩ rfl
    exact start.elim sign fun is => Bool.false_ne_true (digit.symm.trans is)
  constructor
  · simp only [isBlank, Bool.or_eq_false_iff, decide_eq_false_iff_not]
    exact ⟨⟨⟨other _ (by decide), other _ (by decide)⟩, other _ (by decide)⟩, other _ (by decide)⟩
  · unfold read
    split
    all_goals try exact absurd rfl (other _ (by decide))
    rw [if_pos (by simpa using start), scanned]

theorem Cut.numeral {text : List Char} {n : Numeral} (writes : Numeral.Writes text n)
    (ends : Numeral.Ends rest) (cut : Cut rest ts) : Cut (text ++ rest) (.number n :: ts) := by
  obtain ⟨c, more, rfl⟩ := List.exists_cons_of_ne_nil writes.nonempty
  have scanned := writes rest ends
  obtain ⟨_, _, same, start⟩ := Numeral.exists_head_of_scan scanned
  cases same
  obtain ⟨solid, first⟩ := read_numeral scanned start
  exact .token solid first (by rw [List.append_eq, List.length_append]; omega) cut

theorem Cut.quoted (s : String) (cut : Cut rest ts) :
    Cut (Json.quotedText s rest) (.text (.ofText s) :: ts) := by
  have first : read '"' (escape s.toList ++ '"' :: rest) = (.text (.ofText s), rest) := by
    unfold read
    dsimp only
    rw [Quoted.scan_escape]
    rfl
  refine .token rfl first ?_ cut
  rw [List.length_append, List.length_cons]
  omega

end Token

/-! ## Values -/

/-- The numeral that is written for an integer. -/
def Numeral.ofInt : ℤ → Numeral
  | .ofNat n => ⟨false, ⟨n, 0⟩, true⟩
  | .negSucc n => ⟨true, ⟨n + 1, 0⟩, true⟩

theorem Numeral.writes_integer (n : ℤ) : Writes (Json.integerText n) (ofInt n) := by
  intro rest ends
  cases n with
  | ofNat n => exact scan_of_scanUnsigned (scanUnsigned_natural n ends)
  | negSucc n => exact scanUnsigned_natural (n + 1) ends

namespace Json

mutual

def tokens : Json → List Token
  | .null => [.null]
  | .bool b => [.bool b]
  | .integer n => [.number (.ofInt n)]
  | .real x => if x.isFinite then [.number (.ofFloat x)] else [.null]
  | .text s => [.text (.ofText s)]
  | .array [] => [.openArray, .closeArray]
  | .array (item :: items) => .openArray :: (item.tokens ++ itemTokens items)
  | .object [] => [.openObject, .closeObject]
  | .object ((key, value) :: members) =>
    .openObject :: .text (.ofText key) :: .colon :: (value.tokens ++ memberTokens members)

/-- The tokens of the further items of an array, with its end. -/
def itemTokens : List Json → List Token
  | [] => [.closeArray]
  | item :: items => .comma :: (item.tokens ++ itemTokens items)

/-- The tokens of the further members of an object, with its end. -/
def memberTokens : List (String × Json) → List Token
  | [] => [.closeObject]
  | (key, value) :: members =>
    .comma :: .text (.ofText key) :: .colon :: (value.tokens ++ memberTokens members)

end

/-- Only blanks are put between tokens. -/
structure Spacing.Blank (spacing : Spacing) : Prop where
  line : ∀ depth, ∀ c ∈ spacing.line depth, Token.isBlank c = true
  afterColon : ∀ c ∈ spacing.afterColon, Token.isBlank c = true

theorem Spacing.blank_compact : Spacing.compact.Blank where
  line _ _ mem := nomatch mem
  afterColon _ mem := nomatch mem

theorem Spacing.blank_pretty : Spacing.pretty.Blank where
  line depth c mem := by
    rcases List.mem_cons.1 mem with rfl | mem
    · rfl
    · rw [List.eq_of_mem_replicate mem]
      rfl
  afterColon c mem := by
    rw [List.mem_singleton.1 mem]
    rfl

section Write

variable {spacing : Spacing} {rest : List Char} {ts : List Token}

theorem ends_blanks {blanks : List Char} (all : ∀ c ∈ blanks, Token.isBlank c = true)
    (ends : Numeral.Ends rest) : Numeral.Ends (blanks ++ rest) := by
  cases blanks with
  | nil => exact ends
  | cons c blanks =>
    rintro _ ⟨⟩
    have blank := all c List.mem_cons_self
    simp only [Token.isBlank, Bool.or_eq_true, decide_eq_true_eq] at blank
    rcases blank with ((rfl | rfl) | rfl) | rfl <;> decide

theorem ends_writeItems (blank : spacing.Blank) (depth : ℕ) (items : List Json) :
    Numeral.Ends (writeItems spacing depth rest items) := by
  cases items with
  | nil =>
    rw [writeItems]
    exact ends_blanks (blank.line depth) (by rintro _ ⟨⟩; decide)
  | cons item items =>
    rw [writeItems]
    rintro _ ⟨⟩
    decide

theorem ends_writeMembers (blank : spacing.Blank) (depth : ℕ) (members : List (String × Json)) :
    Numeral.Ends (writeMembers spacing depth rest members) := by
  cases members with
  | nil =>
    rw [writeMembers]
    exact ends_blanks (blank.line depth) (by rintro _ ⟨⟩; decide)
  | cons member members =>
    rw [writeMembers]
    rintro _ ⟨⟩
    decide

mutual

theorem cut_write {rest : List Char} {ts : List Token} (blank : spacing.Blank) (depth : ℕ)
    (j : Json) (ends : Numeral.Ends rest)
    (cut : Token.Cut rest ts) : Token.Cut (j.write spacing depth rest) (j.tokens ++ ts) := by
  cases j with
  | null => exact .token rfl rfl (by simp; omega) cut
  | bool b => cases b <;> exact .token rfl rfl (by simp; omega) cut
  | integer n => exact cut.numeral (Numeral.writes_integer n) ends
  | real x =>
    rw [write, tokens]
    split_ifs with finite
    · exact cut.numeral (Numeral.writes_float finite) ends
    · exact .token rfl rfl (by simp; omega) cut
  | text s => exact cut.quoted s
  | array items =>
    cases items with
    | nil => exact .token rfl rfl (by simp) (.token rfl rfl (Nat.le_refl _) cut)
    | cons item items =>
      rw [write, tokens, List.cons_append, List.append_assoc]
      refine .token rfl rfl (Nat.le_refl _) (.blanks (blank.line _) ?_)
      exact cut_write blank _ item (ends_writeItems blank depth items)
        (cut_writeItems blank depth items ends cut)
  | object members =>
    cases members with
    | nil => exact .token rfl rfl (by simp) (.token rfl rfl (Nat.le_refl _) cut)
    | cons member members =>
      obtain ⟨key, value⟩ := member
      simp only [write, tokens, List.cons_append, List.append_assoc]
      refine .token rfl rfl (Nat.le_refl _) (.blanks (blank.line _) (.quoted key ?_))
      refine .token rfl rfl (Nat.le_refl _) (.blanks blank.afterColon ?_)
      exact cut_write blank _ value (ends_writeMembers blank depth members)
        (cut_writeMembers blank depth members ends cut)

theorem cut_writeItems {rest : List Char} {ts : List Token} (blank : spacing.Blank) (depth : ℕ)
    (items : List Json) (ends : Numeral.Ends rest) (cut : Token.Cut rest ts) :
    Token.Cut (writeItems spacing depth rest items) (itemTokens items ++ ts) := by
  cases items with
  | nil =>
    rw [writeItems]
    exact .blanks (blank.line depth) (.token rfl rfl (Nat.le_refl _) cut)
  | cons item items =>
    rw [writeItems, itemTokens, List.cons_append, List.append_assoc]
    refine .token rfl rfl (Nat.le_refl _) (.blanks (blank.line _) ?_)
    exact cut_write blank _ item (ends_writeItems blank depth items)
      (cut_writeItems blank depth items ends cut)

theorem cut_writeMembers {rest : List Char} {ts : List Token} (blank : spacing.Blank) (depth : ℕ)
    (members : List (String × Json)) (ends : Numeral.Ends rest) (cut : Token.Cut rest ts) :
    Token.Cut (writeMembers spacing depth rest members) (memberTokens members ++ ts) := by
  cases members with
  | nil =>
    rw [writeMembers]
    exact .blanks (blank.line depth) (.token rfl rfl (Nat.le_refl _) cut)
  | cons member members =>
    obtain ⟨key, value⟩ := member
    simp only [writeMembers, memberTokens, List.cons_append, List.append_assoc]
    refine .token rfl rfl (Nat.le_refl _) (.blanks (blank.line _) (.quoted key ?_))
    refine .token rfl rfl (Nat.le_refl _) (.blanks blank.afterColon ?_)
    exact cut_write blank _ value (ends_writeMembers blank depth members)
      (cut_writeMembers blank depth members ends cut)

end

/-- The text of a value is cut into its tokens. Blanks may follow it. -/
theorem tokens_write (blank : spacing.Blank) (j : Json)
    (rests : ∀ c ∈ rest, Token.isBlank c = true) :
    Playhouse.tokens (j.write spacing 0 rest) = j.tokens := by
  have ends : Numeral.Ends (rest ++ []) := ends_blanks rests nofun
  rw [List.append_nil] at ends
  have cut : Token.Cut (rest ++ []) [] := .blanks rests .nil
  rw [List.append_nil] at cut
  simpa using (cut_write blank 0 j ends cut).tokens_eq

end Write

end Json

end Playhouse
