import Mathlib.Data.List.Forall2
import Playhouse.Json.Quoted

/-!
# Quoted texts that read back

A character is escaped in one of three ways (`Escaped`): by a letter, as a code unit, or not at all.
In all of them the closing quote is found where it stands (`Quoted.scan_escape`), and what stands
before it is read back (`Quoted.text_ofText`).
-/

namespace Playhouse

/-! ## Hexadecimal digits -/

theorem hexValue?_hexDigit : ∀ n < 16, hexValue? (hexDigit n) = some n := by
  decide

theorem hexDigit_plain : ∀ n < 16, hexDigit n ≠ '"' ∧ hexDigit n ≠ '\\' := by
  decide

/-! ## Escapes -/

/-- The ways in which a character is written between quotes. -/
inductive Escaped (c : Char) : List Char → Prop where
  | letter (e : Char) (other : e ≠ 'u') (means : Quoted.escaped? e = some c) :
      Escaped c ['\\', e]
  | unit (control : c.toNat < 32) :
      Escaped c ['\\', 'u', '0', '0', hexDigit (c.toNat / 16), hexDigit (c.toNat % 16)]
  | plain (quote : c ≠ '"') (backslash : c ≠ '\\') (printable : 32 ≤ c.toNat) : Escaped c [c]

theorem escaped_escapeChar (c : Char) : Escaped c (escapeChar c) := by
  unfold escapeChar
  split
  all_goals try exact .letter _ (by decide) rfl
  · rename_i quote backslash _ _ _ _ _
    split
    · rename_i control
      exact .unit control
    · rename_i printable
      exact .plain quote backslash (Nat.le_of_not_lt printable)

/-- Digits stand for themselves. -/
theorem escape_digits {digits : List Char} (all : ∀ c ∈ digits, c.isDigit = true) :
    escape digits = digits := by
  induction digits with
  | nil => rfl
  | cons c digits ih =>
    have digit := Char.isDigit_iff_toNat.1 (all c List.mem_cons_self)
    have plain : escapeChar c = [c] := by
      unfold escapeChar
      split
      all_goals try exact absurd (all _ List.mem_cons_self) (by decide)
      rw [if_neg]
      have least : 48 ≤ c.toNat := digit.1
      omega
    change escapeChar c ++ escape digits = c :: digits
    rw [plain, ih fun b mem => all b (List.mem_cons_of_mem _ mem)]
    rfl

namespace Quoted

variable {done rest : List Char}

theorem scan_letter {e : Char} (other : e ≠ 'u') :
    scan done ('\\' :: e :: rest) = scan (e :: '\\' :: done) rest := by
  rw [scan]
  exact other

theorem scan_plain {c : Char} (quote : c ≠ '"') (backslash : c ≠ '\\') :
    scan done (c :: rest) = scan (c :: done) rest := by
  rw [scan]
  · exact quote
  · intro _ same
    exact absurd same backslash
  · intro _ _ same
    exact absurd same backslash

theorem scan_unit {a b : Char} (ha : a ≠ '"' ∧ a ≠ '\\') (hb : b ≠ '"' ∧ b ≠ '\\') :
    scan done ('\\' :: 'u' :: '0' :: '0' :: a :: b :: rest) =
      scan (b :: a :: '0' :: '0' :: 'u' :: '\\' :: done) rest := by
  have room : roomForDigits ('0' :: '0' :: a :: b :: rest) = true := by
    have := a.utf8Size_pos
    have := b.utf8Size_pos
    have zero : '0'.utf8Size = 1 := rfl
    simp only [roomForDigits, List.take_succ_cons, List.take_zero, List.foldl_cons, List.foldl_nil,
      zero, decide_eq_true_eq]
    omega
  rw [scan, if_pos room, scan_plain (by decide) (by decide), scan_plain (by decide) (by decide),
    scan_plain ha.1 ha.2, scan_plain hb.1 hb.2]

theorem scan_escaped {c : Char} {written : List Char} (escaped : Escaped c written) :
    scan done (written ++ rest) = scan (written.reverse ++ done) rest := by
  cases escaped with
  | letter e other _ => exact scan_letter other
  | unit control => exact scan_unit (hexDigit_plain _ (by omega)) (hexDigit_plain _ (by omega))
  | plain quote backslash _ => exact scan_plain quote backslash

/-- What is escaped ends at the next quote. -/
theorem scan_escape (cs : List Char) :
    scan done (escape cs ++ '"' :: rest) = (⟨done.reverse ++ escape cs, true⟩, rest) := by
  induction cs generalizing done with
  | nil => simp [escape, scan]
  | cons c cs ih =>
    have step : escape (c :: cs) = escapeChar c ++ escape cs := rfl
    rw [step, List.append_assoc, scan_escaped (escaped_escapeChar c), ih, List.reverse_append,
      List.reverse_reverse, List.append_assoc]

/-! ## Decoding -/

/-- The pieces that are read as a character. -/
inductive Stands (c : Char) : Piece → Prop where
  | char : Stands c (.char c)
  | unit (control : c.toNat < 32) : Stands c (.unit c.toNat)

variable {closed : Bool} {before : List Piece} {bound : Nat}

theorem piecesOf_letter {c e : Char} (other : e ≠ 'u') (means : escaped? e = some c) :
    piecesOf closed before (bound + 1) ('\\' :: e :: rest) =
      piecesOf closed (.char c :: before) bound rest := by
  rw [piecesOf, means]
  exact other

theorem piecesOf_plain {c : Char} (backslash : c ≠ '\\') (printable : 32 ≤ c.toNat) :
    piecesOf closed before (bound + 1) (c :: rest) =
      piecesOf closed (.char c :: before) bound rest := by
  rw [piecesOf, if_neg (Nat.not_lt.2 printable)]
  all_goals
    intros
    contradiction

theorem piecesOf_unit {high low : Nat} (hh : high < 16) (hl : low < 16) :
    piecesOf closed before (bound + 1)
        ('\\' :: 'u' :: '0' :: '0' :: hexDigit high :: hexDigit low :: rest) =
      piecesOf closed (.unit (16 * high + low) :: before) bound rest := by
  have zero : hexValue? '0' = some 0 := rfl
  have digits : codeUnit? ('0' :: '0' :: hexDigit high :: hexDigit low :: rest) =
      some (16 * high + low, rest) := by
    simp only [codeUnit?, zero, hexValue?_hexDigit high hh, hexValue?_hexDigit low hl,
      Option.bind_eq_bind, Option.bind_some]
    rw [Nat.zero_mul, Nat.zero_add, Nat.mul_comm]
    rfl
  rw [piecesOf, digits]

theorem piecesOf_escaped {c : Char} {written : List Char} (escaped : Escaped c written) :
    ∃ p, Stands c p ∧ ∀ before bound rest, piecesOf closed before (bound + 1) (written ++ rest) =
      piecesOf closed (p :: before) bound rest := by
  cases escaped with
  | letter e other means => exact ⟨_, .char, fun _ _ _ => piecesOf_letter other means⟩
  | unit control =>
    refine ⟨_, .unit control, fun before bound rest => ?_⟩
    refine (piecesOf_unit (by omega) (by omega)).trans ?_
    rw [Nat.div_add_mod]
    rfl
  | plain _ backslash printable => exact ⟨_, .char, fun _ _ _ => piecesOf_plain backslash printable⟩

theorem Escaped.length_pos {c : Char} {written : List Char} (escaped : Escaped c written) :
    0 < written.length := by
  cases escaped <;> simp

theorem piecesOf_escape (cs : List Char) (before : List Piece)
    (enough : (escape cs).length ≤ bound) :
    ∃ ps, List.Forall₂ Stands cs ps ∧
      piecesOf true before bound (escape cs) = (before.reverse ++ ps, none) := by
  induction cs generalizing before bound with
  | nil =>
    refine ⟨[], .nil, ?_⟩
    rw [List.append_nil]
    cases bound <;> rfl
  | cons c cs ih =>
    have step : escape (c :: cs) = escapeChar c ++ escape cs := rfl
    rw [step, List.length_append] at enough
    have some := Escaped.length_pos (escaped_escapeChar c)
    obtain ⟨bound, rfl⟩ : ∃ n, bound = n + 1 := ⟨bound - 1, by omega⟩
    obtain ⟨p, stands, read⟩ := piecesOf_escaped (escaped_escapeChar c)
    have enough : (escape cs).length ≤ bound := by omega
    obtain ⟨ps, all, pieces⟩ := ih (p :: before) enough
    refine ⟨p :: ps, .cons stands all, ?_⟩
    rw [step, read, pieces, List.reverse_cons, List.append_assoc]
    rfl

theorem join_stands {cs : List Char} {ps : List Piece} (all : List.Forall₂ Stands cs ps) :
    join none done ps = .ok (done.reverse ++ cs) := by
  induction all generalizing done with
  | nil => rw [join, List.append_nil]
  | @cons c p cs ps stands _ ih =>
    have step : join none done (p :: ps) = join none (c :: done) ps := by
      cases stands with
      | char => rfl
      | unit control =>
        rw [join.eq_def]
        dsimp only
        rw [if_pos (.inl (by omega)), Char.ofNat_toNat]
    rw [step, ih, List.reverse_cons, List.append_assoc]
    rfl

theorem text_ofText (s : String) : (ofText s).text = .ok s := by
  obtain ⟨ps, all, pieces⟩ := piecesOf_escape s.toList [] (Nat.le_refl _)
  have read : (ofText s).pieces = (ps, none) := pieces
  unfold text
  rw [read]
  dsimp only
  rw [join_stands all]
  exact congrArg Except.ok (String.ofList_toList)

end Quoted

end Playhouse
