import Playhouse.Proofs.Decimal.Layout

/-!
# Numbers in labels

The text of a finite value in labels is a numeral as well (`Numeral.writes_plain`), and it reads
back, down to the sign of zero (`Numeral.toFloat_ofPlain`). A whole number is written without a
point, as a natural number is (`Decimal.positional_whole`), and all others as in saved documents.

So different values have different texts, also when something follows that cannot go on with a
numeral (`Numeral.plain_append_inj`).
-/

namespace Playhouse

theorem toDigits_mul_ten_pow {n : ℕ} (positive : 0 < n) (zeros : ℕ) :
    Nat.toDigits 10 (n * 10 ^ zeros) = Nat.toDigits 10 n ++ List.replicate zeros '0' := by
  induction zeros with
  | zero => simp
  | succ zeros ih =>
    have more : 0 < n * 10 ^ zeros := Nat.mul_pos positive (Nat.pow_pos (by decide))
    calc Nat.toDigits 10 (n * 10 ^ (zeros + 1))
        = Nat.toDigits 10 (10 * (n * 10 ^ zeros) + 0) := by
          rw [Nat.pow_succ, ← Nat.mul_assoc, Nat.mul_comm, Nat.add_zero]
      _ = Nat.toDigits 10 (n * 10 ^ zeros) ++ ['0'] :=
          (Nat.toDigits_append_toDigits (by decide) more (by decide)).symm
      _ = Nat.toDigits 10 n ++ List.replicate (zeros + 1) '0' := by
          rw [ih, List.append_assoc, ← List.replicate_succ']

namespace Decimal

variable {d : Decimal} {rest : List Char} {negative : Bool}

/-- The numeral that the text of a decimal in labels is. -/
def plain (negative : Bool) (d : Decimal) : Numeral :=
  match d.exponent with
  | .ofNat zeros => ⟨negative, ⟨d.digits * 10 ^ zeros, 0⟩, true⟩
  | .negSucc _ => ⟨negative, d, false⟩

theorem value_plain (negative : Bool) (d : Decimal) :
    (plain negative d).decimal.value = d.value := by
  obtain ⟨digits, power⟩ := d
  cases power with
  | ofNat zeros => simp [plain, value]
  | negSucc down => rfl

theorem positional_whole {digits : ℕ} (positive : 0 < digits) (zeros : ℕ) :
    positional false (Nat.toDigits 10 digits) (leading ⟨digits, .ofNat zeros⟩) =
      Nat.toDigits 10 (digits * 10 ^ zeros) := by
  have some := List.length_pos_of_ne_nil (Nat.toDigits_ne_nil (b := 10) (n := digits))
  rw [toDigits_mul_ten_pow positive]
  unfold leading
  dsimp only
  generalize Nat.toDigits 10 digits = ds at *
  change positional false ds (.ofNat (zeros + (ds.length - 1))) = _
  unfold positional
  dsimp only
  rw [if_neg (by omega), show zeros + (ds.length - 1) + 1 - ds.length = zeros by omega]
  simp

/-- Where a digit stands behind the point, nothing is added. -/
theorem positional_fraction (digits down : ℕ) (pointZero : Bool) :
    positional pointZero (Nat.toDigits 10 digits) (leading ⟨digits, .negSucc down⟩) =
      positional true (Nat.toDigits 10 digits) (leading ⟨digits, .negSucc down⟩) := by
  unfold leading
  dsimp only
  generalize Nat.toDigits 10 digits = ds
  cases lead : (Int.negSucc down) + (ds.length - 1 : ℕ) with
  | negSucc _ => rfl
  | ofNat up =>
    rw [Int.ofNat_eq_natCast] at lead
    have among : up + 1 < ds.length := by omega
    simp [positional, among]

theorem scan_plain (positive : 0 < d.digits) (ends : Numeral.Ends rest) :
    Numeral.scanUnsigned negative (write .plain d ++ rest) = .ok (plain negative d, rest) := by
  change Numeral.scanUnsigned negative
    (positional false (Nat.toDigits 10 d.digits) d.leading ++ rest) = _
  obtain ⟨digits, power⟩ := d
  cases power with
  | ofNat zeros =>
    rw [positional_whole positive, Numeral.scanUnsigned_natural _ ends]
    rfl
  | negSucc down =>
    rw [positional_fraction, scan_positional positive ends]
    rfl

/-- The decimal that is written for a magnitude in labels. -/
def plainMagnitude (bits : ℕ) : Decimal :=
  if bits = 0 then ⟨0, 0⟩ else shortest .up bits

theorem scan_plainMagnitude (bits : ℕ) (ends : Numeral.Ends rest) :
    Numeral.scanUnsigned negative (Layout.plain.magnitude bits ++ rest) =
      .ok (plain negative (plainMagnitude bits), rest) := by
  unfold Layout.magnitude plainMagnitude
  split_ifs with zero
  · exact Numeral.scanUnsigned_natural 0 ends
  · exact scan_plain (digits_shortest_pos (Nat.pos_of_ne_zero zero) _) ends

theorem toMagnitude_plain {bits : ℕ} (finite : bits < Binary64.infinite) (negative : Bool) :
    (plain negative (plainMagnitude bits)).decimal.toMagnitude = bits := by
  unfold plainMagnitude
  split_ifs with zero
  · rw [zero]
    exact toMagnitude_zero _
  · refine toMagnitude_eq (Nat.pos_of_ne_zero zero) finite ?_
    rw [value_plain]
    exact rounds_shortest _ _

/-! ## Characters -/

theorem mem_positional {digits : List Char} (all : ∀ c ∈ digits, c.isDigit = true)
    {pointZero : Bool} {lead : ℤ} {c : Char} (mem : c ∈ positional pointZero digits lead) :
    c.isDigit = true ∨ c = '.' := by
  have zero : '0'.isDigit = true := rfl
  unfold positional at mem
  split at mem
  · simp only [List.mem_cons, List.mem_append, List.mem_replicate] at mem
    rcases mem with rfl | rfl | ⟨-, rfl⟩ | mem
    · exact .inl zero
    · exact .inr rfl
    · exact .inl zero
    · exact .inl (all c mem)
  · split at mem
    · simp only [List.mem_cons, List.mem_append] at mem
      rcases mem with mem | rfl | mem
      · exact .inl (all c (List.mem_of_mem_take mem))
      · exact .inr rfl
      · exact .inl (all c (List.mem_of_mem_drop mem))
    · simp only [List.mem_append, List.mem_replicate] at mem
      rcases mem with (mem | ⟨-, rfl⟩) | mem
      · exact .inl (all c mem)
      · exact .inl zero
      · split at mem
        · simp only [List.mem_cons, List.not_mem_nil, or_false] at mem
          rcases mem with rfl | rfl
          · exact .inr rfl
          · exact .inl zero
        · cases mem

theorem mem_magnitude {bits : ℕ} {c : Char} (mem : c ∈ Layout.plain.magnitude bits) :
    c.isDigit = true ∨ c = '.' := by
  unfold Layout.magnitude at mem
  split at mem
  · exact mem_positional (isWhole_toDigits 0).all mem
  · exact mem_positional (isWhole_toDigits _).all mem

end Decimal

namespace Numeral

variable {x y : Float} {text text' rest rest' : List Char}

/-- The numeral that is written for a finite value in labels. -/
def ofPlain (x : Float) : Numeral :=
  Decimal.plain (Binary64.isNegative x) (.plainMagnitude (Binary64.magnitude x))

theorem toFloat_ofPlain (finite : x.isFinite = true) : (ofPlain x).toFloat = x := by
  refine toFloat_eq ?_ (Decimal.toMagnitude_plain (Binary64.magnitude_lt_infinite finite) _)
  unfold ofPlain Decimal.plain
  split <;> rfl

theorem writes_plain (finite : x.isFinite = true) :
    Writes (Decimal.Layout.plain.text x) (ofPlain x) :=
  writes_text .plain finite fun _ ends => Decimal.scan_plainMagnitude _ ends

/-- A numeral ends where it cannot go on. -/
theorem Writes.append_inj {m n : Numeral} (left : Writes text m) (right : Writes text' n)
    (ends : Ends rest) (ends' : Ends rest') (same : text ++ rest = text' ++ rest') :
    m = n ∧ rest = rest' := by
  have read := left rest ends
  rw [same, right rest' ends'] at read
  have pair := Except.ok.inj read
  exact ⟨(Prod.mk.inj pair).1.symm, (Prod.mk.inj pair).2.symm⟩

theorem plain_append_inj (hx : x.isFinite = true) (hy : y.isFinite = true) (ends : Ends rest)
    (ends' : Ends rest')
    (same : Decimal.Layout.plain.text x ++ rest = Decimal.Layout.plain.text y ++ rest') :
    x = y ∧ rest = rest' := by
  obtain ⟨numeral, rests⟩ := (writes_plain hx).append_inj (writes_plain hy) ends ends' same
  exact ⟨by rw [← toFloat_ofPlain hx, numeral, toFloat_ofPlain hy], rests⟩

/-- Labels write numbers with digits, a point and a minus sign, and nothing else. -/
theorem mem_plain (finite : x.isFinite = true) {c : Char}
    (mem : c ∈ Decimal.Layout.plain.text x) : c.isDigit = true ∨ c = '.' ∨ c = '-' := by
  rw [text_eq .plain finite, List.mem_append] at mem
  rcases mem with sign | digits
  · split at sign
    · exact .inr (.inr (List.mem_singleton.1 sign))
    · cases sign
  · exact (Decimal.mem_magnitude digits).imp_right .inl

end Numeral

end Playhouse
