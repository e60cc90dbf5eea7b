import Playhouse.Decimal.Layout
import Playhouse.Json.Numeral
import Playhouse.Proofs.Binary64.Magnitude
import Playhouse.Proofs.Decimal.Shortest

/-!
# Numerals that read back

The text of a finite value in saved documents is a numeral (`Numeral.writes_float`), and the numeral
stands for the value, down to the sign of zero (`Numeral.toFloat_ofFloat`). The numeral need not
hold the decimal that was written: a whole number gets a zero behind its point
(`Decimal.written`).

Natural numbers are numerals as well (`Numeral.scanUnsigned_natural`).
-/

namespace Playhouse

/-! ## Digits -/

theorem digitsValue_toDigits (n : ℕ) : digitsValue (Nat.toDigits 10 n) = n :=
  Nat.ofDigitChars_ten_toDigits

theorem digitsValue_append (digits zeros : List Char) :
    digitsValue (digits ++ zeros) = 10 ^ zeros.length * digitsValue digits + digitsValue zeros := by
  change Nat.ofDigitChars 10 (digits ++ zeros) 0 = _
  rw [Nat.ofDigitChars_append, Nat.ofDigitChars_eq_ofDigitChars_zero]
  rfl

theorem digitsValue_zeros (count : ℕ) : digitsValue (List.replicate count '0') = 0 := by
  change Nat.ofDigitChars 10 _ 0 = 0
  rw [Nat.ofDigitChars_replicate_zero, Nat.mul_zero]

theorem spanDigits_append {digits rest : List Char} (all : ∀ c ∈ digits, c.isDigit = true)
    (ends : ∀ c ∈ rest.head?, c.isDigit = false) :
    spanDigits (digits ++ rest) = (digits, rest) := by
  unfold spanDigits
  rw [List.takeWhile_append_of_pos all, List.dropWhile_append_of_pos all]
  cases rest with
  | nil => simp
  | cons c rest =>
    have other := ends c rfl
    simp [other]

/-- The digits in front of a point: at least one, and no zero before another one. -/
structure IsWhole (digits : List Char) : Prop where
  nonempty : digits ≠ []
  all : ∀ c ∈ digits, c.isDigit = true
  first : digits.head? = some '0' → digits = ['0']

theorem isDigit_of_mem_toDigits {n : ℕ} {c : Char} (mem : c ∈ Nat.toDigits 10 n) :
    c.isDigit = true :=
  Nat.isDigit_of_mem_toDigits (by decide) (by decide) mem

theorem head?_toDigits {n : ℕ} (positive : 0 < n) : (Nat.toDigits 10 n).head? ≠ some '0' := by
  induction n using Nat.strongRecOn with
  | ind n ih =>
    rw [Nat.toDigits_eq_if (by decide)]
    split_ifs with small
    · have some_digit : n ∈ Finset.Ioo 0 10 := Finset.mem_Ioo.2 ⟨positive, small⟩
      revert some_digit
      generalize n = m
      revert m
      decide
    · rw [List.head?_append_of_ne_nil _ Nat.toDigits_ne_nil]
      exact ih (n / 10) (by omega) (by omega)

theorem isWhole_toDigits (n : ℕ) : IsWhole (Nat.toDigits 10 n) where
  nonempty := Nat.toDigits_ne_nil
  all _ := isDigit_of_mem_toDigits
  first zero := by
    obtain rfl | positive := Nat.eq_zero_or_pos n
    · rfl
    · exact absurd zero (head?_toDigits positive)

theorem IsWhole.take {digits : List Char} (whole : IsWhole digits) {n : ℕ} (some : 0 < n) :
    IsWhole (digits.take n) where
  nonempty := by
    rw [ne_eq, List.take_eq_nil_iff]
    exact not_or.2 ⟨some.ne', whole.nonempty⟩
  all c mem := whole.all c (List.mem_of_mem_take mem)
  first zero := by
    have := whole.first (by rwa [List.head?_take, if_neg some.ne'] at zero)
    subst this
    exact List.take_of_length_le some

/-- Zeros may follow digits that do not start with one. -/
theorem IsWhole.append {digits zeros : List Char} (whole : IsWhole digits)
    (first : digits.head? ≠ some '0') (all : ∀ c ∈ zeros, c.isDigit = true) :
    IsWhole (digits ++ zeros) where
  nonempty := List.append_ne_nil_of_left_ne_nil whole.nonempty _
  all c mem := (List.mem_append.1 mem).elim (whole.all c) (all c)
  first zero := absurd (by rwa [List.head?_append_of_ne_nil _ whole.nonempty] at zero) first

/-! ## Scanning -/

namespace Numeral

variable {digits fraction rest : List Char} {negative : Bool}

/-- Nothing that could go on with a numeral. -/
def Ends (rest : List Char) : Prop :=
  ∀ c ∈ rest.head?, c.isDigit = false ∧ c ≠ '.' ∧ c ≠ 'e' ∧ c ≠ 'E'

/-- A numeral without its sign starts with a digit. -/
theorem exists_digit_of_scanUnsigned {cs : List Char} {r : Numeral × List Char}
    (ok : scanUnsigned negative cs = .ok r) : ∃ c more, cs = c :: more ∧ c.isDigit = true := by
  cases cs with
  | nil => cases ok
  | cons c more =>
    refine ⟨c, more, rfl, ?_⟩
    by_contra other
    unfold scanUnsigned spanDigits at ok
    rw [List.takeWhile_cons_of_neg other] at ok
    cases ok

theorem scan_of_scanUnsigned {cs : List Char} {r : Numeral × List Char}
    (ok : scanUnsigned false cs = .ok r) : scan cs = .ok r := by
  obtain ⟨c, more, rfl, digit⟩ := exists_digit_of_scanUnsigned ok
  unfold scan
  split
  · rename_i sign
    cases sign
    cases digit
  · exact ok

/-- A numeral starts with its sign or a digit. -/
theorem exists_head_of_scan {cs : List Char} {r : Numeral × List Char} (ok : scan cs = .ok r) :
    ∃ c more, cs = c :: more ∧ (c = '-' ∨ c.isDigit = true) := by
  unfold scan at ok
  split at ok
  · exact ⟨_, _, rfl, .inl rfl⟩
  · obtain ⟨c, more, rfl, digit⟩ := exists_digit_of_scanUnsigned ok
    exact ⟨c, more, rfl, .inr digit⟩

/-- The text is a numeral, whatever follows that cannot go on with it. -/
def Writes (text : List Char) (n : Numeral) : Prop :=
  ∀ rest, Ends rest → scan (text ++ rest) = .ok (n, rest)

theorem Writes.nonempty {text : List Char} {n : Numeral} (writes : Writes text n) : text ≠ [] := by
  rintro rfl
  cases writes [] nofun

theorem scanTail_ends (whole : Bool) (ends : Ends rest) :
    scanTail negative digits fraction whole rest =
      .ok (⟨negative, ⟨digitsValue (digits ++ fraction), -fraction.length⟩, whole⟩, rest) := by
  unfold scanTail
  split
  · exact absurd rfl (ends 'e' rfl).2.2.1
  · exact absurd rfl (ends 'E' rfl).2.2.2
  · rfl

theorem scanUnsigned_digits (whole : IsWhole digits)
    (ends : ∀ c ∈ rest.head?, c.isDigit = false ∧ c ≠ '.') :
    scanUnsigned negative (digits ++ rest) = scanTail negative digits [] true rest := by
  unfold scanUnsigned
  rw [spanDigits_append whole.all fun c first => (ends c first).1]
  dsimp only
  split
  · exact absurd rfl whole.nonempty
  · exact absurd (whole.first rfl) (by simp)
  · exact absurd rfl (ends '.' rfl).2
  · rfl

theorem scanUnsigned_fraction (whole : IsWhole digits) (some : fraction ≠ [])
    (all : ∀ c ∈ fraction, c.isDigit = true) (ends : ∀ c ∈ rest.head?, c.isDigit = false) :
    scanUnsigned negative (digits ++ '.' :: (fraction ++ rest)) =
      scanTail negative digits fraction false rest := by
  unfold scanUnsigned
  rw [spanDigits_append whole.all (by rintro c ⟨⟩; rfl)]
  dsimp only
  split
  · exact absurd rfl whole.nonempty
  · exact absurd (whole.first rfl) (by simp)
  · rename_i same
    cases same
    rw [spanDigits_append all ends, if_neg (by simpa using some)]
  · rename_i point
    exact absurd rfl (point _)

/-- The power of ten behind the `e`. -/
def powerText : ℤ → List Char
  | .ofNat up => '+' :: Nat.toDigits 10 up
  | .negSucc down => '-' :: Nat.toDigits 10 (down + 1)

theorem scanExponent_power (power : ℤ) (ends : Ends rest) :
    scanExponent (powerText power ++ rest) = .ok (power, rest) := by
  have span : ∀ n, spanDigits (Nat.toDigits 10 n ++ rest) = (Nat.toDigits 10 n, rest) :=
    fun n => spanDigits_append (isWhole_toDigits n).all fun c first => (ends c first).1
  have some : ∀ n, (Nat.toDigits 10 n).isEmpty = false := by simp
  cases power with
  | ofNat up => simp [powerText, scanExponent, span, some, digitsValue_toDigits]
  | negSucc down => simp [powerText, scanExponent, span, some, digitsValue_toDigits, Int.negSucc_eq]

theorem scanTail_power (whole : Bool) (power : ℤ) (ends : Ends rest) :
    scanTail negative digits fraction whole ('e' :: (powerText power ++ rest)) =
      .ok (⟨negative, ⟨digitsValue (digits ++ fraction), power - fraction.length⟩, false⟩,
        rest) := by
  unfold scanTail
  simp only [scanExponent_power power ends]
  rfl

/-- A natural number is written as a whole numeral. -/
theorem scanUnsigned_natural (n : ℕ) (ends : Ends rest) :
    scanUnsigned negative (Nat.toDigits 10 n ++ rest) = .ok (⟨negative, ⟨n, 0⟩, true⟩, rest) := by
  have point : ∀ c ∈ rest.head?, c.isDigit = false ∧ c ≠ '.' :=
    fun c first => ⟨(ends c first).1, (ends c first).2.1⟩
  rw [scanUnsigned_digits (isWhole_toDigits n) point, scanTail_ends true ends, List.append_nil,
    digitsValue_toDigits]
  rfl

end Numeral

namespace Decimal

/-- The exponent of the leading digit. -/
def leading (d : Decimal) : ℤ :=
  d.exponent + ((Nat.toDigits 10 d.digits).length - 1 : ℕ)

/-- The decimal that the text of a decimal writes. A whole number has a zero behind its point. -/
def written (d : Decimal) : Decimal :=
  match d.exponent with
  | .ofNat zeros =>
    if Layout.data.isPositional d.leading then ⟨d.digits * 10 ^ (zeros + 1), -1⟩ else d
  | .negSucc _ => d

theorem value_written (d : Decimal) : d.written.value = d.value := by
  obtain ⟨digits, power⟩ := d
  unfold written
  cases power with
  | ofNat zeros =>
    dsimp only
    split_ifs
    · simp only [value, Int.ofNat_eq_natCast, zpow_natCast, zpow_neg_one]
      push_cast
      rw [pow_succ]
      field_simp
    · rfl
  | negSucc down => rfl

variable {rest : List Char} {negative : Bool} {d : Decimal}

theorem scan_scientific (digits : ℕ) (power : ℤ) (ends : Numeral.Ends rest) :
    Numeral.scanUnsigned negative (scientific (Nat.toDigits 10 digits) power ++ rest) =
      .ok (⟨negative, ⟨digits, power - ((Nat.toDigits 10 digits).length - 1 : ℕ)⟩, false⟩,
        rest) := by
  have whole := isWhole_toDigits digits
  have sum := digitsValue_toDigits digits
  generalize Nat.toDigits 10 digits = ds at *
  obtain ⟨digit, more, rfl⟩ := List.exists_cons_of_ne_nil whole.nonempty
  have first : IsWhole [digit] := whole.take Nat.one_pos
  cases more with
  | nil =>
    have text : scientific [digit] power ++ rest =
        [digit] ++ 'e' :: (Numeral.powerText power ++ rest) := by
      cases power <;> rfl
    rw [text, Numeral.scanUnsigned_digits first (by rintro c ⟨⟩; exact ⟨rfl, by decide⟩),
      Numeral.scanTail_power true power ends, List.append_nil, sum]
    rfl
  | cons second more =>
    have text : scientific (digit :: second :: more) power ++ rest =
        [digit] ++ '.' :: ((second :: more) ++ 'e' :: (Numeral.powerText power ++ rest)) := by
      cases power <;> simp [scientific, Numeral.powerText]
    rw [text, Numeral.scanUnsigned_fraction first (List.cons_ne_nil _ _)
      (fun c mem => whole.all c (List.mem_cons_of_mem _ mem)) (by rintro c ⟨⟩; rfl),
      Numeral.scanTail_power false power ends, List.singleton_append, sum]
    rfl

section Positional

variable {digits : List Char}

theorem isDigit_of_mem_zeros {count : ℕ} : ∀ c ∈ List.replicate count '0', c.isDigit = true := by
  intro c mem
  rw [List.eq_of_mem_replicate mem]
  rfl

/-- The point stands before all digits. -/
theorem scan_point_before (whole : IsWhole digits) (down : ℕ) (ends : Numeral.Ends rest) :
    Numeral.scanUnsigned negative (positional true digits (.negSucc down) ++ rest) =
      .ok (⟨negative, ⟨digitsValue digits, -(down + digits.length : ℕ)⟩, false⟩, rest) := by
  have zero : IsWhole ['0'] := isWhole_toDigits 0
  have text : positional true digits (.negSucc down) ++ rest =
      ['0'] ++ '.' :: ((List.replicate down '0' ++ digits) ++ rest) := by
    simp [positional]
  have value : digitsValue (['0'] ++ (List.replicate down '0' ++ digits)) = digitsValue digits := by
    rw [List.singleton_append, ← List.cons_append, ← List.replicate_succ, digitsValue_append,
      digitsValue_zeros, Nat.mul_zero, Nat.zero_add]
  have all : ∀ c ∈ List.replicate down '0' ++ digits, c.isDigit = true := fun c mem =>
    (List.mem_append.1 mem).elim (isDigit_of_mem_zeros c) (whole.all c)
  rw [text, Numeral.scanUnsigned_fraction zero
    (List.append_ne_nil_of_right_ne_nil _ whole.nonempty) all fun c first => (ends c first).1,
    Numeral.scanTail_ends false ends, value, List.length_append, List.length_replicate]

/-- The point stands among the digits. -/
theorem scan_point_among (whole : IsWhole digits) {up : ℕ} (among : up + 1 < digits.length)
    (ends : Numeral.Ends rest) :
    Numeral.scanUnsigned negative (positional true digits (.ofNat up) ++ rest) =
      .ok (⟨negative, ⟨digitsValue digits, -(digits.length - (up + 1) : ℕ)⟩, false⟩, rest) := by
  have text : positional true digits (.ofNat up) ++ rest =
      digits.take (up + 1) ++ '.' :: (digits.drop (up + 1) ++ rest) := by
    simp [positional, among]
  have some : digits.drop (up + 1) ≠ [] := by
    simpa [List.drop_eq_nil_iff] using among
  have all : ∀ c ∈ digits.drop (up + 1), c.isDigit = true := fun c mem =>
    whole.all c (List.mem_of_mem_drop mem)
  rw [text, Numeral.scanUnsigned_fraction (whole.take (Nat.succ_pos up)) some all
    fun c first => (ends c first).1,
    Numeral.scanTail_ends false ends, List.take_append_drop, List.length_drop]

/-- The point stands behind the digits and perhaps some zeros, and one more zero behind it. -/
theorem scan_point_behind (whole : IsWhole digits) (first : digits.head? ≠ some '0') {up : ℕ}
    (behind : digits.length ≤ up + 1) (ends : Numeral.Ends rest) :
    Numeral.scanUnsigned negative (positional true digits (.ofNat up) ++ rest) =
      .ok (⟨negative, ⟨digitsValue digits * 10 ^ (up + 1 - digits.length + 1), -1⟩, false⟩,
        rest) := by
  have text : positional true digits (.ofNat up) ++ rest =
      (digits ++ List.replicate (up + 1 - digits.length) '0') ++ '.' :: (['0'] ++ rest) := by
    simp [positional, Nat.not_lt.2 behind]
  have value : digitsValue (digits ++ List.replicate (up + 1 - digits.length) '0' ++ ['0']) =
      digitsValue digits * 10 ^ (up + 1 - digits.length + 1) := by
    rw [List.append_assoc, ← List.replicate_succ', digitsValue_append, digitsValue_zeros,
      List.length_replicate, Nat.mul_comm, Nat.add_zero]
  rw [text, Numeral.scanUnsigned_fraction (whole.append first isDigit_of_mem_zeros)
    (List.cons_ne_nil _ _) (by simp) fun c first => (ends c first).1,
    Numeral.scanTail_ends false ends, value]
  rfl

end Positional

theorem scan_positional (positive : 0 < d.digits) (ends : Numeral.Ends rest) :
    Numeral.scanUnsigned negative
        (positional true (Nat.toDigits 10 d.digits) d.leading ++ rest) =
      .ok (⟨negative, match d.exponent with
        | .ofNat zeros => ⟨d.digits * 10 ^ (zeros + 1), -1⟩
        | .negSucc _ => d, false⟩, rest) := by
  obtain ⟨digits, power⟩ := d
  have whole := isWhole_toDigits digits
  have sum := digitsValue_toDigits digits
  have first := head?_toDigits positive
  unfold leading
  dsimp only
  generalize Nat.toDigits 10 digits = ds at *
  have some := List.length_pos_of_ne_nil whole.nonempty
  cases lead : power + (ds.length - 1 : ℕ) with
  | negSucc down =>
    obtain rfl : power = -(down + ds.length : ℕ) := by omega
    obtain ⟨places, more⟩ := Nat.exists_eq_add_of_lt (Nat.add_pos_right down some)
    rw [scan_point_before whole down ends, sum, more]
    rfl
  | ofNat up =>
    rw [Int.ofNat_eq_natCast] at lead
    by_cases among : up + 1 < ds.length
    · obtain ⟨places, more⟩ := Nat.exists_eq_add_of_lt among
      obtain rfl : power = .negSucc places := by omega
      have behind : ds.length - (up + 1) = places + 1 := by omega
      rw [scan_point_among whole among ends, sum, behind]
      rfl
    · obtain ⟨count, rfl⟩ : ∃ count : ℕ, power = count :=
        ⟨power.toNat, (Int.toNat_of_nonneg (by omega)).symm⟩
      have fill : up + 1 - ds.length = count := by omega
      rw [scan_point_behind whole first (Nat.not_lt.1 among) ends, sum, fill]

/-- The text of a positive decimal in saved documents. -/
theorem scan_write (positive : 0 < d.digits) (ends : Numeral.Ends rest) :
    Numeral.scanUnsigned negative (write .data d ++ rest) =
      .ok (⟨negative, d.written, false⟩, rest) := by
  unfold write
  dsimp only
  change Numeral.scanUnsigned negative ((if Layout.data.isPositional d.leading then
    positional true (Nat.toDigits 10 d.digits) d.leading
    else scientific (Nat.toDigits 10 d.digits) d.leading) ++ rest) = _
  unfold written
  split_ifs with placed
  · rw [scan_positional positive ends]
  · rw [scan_scientific _ _ ends, leading, Int.add_sub_cancel]
    obtain ⟨digits, power⟩ := d
    cases power <;> rfl

/-- A positive magnitude has digits. -/
theorem digits_shortest_pos {bits : ℕ} (positive : 0 < bits) (tie : Tie) :
    0 < (shortest tie bits).digits :=
  value_pos ((rounds_shortest tie bits).pos positive)

/-- The decimal that the text of a magnitude writes. -/
def ofMagnitude (bits : ℕ) : Decimal :=
  if bits = 0 then ⟨0, -1⟩ else (shortest .toEven bits).written

theorem toMagnitude_ofMagnitude {bits : ℕ} (finite : bits < Binary64.infinite) :
    (ofMagnitude bits).toMagnitude = bits := by
  unfold ofMagnitude
  split_ifs with zero
  · rw [zero]
    exact toMagnitude_zero _
  · refine toMagnitude_eq (Nat.pos_of_ne_zero zero) finite ?_
    rw [value_written]
    exact rounds_shortest _ _

theorem scan_magnitude (bits : ℕ) (ends : Numeral.Ends rest) :
    Numeral.scanUnsigned negative (Layout.data.magnitude bits ++ rest) =
      .ok (⟨negative, ofMagnitude bits, false⟩, rest) := by
  unfold Layout.magnitude ofMagnitude
  split_ifs with zero
  · have zero : IsWhole ['0'] := isWhole_toDigits 0
    exact (Numeral.scanUnsigned_fraction zero (List.cons_ne_nil '0' []) (by simp)
      fun c first => (ends c first).1).trans (Numeral.scanTail_ends false ends)
  · exact scan_write (digits_shortest_pos (Nat.pos_of_ne_zero zero) _) ends

end Decimal

namespace Numeral

variable {x : Float}

/-- The numeral that is written for a finite value. -/
def ofFloat (x : Float) : Numeral :=
  ⟨Binary64.isNegative x, .ofMagnitude (Binary64.magnitude x), false⟩

theorem ofMagnitude_magnitude (x : Float) :
    Binary64.ofMagnitude (Binary64.isNegative x) (Binary64.magnitude x) = x := by
  have bits : x.toBits.toNat < 2 * Binary64.signBit := x.toBits.toNat_lt
  have same : (if Binary64.signBit ≤ x.toBits.toNat then
      Binary64.signBit + x.toBits.toNat % Binary64.signBit
      else x.toBits.toNat % Binary64.signBit) = x.toBits.toNat := by
    unfold Binary64.signBit at *
    split_ifs <;> omega
  unfold Binary64.ofMagnitude Binary64.isNegative Binary64.magnitude
  simp only [decide_eq_true_eq, same, UInt64.ofNat_toNat, Float.ofBits_toBits]

theorem toMagnitude_ofFloat (finite : x.isFinite = true) :
    (ofFloat x).decimal.toMagnitude = Binary64.magnitude x :=
  Decimal.toMagnitude_ofMagnitude (Binary64.magnitude_lt_infinite finite)

theorem toFloat_eq {n : Numeral} (sign : n.negative = Binary64.isNegative x)
    (same : n.decimal.toMagnitude = Binary64.magnitude x) : n.toFloat = x := by
  unfold toFloat Decimal.toFloat
  rw [sign, same]
  exact ofMagnitude_magnitude x

/-- Every finite value reads back, bit for bit. -/
theorem toFloat_ofFloat (finite : x.isFinite = true) : (ofFloat x).toFloat = x :=
  toFloat_eq rfl (toMagnitude_ofFloat finite)

theorem overflows_ofFloat (finite : x.isFinite = true) : (ofFloat x).overflows = false := by
  unfold overflows
  rw [toMagnitude_ofFloat finite]
  exact decide_eq_false (Nat.ne_of_lt (Binary64.magnitude_lt_infinite finite))

theorem text_eq (layout : Decimal.Layout) (finite : x.isFinite = true) :
    layout.text x =
      (if Binary64.isNegative x then ['-'] else []) ++
        layout.magnitude (Binary64.magnitude x) := by
  have kind : x.isNaN = false ∧ x.isInf = false := by
    change x.toModel.unpack.isFinite = true at finite
    change x.toModel.unpack.isNaN = false ∧ x.toModel.unpack.isInf = false
    generalize x.toModel.unpack = unpacked at *
    cases unpacked with
    | zero | finite => exact ⟨rfl, rfl⟩
    | notANumber | infinity => cases finite
  unfold Decimal.Layout.text
  rw [kind.1, kind.2]
  rfl

/-- The text of a value is a numeral if that of its magnitude is. -/
theorem writes_text (layout : Decimal.Layout) (finite : x.isFinite = true) {n : Numeral}
    (scans : ∀ rest, Ends rest → scanUnsigned (Binary64.isNegative x)
      (layout.magnitude (Binary64.magnitude x) ++ rest) = .ok (n, rest)) :
    Writes (layout.text x) n := by
  intro rest ends
  rw [text_eq layout finite]
  have unsigned := scans rest ends
  cases sign : Binary64.isNegative x with
  | true =>
    rw [sign] at unsigned
    exact unsigned
  | false =>
    rw [sign] at unsigned
    exact scan_of_scanUnsigned unsigned

theorem writes_float (finite : x.isFinite = true) :
    Writes (Decimal.Layout.data.text x) (ofFloat x) :=
  writes_text .data finite fun _ ends => Decimal.scan_magnitude _ ends

/-- No natural number of at most 52 bits is beyond the greatest value. -/
theorem overflows_natural {n : ℕ} (bits : n < 2 ^ 52) (negative whole : Bool) :
    (⟨negative, ⟨n, 0⟩, whole⟩ : Numeral).overflows = false := by
  refine decide_eq_false (Nat.ne_of_lt ?_)
  unfold Decimal.toMagnitude
  dsimp only
  split_ifs
  · decide
  · contradiction
  · decide
  · have log : n.log2 < 52 := (Nat.log2_lt (by assumption)).2 bits
    refine Binary64.nearestMagnitude_lt_infinite_of_log2 Nat.one_pos ?_
    change (n * 1).log2 < 0 + 52
    rwa [Nat.mul_one]

end Numeral

end Playhouse
