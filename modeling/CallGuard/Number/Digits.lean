/-!
The digits of natural numbers, written and read by halves, so that long numbers take little longer
than the arithmetic on them. Main statements: writing gives the digits of the number without leading
zeros (`digitsIn_eq_toDigits`), and reading gives the number by place value (`ofDigits_eq_foldl`).
-/

namespace CallGuard.Number

/-- The number that is reached from a number by squaring it a number of times. -/
def squared (base : Nat) : Nat → Nat
  | 0 => base
  | k + 1 =>
    let root := squared base k
    root * root

/-- Writes the lowest `2 ^ k` digits of a number in front of a list. -/
def digitsBelow (base : Nat) : Nat → Nat → List Char → List Char
  | 0, n, rest => Nat.digitChar n :: rest
  | k + 1, n, rest =>
    let weight := squared base k
    digitsBelow base k (n / weight) (digitsBelow base k (n % weight) rest)

/-- The digits of a number in a base of at least two, without leading zeros. -/
def digitsIn (base n : Nat) : List Char :=
  if n = 0 then ['0']
  else
    (digitsBelow base ((n.log2 / base.log2).log2 + 1) n []).dropWhile (· == '0')

/-- The decimal digits of a number, as characters. -/
def decimalDigits (n : Nat) : List Char :=
  digitsIn 10 n

/-- How many decimal digits a number has; zero has one. -/
def digitCount (n : Nat) : Nat :=
  (decimalDigits n).length

/-- Digits taken two by two from the front as digits of the squared base. -/
def joinPairs (base : Nat) : List Nat → List Nat
  | high :: low :: rest => (high * base + low) :: joinPairs base rest
  | rest => rest

def padEven (digits : List Nat) : List Nat :=
  if digits.length % 2 = 0 then digits else 0 :: digits

theorem length_joinPairs (base : Nat) (digits : List Nat) :
    (joinPairs base digits).length = (digits.length + 1) / 2 := by
  fun_induction joinPairs base digits with
  | case1 high low rest ih => simp only [List.length_cons, ih]; omega
  | case2 rest h =>
    match rest, h with
    | [], _ => rfl
    | [_], _ => simp
    | a :: b :: c, h => exact absurd rfl (h a b c)

theorem length_padEven (digits : List Nat) :
    (padEven digits).length = digits.length + digits.length % 2 := by
  unfold padEven
  split
  · omega
  · rw [List.length_cons]
    omega

def ofDigits (base : Nat) (digits : List Nat) : Nat :=
  match digits with
  | [] => 0
  | [digit] => digit
  | first :: second :: rest =>
    ofDigits (base * base) (joinPairs base (padEven (first :: second :: rest)))
termination_by digits.length
decreasing_by
  rw [length_joinPairs, length_padEven]
  simp only [List.length_cons]
  omega

/-- Reading by pairs in the squared base reads the same number as reading digit by digit. -/
theorem foldl_joinPairs (base : Nat) (digits : List Nat) (h : digits.length % 2 = 0) (n : Nat) :
    (joinPairs base digits).foldl (fun n d => n * (base * base) + d) n =
      digits.foldl (fun n d => n * base + d) n := by
  fun_induction joinPairs base digits generalizing n with
  | case1 high low rest ih =>
    have hrest : rest.length % 2 = 0 := by
      simp only [List.length_cons] at h
      omega
    simp only [List.foldl_cons, ih hrest]
    congr 1
    rw [Nat.add_mul, Nat.mul_assoc, Nat.add_assoc]
  | case2 rest hshort =>
    match rest, hshort with
    | [], _ => rfl
    | [_], _ => simp at h
    | a :: b :: c, hshort => exact absurd rfl (hshort a b c)

theorem foldl_padEven (base : Nat) (digits : List Nat) :
    (padEven digits).foldl (fun n d => n * base + d) 0 =
      digits.foldl (fun n d => n * base + d) 0 := by
  unfold padEven
  split <;> simp

/-- The number written by digits is their sum by place value, the last place being one. -/
theorem ofDigits_eq_foldl (base : Nat) (digits : List Nat) :
    ofDigits base digits = digits.foldl (fun n d => n * base + d) 0 := by
  fun_induction ofDigits base digits with
  | case1 => rfl
  | case2 => simp
  | case3 base first second rest ih =>
    rw [ih, foldl_joinPairs, foldl_padEven]
    rw [length_padEven]
    omega

theorem dropWhile_digitsBelow_zero (base k : Nat) (rest : List Char) :
    (digitsBelow base k 0 rest).dropWhile (· == '0') = rest.dropWhile (· == '0') := by
  induction k generalizing rest with
  | zero => simp [digitsBelow, Nat.digitChar]
  | succ k ih => simp only [digitsBelow, Nat.zero_div, Nat.zero_mod, ih]

theorem squared_succ (base k : Nat) : squared base (k + 1) = squared base k * squared base k :=
  rfl

/-- Squaring doubles the exponent. -/
theorem squared_eq_pow (base k : Nat) : squared base k = Nat.pow base (Nat.pow 2 k) := by
  induction k with
  | zero => exact (Nat.pow_one base).symm
  | succ k ih =>
    rw [squared_succ, ih]
    exact (Nat.pow_add base (2 ^ k) (2 ^ k)).symm.trans
      (congrArg (base ^ ·) (Nat.mul_two (2 ^ k)).symm)

theorem squared_pos {base : Nat} (hbase : 0 < base) (k : Nat) : 0 < squared base k := by
  induction k with
  | zero => exact hbase
  | succ k ih => exact Nat.mul_pos ih ih

/-- Digits of a positive number followed by lower digits are those of the number they make up. -/
theorem toDigits_append_digitsBelow {base : Nat} (hbase : 1 < base) (k : Nat) {high low : Nat}
    (hhigh : 0 < high) (hlow : low < squared base k) (rest : List Char) :
    Nat.toDigits base high ++ digitsBelow base k low rest =
      Nat.toDigits base (squared base k * high + low) ++ rest := by
  induction k generalizing high low rest with
  | zero =>
    have hlow : low < base := hlow
    have happend := Nat.toDigits_append_toDigits hbase hhigh hlow
    rw [Nat.toDigits_of_lt_base hlow] at happend
    simp [digitsBelow, squared, ← happend]
  | succ k ih =>
    have hpos : 0 < squared base k := squared_pos (by omega) k
    have hquotient : low / squared base k < squared base k := by
      rw [Nat.div_lt_iff_lt_mul hpos, ← squared_succ]
      exact hlow
    have hmid : 0 < squared base k * high + low / squared base k :=
      Nat.add_pos_left (Nat.mul_pos hpos hhigh) _
    simp only [digitsBelow]
    rw [ih hhigh hquotient, ih hmid (Nat.mod_lt _ hpos)]
    congr 2
    rw [squared_succ, Nat.mul_add, Nat.add_assoc, Nat.div_add_mod, Nat.mul_assoc]

theorem dropWhile_digitsBelow {base : Nat} (hbase : 1 < base) (k : Nat) {n : Nat} (hn : 0 < n)
    (hlt : n < squared base k) (rest : List Char) :
    (digitsBelow base k n rest).dropWhile (· == '0') = Nat.toDigits base n ++ rest := by
  induction k generalizing n rest with
  | zero =>
    have hlt : n < base := hlt
    rw [Nat.toDigits_of_lt_base hlt]
    simp [digitsBelow, Nat.digitChar_eq_zero, Nat.ne_of_gt hn]
  | succ k ih =>
    have hpos : 0 < squared base k := squared_pos (by omega) k
    have hrest : n % squared base k < squared base k := Nat.mod_lt _ hpos
    have hsplit := Nat.div_add_mod n (squared base k)
    simp only [digitsBelow]
    by_cases hzero : n / squared base k = 0
    · have hsame : n % squared base k = n := by rw [hzero] at hsplit; simpa using hsplit
      rw [hzero, dropWhile_digitsBelow_zero, hsame, ih hn (by omega)]
    · have hquotient : n / squared base k < squared base k := by
        rw [Nat.div_lt_iff_lt_mul hpos, ← squared_succ]
        exact hlt
      have hhigh : 0 < n / squared base k := Nat.pos_of_ne_zero hzero
      rw [ih hhigh hquotient, toDigits_append_digitsBelow hbase k hhigh hrest, hsplit]

theorem lt_squared_log2 {base : Nat} (hbase : 1 < base) (n : Nat) :
    n < squared base ((n.log2 / base.log2).log2 + 1) := by
  have hlog : 0 < base.log2 := (Nat.le_log2 (by omega)).2 (by omega)
  have hbits : n < 2 ^ (n.log2 + 1) := Nat.lt_log2_self
  have hplaces : n.log2 + 1 ≤ base.log2 * (n.log2 / base.log2 + 1) := by
    have hsplit := Nat.div_add_mod n.log2 base.log2
    have hrest := Nat.mod_lt n.log2 hlog
    rw [Nat.mul_add, Nat.mul_one]
    omega
  have hbase' : 2 ^ base.log2 ≤ base := Nat.log2_self_le (by omega)
  have hcount : n.log2 / base.log2 + 1 ≤ 2 ^ ((n.log2 / base.log2).log2 + 1) := Nat.lt_log2_self
  calc
    n < 2 ^ (n.log2 + 1) := hbits
    _ ≤ 2 ^ (base.log2 * (n.log2 / base.log2 + 1)) := Nat.pow_le_pow_right (by omega) hplaces
    _ = (2 ^ base.log2) ^ (n.log2 / base.log2 + 1) := by rw [Nat.pow_mul]
    _ ≤ base ^ (n.log2 / base.log2 + 1) := Nat.pow_le_pow_left hbase' _
    _ ≤ base ^ 2 ^ ((n.log2 / base.log2).log2 + 1) := Nat.pow_le_pow_right (by omega) hcount
    _ = squared base ((n.log2 / base.log2).log2 + 1) := (squared_eq_pow base _).symm

/-- Writing by halves gives the digits of the number. -/
theorem digitsIn_eq_toDigits {base : Nat} (hbase : 1 < base) (n : Nat) :
    digitsIn base n = Nat.toDigits base n := by
  unfold digitsIn
  split
  · next h => rw [h, Nat.toDigits_of_lt_base (by omega)]; rfl
  · next h =>
    rw [dropWhile_digitsBelow hbase _ (by omega) (lt_squared_log2 hbase n), List.append_nil]

theorem decimalDigits_eq_toDigits (n : Nat) : decimalDigits n = Nat.toDigits 10 n :=
  digitsIn_eq_toDigits (by omega) n

end CallGuard.Number
