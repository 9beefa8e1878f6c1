import Mathlib.Algebra.GroupWithZero.Nat
import Mathlib.Data.List.Basic
import QueryWatch.Text.Utf8

/-!
# Written characters are read back

The bytes of a character are a leading byte, which holds the highest bits and says how
many bytes continue it, and then six bits a byte. Read after the leading byte, they
rebuild the number of the character from the top. The range that the reader allows for
the second byte is met, as a character is no surrogate, has its shortest form and is
at most U+10FFFF.
-/
namespace QueryWatch.Utf8

/-- The last bytes of a character, six bits of its number each. -/
def continuation : (count : Nat) → (number : Nat) → Octets
  | 0, _ => []
  | count + 1, number =>
    UInt8.ofNat (number / 64 ^ count % 64 + 0x80) :: continuation count number

theorem toNat_continuing (n : Nat) : (UInt8.ofNat (n % 64 + 0x80)).toNat = n % 64 + 0x80 := by
  simp only [UInt8.toNat_ofNat']
  omega

/-- The bytes that continue a character are of its widest range. -/
theorem continuing_in_range (n : Nat) :
    (0x80 : UInt8).toNat ≤ n % 64 + 0x80 ∧ n % 64 + 0x80 ≤ (0xBF : UInt8).toNat := by
  simp only [UInt8.reduceToNat]
  omega

/-- A byte in range is taken into a character that is not complete without it. -/
theorem step_inside {low high : UInt8} {bits n further : Nat} (least : low.toNat ≤ n % 64 + 0x80)
    (greatest : n % 64 + 0x80 ≤ high.toNat) (top : bits = n / 64) :
    step (.inside bits low high further) (UInt8.ofNat (n % 64 + 0x80)) =
      match further with
      | 0 => ([Char.ofNat n], .between)
      | further + 1 => ([], .inside n 0x80 0xBF further) := by
  have fits : (low ≤ UInt8.ofNat (n % 64 + 0x80) && UInt8.ofNat (n % 64 + 0x80) ≤ high) = true := by
    simp only [UInt8.le_iff_toNat_le, toNat_continuing, Bool.and_eq_true, decide_eq_true_eq]
    exact ⟨least, greatest⟩
  have whole : bits * 64 + ((UInt8.ofNat (n % 64 + 0x80)).toNat - 0x80) = n := by
    have octet := toNat_continuing n
    omega
  cases further <;> simp only [step, if_pos fits, whole]

/-- Inside of a character the bytes that are left complete its number. -/
theorem decodeFrom_continuation {low high : UInt8} {count number : Nat}
    (least : low.toNat ≤ number / 64 ^ count % 64 + 0x80)
    (greatest : number / 64 ^ count % 64 + 0x80 ≤ high.toNat) (rest : Octets) :
    decodeFrom (.inside (number / 64 ^ (count + 1)) low high count)
        (continuation (count + 1) number ++ rest)
      = Char.ofNat number :: decodeFrom .between rest := by
  have top : number / 64 ^ (count + 1) = number / 64 ^ count / 64 := by
    rw [Nat.div_div_eq_div_mul, Nat.pow_succ]
  induction count generalizing low high with
  | zero =>
    rw [continuation, List.cons_append, decodeFrom, step_inside least greatest top]
    simp [continuation]
  | succ count ih =>
    obtain ⟨next_low, next_high⟩ := continuing_in_range (number / 64 ^ count)
    have next_top : number / 64 ^ (count + 1) = number / 64 ^ count / 64 := by
      rw [Nat.div_div_eq_div_mul, Nat.pow_succ]
    rw [continuation, List.cons_append, decodeFrom, step_inside least greatest top,
      List.nil_append]
    exact ih next_low next_high next_top

/-- A leading byte holds the highest bits of a number, and its range admits the next
byte. -/
def Leads (lead : UInt8) (count number : Nat) : Prop :=
  ∃ low high, start lead = ([], .inside (number / 64 ^ (count + 1)) low high count) ∧
    low.toNat ≤ number / 64 ^ count % 64 + 0x80 ∧
    number / 64 ^ count % 64 + 0x80 ≤ high.toNat

theorem leads_of_widest {lead : UInt8} {count number : Nat}
    (started : start lead = ([], .inside (number / 64 ^ (count + 1)) 0x80 0xBF count)) :
    Leads lead count number :=
  ⟨0x80, 0xBF, started, continuing_in_range _⟩

theorem Leads.decodeFrom {lead : UInt8} {count number : Nat} (leads : Leads lead count number)
    (rest : Octets) :
    decodeFrom .between (lead :: continuation (count + 1) number ++ rest)
      = Char.ofNat number :: Utf8.decodeFrom .between rest := by
  obtain ⟨low, high, started, least, greatest⟩ := leads
  rw [List.cons_append, Utf8.decodeFrom, step, started, List.nil_append]
  exact decodeFrom_continuation least greatest rest

/-- The start of a character in terms of numbers. -/
theorem start_of_toNat {b : UInt8} {n : Nat} (h : b.toNat = n) :
    start b =
      if n < 0x80 then ([Char.ofNat n], .between)
      else if 0xC2 ≤ n ∧ n ≤ 0xDF then ([], .inside (n - 0xC0) 0x80 0xBF 0)
      else if n = 0xE0 then ([], .inside 0 0xA0 0xBF 1)
      else if n = 0xED then ([], .inside 0xD 0x80 0x9F 1)
      else if 0xE1 ≤ n ∧ n ≤ 0xEF then ([], .inside (n - 0xE0) 0x80 0xBF 1)
      else if n = 0xF0 then ([], .inside 0 0x90 0xBF 2)
      else if 0xF1 ≤ n ∧ n ≤ 0xF3 then ([], .inside (n - 0xF0) 0x80 0xBF 2)
      else if n = 0xF4 then ([], .inside 4 0x80 0x8F 2)
      else ([replacement], .between) := by
  subst h
  simp only [start, UInt8.lt_iff_toNat_lt, UInt8.le_iff_toNat_le, ← UInt8.toNat_inj,
    Bool.and_eq_true, decide_eq_true_eq, beq_iff_eq, UInt8.reduceToNat]

theorem leads_two {v : Nat} (above : 0x7f < v) (below : v ≤ 0x7ff) :
    Leads (UInt8.ofNat (v / 64 % 32 + 0xC0)) 0 v := by
  have byte : (UInt8.ofNat (v / 64 % 32 + 0xC0)).toNat = v / 64 + 0xC0 := by
    simp only [UInt8.toNat_ofNat']
    omega
  apply leads_of_widest
  rw [start_of_toNat byte, if_neg (by omega), if_pos (by omega)]
  simp only [Nat.add_sub_cancel, Nat.reduceAdd, Nat.reducePow]

theorem leads_three {v : Nat} (above : 0x7ff < v) (below : v ≤ 0xffff)
    (valid : v < 0xd800 ∨ 0xdfff < v) : Leads (UInt8.ofNat (v / 4096 % 16 + 0xE0)) 1 v := by
  have byte : (UInt8.ofNat (v / 4096 % 16 + 0xE0)).toNat = v / 4096 + 0xE0 := by
    simp only [UInt8.toNat_ofNat']
    omega
  have started := start_of_toNat byte
  rw [if_neg (by omega), if_neg (by omega)] at started
  split_ifs at started with low surrogate other
  -- The shortest form and the surrogates bound the second byte from below and from above.
  · refine ⟨0xA0, 0xBF, ?_, ?_, (continuing_in_range _).2⟩
    · rw [started, show v / 64 ^ 2 = 0 by omega]
    · simp only [UInt8.reduceToNat]
      omega
  · refine ⟨0x80, 0x9F, ?_, (continuing_in_range _).1, ?_⟩
    · rw [started, show v / 64 ^ 2 = 0xD by omega]
    · simp only [UInt8.reduceToNat]
      omega
  · apply leads_of_widest
    simp only [started, Nat.add_sub_cancel, Nat.reduceAdd, Nat.reducePow]
  all_goals omega

theorem leads_four {v : Nat} (above : 0xffff < v) (below : v < 0x110000) :
    Leads (UInt8.ofNat (v / 262144 % 8 + 0xF0)) 2 v := by
  have byte : (UInt8.ofNat (v / 262144 % 8 + 0xF0)).toNat = v / 262144 + 0xF0 := by
    simp only [UInt8.toNat_ofNat']
    omega
  have started := start_of_toNat byte
  rw [if_neg (by omega), if_neg (by omega), if_neg (by omega), if_neg (by omega),
    if_neg (by omega)] at started
  split_ifs at started with low other high
  · refine ⟨0x90, 0xBF, ?_, ?_, (continuing_in_range _).2⟩
    · rw [started, show v / 64 ^ 3 = 0 by omega]
    · simp only [UInt8.reduceToNat]
      omega
  · apply leads_of_widest
    simp only [started, Nat.add_sub_cancel, Nat.reduceAdd, Nat.reducePow]
  · refine ⟨0x80, 0x8F, ?_, (continuing_in_range _).1, ?_⟩
    · rw [started, show v / 64 ^ 3 = 4 by omega]
    · simp only [UInt8.reduceToNat]
      omega
  all_goals omega

/-- The bytes of a character are read as it, whatever follows. -/
theorem decodeFrom_utf8EncodeChar (c : Char) (rest : Octets) :
    decodeFrom .between (String.utf8EncodeChar c ++ rest) = c :: decodeFrom .between rest := by
  have valid : c.toNat < 0xd800 ∨ 0xdfff < c.toNat ∧ c.toNat < 0x110000 := c.valid
  have same : Char.ofNat c.toNat = c := Char.ofNat_toNat c
  simp only [String.utf8EncodeChar, Char.toNat_val]
  split_ifs with one two three
  · have byte : (UInt8.ofNat c.toNat).toNat = c.toNat := by
      simp only [UInt8.toNat_ofNat']
      omega
    rw [List.cons_append, decodeFrom, step, start_of_toNat byte, if_pos (by omega), same]
    rfl
  · have read := (leads_two (Nat.not_le.1 one) two).decodeFrom rest
    simpa [continuation, same] using read
  · have read := (leads_three (Nat.not_le.1 two) three (valid.imp_right And.left)).decodeFrom rest
    simpa [continuation, same] using read
  · have bound : c.toNat < 0x110000 := by omega
    have read := (leads_four (Nat.not_le.1 three) bound).decodeFrom rest
    simpa [continuation, same] using read

theorem decodeLossy_encode_append (t : Text) (bytes : Octets) :
    decodeLossy (encode t ++ bytes) = t ++ decodeLossy bytes := by
  induction t with
  | nil => rfl
  | cons c t ih =>
    rw [encode, List.flatMap_cons, List.append_assoc, decodeLossy, decodeFrom_utf8EncodeChar,
      List.cons_append]
    exact congrArg (c :: ·) ih

/-- A written text is read back. -/
theorem decodeLossy_encode (t : Text) : decodeLossy (encode t) = t := by
  have read := decodeLossy_encode_append t []
  rwa [List.append_nil, decodeLossy_eq_nil_iff.2 rfl, List.append_nil] at read

end QueryWatch.Utf8
