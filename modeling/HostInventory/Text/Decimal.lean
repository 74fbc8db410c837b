/-!
# Decimal digits

Natural numbers written in decimal digits without leading zeros, and digits read back.
-/

namespace HostInventory.Decimal

def digit (n : Nat) : Char :=
  Char.ofNat (0x30 + n)

def digitValue (c : Char) : Nat :=
  c.toNat - 0x30

def isDigit (c : Char) : Bool :=
  decide (0x30 ≤ c.toNat) && decide (c.toNat ≤ 0x39)

/-- The digits of a number, in front of given characters. -/
def digitsBefore (n : Nat) (rest : List Char) : List Char :=
  if n < 10 then digit n :: rest
  else digitsBefore (n / 10) (digit (n % 10) :: rest)
termination_by n

def digits (n : Nat) : List Char :=
  digitsBefore n []

/-- The number that digits stand for, after a number already read. -/
def valueFrom (n : Nat) (ds : List Char) : Nat :=
  ds.foldl (fun n d => n * 10 + digitValue d) n

def value (ds : List Char) : Nat :=
  valueFrom 0 ds

def text (n : Nat) : String :=
  String.ofList (digits n)

def signedText (n : Int) : String :=
  match n with
  | .ofNat m => text m
  | .negSucc m => "-" ++ text (m + 1)

/-- The number that a text of nothing but digits stands for. -/
def ofText? (s : String) : Option Nat :=
  let ds := s.toList
  if ds.isEmpty || !ds.all isDigit then none else some (value ds)

/-- Digits filled up with zeros in front to a given width. -/
def padded (width n : Nat) : List Char :=
  let ds := digits n
  List.replicate (width - ds.length) '0' ++ ds

/-! ## Digits read back -/

theorem digitValue_digit {n : Nat} (h : n < 10) : digitValue (digit n) = n := by
  have : ∀ m, m < 10 → digitValue (digit m) = m := by decide
  exact this n h

theorem isDigit_digit {n : Nat} (h : n < 10) : isDigit (digit n) = true := by
  have : ∀ m, m < 10 → isDigit (digit m) = true := by decide
  exact this n h

theorem digitsBefore_eq_append (n : Nat) (rest : List Char) :
    digitsBefore n rest = digits n ++ rest := by
  unfold digits
  induction n using Nat.strongRecOn generalizing rest with
  | ind n ih =>
    rw [digitsBefore, digitsBefore.eq_def n []]
    split
    · rfl
    · have hlt : n / 10 < n := by omega
      rw [ih (n / 10) hlt, ih (n / 10) hlt [digit (n % 10)]]
      simp

theorem digits_of_lt {n : Nat} (h : n < 10) : digits n = [digit n] := by
  rw [digits, digitsBefore, if_pos h]

theorem digits_of_ge {n : Nat} (h : 10 ≤ n) : digits n = digits (n / 10) ++ [digit (n % 10)] := by
  rw [digits, digitsBefore, if_neg (by omega), digitsBefore_eq_append]

theorem value_digits (n : Nat) : value (digits n) = n := by
  induction n using Nat.strongRecOn with
  | ind n ih =>
    by_cases h : n < 10
    · rw [digits_of_lt h]
      simp [value, valueFrom, digitValue_digit h]
    · have hd := ih (n / 10) (by omega)
      rw [digits_of_ge (by omega)]
      simp only [value, valueFrom, List.foldl_append, List.foldl_cons, List.foldl_nil] at hd ⊢
      rw [hd, digitValue_digit (Nat.mod_lt _ (by decide))]
      omega

theorem isDigit_of_mem_digits {n : Nat} {c : Char} (h : c ∈ digits n) : isDigit c = true := by
  induction n using Nat.strongRecOn with
  | ind n ih =>
    by_cases hn : n < 10
    · rw [digits_of_lt hn, List.mem_singleton] at h
      exact h ▸ isDigit_digit hn
    · rw [digits_of_ge (by omega), List.mem_append, List.mem_singleton] at h
      rcases h with h | rfl
      · exact ih (n / 10) (by omega) h
      · exact isDigit_digit (Nat.mod_lt _ (by decide))

theorem length_digits_mono {m n : Nat} (h : m ≤ n) : (digits m).length ≤ (digits n).length := by
  induction n using Nat.strongRecOn generalizing m with
  | ind n ih =>
    by_cases hn : n < 10
    · rw [digits_of_lt hn, digits_of_lt (by omega : m < 10)]
      exact Nat.le_refl 1
    · rw [digits_of_ge (by omega : 10 ≤ n), List.length_append]
      by_cases hm : m < 10
      · rw [digits_of_lt hm]
        exact Nat.le_add_left 1 _
      · rw [digits_of_ge (by omega : 10 ≤ m), List.length_append]
        have htenth := ih (n / 10) (by omega) (Nat.div_le_div_right h)
        exact Nat.add_le_add_right htenth 1

theorem length_padded {width n : Nat} (h : (digits n).length ≤ width) :
    (padded width n).length = width := by
  rw [padded, List.length_append, List.length_replicate]
  omega

theorem isDigit_of_mem_padded {width n : Nat} {c : Char} (h : c ∈ padded width n) :
    isDigit c = true := by
  rcases List.mem_append.mp h with h | h
  · rw [List.eq_of_mem_replicate h]
    decide
  · exact isDigit_of_mem_digits h

end HostInventory.Decimal
