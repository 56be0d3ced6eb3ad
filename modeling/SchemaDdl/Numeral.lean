/-!
# Numerals

Whole numbers in decimal digits: printing, and reading with an optional sign
and a limit. A number is read digit by digit from the left, so the printed
digits of a number read back as that number.
-/

namespace SchemaDdl.Numeral

/-- The character of a digit; digits from ten on are lower-case letters. -/
def digitChar (d : Nat) : Char :=
  if d < 10 then Char.ofNat (48 + d) else Char.ofNat (87 + d)

/-- The decimal digits of `n`, most significant first, without leading zeros. -/
def digits (n : Nat) : List Char :=
  if n < 10 then [digitChar n] else digits (n / 10) ++ [digitChar (n % 10)]
termination_by n
decreasing_by omega

def hexDigits (n : Nat) : List Char :=
  if n < 16 then [digitChar n] else hexDigits (n / 16) ++ [digitChar (n % 16)]
termination_by n
decreasing_by omega

def ofNat (n : Nat) : String := String.ofList (digits n)

def ofInt : Int → String
  | .ofNat n => ofNat n
  | .negSucc n => "-" ++ ofNat (n + 1)

/-- At least `width` decimal digits, filled with zeros on the left. -/
def padded (width n : Nat) : String :=
  String.ofList (List.replicate (width - (digits n).length) '0' ++ digits n)

def isDigit (c : Char) : Bool := '0' ≤ c && c ≤ '9'

def digitValue (c : Char) : Nat := c.toNat - 48

def value (cs : List Char) : Nat := cs.foldl (fun n c => 10 * n + digitValue c) 0

def readNat? (cs : List Char) : Option Nat :=
  if cs ≠ [] ∧ cs.all isDigit then some (value cs) else none

/-- A natural number up to `limit`, with an optional plus sign. -/
def readUpTo? (limit : Nat) (cs : List Char) : Option Nat :=
  let unsigned :=
    match cs with
    | '+' :: rest => rest
    | _ => cs
  (readNat? unsigned).filter (· ≤ limit)

def readInt? : List Char → Option Int
  | '-' :: cs => (readNat? cs).map fun n => -(n : Int)
  | '+' :: cs => (readNat? cs).map Int.ofNat
  | cs => (readNat? cs).map Int.ofNat

def word32Limit : Nat := 4294967295

def hexValue? (c : Char) : Option Nat :=
  if isDigit c then some (digitValue c)
  else if 'a' ≤ c ∧ c ≤ 'f' then some (c.toNat - 87)
  else if 'A' ≤ c ∧ c ≤ 'F' then some (c.toNat - 55)
  else none

@[simp] theorem value_nil : value [] = 0 := rfl

@[simp] theorem value_append_singleton (cs : List Char) (c : Char) :
    value (cs ++ [c]) = 10 * value cs + digitValue c := by
  simp [value]

theorem isDigit_digitChar : ∀ d < 10, isDigit (digitChar d) = true := by decide

theorem digitValue_digitChar : ∀ d < 10, digitValue (digitChar d) = d := by decide

theorem digits_ne_nil (n : Nat) : digits n ≠ [] := by
  rw [digits]
  split
  · exact List.cons_ne_nil _ _
  · exact List.append_ne_nil_of_right_ne_nil _ (List.cons_ne_nil _ _)

theorem all_isDigit_digits (n : Nat) : (digits n).all isDigit = true := by
  induction n using digits.induct with
  | case1 n hsmall => simp [digits, hsmall, isDigit_digitChar n hsmall]
  | case2 n hlarge ih =>
    have hlast := isDigit_digitChar (n % 10) (Nat.mod_lt n (by decide))
    rw [digits, if_neg hlarge, List.all_append, ih]
    simp [hlast]

theorem isDigit_of_mem_digits {n : Nat} {c : Char} (hc : c ∈ digits n) : isDigit c = true :=
  List.all_eq_true.1 (all_isDigit_digits n) c hc

theorem value_digits (n : Nat) : value (digits n) = n := by
  induction n using digits.induct with
  | case1 n hsmall =>
    rw [digits, if_pos hsmall, ← List.nil_append [_], value_append_singleton, value_nil,
      digitValue_digitChar n hsmall]
    omega
  | case2 n hlarge ih =>
    have hlast := digitValue_digitChar (n % 10) (Nat.mod_lt n (by decide))
    rw [digits, if_neg hlarge, value_append_singleton, ih, hlast]
    omega

theorem readInt?_ofInt (n : Int) : readInt? (ofInt n).toList = some n := by
  have hread (n : Nat) : readNat? (digits n) = some n := by
    rw [readNat?, if_pos ⟨digits_ne_nil n, all_isDigit_digits n⟩, value_digits]
  cases n with
  | ofNat n =>
    have hchars : (ofInt (.ofNat n)).toList = digits n := by simp [ofInt, ofNat]
    have hsign {c : Char} (hc : isDigit c = false) (rest : List Char) : digits n ≠ c :: rest := by
      intro heq
      have hdigit := isDigit_of_mem_digits (n := n) (c := c) (by simp [heq])
      rw [hc] at hdigit
      cases hdigit
    rw [hchars, readInt?.eq_3 _ (hsign (by decide)) (hsign (by decide)), hread]
    rfl
  | negSucc n =>
    have hchars : (ofInt (.negSucc n)).toList = '-' :: digits (n + 1) := by
      simp [ofInt, ofNat]
    rw [hchars, readInt?, hread]
    rfl

end SchemaDdl.Numeral
