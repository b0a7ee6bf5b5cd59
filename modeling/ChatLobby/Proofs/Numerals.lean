import ChatLobby.Text.Digits
import Mathlib.Data.List.Induction
import Mathlib.Tactic.IntervalCases

/-!
# Numerals

`Numeral radix cs n` says that `cs` is one digit or more, and `n` the value that their places give
them.

* `numeral?_eq_some_iff`: that is what the reader of numerals goes by.
* `numeral_toDigits`: a number is written as a numeral of its value.
* `Numeral.eq_decimal`: and a decimal numeral of that value without needless zeros is how it is
  written.
-/

namespace ChatLobby.Text

variable {radix n d : Nat} {c : Char} {cs : List Char}

/-! ## Digits

A digit has one value in every radix that it is a digit of, and the characters that numbers are
written with are digits of their values. -/

/-- The character for a value is read as that value. -/
theorem digitValue?_digitChar (hd : d < radix) (hradix : radix ≤ 16) :
    digitValue? radix (Nat.digitChar d) = some d := by
  have hsixteen : d < 16 := by omega
  rw [digitValue?]
  interval_cases d <;> simp [Nat.digitChar, Option.filter] <;> omega

theorem lt_of_digitValue? (h : digitValue? radix c = some d) : d < radix :=
  of_decide_eq_true (Option.filter_eq_some_iff.mp h).2

/-- What is no digit of a radix is none of a smaller one. -/
theorem digitValue?_eq_none {radix' : Nat} (hle : radix ≤ radix')
    (h : digitValue? radix' c = none) : digitValue? radix c = none := by
  rw [digitValue?, Option.filter_eq_none_iff] at h ⊢
  intro d hd hlt
  have hlt : d < radix := of_decide_eq_true hlt
  exact h d hd (decide_eq_true (by omega))

/-- The decimal digits are those that numbers are written with. -/
theorem eq_digitChar (h : digitValue? 10 c = some d) : c = Nat.digitChar d := by
  have hlt := lt_of_digitValue? h
  obtain ⟨hvalue, -⟩ := Option.filter_eq_some_iff.mp h
  apply Char.toNat_inj.mp
  rw [Nat.toNat_digitChar_of_lt_ten hlt]
  split at hvalue
  · next hdigit =>
    have hlow : 48 ≤ c.toNat := hdigit.1
    have hvalue : c.toNat - 48 = d := Option.some.inj hvalue
    omega
  · -- a letter counts ten at least
    split at hvalue
    · cases hvalue
      omega
    · split at hvalue
      · cases hvalue
        omega
      · cases hvalue

/-- Digits are read on from the value of those before them. -/
theorem digitsValue?_append (high : Nat) (cs more : List Char) :
    digitsValue? radix high (cs ++ more) =
      (digitsValue? radix high cs).bind fun high => digitsValue? radix high more := by
  induction cs generalizing high with
  | nil => rfl
  | cons c cs ih =>
    rw [List.cons_append, digitsValue?, digitsValue?, Option.bind_assoc]
    congr 1
    funext d
    exact ih _

/-! ## Numerals

A numeral is built from its end, since that is where the places count from; so proofs about one take
off its last digit. -/

/-- Digits of a radix, one or more, and their value. -/
inductive Numeral (radix : Nat) : List Char → Nat → Prop where
  /-- A digit stands for its value. -/
  | digit {c : Char} {d : Nat} (hd : digitValue? radix c = some d) : Numeral radix [c] d
  /-- One more digit behind the others raises them by one place. -/
  | snoc {cs : List Char} {n : Nat} {c : Char} {d : Nat} (hcs : Numeral radix cs n)
    (hd : digitValue? radix c = some d) : Numeral radix (cs ++ [c]) (n * radix + d)

/-- **A numeral is read as its value**, and nothing else is read. -/
theorem numeral?_eq_some_iff : numeral? radix cs = some n ↔ Numeral radix cs n := by
  constructor
  · intro h
    rw [numeral?] at h
    split at h
    · cases h
    next hne =>
    induction cs using List.reverseRecOn generalizing n with
    | nil => simp_all
    | append_singleton cs c ih =>
      rw [digitsValue?_append] at h
      obtain ⟨high, hhigh, h⟩ := Option.bind_eq_some_iff.mp h
      obtain ⟨d, hd, h⟩ := Option.bind_eq_some_iff.mp h
      cases h
      -- -- a single digit is a numeral by itself, any other continues one
      by_cases hcs : cs.isEmpty
      · rw [List.isEmpty_iff] at hcs
        subst hcs
        cases hhigh
        simpa using Numeral.digit hd
      · exact .snoc (ih hcs hhigh) hd
  · intro h
    have hread : digitsValue? radix 0 cs = some n ∧ cs ≠ [] := by
      induction h with
      | digit hd => simp [digitsValue?, hd]
      | snoc _ hd ih => simp [digitsValue?_append, ih.1, digitsValue?, hd]
    rw [numeral?, if_neg (by simpa using hread.2), hread.1]

namespace Numeral

theorem ne_nil (h : Numeral radix cs n) : cs ≠ [] := by
  cases h <;> simp

/-- A numeral has digits only. -/
theorem isSome_of_mem (h : Numeral radix cs n) (hc : c ∈ cs) : (digitValue? radix c).isSome := by
  induction h with
  | digit hd =>
    rw [List.mem_singleton.mp hc, hd]
    rfl
  | snoc _ hd ih =>
    rcases List.mem_append.mp hc with hc | hc
    · exact ih hc
    · rw [List.mem_singleton.mp hc, hd]
      rfl

/-- What is no digit is not in a numeral. -/
theorem notMem (h : Numeral radix cs n) (hc : digitValue? radix c = none) : c ∉ cs := by
  intro hmem
  have hsome := h.isSome_of_mem hmem
  rw [hc] at hsome
  cases hsome

/-- As many places hold no more than so many values. -/
theorem lt_pow (h : Numeral radix cs n) : n < radix ^ cs.length := by
  induction h with
  | digit hd => simpa using lt_of_digitValue? hd
  | @snoc cs n c d _ hd ih =>
    have hd := lt_of_digitValue? hd
    rw [List.length_append, List.length_singleton, Nat.pow_succ]
    calc n * radix + d < n * radix + radix := by omega
      _ = (n + 1) * radix := by rw [Nat.succ_mul]
      _ ≤ radix ^ cs.length * radix := Nat.mul_le_mul_right _ ih

end Numeral

/-- **A number is written as a numeral.** -/
theorem numeral_toDigits (hone : 1 < radix) (hradix : radix ≤ 16) (n : Nat) :
    Numeral radix (Nat.toDigits radix n) n := by
  induction n using Nat.strongRecOn with
  | ind n ih =>
    rw [Nat.toDigits_eq_if hone]
    split
    · next hlt => exact .digit (digitValue?_digitChar hlt hradix)
    · next hge =>
      have hsmall : n / radix < n := Nat.div_lt_self (by omega) hone
      have hdigit := digitValue?_digitChar (Nat.mod_lt n (by omega : 0 < radix)) hradix
      have hvalue : n / radix * radix + n % radix = n := by
        rw [Nat.mul_comm]
        exact Nat.div_add_mod n radix
      have hsnoc := (ih _ hsmall).snoc hdigit
      rwa [hvalue] at hsnoc

theorem numeral?_decimal (n : Nat) : numeral? 10 (decimal n) = some n :=
  numeral?_eq_some_iff.mpr (numeral_toDigits (by decide) (by decide) n)

theorem notMem_decimal (hc : digitValue? 10 c = none) (n : Nat) : c ∉ decimal n :=
  (numeral?_eq_some_iff.mp (numeral?_decimal n)).notMem hc

theorem decimal_ne_nil (n : Nat) : decimal n ≠ [] :=
  (numeral?_eq_some_iff.mp (numeral?_decimal n)).ne_nil

/-- What holds of ten digits holds of all that numbers are written with. -/
theorem forall_mem_decimal {p : Char → Prop} (hp : ∀ d < 10, p (Nat.digitChar d)) :
    ∀ c ∈ decimal n, p c := by
  intro c hc
  have hnumeral := numeral?_eq_some_iff.mp (numeral?_decimal n)
  obtain ⟨d, hd⟩ := Option.isSome_iff_exists.mp (hnumeral.isSome_of_mem hc)
  rw [eq_digitChar hd]
  exact hp d (lt_of_digitValue? hd)

/-- Only zero is written with a zero in front. -/
theorem eq_zero_of_head?_decimal (h : (decimal n).head? = some '0') : n = 0 := by
  induction n using Nat.strongRecOn with
  | ind n ih =>
    rw [decimal, Nat.toDigits_eq_if (by decide)] at h
    split at h
    · next hlt =>
      simpa using h
    · next hge =>
      have hfront : (decimal (n / 10)).head? = some '0' := by
        rw [decimal]
        cases hdigits : Nat.toDigits 10 (n / 10) with
        | nil => exact absurd hdigits Nat.toDigits_ne_nil
        | cons first rest =>
          rw [hdigits] at h
          exact h
      have := ih (n / 10) (by omega) hfront
      omega

/-- **There is one decimal numeral without needless zeros** for a number. -/
theorem Numeral.eq_decimal (h : Numeral 10 cs n) (hzero : cs.head? = some '0' → cs.length = 1) :
    cs = decimal n := by
  induction h with
  | digit hd =>
    rw [decimal, Nat.toDigits_of_lt_base (lt_of_digitValue? hd), ← eq_digitChar hd]
  | @snoc cs n c d hcs hd ih =>
    have hne := hcs.ne_nil
    have hlt := lt_of_digitValue? hd
    -- a zero in front would be needless, as there is a digit behind it
    have hhead : cs.head? ≠ some '0' := by
      intro h
      have := hzero (by rw [List.head?_append, h, Option.some_or])
      simp [hne] at this
    have hcs := ih fun h => absurd h hhead
    have hpos : n ≠ 0 := by
      rintro rfl
      exact hhead (hcs ▸ rfl)
    rw [decimal, Nat.toDigits_of_base_le (by decide) (by omega),
      show (n * 10 + d) / 10 = n by omega, show (n * 10 + d) % 10 = d by omega, ← eq_digitChar hd,
      ← decimal, ← hcs]

end ChatLobby.Text
