import Mathlib.Tactic.SplitIfs
import QuorumRing.Text.Numeral
import Std.Data.String.ToNat

/-!
# What is read as a number

A numeral is read from the left, and each digit is tried against the bound at once. As the number only
grows, what is read in the end is the value of all digits, if that is below the bound
(`Numeral.natural_eq_ok_iff`), and nothing else is read.

Decimal digits hold no separator, so that a text which ends in a number can be split before it.
-/

namespace QuorumRing

/-- A list is split at the last occurrence of an element in one way only. -/
theorem append_cons_inj_of_notMem_back {α : Type} {x : α} {front front' back back' : List α}
    (h : x ∉ back) (h' : x ∉ back') (heq : front ++ x :: back = front' ++ x :: back') :
    front = front' ∧ back = back' := by
  rcases List.append_eq_append_iff.1 heq with ⟨between, hfront, hback⟩ | ⟨between, hfront, hback⟩
  · cases between with
    | nil => simp_all
    | cons y between =>
      obtain ⟨-, rfl⟩ := List.cons.inj hback
      simp at h
  · cases between with
    | nil => simp_all
    | cons y between =>
      obtain ⟨-, rfl⟩ := List.cons.inj hback
      simp at h'

theorem notMem_decimal {c : Char} (h : c.isDigit = false) (n : Nat) : c ∉ (toString n).toList := by
  intro hmem
  rw [Nat.toString_eq_ofList_toDigits, String.toList_ofList] at hmem
  have hdigit := Nat.isDigit_of_mem_toDigits (by decide) (by decide) hmem
  rw [hdigit] at h
  exact Bool.noConfusion h

/-- A number behind a text can be told from the whole. -/
theorem append_decimal_inj {front : String} {m n : Nat} :
    front ++ toString m = front ++ toString n ↔ m = n := by
  constructor
  · intro h
    have hchars := congrArg String.toList h
    rw [String.toList_append, String.toList_append] at hchars
    exact Nat.repr_injective (String.toList_inj.1 (List.append_cancel_left hchars))
  · exact congrArg (front ++ toString ·)

namespace Numeral

variable {bound n : Nat} {text digits : List Char} {c : Char}

/-- The digits of base 10 are the decimal digits. -/
theorem digit?_eq (c : Char) :
    digit? 10 c = if c.isDigit then some (c.toNat - '0'.toNat) else none := by
  have hle : ∀ a b : Char, a ≤ b ↔ a.toNat ≤ b.toNat := fun a b => Iff.rfl
  have hdigit : c.isDigit = (decide ('0' ≤ c) && decide (c ≤ '9')) := rfl
  have hnine : '9'.toNat = '0'.toNat + 9 := rfl
  unfold digit?
  rw [hdigit]
  cases hc : decide ('0' ≤ c) && decide (c ≤ '9')
  case true =>
    rw [Bool.and_eq_true, decide_eq_true_iff, decide_eq_true_iff, hle, hle] at hc
    have hlt : c.toNat - '0'.toNat < 10 := by omega
    exact if_pos hlt
  case false =>
    -- a letter counts ten at least, and everything else is given the base itself
    simp only [Bool.false_eq_true, if_false, ite_eq_right_iff]
    split_ifs <;> omega

/-- A decimal number, with or without a plus sign, and its value. -/
def IsNumeral (text : List Char) (n : Nat) : Prop :=
  ∃ digits, (text = digits ∨ text = '+' :: digits) ∧ digits ≠ [] ∧ (∀ c ∈ digits, c.isDigit) ∧
    Nat.ofDigitChars 10 digits 0 = n

theorem le_ofDigitChars (digits : List Char) (n : Nat) : n ≤ Nat.ofDigitChars 10 digits n := by
  induction digits generalizing n with
  | nil => exact Nat.le_refl n
  | cons c digits ih =>
    rw [Nat.ofDigitChars_cons]
    have hrest := ih (10 * n + (c.toNat - '0'.toNat))
    omega

theorem readDigits_eq_ok_iff {start : Nat} (hstart : start < bound) :
    readDigits bound start digits = .ok n ↔
      (∀ c ∈ digits, c.isDigit) ∧ Nat.ofDigitChars 10 digits start = n ∧ n < bound := by
  induction digits generalizing start with
  | nil =>
    rw [readDigits, Nat.ofDigitChars_nil]
    constructor
    · intro h
      obtain rfl := Except.ok.inj h
      exact ⟨by simp, rfl, hstart⟩
    · rintro ⟨-, rfl, -⟩
      rfl
  | cons c digits ih =>
    rw [readDigits, digit?_eq, Nat.ofDigitChars_cons, List.forall_mem_cons]
    cases hc : c.isDigit
    case false => simp
    case true =>
      have hgrows := le_ofDigitChars digits (10 * start + (c.toNat - '0'.toNat))
      rw [if_pos rfl]
      dsimp only
      split
      next hlt =>
        rw [ih hlt]
        simp
      next hge =>
        simp only [reduceCtorEq, false_iff]
        rintro ⟨-, hvalue, hlt⟩
        omega

theorem readAll_eq_ok_iff (hbound : 0 < bound) : readAll bound digits = .ok n ↔
    digits ≠ [] ∧ (∀ c ∈ digits, c.isDigit) ∧ Nat.ofDigitChars 10 digits 0 = n ∧ n < bound := by
  cases digits with
  | nil => simp [readAll]
  | cons c digits =>
    have hread : readAll bound (c :: digits) = readDigits bound 0 (c :: digits) := rfl
    rw [hread, readDigits_eq_ok_iff hbound]
    simp

/-- Exactly the numerals below the bound are read. -/
theorem natural_eq_ok_iff (hbound : 0 < bound) :
    natural bound text = .ok n ↔ IsNumeral text n ∧ n < bound := by
  have hplus : ('+').isDigit = false := rfl
  fun_cases natural bound text with
  | case1 =>
    simp [IsNumeral]
  | case2 digits =>
    rw [readAll_eq_ok_iff hbound]
    constructor
    · rintro ⟨hne, hdigits, hvalue, hlt⟩
      exact ⟨⟨digits, .inr rfl, hne, hdigits, hvalue⟩, hlt⟩
    · rintro ⟨⟨digits', rfl | hsame, hne, hdigits, hvalue⟩, hlt⟩
      · simp [hplus] at hdigits
      · obtain rfl := (List.cons.inj hsame).2
        exact ⟨hne, hdigits, hvalue, hlt⟩
  | case3 text hempty hsign =>
    rw [readAll_eq_ok_iff hbound]
    constructor
    · rintro ⟨hne, hdigits, hvalue, hlt⟩
      exact ⟨⟨text, .inl rfl, hne, hdigits, hvalue⟩, hlt⟩
    · rintro ⟨⟨digits, rfl | rfl, hne, hdigits, hvalue⟩, hlt⟩
      · exact ⟨hne, hdigits, hvalue, hlt⟩
      · exact absurd rfl (hsign digits)

/-- A number is written as a numeral. -/
theorem isNumeral_decimal (n : Nat) : IsNumeral (toString n).toList n := by
  rw [Nat.toString_eq_ofList_toDigits, String.toList_ofList]
  refine ⟨Nat.toDigits 10 n, .inl rfl, Nat.toDigits_ne_nil, ?_, Nat.ofDigitChars_ten_toDigits⟩
  intro c hc
  exact Nat.isDigit_of_mem_toDigits (by decide) (by decide) hc

end Numeral

end QuorumRing
