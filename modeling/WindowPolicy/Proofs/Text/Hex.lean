/-
# WindowPolicy.Proofs.Text.Hex — what hexadecimal numerals stand for

A run of digits, in either case and with any number of zeros in front, stands for the sum of its
digits, each multiplied by the sixteens of its place. The digits that are written for a number
stand for that number.

* `value?_eq_some_iff`: the number that a text stands for, by the places of its digits;
* `value?_digits`: the digits of a number are read back;
* `plain_digits`: they contain neither blanks nor bars.
-/
import Mathlib.Data.Nat.Digits.Defs
import Mathlib.Tactic.Ring
import WindowPolicy.Proofs.Text.Blank
import WindowPolicy.Text.Basic

namespace WindowPolicy.Text.Hex

set_option autoImplicit false

open Nat (digitChar)

/-- The digits of a number are those of sixteen. -/
theorem exists_of_mem_digits {n : Nat} {c : Char} (member : c ∈ digits n) :
    ∃ d < 16, c = digitChar d := by
  induction n using Nat.strongRecOn with
  | _ n ih =>
      rw [digits, Nat.toDigits_eq_if (by decide)] at member
      split at member
      · rename_i small
        exact ⟨n, small, List.mem_singleton.mp member⟩
      · rcases List.mem_append.mp member with early | last
        · exact ih (n / 16) (by omega) early
        · exact ⟨n % 16, by omega, List.mem_singleton.mp last⟩

theorem digitValue?_digitChar : ∀ d < 16, digitValue? (digitChar d) = some d := by decide

theorem plain_digitChar : ∀ d < 16, isBlank (digitChar d) = false ∧ digitChar d ≠ '|' := by
  decide

theorem plain_digits (n : Nat) : Plain (digits n) := by
  intro c member
  obtain ⟨d, small, rfl⟩ := exists_of_mem_digits member
  exact plain_digitChar d small

/-- Digits are read by their places: the last one counts once, and every other one sixteen times
what the next one counts. -/
theorem extend?_eq_some_iff {n m : Nat} {text : List Char} :
    extend? n text = some m ↔
      ∃ values : List Nat, text.map digitValue? = values.map some ∧
        m = n * 16 ^ values.length + Nat.ofDigits 16 values.reverse := by
  induction text generalizing n with
  | nil =>
      refine ⟨fun read => ⟨[], rfl, ?_⟩, ?_⟩
      · simpa [extend?] using read.symm
      · rintro ⟨values, read, rfl⟩
        obtain rfl : values = [] := by simpa using read.symm
        simp [extend?]
  | cons c text ih =>
      rw [extend?]
      cases value : digitValue? c with
      | none =>
          refine iff_of_false (by simp) ?_
          rintro ⟨_ | ⟨d, values⟩, read, -⟩
          · simp at read
          · simp [value] at read
      | some d =>
          have places (values : List Nat) :
              (16 * n + d) * 16 ^ values.length + Nat.ofDigits 16 values.reverse =
                n * 16 ^ (d :: values).length + Nat.ofDigits 16 (d :: values).reverse := by
            rw [List.reverse_cons, Nat.ofDigits_append, Nat.ofDigits_singleton,
              List.length_reverse, List.length_cons]
            ring
          rw [Option.bind_some, ih]
          constructor
          · rintro ⟨values, read, rfl⟩
            exact ⟨d :: values, by simp [value, read], places values⟩
          · rintro ⟨_ | ⟨e, values⟩, read, rfl⟩
            · simp at read
            · obtain ⟨rfl, rest⟩ : d = e ∧ text.map digitValue? = values.map some := by
                simpa [value] using read
              exact ⟨values, rest, (places values).symm⟩

theorem value?_eq_some_iff {n : Nat} {text : List Char} :
    value? text = some n ↔
      text ≠ [] ∧ ∃ values : List Nat, text.map digitValue? = values.map some ∧
        n = Nat.ofDigits 16 values.reverse := by
  cases text with
  | nil => exact iff_of_false (by simp [value?]) (by simp)
  | cons c text =>
      show extend? 0 (c :: text) = some n ↔ _
      simp [extend?_eq_some_iff]

theorem extend?_append (n : Nat) (first second : List Char) :
    extend? n (first ++ second) = (extend? n first).bind (extend? · second) := by
  induction first generalizing n with
  | nil => rfl
  | cons c first ih =>
      rw [List.cons_append, extend?, extend?]
      cases digitValue? c with
      | none => rfl
      | some d => exact ih _

theorem extend?_digits (n : Nat) : extend? 0 (digits n) = some n := by
  induction n using Nat.strongRecOn with
  | _ n ih =>
      rw [digits, Nat.toDigits_eq_if (by decide)]
      split
      · rename_i small
        simp [extend?, digitValue?_digitChar n small]
      · have last := digitValue?_digitChar (n % 16) (Nat.mod_lt n (by decide))
        have front : extend? 0 (Nat.toDigits 16 (n / 16)) = some (n / 16) := ih (n / 16) (by omega)
        rw [extend?_append, front]
        simp [extend?, last, Nat.div_add_mod]

/-- The digits of a number are read back. -/
theorem value?_digits (n : Nat) : value? (digits n) = some n := by
  rw [value?, if_neg (by simp [digits]), extend?_digits]

end WindowPolicy.Text.Hex
