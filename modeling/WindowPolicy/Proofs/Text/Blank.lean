/-
# WindowPolicy.Proofs.Text.Blank — terms between bars

Terms without blanks and bars are joined by a bar between blanks. Splitting at the bars and
dropping the blanks around each piece finds them again.

* `Plain`: a text without blanks and bars;
* `trim_padded`, `trim_cons_ne_nil`: the blanks around a plain text are dropped, and a text that
  does not start with a blank does not vanish;
* `map_trim_splitOn`: plain terms are found again.
-/
import Mathlib.Data.List.TakeWhile
import WindowPolicy.Text.Basic

namespace WindowPolicy.Text

set_option autoImplicit false

variable {before text after : List Char}

/-- Neither blanks nor bars occur in the text. -/
def Plain (text : List Char) : Prop := ∀ c ∈ text, isBlank c = false ∧ c ≠ '|'

-- By the characters of the text, and not by all characters that there are.
instance (text : List Char) : Decidable (Plain text) :=
  List.decidableBAll (fun c => isBlank c = false ∧ c ≠ '|') text

theorem dropWhile_append_of_plain (plain : Plain text) (nonempty : text ≠ []) (after : List Char) :
    (text ++ after).dropWhile isBlank = text ++ after := by
  obtain ⟨c, text, rfl⟩ := List.exists_cons_of_ne_nil nonempty
  rw [List.cons_append, List.dropWhile_cons_of_neg]
  simp [(plain c List.mem_cons_self).1]

/-- The blanks around a text are dropped and nothing else. -/
theorem trim_padded (blankBefore : ∀ c ∈ before, isBlank c = true) (plain : Plain text)
    (blankAfter : ∀ c ∈ after, isBlank c = true) : trim (before ++ text ++ after) = text := by
  rw [trim, List.append_assoc, List.dropWhile_append_of_pos blankBefore]
  by_cases empty : text = []
  · rw [empty, List.nil_append, List.dropWhile_eq_nil_iff.mpr blankAfter]
    rfl
  · have reversed : Plain text.reverse := fun c member => plain c (List.mem_reverse.mp member)
    have blankReversed : ∀ c ∈ after.reverse, isBlank c = true := fun c member =>
      blankAfter c (List.mem_reverse.mp member)
    have kept := dropWhile_append_of_plain reversed (mt List.reverse_eq_nil_iff.mp empty) []
    rw [List.append_nil] at kept
    rw [dropWhile_append_of_plain plain empty, List.reverse_append,
      List.dropWhile_append_of_pos blankReversed, kept, List.reverse_reverse]

/-- A text that does not start with a blank is not blank. -/
theorem trim_cons_ne_nil {c : Char} (solid : isBlank c = false) (rest : List Char) :
    trim (c :: rest) ≠ [] := by
  rw [trim, List.dropWhile_cons_of_neg (by simp [solid]), ne_eq, List.reverse_eq_nil_iff,
    List.dropWhile_eq_nil_iff]
  intro blank
  exact absurd (blank c (by simp)) (by simp [solid])

/-- Plain terms that are joined by a bar between blanks are found again, whatever blanks stand
before them. -/
theorem map_trim_splitOn {terms : List (List Char)} (blank : ∀ c ∈ before, c = ' ')
    (plain : ∀ term ∈ terms, Plain term) (nonempty : terms ≠ []) :
    ((before ++ [' ', '|', ' '].intercalate terms).splitOn '|').map trim = terms := by
  induction terms generalizing before with
  | nil => exact absurd rfl nonempty
  | cons term terms ih =>
      have here : Plain term := plain term List.mem_cons_self
      have blanks : ∀ c ∈ before, isBlank c = true := fun c member => by
        rw [blank c member]
        decide
      have noBar : '|' ∉ before ++ term := fun member => by
        rcases List.mem_append.mp member with early | late
        · exact absurd (blank _ early) (by decide)
        · exact (here _ late).2 rfl
      cases terms with
      | nil =>
          have unpadded : ∀ c ∈ ([] : List Char), isBlank c = true := by simp
          have trimmed := trim_padded blanks here unpadded
          rw [List.append_nil] at trimmed
          rw [List.intercalate_singleton, List.splitOn_eq_singleton noBar, List.map_singleton,
            trimmed]
      | cons next terms =>
          have shape : before ++ [' ', '|', ' '].intercalate (term :: next :: terms) =
              (before ++ term ++ [' ']) ++ '|' ::
                ([' '] ++ [' ', '|', ' '].intercalate (next :: terms)) := by
            simp [List.intercalate_cons_cons]
          have separate : '|' ∉ before ++ term ++ [' '] := by
            simpa using noBar
          have later : ∀ t ∈ next :: terms, Plain t := fun t member =>
            plain t (List.mem_cons_of_mem _ member)
          rw [shape, List.splitOn_append_cons_self_of_not_mem separate, List.map_cons,
            trim_padded blanks here (List.forall_mem_singleton.mpr rfl),
            ih (List.forall_mem_singleton.mpr rfl) later (List.cons_ne_nil _ _)]

end WindowPolicy.Text
