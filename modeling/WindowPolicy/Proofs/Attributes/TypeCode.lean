/-
# WindowPolicy.Proofs.Attributes.TypeCode — the rules of type codes

What a type code says about a record is told here by rules, each on its own: the category that
the code falls into, and the title that it makes for a record that has none.

* `TypeCode.Falls`, `falls`: the category of a code;
* `TypeCode.Heads`, `heads`: the title that it makes, if it makes one.
-/
import WindowPolicy.Attributes.Completion

namespace WindowPolicy

set_option autoImplicit false

namespace TypeCode

variable {code : TypeCode}

/-- The category that a code falls into. -/
inductive Falls (code : TypeCode) : Category → Prop
  | subWindow (low : 1000 ≤ code.toInt) (high : code.toInt ≤ 1999) : Falls code .subWindow
  | system (low : 2000 ≤ code.toInt) (high : code.toInt ≤ 2999) : Falls code .system
  | application (outside : code.toInt < 1000 ∨ 2999 < code.toInt) : Falls code .application

theorem falls (code : TypeCode) : code.Falls code.category := by
  unfold category
  split
  · rename_i range
    exact .subWindow range.1 range.2
  · split
    · rename_i range
      exact .system range.1 range.2
    · exact .application (by omega)

theorem Falls.unique {c c' : Category} (first : code.Falls c) (second : code.Falls c') :
    c = c' := by
  cases first <;> cases second <;> first | rfl | omega

/-- The sub-windows that are called by a name. -/
def subWindowNames : List (Int × String) :=
  [(1000, "Panel"), (1001, "Media"), (1002, "SubPanel"), (1003, "AtchDlg"), (1004, "MediaOvr"),
   (1005, "AboveSubPanel")]

theorem mnemonic?_eq_some_iff {name : String} :
    code.mnemonic? = some name ↔ (code.toInt, name) ∈ subWindowNames := by
  unfold mnemonic? subWindowNames
  generalize code.toInt = number
  split
  case h_7 => simp_all
  all_goals simp [eq_comm]

/-- The title that a code makes before anything is added to it. Codes of applications make
none. -/
inductive Heads (code : TypeCode) : Category → String → Prop
  | named {name : String} (listed : (code.toInt, name) ∈ subWindowNames) :
      Heads code .subWindow name
  | numbered (unlisted : ∀ name, (code.toInt, name) ∉ subWindowNames) :
      Heads code .subWindow (toString code.toInt)
  | system : Heads code .system ("Sys" ++ toString code.toInt)

theorem Heads.unique {c : Category} {head head' : String} (first : code.Heads c head)
    (second : code.Heads c head') : head = head' := by
  cases first with
  | named listed =>
      cases second with
      | named listed' =>
          have same := mnemonic?_eq_some_iff.mpr listed
          exact Option.some.inj (same.symm.trans (mnemonic?_eq_some_iff.mpr listed'))
      | numbered unlisted => exact absurd listed (unlisted head)
  | numbered unlisted =>
      cases second with
      | named listed => exact absurd listed (unlisted head')
      | numbered => rfl
  | system =>
      cases second
      rfl

/-- A code makes the title that it makes by itself. -/
theorem heads {c : Category} (falls : code.category = c) :
    match code.baseTitle? with
    | some head => code.Heads c head
    | none => c = .application := by
  unfold baseTitle?
  rw [falls]
  cases c with
  | subWindow =>
      cases listed : code.mnemonic? with
      | some name => exact .named (mnemonic?_eq_some_iff.mp listed)
      | none =>
          refine .numbered fun name member => ?_
          cases listed.symm.trans (mnemonic?_eq_some_iff.mpr member)
  | system => exact .system
  | application => rfl

end TypeCode

end WindowPolicy
