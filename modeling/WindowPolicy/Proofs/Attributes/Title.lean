/-
# WindowPolicy.Proofs.Attributes.Title — what a title tells of its record

The title that is made for a record is the head that its type code makes, and behind a colon the
name of the application, if it has one. Neither is marked off in any other way, and the name may
be anything. Still a title tells both. No head contains a colon, so the first colon ends it. What
digits a head contains are its code in decimal; a head without digits is one of the names of
sub-windows, which are all different.

* `TypeCode.toList_text_inj`: numbers are told apart by their decimals;
* `TypeCode.Heads.digits`, `TypeCode.Heads.code_unique`: the digits of a head, and its code;
* `TypeCode.Heads.colonless`, `withAppName_inj`: the first colon of a title;
* `titles_tell_apart`: titles are the same only for one code and one name.
-/
import WindowPolicy.Proofs.Attributes.TypeCode

namespace WindowPolicy

set_option autoImplicit false

/-! ## Heads -/

namespace TypeCode

variable {code code' : TypeCode} {c c' : Category} {head : String}

theorem toInt_inj (same : code.toInt = code'.toInt) : code = code' := by
  cases code
  cases code'
  exact congrArg TypeCode.mk (Int32.toInt_inj.mp same)

theorem toList_text (natural : 0 ≤ code.toInt) :
    code.text.toList = Nat.toDigits 10 code.toInt.toNat := by
  obtain ⟨n, same⟩ := Int.eq_ofNat_of_zero_le natural
  unfold text
  rw [same]
  exact Nat.toList_repr

theorem isDigit_of_mem_text (natural : 0 ≤ code.toInt) {d : Char} (member : d ∈ code.text.toList) :
    d.isDigit = true := by
  rw [toList_text natural] at member
  exact Nat.isDigit_of_mem_toDigits (by decide) (by decide) member

/-- Codes are told apart by their decimals. -/
theorem toList_text_inj (natural : 0 ≤ code.toInt) (natural' : 0 ≤ code'.toInt)
    (same : code.text.toList = code'.text.toList) : code = code' := by
  rw [toList_text natural, toList_text natural'] at same
  have read := congrArg (Nat.ofDigitChars 10 · 0) same
  simp only [Nat.ofDigitChars_toDigits (by decide : 1 < 10) (by decide : 10 ≤ 10)] at read
  exact toInt_inj (by omega)

theorem digitless_of_named {number : Int} (listed : (number, head) ∈ subWindowNames) :
    head.toList.filter Char.isDigit = [] := by
  have all : ∀ entry ∈ subWindowNames, entry.2.toList.filter Char.isDigit = [] := by decide
  exact all (number, head) listed

/-- A head is a name, or has the digits of its code and no others. -/
theorem Heads.digits (natural : 0 ≤ code.toInt) (made : code.Heads c head) :
    (code.toInt, head) ∈ subWindowNames ∨
      head.toList.filter Char.isDigit = code.text.toList := by
  have kept : code.text.toList.filter Char.isDigit = code.text.toList :=
    List.filter_eq_self.mpr fun _ member => isDigit_of_mem_text natural member
  cases made with
  | named listed => exact Or.inl listed
  | numbered => exact Or.inr kept
  | system =>
      right
      rw [String.toList_append, List.filter_append]
      exact kept

/-- A head is made by one code only. -/
theorem Heads.code_unique (natural : 0 ≤ code.toInt) (natural' : 0 ≤ code'.toInt)
    (made : code.Heads c head) (made' : code'.Heads c' head) : code = code' := by
  have spelled (code : TypeCode) (natural : 0 ≤ code.toInt) : code.text.toList ≠ [] := by
    rw [toList_text natural]
    exact Nat.toDigits_ne_nil
  rcases made.digits natural with listed | digits
  · rcases made'.digits natural' with listed' | digits'
    · have distinct : ∀ entry ∈ subWindowNames, ∀ other ∈ subWindowNames,
          entry.2 = other.2 → entry.1 = other.1 := by decide
      exact toInt_inj (distinct _ listed _ listed' rfl)
    · exact absurd (digits'.symm.trans (digitless_of_named listed)) (spelled code' natural')
  · rcases made'.digits natural' with listed' | digits'
    · exact absurd (digits.symm.trans (digitless_of_named listed')) (spelled code natural)
    · exact toList_text_inj natural natural' (digits.symm.trans digits')

/-- No head contains a colon. -/
theorem Heads.colonless (natural : 0 ≤ code.toInt) (made : code.Heads c head) :
    ':' ∉ head.toList := by
  have plain : ':' ∉ code.text.toList := fun member => by
    cases isDigit_of_mem_text natural member
  cases made with
  | named listed =>
      have all : ∀ entry ∈ subWindowNames, ':' ∉ entry.2.toList := by decide
      exact all _ listed
  | numbered => exact plain
  | system =>
      rw [String.toList_append, List.mem_append]
      exact not_or.mpr ⟨by decide, plain⟩

end TypeCode

/-! ## Signatures -/

/-- What follows the head of a title. -/
def signature (name : String) : List Char := if name = "" then [] else ':' :: name.toList

theorem signature_injective : Function.Injective signature := by
  intro name name' same
  unfold signature at same
  split at same <;> split at same
  · rename_i unnamed unnamed'
    rw [unnamed, unnamed']
  · cases same
  · cases same
  · exact String.toList_injective (List.cons.inj same).2

theorem toList_withAppName (head name : String) :
    (withAppName head name).toList = head.toList ++ signature name := by
  unfold withAppName signature
  split <;> simp

theorem takeWhile_withAppName {head : String} (colonless : ':' ∉ head.toList) (name : String) :
    (withAppName head name).toList.takeWhile (· ≠ ':') = head.toList := by
  have ended : (signature name).takeWhile (· ≠ ':') = [] := by
    unfold signature
    split <;> rfl
  rw [toList_withAppName, List.takeWhile_append_of_pos, ended, List.append_nil]
  intro d member
  exact decide_eq_true fun same => colonless (same ▸ member)

/-- The first colon ends the head, whatever the name contains. -/
theorem withAppName_inj {head head' name name' : String} (colonless : ':' ∉ head.toList)
    (colonless' : ':' ∉ head'.toList) :
    withAppName head name = withAppName head' name' ↔ head = head' ∧ name = name' := by
  refine ⟨fun same => ?_, fun ⟨heads, names⟩ => by rw [heads, names]⟩
  have heads := congrArg (fun title => title.toList.takeWhile (· ≠ ':')) same
  simp only [takeWhile_withAppName colonless, takeWhile_withAppName colonless'] at heads
  obtain rfl := String.toList_injective heads
  have rest := congrArg String.toList same
  rw [toList_withAppName, toList_withAppName] at rest
  exact ⟨rfl, signature_injective (List.append_cancel_left rest)⟩

/-! ## Titles -/

namespace Attributes

variable {a b : Attributes}

/-- The record has no title and is of a type that is given one. -/
structure Untitled (a : Attributes) : Prop where
  absent : a.title = ""
  low : 1000 ≤ a.type.toInt
  high : a.type.toInt ≤ 2999

/-- The title that it is given. -/
theorem Untitled.title_completeFor (untitled : a.Untitled) (o : Owner) :
    ∃ head, a.type.Heads a.type.category head ∧
      (a.completeFor o).title = withAppName head o.appName := by
  have made := a.type.heads rfl
  cases base : a.type.baseTitle? with
  | none =>
      have low := untitled.low
      have high := untitled.high
      have falls := a.type.falls
      simp only [base] at made
      rw [made] at falls
      cases falls
      omega
  | some head =>
      simp only [base] at made
      refine ⟨head, made, ?_⟩
      simp [completeFor, hasTitle, untitled.absent, base]

/-- The titles that two records are given are the same exactly if the records are of one type and
their owners of one name. Tokens and containers do not show in them. -/
theorem titles_tell_apart (untitled : a.Untitled) (untitled' : b.Untitled) (o p : Owner) :
    (a.completeFor o).title = (b.completeFor p).title ↔
      a.type = b.type ∧ o.appName = p.appName := by
  obtain ⟨head, made, title⟩ := untitled.title_completeFor o
  obtain ⟨head', made', title'⟩ := untitled'.title_completeFor p
  have natural : 0 ≤ a.type.toInt := Int.le_trans (by decide) untitled.low
  have natural' : 0 ≤ b.type.toInt := Int.le_trans (by decide) untitled'.low
  rw [title, title', withAppName_inj (made.colonless natural) (made'.colonless natural')]
  refine and_congr_left fun _ => ⟨?_, ?_⟩
  · rintro rfl
    exact made.code_unique natural natural' made'
  · intro same
    rw [same] at made
    exact made.unique made'

/-- A panel and a system window, under names that contain what separates them. -/
theorem titles_tell_apart_colons :
    let panel : Attributes := { type := ⟨1000⟩ }
    let toast : Attributes := { type := ⟨2005⟩, token := some ⟨7⟩ }
    let plain : Owner := ⟨"Sys2005", none, none, none⟩
    let nested : Owner := ⟨"Sys2005:", some ⟨1⟩, some none, some ⟨2⟩⟩
    let moved : Owner := ⟨"Sys2005:", none, none, some ⟨3⟩⟩
    panel.Untitled ∧ toast.Untitled ∧
      (panel.completeFor plain).title = "Panel:Sys2005" ∧
      (panel.completeFor plain).title ≠ (panel.completeFor nested).title ∧
      (panel.completeFor nested).title ≠ (toast.completeFor nested).title ∧
      (toast.completeFor nested).title = (toast.completeFor moved).title := by
  intro panel toast plain nested moved
  have untitled : panel.Untitled := ⟨rfl, by decide, by decide⟩
  have untitled' : toast.Untitled := ⟨rfl, by decide, by decide⟩
  refine ⟨untitled, untitled', rfl, fun same => ?_, fun same => ?_, ?_⟩
  · have names := ((titles_tell_apart untitled untitled plain nested).mp same).2
    exact absurd names (by decide)
  · have types := ((titles_tell_apart untitled untitled' nested nested).mp same).1
    exact absurd types (by decide)
  · exact (titles_tell_apart untitled' untitled' nested moved).mpr ⟨rfl, rfl⟩

end Attributes

end WindowPolicy
