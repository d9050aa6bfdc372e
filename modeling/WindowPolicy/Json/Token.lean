/-
# WindowPolicy.Json.Token — the tokens of a JSON text

A text is cut into brackets, separators, quoted texts and the words and numbers between
them. Where no token can be read the tokens end with `malformed`: what follows has no
meaning any more.

* `scan?`: the first token of a text, with the text after it, which is shorter;
* `tokens`: all tokens.
-/
import WindowPolicy.Config.Value
import WindowPolicy.Text.Basic

namespace WindowPolicy.Json

set_option autoImplicit false

open WindowPolicy.Config

inductive Token where
  | comma
  | colon
  | openList
  | closeList
  | openObject
  | closeObject
  | quoted (text : Quotation)
  /-- A number or one of the three words. -/
  | plain (value : Value)
  | malformed

/-- White space between tokens. -/
def isSpace (c : Char) : Bool := c = ' ' || c = '\n' || c = '\t' || c = '\r'

/-! ## Quoted texts -/

/-- The character that a letter stands for after a backslash. -/
def escaped? : Char → Option Nat
  | '"' => some 0x22
  | '\\' => some 0x5c
  | '/' => some 0x2f
  | 'b' => some 0x08
  | 'f' => some 0x0c
  | 'n' => some 0x0a
  | 'r' => some 0x0d
  | 't' => some 0x09
  | _ => none

/-- The code units up to the closing quote, and the text after it. `units` holds those
before, latest first. Controls must be escaped. -/
def quotedUnits (units : List Nat) : List Char → Option (List Nat × List Char)
  | [] => none
  | '"' :: rest => some (units.reverse, rest)
  | '\\' :: 'u' :: a :: b :: c :: d :: rest =>
      match Text.Hex.value? [a, b, c, d] with
      | some unit => quotedUnits (unit :: units) rest
      | none => none
  | '\\' :: letter :: rest =>
      match escaped? letter with
      | some unit => quotedUnits (unit :: units) rest
      | none => none
  | c :: rest => if c.toNat < 0x20 then none else quotedUnits (c.toNat :: units) rest

theorem quotedUnits_shorter (units : List Nat) (cs : List Char) {found : List Nat}
    {rest : List Char} (h : quotedUnits units cs = some (found, rest)) :
    rest.length < cs.length := by
  fun_induction quotedUnits units cs with
  | case1 => simp at h
  | case2 => simp_all
  | case3 _ _ _ _ _ _ _ _ ih => have := ih h; simp; omega
  | case4 => simp at h
  | case5 _ _ _ _ _ _ ih => have := ih h; simp; omega
  | case6 => simp at h
  | case7 => simp at h
  | case8 _ _ _ _ _ _ _ ih => have := ih h; simp; omega

/-- The first half of a character that takes two code units. -/
def isLeading (unit : Nat) : Bool := 0xD800 ≤ unit && unit ≤ 0xDBFF

/-- The second half of a character that takes two code units. -/
def isTrailing (unit : Nat) : Bool := 0xDC00 ≤ unit && unit ≤ 0xDFFF

/-- The characters that code units make up; halves must come in pairs. -/
def characters? : List Nat → Option (List Char)
  | [] => some []
  | [unit] => if isLeading unit || isTrailing unit then none else some [Char.ofNat unit]
  | unit :: next :: rest =>
      if isLeading unit then
        if isTrailing next then
          (characters? rest).map
            (Char.ofNat (0x10000 + (unit - 0xD800) * 0x400 + (next - 0xDC00)) :: ·)
        else none
      else if isTrailing unit then none
      else (characters? (next :: rest)).map (Char.ofNat unit :: ·)

/-! ## Numbers -/

/-- The number that decimal digits stand for. -/
def decimalValue (digits : List Char) : Nat :=
  digits.foldl (fun n c => 10 * n + (c.toNat - 0x30)) 0

/-- A run of digits and the text after it. -/
def digitRun (cs : List Char) : List Char × List Char :=
  (cs.takeWhile Char.isDigit, cs.dropWhile Char.isDigit)

/-- A nonempty run of digits and the text after it. -/
def digitRun? (cs : List Char) : Option (List Char × List Char) :=
  let run := digitRun cs
  if run.1.isEmpty then none else some run

/-- A whole part: no zero stands in front of another digit. -/
def wholePart? (cs : List Char) : Option (List Char × List Char) :=
  (digitRun? cs).filter fun run => run.1.head? ≠ some '0' || run.1.length = 1

/-- A fraction, if there is a point: no digits if there is none. -/
def fraction? : List Char → Option (List Char × List Char)
  | '.' :: rest => digitRun? rest
  | cs => some ([], cs)

/-- The sign and digits of an exponent. -/
def signedRun? : List Char → Option (Int × List Char)
  | '-' :: rest => (digitRun? rest).map fun run => (-(decimalValue run.1 : Int), run.2)
  | '+' :: rest => (digitRun? rest).map fun run => ((decimalValue run.1 : Int), run.2)
  | cs => (digitRun? cs).map fun run => ((decimalValue run.1 : Int), run.2)

/-- An exponent, if there is one. -/
def exponent? : List Char → Option (Option Int × List Char)
  | 'e' :: rest | 'E' :: rest => (signedRun? rest).map fun part => (some part.1, part.2)
  | cs => some (none, cs)

/-- A number without its sign. -/
def magnitude? (negative : Bool) (cs : List Char) : Option (Number × List Char) := do
  let (whole, cs) ← wholePart? cs
  let (fraction, cs) ← fraction? cs
  let (exponent, cs) ← exponent? cs
  let number :=
    if fraction.isEmpty && exponent.isNone then Number.whole negative (decimalValue whole)
    else .scaled ⟨negative, whole, fraction, exponent.getD 0⟩
  return (number, cs)

/-- A number. -/
def number? : List Char → Option (Number × List Char)
  | '-' :: rest => magnitude? true rest
  | cs => magnitude? false cs

theorem digitRun?_shorter {cs : List Char} {run : List Char × List Char}
    (h : digitRun? cs = some run) : run.2.length < cs.length := by
  simp only [digitRun?] at h
  split at h
  · simp at h
  · rename_i nonempty
    cases h
    have all : (digitRun cs).1 ++ (digitRun cs).2 = cs := List.takeWhile_append_dropWhile
    have total := congrArg List.length all
    have : (digitRun cs).1.length ≠ 0 := fun zero =>
      nonempty (by simp [List.length_eq_zero_iff.mp zero])
    rw [List.length_append] at total
    omega

theorem fraction?_length {cs : List Char} {part : List Char × List Char}
    (h : fraction? cs = some part) : part.2.length ≤ cs.length := by
  unfold fraction? at h
  split at h
  · have := digitRun?_shorter h; simp; omega
  · cases h; exact Nat.le_refl _

theorem signedRun?_length {cs : List Char} {part : Int × List Char}
    (h : signedRun? cs = some part) : part.2.length ≤ cs.length := by
  unfold signedRun? at h
  split at h <;> obtain ⟨run, found, rfl⟩ := Option.map_eq_some_iff.mp h <;>
    have := digitRun?_shorter found <;> simp <;> omega

theorem exponent?_length {cs : List Char} {part : Option Int × List Char}
    (h : exponent? cs = some part) : part.2.length ≤ cs.length := by
  unfold exponent? at h
  split at h
  · obtain ⟨run, found, rfl⟩ := Option.map_eq_some_iff.mp h
    have := signedRun?_length found; simp; omega
  · obtain ⟨run, found, rfl⟩ := Option.map_eq_some_iff.mp h
    have := signedRun?_length found; simp; omega
  · cases h; exact Nat.le_refl _

theorem magnitude?_shorter {negative : Bool} {cs : List Char} {part : Number × List Char}
    (h : magnitude? negative cs = some part) : part.2.length < cs.length := by
  simp only [magnitude?, Option.bind_eq_bind, Option.bind_eq_some_iff, Option.pure_def,
    Option.some.injEq] at h
  obtain ⟨whole, h₁, fraction, h₂, exponent, h₃, rfl⟩ := h
  have := digitRun?_shorter (Option.filter_eq_some_iff.mp h₁).1
  have := fraction?_length h₂
  have := exponent?_length h₃
  simp only
  omega

theorem number?_shorter {cs : List Char} {part : Number × List Char}
    (h : number? cs = some part) : part.2.length < cs.length := by
  unfold number? at h
  split at h
  · have := magnitude?_shorter h; simp; omega
  · exact magnitude?_shorter h

/-! ## Tokens -/

/-- One of the three words, and the text after it. -/
def word? : List Char → Option (Value × List Char)
  | 'n' :: 'u' :: 'l' :: 'l' :: rest => some (.null, rest)
  | 't' :: 'r' :: 'u' :: 'e' :: rest => some (.bool true, rest)
  | 'f' :: 'a' :: 'l' :: 's' :: 'e' :: rest => some (.bool false, rest)
  | _ => none

theorem word?_shorter {cs : List Char} {part : Value × List Char} (h : word? cs = some part) :
    part.2.length < cs.length := by
  unfold word? at h
  split at h <;> cases h <;> simp <;> omega

/-- A bracket or a separator. -/
def mark? : Char → Option Token
  | ',' => some .comma
  | ':' => some .colon
  | '[' => some .openList
  | ']' => some .closeList
  | '\x7b' => some .openObject
  | '\x7d' => some .closeObject
  | _ => none

/-- A number or a word, and the text after it. -/
def plain? (cs : List Char) : Option (Value × List Char) :=
  match word? cs with
  | some part => some part
  | none => (number? cs).map fun part => (.number part.1, part.2)

/-- The first token of a text that starts with no space, and the text after it. -/
def scan? : List Char → Option (Token × List Char)
  | [] => none
  | c :: rest =>
      match mark? c with
      | some mark => some (mark, rest)
      | none =>
          if c = '"' then
            match quotedUnits [] rest with
            | some (units, rest) => some (.quoted ((characters? units).map String.ofList), rest)
            | none => some (.malformed, [])
          else
            match plain? (c :: rest) with
            | some (value, rest) => some (.plain value, rest)
            | none => some (.malformed, [])

theorem plain?_shorter {cs : List Char} {part : Value × List Char} (h : plain? cs = some part) :
    part.2.length < cs.length := by
  unfold plain? at h
  split at h
  · rename_i found
    cases h
    exact word?_shorter found
  · obtain ⟨number, found, rfl⟩ := Option.map_eq_some_iff.mp h
    exact @number?_shorter _ number found

/-- Every token takes up some of the text. -/
theorem scan?_shorter {cs : List Char} {part : Token × List Char} (h : scan? cs = some part) :
    part.2.length < cs.length := by
  unfold scan? at h
  split at h
  · simp at h
  · split at h
    · cases h; simp
    · split at h
      · split at h
        · rename_i found
          cases h
          have := quotedUnits_shorter _ _ found
          simp; omega
        · cases h; simp
      · split at h
        · rename_i found
          cases h
          exact plain?_shorter found
        · cases h; simp

/-- The tokens of a text. -/
def tokens (cs : List Char) : List Token :=
  match _found : scan? (cs.dropWhile isSpace) with
  | none => []
  | some (token, rest) => token :: tokens rest
termination_by cs.length
decreasing_by
  have shorter : rest.length < (cs.dropWhile isSpace).length := scan?_shorter _found
  have := (List.dropWhile_suffix (l := cs) isSpace).length_le
  omega

end WindowPolicy.Json
