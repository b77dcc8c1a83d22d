import CanOpen.CodecError
import Mathlib.Data.List.Basic
import Mathlib.Data.List.TakeWhile

/-!
# Numerals read back

A numeral tells its number, whatever its width and the case of its digits.  It consists of
letters and digits only, so a text that goes on with anything else behind it shows where it
ends.
-/

set_option autoImplicit false

namespace CanOpen

namespace Numeral

def digit (letter : Char) : Nat :=
  "0123456789ABCDEF".toList.idxOf letter.toUpper

def value (letters : List Char) : Nat :=
  letters.foldl (fun number letter => 16 * number + digit letter) 0

theorem digit_digitChar : ∀ number < 16,
    digit (Nat.digitChar number) = number
      ∧ digit (Nat.digitChar number).toUpper = number
      ∧ (Nat.digitChar number).isAlphanum = true
      ∧ (Nat.digitChar number).toUpper.isAlphanum = true := by
  decide

theorem value_concat (letters : List Char) (letter : Char) :
    value (letters ++ [letter]) = 16 * value letters + digit letter := by
  rw [value, List.foldl_append]
  rfl

theorem value_leftpad (width : Nat) (letters : List Char) :
    value (List.leftpad width '0' letters) = value letters := by
  have zeros (count : Nat) : (List.replicate count '0').foldl
      (fun number letter => 16 * number + digit letter) 0 = 0 := by
    induction count with
    | zero => rfl
    | succ count inductionHypothesis =>
        rw [List.replicate_succ, List.foldl_cons]
        exact inductionHypothesis
  rw [value, List.leftpad, List.foldl_append, zeros]
  rfl

/-- What holds of the digit that a number below sixteen is, and of longer numerals if it holds
of those without the last digit, holds of all. -/
theorem toDigits_induct {motive : Nat → List Char → Prop}
    (single : ∀ number < 16, motive number [Nat.digitChar number])
    (longer : ∀ number letters, motive number letters → ∀ last < 16,
      motive (16 * number + last) (letters ++ [Nat.digitChar last])) (number : Nat) :
    motive number (Nat.toDigits 16 number) := by
  induction number using Nat.strong_induction_on with
  | h number inductionHypothesis =>
      rw [Nat.toDigits_eq_if (by decide)]
      split
      next small => exact single number small
      next large =>
        have shorter := inductionHypothesis (number / 16) (by omega)
        have whole := longer _ _ shorter (number % 16) (Nat.mod_lt number (by decide))
        rwa [Nat.div_add_mod] at whole

theorem value_toDigits (number : Nat) :
    value (Nat.toDigits 16 number) = number
      ∧ value ((Nat.toDigits 16 number).map Char.toUpper) = number := by
  apply toDigits_induct (motive := fun number letters =>
    value letters = number ∧ value (letters.map Char.toUpper) = number)
  · intro number small
    obtain ⟨lower, upper, _⟩ := digit_digitChar number small
    simp [value, lower, upper]
  · rintro number letters ⟨lower, upper⟩ last small
    obtain ⟨lastLower, lastUpper, _⟩ := digit_digitChar last small
    rw [List.map_append, List.map_singleton, value_concat, value_concat]
    exact ⟨by rw [lower, lastLower], by rw [upper, lastUpper]⟩

theorem isAlphanum_of_mem_toDigits (number : Nat) :
    ∀ letter ∈ Nat.toDigits 16 number,
      letter.isAlphanum = true ∧ letter.toUpper.isAlphanum = true := by
  apply toDigits_induct (motive := fun _ letters => ∀ letter ∈ letters,
    letter.isAlphanum = true ∧ letter.toUpper.isAlphanum = true)
  · intro number small
    exact List.forall_mem_singleton.2 (digit_digitChar number small).2.2
  · intro number letters shorter last small
    rw [List.forall_mem_append, List.forall_mem_singleton]
    exact ⟨shorter, (digit_digitChar last small).2.2⟩

theorem hex_injective {width number number' : Nat}
    (same : hex width number = hex width number') : number = number' := by
  have letters := String.ofList_injective same
  have values := congrArg value letters
  rwa [value_leftpad, value_leftpad, (value_toDigits number).1, (value_toDigits number').1]
    at values

theorem hexUpper_injective {width number number' : Nat}
    (same : hexUpper width number = hexUpper width number') : number = number' := by
  have letters := String.ofList_injective same
  have values := congrArg value letters
  rwa [value_leftpad, value_leftpad, (value_toDigits number).2, (value_toDigits number').2]
    at values

end Numeral

/-! ## Where a numeral ends -/

def Plain (text : String) : Prop :=
  ∀ letter ∈ text.toList, letter.isAlphanum = true

/-- Whether a text begins neither with a letter nor with a digit. -/
def Breaks (text : String) : Prop :=
  ∀ letter ∈ text.toList.head?, letter.isAlphanum = false

theorem Plain.append {first later : String} (plain : Plain first) (plainLater : Plain later) :
    Plain (first ++ later) := by
  intro letter member
  rw [String.toList_append] at member
  exact (List.mem_append.1 member).elim (plain letter) (plainLater letter)

theorem plain_leftpad {letters : List Char}
    (digits : ∀ letter ∈ letters, letter.isAlphanum = true) (width : Nat) :
    Plain (String.ofList (List.leftpad width '0' letters)) := by
  intro letter member
  rw [String.toList_ofList, List.leftpad] at member
  obtain zero | among := List.mem_append.1 member
  · rw [List.eq_of_mem_replicate zero]
    rfl
  · exact digits letter among

theorem Numeral.plain_marked (width number : Nat) : Plain (marked width number) := by
  have mark : Plain "0x" := by simp [Plain]
  refine mark.append (plain_leftpad (fun letter member => ?_) width)
  exact (isAlphanum_of_mem_toDigits number letter member).1

theorem Numeral.plain_markedUpper (width number : Nat) : Plain (markedUpper width number) := by
  have mark : Plain "0x" := by simp [Plain]
  refine mark.append (plain_leftpad (fun letter member => ?_) width)
  obtain ⟨lower, among, rfl⟩ := List.mem_map.1 member
  exact (isAlphanum_of_mem_toDigits number lower among).2

theorem plain_repr (number : Nat) : Plain number.repr := by
  intro letter member
  rw [Nat.toList_repr] at member
  have digit := Nat.isDigit_of_mem_toDigits (by decide) (by decide) member
  rw [Char.isAlphanum, digit, Bool.or_true]

theorem breaks_of_opening {text : String} {letter : Char} (opens : text.toList.head? = some letter)
    (breaks : letter.isAlphanum = false) : Breaks text := by
  intro other here
  rw [opens] at here
  cases here
  exact breaks

theorem breaks_append {first : String} {letter : Char} (opens : first.toList.head? = some letter)
    (breaks : letter.isAlphanum = false) (later : String) : Breaks (first ++ later) := by
  refine breaks_of_opening ?_ breaks
  rw [String.toList_append, List.head?_append, opens]
  rfl

/-- Texts of letters and digits can be told from what comes behind them. -/
theorem Plain.append_inj {first first' later later' : String} (plain : Plain first)
    (plain' : Plain first') (breaks : Breaks later) (breaks' : Breaks later')
    (same : first ++ later = first' ++ later') : first = first' ∧ later = later' := by
  have taken {first later : String} (plain : Plain first) (breaks : Breaks later) :
      (first ++ later).toList.takeWhile Char.isAlphanum = first.toList := by
    rw [String.toList_append, List.takeWhile_append_of_pos plain]
    cases letters : later.toList with
    | nil => simp
    | cons letter others =>
        have stops := breaks letter (by simp [letters])
        simp [stops]
  have firsts : first = first' := by
    apply String.toList_injective
    rw [← taken plain breaks, same, taken plain' breaks']
  subst firsts
  exact ⟨rfl, (String.append_right_inj first).1 same⟩

namespace Numeral

variable {width number number' : Nat} {later later' : String} (breaks : Breaks later)
  (breaks' : Breaks later')
include breaks breaks'

theorem marked_append_inj
    (same : marked width number ++ later = marked width number' ++ later') :
    number = number' ∧ later = later' := by
  obtain ⟨numerals, rests⟩ :=
    (plain_marked width number).append_inj (plain_marked width number') breaks breaks' same
  exact ⟨hex_injective ((String.append_right_inj _).1 numerals), rests⟩

theorem markedUpper_append_inj
    (same : markedUpper width number ++ later = markedUpper width number' ++ later') :
    number = number' ∧ later = later' := by
  obtain ⟨numerals, rests⟩ := (plain_markedUpper width number).append_inj
    (plain_markedUpper width number') breaks breaks' same
  exact ⟨hexUpper_injective ((String.append_right_inj _).1 numerals), rests⟩

theorem repr_append_inj (same : number.repr ++ later = number'.repr ++ later') :
    number = number' ∧ later = later' := by
  obtain ⟨numerals, rests⟩ :=
    (plain_repr number).append_inj (plain_repr number') breaks breaks' same
  have digits := congrArg String.toList numerals
  rw [Nat.toList_repr, Nat.toList_repr] at digits
  have values := congrArg (Nat.ofDigitChars 10 · 0) digits
  rw [Nat.ofDigitChars_ten_toDigits, Nat.ofDigitChars_ten_toDigits] at values
  exact ⟨values, rests⟩

end Numeral

theorem append_ne_append {first first' : String}
    (apart : ¬ (first.toList <+: first'.toList ∨ first'.toList <+: first.toList))
    (later later' : String) : first ++ later ≠ first' ++ later' := by
  intro same
  have letters := congrArg String.toList same
  rw [String.toList_append, String.toList_append] at letters
  have begins : first.toList <+: first'.toList ++ later'.toList := ⟨later.toList, letters⟩
  exact apart (List.prefix_or_prefix_of_prefix begins (List.prefix_append _ _))

end CanOpen
