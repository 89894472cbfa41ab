import GraphQuery.Proofs.Naming.Allocation
import GraphQuery.Settings.Health

/-!
Numerals behind name stems.

The names of an environment are stems with numbers behind them. Two of them with different numbers
can be the same text only if one stem is the other one followed by digits, which is what the check
of the settings looks for. The other way round, a numeral without leading noughts is the text of a
number, so a stem with such a numeral behind it is itself a name of the shorter stem.

* `Text.IsNumeral`: digits without a leading nought; `Text.IsNumeral.exists_number` reads them.
* `isNumbered_iff`: what the check of two texts says.
* `isNumbered_of_numberedName_eq`: names with different numbers that coincide.
-/

namespace GraphQuery

/-! ### Numerals -/

namespace Text

/-- The text is a decimal numeral that does not begin with a nought. -/
structure IsNumeral (s : String) : Prop where
  digits : ∀ c ∈ s.toList, c.isDigit
  lead : ∃ c ∈ s.toList.head?, c ≠ '0'

/-- The digits of a number with one more digit. -/
theorem toDigits_snoc {n d : Nat} (pos : 0 < n) (lt : d < 10) :
    Nat.toDigits 10 (10 * n + d) = Nat.toDigits 10 n ++ [Nat.digitChar d] := by
  rw [← Nat.toDigits_append_toDigits (by decide) pos lt, Nat.toDigits_of_lt_base lt]

/-- The decimal digits are ten characters in a row. -/
theorem toNat_of_isDigit {c : Char} (digit : c.isDigit) : 48 ≤ c.toNat ∧ c.toNat ≤ 57 := by
  simpa [Char.isDigit, UInt32.le_iff_toNat_le] using digit

/-- A digit is the character of a number below ten. -/
theorem exists_digitChar {c : Char} (digit : c.isDigit) : ∃ d < 10, c = Nat.digitChar d := by
  have bounds := toNat_of_isDigit digit
  refine ⟨c.toNat - 48, by omega, ?_⟩
  apply Char.toNat_inj.mp
  rw [Nat.toNat_digitChar_of_lt_ten (by omega)]
  omega

/-- Digits without a leading nought are those of a positive number. -/
theorem exists_toDigits {cs : List Char} (digits : ∀ c ∈ cs, c.isDigit)
    (lead : ∃ c ∈ cs.head?, c ≠ '0') : ∃ n, 0 < n ∧ cs = Nat.toDigits 10 n := by
  induction cs using List.reverseRecOn with
  | nil => simp at lead
  | append_singleton front last ih =>
    obtain ⟨d, lt, rfl⟩ := exists_digitChar (digits last (by simp))
    cases front with
    | nil =>
      refine ⟨d, ?_, (Nat.toDigits_of_lt_base lt).symm⟩
      rcases Nat.eq_zero_or_pos d with rfl | pos
      · simp [Nat.digitChar] at lead
      · exact pos
    | cons c cs =>
      obtain ⟨n, pos, eq⟩ := ih (fun c mem => digits c (List.mem_append_left _ mem)) lead
      refine ⟨10 * n + d, by omega, ?_⟩
      rw [eq, toDigits_snoc pos lt]

/-- A numeral is the text of a positive number. -/
theorem IsNumeral.exists_number {s : String} (h : IsNumeral s) : ∃ n, 0 < n ∧ s = toString n := by
  obtain ⟨n, pos, eq⟩ := exists_toDigits h.digits h.lead
  refine ⟨n, pos, ?_⟩
  rw [← String.toList_inj, eq, Nat.toString_eq_repr, Nat.toList_repr]

/-- A number with a nought behind it is ten times the number. -/
theorem toString_ten_mul {n : Nat} (pos : 0 < n) : toString (10 * n) = toString n ++ "0" := by
  rw [← String.toList_inj, String.toList_append, Nat.toString_eq_repr, Nat.toString_eq_repr,
    Nat.toList_repr, Nat.toList_repr]
  exact toDigits_snoc (d := 0) pos (by decide)

/-- Decimal digits are digits of some script. -/
theorem digits_holds_of_isDigit {c : Char} (digit : c.isDigit) : digits.holds c := by
  have bounds := toNat_of_isDigit digit
  unfold CharSet.holds
  rw [List.any_eq_true]
  exact ⟨(0x30, 0x39), by simp [digits], by simp [bounds.1, bounds.2]⟩

/-- Decimal digits are digits, if there is one at all. -/
theorem isDigits_ofList {cs : List Char} (something : cs ≠ []) (digits : ∀ c ∈ cs, c.isDigit) :
    isDigits (String.ofList cs) := by
  unfold isDigits CharSet.covers
  rw [Bool.and_eq_true, List.all_eq_true]
  constructor
  · simpa using something
  · intro c mem
    exact digits_holds_of_isDigit (digits c (by simpa using mem))

/-- Nothing is no digits. -/
theorem isDigits_empty : isDigits "" = false := by decide

end Text

/-! ### Stems that are followed by digits -/

/-- One text is the other followed by digits just in case there are such digits. -/
theorem isNumbered_iff {short long : String} :
    isNumbered short long ↔ ∃ extra, long = short ++ extra ∧ Text.isDigits extra := by
  unfold isNumbered
  rw [Bool.and_eq_true, List.isPrefixOf_iff_prefix]
  constructor
  · rintro ⟨⟨rest, eq⟩, isDigits⟩
    rw [← eq, ← String.length_toList, List.drop_left] at isDigits
    refine ⟨String.ofList rest, ?_, isDigits⟩
    rw [← String.toList_inj, ← eq, String.toList_append, String.toList_ofList]
  · rintro ⟨extra, rfl, isDigits⟩
    rw [String.toList_append, ← String.length_toList, List.drop_left, String.ofList_toList]
    exact ⟨List.prefix_append _ _, isDigits⟩

/-- No text is itself followed by digits. -/
theorem isNumbered_self (s : String) : isNumbered s s = false := by
  rw [Bool.eq_false_iff, ne_eq, isNumbered_iff]
  rintro ⟨extra, eq, isDigits⟩
  obtain rfl : extra = "" := by
    simpa using String.append_right_inj s |>.mp (eq.symm.trans (String.append_empty (s := s)).symm)
  simp [Text.isDigits_empty] at isDigits

/-- Where one text goes on with digits that another does not have, it is the other followed by
digits. -/
theorem isNumbered_of_append_eq {short long : String} {extra : List Char}
    (eq : long.toList = short.toList ++ extra) (something : extra ≠ [])
    (digits : ∀ c ∈ extra, c.isDigit) : isNumbered short long := by
  rw [isNumbered_iff]
  refine ⟨String.ofList extra, ?_, Text.isDigits_ofList something digits⟩
  rw [← String.toList_inj, eq, String.toList_append, String.toList_ofList]

/-- The characters of a number are digits. -/
theorem isDigit_of_mem_toString {i : Nat} {c : Char} (mem : c ∈ (toString i).toList) :
    c.isDigit := by
  rw [Nat.toString_eq_repr, Nat.toList_repr] at mem
  exact Nat.isDigit_of_mem_toDigits (by decide) (by decide) mem

/-- The text of a number is not empty. -/
theorem toString_toList_ne_nil (i : Nat) : (toString i).toList ≠ [] := by
  rw [Nat.toString_eq_repr, Nat.toList_repr]
  exact Nat.toDigits_ne_nil

/-- When names with different numbers are the same text, one of their stems is the other followed
by digits. -/
theorem isNumbered_of_numberedName_eq {s t : String} {bareFirst : Bool} {i j : Nat} (lt : i < j)
    (eq : numberedName s bareFirst i = numberedName t bareFirst j) :
    isNumbered s t ∨ isNumbered t s := by
  have later : numberedName t bareFirst j = t ++ toString j := by
    rw [numberedName, if_neg (by omega)]
  rw [later] at eq
  unfold numberedName at eq
  split at eq
  · have lists : s.toList = t.toList ++ (toString j).toList := by
      rw [eq, String.toList_append]
    exact .inr (isNumbered_of_append_eq lists (toString_toList_ne_nil j)
      fun c mem => isDigit_of_mem_toString mem)
  · have lists := congrArg String.toList eq
    rw [String.toList_append, String.toList_append, List.append_eq_append_iff] at lists
    -- One stem is at most as long as the other one; what it lacks are digits of the longer number.
    rcases lists with ⟨extra, stems, numbers⟩ | ⟨extra, stems, numbers⟩
    · by_cases none : extra = []
      · subst none
        exact absurd (toString_nat_injective (String.toList_inj.mp numbers)) (by omega)
      · exact .inl (isNumbered_of_append_eq stems none fun c mem =>
          isDigit_of_mem_toString (numbers ▸ List.mem_append_left _ mem))
    · by_cases none : extra = []
      · subst none
        exact absurd (toString_nat_injective (String.toList_inj.mp numbers)) (by omega)
      · exact .inr (isNumbered_of_append_eq stems none fun c mem =>
          isDigit_of_mem_toString (numbers ▸ List.mem_append_left _ mem))

end GraphQuery
