import HttpServer.Bytes.Numeral
import HttpServer.Bytes.Utf8

/-!
# Written numbers are read back

A number written in decimal digits is read back as long as it is within the bound of the reader. A
number written in hexadecimal digits is their value, and takes no more digits than its size asks
for.
-/

namespace HttpServer.Numeral

/-! ## Hexadecimal digits -/

theorem hexDigit_spec {value : Nat} (small : value < 16) :
    isHexDigit (hexadecimal.hexDigit value) = true ∧
      hexDigitValue (hexadecimal.hexDigit value) = value := by
  have all : ∀ value : Fin 16, isHexDigit (hexadecimal.hexDigit value) = true ∧
      hexDigitValue (hexadecimal.hexDigit value) = value := by decide
  exact all ⟨value, small⟩

theorem isHexDigit_of_mem_hexadecimal {number : Nat} {byte : UInt8}
    (member : byte ∈ hexadecimal number) :
    isHexDigit byte = true := by
  fun_induction hexadecimal number with
  | case1 number small =>
      rw [List.mem_singleton.mp member]
      exact (hexDigit_spec small).1
  | case2 number large inductionHypothesis =>
      rcases List.mem_append.mp member with front | last
      · exact inductionHypothesis front
      · rw [List.mem_singleton.mp last]
        exact (hexDigit_spec (Nat.mod_lt _ (by decide))).1

theorem hexDigitValue_lt {byte : UInt8} (hexadecimal : isHexDigit byte = true) :
    hexDigitValue byte < 16 := by
  simp only [isHexDigit, Bytes.isDigit, Bool.or_eq_true, Bool.and_eq_true, decide_eq_true_eq,
    UInt8.le_iff_toNat_le, UInt8.reduceToNat] at hexadecimal
  simp only [hexDigitValue, Bytes.isDigit, Bool.and_eq_true, decide_eq_true_eq,
    UInt8.le_iff_toNat_le, UInt8.reduceToNat]
  split
  · omega
  · split <;> omega

theorem foldl_hexDigitValue_lt {digits : Bytes} (hexadecimal : digits.all isHexDigit = true)
    (value : Nat) :
    digits.foldl (fun value byte => value * 16 + hexDigitValue byte) value <
      (value + 1) * Nat.pow 16 digits.length := by
  induction digits generalizing value with
  | nil =>
      show value < (value + 1) * 1
      omega
  | cons first others inductionHypothesis =>
      rw [List.all_cons, Bool.and_eq_true] at hexadecimal
      have digit := hexDigitValue_lt hexadecimal.1
      have small := inductionHypothesis hexadecimal.2 (value * 16 + hexDigitValue first)
      have larger : value * 16 + hexDigitValue first + 1 ≤ (value + 1) * 16 := by omega
      calc _ < (value * 16 + hexDigitValue first + 1) * Nat.pow 16 others.length := small
        _ ≤ (value + 1) * 16 * Nat.pow 16 others.length := Nat.mul_le_mul_right _ larger
        _ = (value + 1) * Nat.pow 16 (first :: others).length := by
          rw [Nat.mul_assoc, Nat.mul_comm 16]
          rfl

/-- Hexadecimal digits have a value below the power of sixteen of their number. -/
theorem hexValue_lt {digits : Bytes} (hexadecimal : digits.all isHexDigit = true) :
    hexValue digits < Nat.pow 16 digits.length := by
  have small := foldl_hexDigitValue_lt hexadecimal 0
  rwa [Nat.zero_add, Nat.one_mul] at small

theorem hexValue_hexadecimal (number : Nat) : hexValue (hexadecimal number) = number := by
  fun_induction hexadecimal number with
  | case1 number small =>
      simp only [hexValue, List.foldl_cons, List.foldl_nil, (hexDigit_spec small).2, Nat.zero_mul,
        Nat.zero_add]
  | case2 number large inductionHypothesis =>
      have last := (hexDigit_spec (Nat.mod_lt number (by decide : 0 < 16))).2
      rw [hexValue, List.foldl_append, ← hexValue, inductionHypothesis]
      simp only [List.foldl_cons, List.foldl_nil, last]
      omega

theorem length_hexadecimal_le {number digits : Nat} (some : 0 < digits)
    (small : number < Nat.pow 16 digits) :
    (hexadecimal number).length ≤ digits := by
  fun_induction hexadecimal number generalizing digits with
  | case1 =>
      exact some
  | case2 number large inductionHypothesis =>
      obtain ⟨fewer, rfl⟩ := Nat.exists_eq_add_one.mpr some
      have positive : 0 < fewer := by
        apply Nat.pos_of_ne_zero
        rintro rfl
        simp at small
        omega
      have quotient : number / 16 < Nat.pow 16 fewer := by
        rw [Nat.pow_eq, Nat.pow_succ] at small
        rw [Nat.pow_eq]
        exact Nat.div_lt_of_lt_mul (by omega)
      have shorter := inductionHypothesis positive quotient
      rw [List.length_append, List.length_singleton]
      omega

/-! ## Decimal digits -/

theorem digit_spec {value : Nat} (small : value < 10) :
    Bytes.isDigit (digit value) = true ∧ digitValue (digit value) = value := by
  have all : ∀ value : Fin 10, Bytes.isDigit (digit value) = true ∧
      digitValue (digit value) = value := by decide
  exact all ⟨value, small⟩

theorem decimal_ne_nil (number : Nat) : decimal number ≠ [] := by
  rw [decimal]
  split <;> simp

theorem isDigit_of_mem_decimal {number : Nat} {byte : UInt8} (member : byte ∈ decimal number) :
    Bytes.isDigit byte = true := by
  fun_induction decimal number with
  | case1 number small =>
      rw [List.mem_singleton.mp member]
      exact (digit_spec small).1
  | case2 number large inductionHypothesis =>
      rcases List.mem_append.mp member with front | last
      · exact inductionHypothesis front
      · rw [List.mem_singleton.mp last]
        exact (digit_spec (Nat.mod_lt _ (by decide))).1

theorem appendDigits_append {limit : Nat} {excess : Error} {value middle : Nat} {front : Bytes}
    (first : appendDigits limit excess value front = .ok middle) (rest : Bytes) :
    appendDigits limit excess value (front ++ rest) = appendDigits limit excess middle rest := by
  induction front generalizing value with
  | nil =>
      cases first
      rfl
  | cons byte others inductionHypothesis =>
      rw [List.cons_append, appendDigits]
      rw [appendDigits] at first
      split at first
      · split at first
        · rename_i isDigit within
          simp only [isDigit, within, if_true]
          exact inductionHypothesis first
        · simp at first
      · simp at first

theorem appendDigits_decimal {limit number : Nat} (excess : Error) (within : number ≤ limit) :
    appendDigits limit excess 0 (decimal number) = .ok number := by
  fun_induction decimal number with
  | case1 number small =>
      obtain ⟨isDigit, value⟩ := digit_spec small
      simp [appendDigits, isDigit, value, within]
  | case2 number large inductionHypothesis =>
      obtain ⟨isDigit, value⟩ := digit_spec (Nat.mod_lt number (by decide : 0 < 10))
      have whole : number / 10 * 10 + number % 10 = number := by omega
      rw [appendDigits_append (inductionHypothesis (by omega))]
      simp [appendDigits, isDigit, value, whole, within]

theorem exists_decimal_eq_cons (number : Nat) :
    ∃ first rest, decimal number = first :: rest ∧ Bytes.isDigit first = true := by
  cases written : decimal number with
  | nil =>
      exact absurd written (decimal_ne_nil number)
  | cons first rest =>
      have member : first ∈ decimal number := by
        rw [written]
        exact List.mem_cons_self
      exact ⟨first, rest, rfl, isDigit_of_mem_decimal member⟩

theorem readNatural_decimal {limit number : Nat} (within : number ≤ limit) :
    readNatural limit (decimal number) = .ok number := by
  obtain ⟨first, rest, written, isDigit⟩ := exists_decimal_eq_cons number
  have noSign : (first == plus) = false := by
    rw [beq_eq_false_iff_ne]
    rintro rfl
    exact absurd isDigit (by decide)
  have digits := appendDigits_decimal .tooLarge within
  rw [written] at digits ⊢
  simp only [readNatural, noSign, Bool.false_and, Bool.false_eq_true, if_false]
  exact digits

theorem readInteger_decimal {lowest highest number : Nat} (within : number ≤ highest) :
    readInteger lowest highest (decimal number) = .ok number := by
  obtain ⟨first, rest, written, isDigit⟩ := exists_decimal_eq_cons number
  have noSign : (first == minus) = false := by
    rw [beq_eq_false_iff_ne]
    rintro rfl
    exact absurd isDigit (by decide)
  have natural := readNatural_decimal within
  rw [written] at natural ⊢
  simp only [readInteger, noSign, Bool.false_and, Bool.false_eq_true, if_false, natural]
  rfl

/-! ## Texts of decimal digits -/

theorem toList_loop_toByteArray (bytes : Bytes) (place : Nat) (seen : Bytes) :
    ByteArray.toList.loop bytes.toByteArray place seen = seen.reverse ++ bytes.drop place := by
  have size : bytes.toByteArray.size = bytes.length := by simp
  induction left : bytes.length - place generalizing place seen with
  | zero =>
      rw [ByteArray.toList.loop, size, if_neg (by omega), List.drop_eq_nil_of_le (by omega),
        List.append_nil]
  | succ left inductionHypothesis =>
      have inside : place < bytes.length := by omega
      have entry : bytes.toByteArray.get! place = bytes[place] := by
        simp [ByteArray.get!, inside]
      rw [ByteArray.toList.loop, size, if_pos inside, inductionHypothesis _ _ (by omega), entry,
        List.drop_eq_getElem_cons inside]
      simp

theorem encode_ofList (characters : List Char) :
    Utf8.encode (String.ofList characters) = characters.flatMap String.utf8EncodeChar := by
  unfold Utf8.encode
  rw [String.toUTF8_eq_toByteArray, String.toByteArray_ofList, ByteArray.toList,
    List.utf8Encode, toList_loop_toByteArray]
  rfl

theorem utf8EncodeChar_digitChar {value : Nat} (small : value < 10) :
    String.utf8EncodeChar value.digitChar = [digit value] := by
  have all : ∀ value : Fin 10, String.utf8EncodeChar value.val.digitChar = [digit value] := by
    decide
  exact all ⟨value, small⟩

theorem encode_toString (number : Nat) : Utf8.encode (toString number) = decimal number := by
  change Utf8.encode (String.ofList (Nat.toDigits 10 number)) = decimal number
  rw [encode_ofList]
  fun_induction decimal number with
  | case1 number small =>
      rw [Nat.toDigits_of_lt_base small]
      simp [utf8EncodeChar_digitChar small]
  | case2 number large inductionHypothesis =>
      have less : number % 10 < 10 := Nat.mod_lt _ (by decide)
      have parts : Nat.toDigits 10 number =
          Nat.toDigits 10 (number / 10) ++ Nat.toDigits 10 (number % 10) := by
        rw [Nat.toDigits_append_toDigits (by decide) (by omega) less, Nat.div_add_mod]
      rw [parts, List.flatMap_append, inductionHypothesis, Nat.toDigits_of_lt_base less]
      simp [utf8EncodeChar_digitChar less]

theorem isWellFormed_decimal (number : Nat) : Utf8.isWellFormed (decimal number) = true := by
  apply Utf8.isWellFormed_of_ascii
  intro byte member
  have isDigit := isDigit_of_mem_decimal member
  simp only [Bytes.isDigit, Bool.and_eq_true, decide_eq_true_eq] at isDigit
  exact UInt8.lt_of_le_of_lt isDigit.2 (by decide)

/-! ## What decimal digits denote -/

/-- The number that decimal digits make behind those of `value`. -/
def decimalFrom (value : Nat) (digits : Bytes) : Nat :=
  digits.foldl (fun value byte => value * 10 + digitValue byte) value

/-- The number that a run of one or more decimal digits denotes. Nothing else denotes one. -/
def ofDecimal? (text : Bytes) : Option Nat :=
  if text ≠ [] ∧ text.all Bytes.isDigit then some (decimalFrom 0 text) else none

theorem ofDecimal?_eq_some_iff {text : Bytes} {number : Nat} :
    ofDecimal? text = some number ↔
      text ≠ [] ∧ (∀ byte ∈ text, Bytes.isDigit byte = true) ∧ decimalFrom 0 text = number := by
  unfold ofDecimal?
  rw [← List.all_eq_true]
  split
  · rename_i written
    simp [written]
  · rename_i other
    constructor
    · simp
    · rintro ⟨filled, digits, -⟩
      exact absurd ⟨filled, digits⟩ other

theorem le_decimalFrom (value : Nat) (digits : Bytes) : value ≤ decimalFrom value digits := by
  induction digits generalizing value with
  | nil =>
      exact Nat.le_refl value
  | cons byte others inductionHypothesis =>
      have behind := inductionHypothesis (value * 10 + digitValue byte)
      show value ≤ decimalFrom (value * 10 + digitValue byte) others
      omega

theorem appendDigits_eq_ok_iff {limit value number : Nat} {excess : Error} {text : Bytes}
    (within : value ≤ limit) :
    appendDigits limit excess value text = .ok number ↔
      (∀ byte ∈ text, Bytes.isDigit byte = true) ∧ decimalFrom value text = number ∧
        number ≤ limit := by
  induction text generalizing value with
  | nil =>
      simp only [appendDigits, Except.ok.injEq, List.not_mem_nil, false_implies, implies_true,
        true_and]
      constructor
      · rintro rfl
        exact ⟨rfl, within⟩
      · rintro ⟨same, -⟩
        exact same
  | cons byte others inductionHypothesis =>
      have split : decimalFrom value (byte :: others) =
          decimalFrom (value * 10 + digitValue byte) others := rfl
      rw [appendDigits, split, List.forall_mem_cons]
      by_cases isDigit : Bytes.isDigit byte = true
      · by_cases fits : value * 10 + digitValue byte ≤ limit
        · rw [if_pos isDigit, if_pos fits, inductionHypothesis fits]
          simp only [isDigit, true_and]
        · rw [if_pos isDigit, if_neg fits]
          have grows := le_decimalFrom (value * 10 + digitValue byte) others
          constructor
          · simp
          · rintro ⟨-, same, small⟩
            omega
      · rw [if_neg isDigit]
        constructor
        · simp
        · rintro ⟨⟨digit, -⟩, -⟩
          exact absurd digit isDigit

/-- A number is read from its decimal digits, which a plus sign may open, and from nothing else. -/
theorem readNatural_eq_ok_iff {limit number : Nat} {text : Bytes} :
    readNatural limit text = .ok number ↔
      number ≤ limit ∧ (ofDecimal? text = some number ∨
        ∃ digits, text = plus :: digits ∧ ofDecimal? digits = some number) := by
  have read (digits : Bytes) (filled : digits ≠ []) :
      appendDigits limit .tooLarge 0 digits = .ok number ↔
        number ≤ limit ∧ ofDecimal? digits = some number := by
    rw [appendDigits_eq_ok_iff (Nat.zero_le limit), ofDecimal?_eq_some_iff]
    constructor
    · rintro ⟨all, same, small⟩
      exact ⟨small, filled, all, same⟩
    · rintro ⟨small, -, all, same⟩
      exact ⟨all, same, small⟩
  have noDigit : Bytes.isDigit plus = false := by decide
  cases text with
  | nil =>
      simp [readNatural, ofDecimal?]
  | cons first rest =>
      by_cases signed : first = plus ∧ rest ≠ []
      · obtain ⟨rfl, filled⟩ := signed
        have opens : (plus == plus && !rest.isEmpty) = true := by simpa using filled
        have unsigned : ofDecimal? (plus :: rest) = none := by
          simp [ofDecimal?, noDigit]
        rw [readNatural, if_pos opens, read rest filled, unsigned]
        simp
      · have opens : (first == plus && !rest.isEmpty) = false := by
          by_cases same : first = plus
          · have nothing : rest = [] :=
              Decidable.byContradiction fun filled => signed ⟨same, filled⟩
            simp [nothing]
          · simp [same]
        have noSign : ¬ ∃ digits, first :: rest = plus :: digits ∧
            ofDecimal? digits = some number := by
          rintro ⟨digits, same, denotes⟩
          obtain ⟨sign, rfl⟩ := List.cons.inj same
          exact signed ⟨sign, (ofDecimal?_eq_some_iff.mp denotes).1⟩
        rw [readNatural, opens, if_neg Bool.false_ne_true, read _ (List.cons_ne_nil _ _)]
        simp only [noSign, or_false]

theorem ofDecimal?_decimal (number : Nat) : ofDecimal? (decimal number) = some number := by
  have digits := appendDigits_decimal .tooLarge (Nat.le_refl number)
  rw [appendDigits_eq_ok_iff (Nat.zero_le number)] at digits
  exact ofDecimal?_eq_some_iff.mpr ⟨decimal_ne_nil number, digits.1, digits.2.1⟩

theorem toString_inj {number other : Nat} : toString number = toString other ↔ number = other := by
  constructor
  · intro same
    have octets := congrArg (fun text => ofDecimal? (Utf8.encode text)) same
    simpa only [encode_toString, ofDecimal?_decimal, Option.some.injEq] using octets
  · intro same
    rw [same]

end HttpServer.Numeral
