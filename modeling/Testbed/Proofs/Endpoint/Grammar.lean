import Testbed.Error
import Testbed.Proofs.Endpoint.RoundTrip

namespace Testbed.Endpoint

/-- `cs` is a decimal number with the value `n`, with or without a plus sign. -/
def Numeral (cs : List Char) (n : Nat) : Prop :=
  ∃ digits, (cs = digits ∨ cs = '+' :: digits) ∧ digits ≠ [] ∧ (∀ c ∈ digits, c.isDigit = true) ∧
    Nat.ofDigitChars 10 digits 0 = n

/-- The trimmed text `cs` parted at its last colon, with the host taken out of its brackets. -/
structure Parted (cs host right : List Char) : Prop where
  cut : ∃ left, cs = left ++ ':' :: right ∧ Text.Stripped (· == '[') (· == ']') left host
  last : ':' ∉ right

/-- The trimmed text is an endpoint with this host and this port. -/
inductive Written (cs : List Char) (host : String) (port : UInt16) : Prop
  | intro {right} (parted : Parted cs host.toList right) (some_char : host ≠ "")
      (number : Numeral right port.toNat) (proper : 1 ≤ port.toNat)

/-- The first thing that is wrong with a trimmed text. -/
inductive Faulty (cs : List Char) : Defect → Prop
  | noColon (missing : ':' ∉ cs) : Faulty cs .noColon
  | emptyHost {right} (parted : Parted cs [] right) : Faulty cs .emptyHost
  | invalidPort {host right} (parted : Parted cs host right) (some_char : host ≠ [])
      (invalid : ∀ n, Numeral right n → 65535 < n) : Faulty cs .invalidPort
  | portZero {host right} (parted : Parted cs host right) (some_char : host ≠ [])
      (zero : Numeral right 0) : Faulty cs .portZero

def Defect.reason : Defect → String
  | .noColon => "is not host:port"
  | .emptyHost => "has an empty host"
  | .invalidPort => "has an invalid port"
  | .portZero => "uses port 0"

section Ports

variable {cs : List Char} {n : Nat}

def unsigned (cs : List Char) : List Char := if cs.head? = some '+' then cs.tail else cs

theorem numeral_iff : Numeral cs n ↔ unsigned cs ≠ [] ∧ (∀ c ∈ unsigned cs, c.isDigit = true) ∧
    decimalValue (unsigned cs) = n := by
  constructor
  · rintro ⟨digits, rfl | rfl, some_digit, all_digits, value⟩
    · have signless : cs.head? ≠ some '+' := by
        intro plus
        have digit := all_digits _ (List.mem_of_mem_head? plus)
        exact absurd digit (by decide)
      rw [unsigned, if_neg signless]
      exact ⟨some_digit, all_digits, value⟩
    · exact ⟨some_digit, all_digits, value⟩
  · rintro ⟨some_digit, all_digits, value⟩
    refine ⟨unsigned cs, ?_, some_digit, all_digits, value⟩
    unfold unsigned
    split
    next plus => exact .inr (List.eq_cons_of_mem_head? plus)
    next => exact .inl rfl

theorem readPort_eq (cs : List Char) : readPort cs =
    if (unsigned cs).isEmpty || !(unsigned cs).all Char.isDigit then none
    else if decimalValue (unsigned cs) < 65536
      then some (UInt16.ofNat (decimalValue (unsigned cs))) else none := rfl

theorem Numeral.readPort (number : Numeral cs n) :
    readPort cs = if n < 65536 then some (UInt16.ofNat n) else none := by
  obtain ⟨some_digit, digits, value⟩ := numeral_iff.mp number
  have not_empty : (unsigned cs).isEmpty = false := List.isEmpty_eq_false_iff.mpr some_digit
  have all_digits : (unsigned cs).all Char.isDigit = true := List.all_eq_true.mpr digits
  simp only [readPort_eq, not_empty, all_digits, value, Bool.not_true, Bool.or_self,
    Bool.false_eq_true, ↓reduceIte]

theorem numeral_of_readPort {port : UInt16} (found : readPort cs = some port) :
    Numeral cs port.toNat := by
  rw [readPort_eq] at found
  split at found
  next => cases found
  next digits =>
    split at found
    next small =>
      cases found
      rw [Bool.not_eq_true, Bool.or_eq_false_iff, Bool.not_eq_false', List.isEmpty_eq_false_iff,
        List.all_eq_true] at digits
      refine numeral_iff.mpr ⟨digits.1, digits.2, ?_⟩
      rw [UInt16.toNat_ofNat', Nat.mod_eq_of_lt small]
    next => cases found

theorem readPort_eq_some_iff {port : UInt16} : readPort cs = some port ↔ Numeral cs port.toNat := by
  refine ⟨numeral_of_readPort, fun number => ?_⟩
  rw [number.readPort, if_pos port.toNat_lt, UInt16.ofNat_toNat]

theorem readPort_eq_none_iff : readPort cs = none ↔ ∀ n, Numeral cs n → 65535 < n := by
  constructor
  · intro none_found n number
    by_contra small
    rw [number.readPort, if_pos (by omega)] at none_found
    cases none_found
  · intro large
    cases found : readPort cs with
    | none => rfl
    | some port =>
      have above := large _ (numeral_of_readPort found)
      have below : port.toNat < 65536 := port.toNat_lt
      omega

end Ports

section Reading

variable {cs host right : List Char} {port : UInt16} {defect : Defect}

theorem parted_iff : Parted cs host right ↔
    ∃ left, Text.splitAtLast ':' cs = some (left, right) ∧ stripBrackets left = host := by
  constructor
  · rintro ⟨⟨left, rfl, stripped⟩, last⟩
    exact ⟨left, Text.splitAtLast_append last, (Text.stripped_iff.mp stripped).symm⟩
  · rintro ⟨left, split, rfl⟩
    obtain ⟨cut, last⟩ := Text.eq_of_splitAtLast split
    exact ⟨⟨left, cut, stripped_stripBrackets left⟩, last⟩

theorem Written.read {host : String} (written : Written cs host port) :
    readTrimmed cs = .ok ⟨host, port⟩ := by
  obtain ⟨parted, some_char, number, proper⟩ := written
  obtain ⟨left, split, stripped⟩ := parted_iff.mp parted
  have kept : host.toList ≠ [] := by simpa using some_char
  have nonzero : port ≠ 0 := by
    rintro rfl
    exact absurd proper (by decide)
  simp only [readTrimmed, split, stripped, List.isEmpty_iff, kept, readPort_eq_some_iff.mpr number,
    nonzero, ↓reduceIte, String.ofList_toList]

theorem Faulty.read (faulty : Faulty cs defect) : readTrimmed cs = .error defect := by
  cases faulty with
  | noColon missing => simp only [readTrimmed, Text.splitAtLast_eq_none_iff.mpr missing]
  | emptyHost parted =>
    obtain ⟨left, split, stripped⟩ := parted_iff.mp parted
    simp only [readTrimmed, split, stripped, List.isEmpty_nil, ↓reduceIte]
  | invalidPort parted some_char invalid =>
    obtain ⟨left, split, stripped⟩ := parted_iff.mp parted
    simp only [readTrimmed, split, stripped, List.isEmpty_iff, some_char,
      readPort_eq_none_iff.mpr invalid, ↓reduceIte]
  | portZero parted some_char zero =>
    obtain ⟨left, split, stripped⟩ := parted_iff.mp parted
    have found : readPort _ = some 0 := readPort_eq_some_iff.mpr zero
    simp only [readTrimmed, split, stripped, List.isEmpty_iff, some_char, found, ↓reduceIte]

theorem written_or_faulty (cs : List Char) :
    (∃ host port, Written cs host port) ∨ ∃ defect, Faulty cs defect := by
  cases split : Text.splitAtLast ':' cs with
  | none => exact .inr ⟨_, .noColon (Text.splitAtLast_eq_none_iff.mp split)⟩
  | some parts =>
    obtain ⟨left, right⟩ := parts
    have parted : Parted cs (stripBrackets left) right := parted_iff.mpr ⟨left, split, rfl⟩
    by_cases empty : stripBrackets left = []
    · rw [empty] at parted
      exact .inr ⟨_, .emptyHost parted⟩
    · cases found : readPort right with
      | none => exact .inr ⟨_, .invalidPort parted empty (readPort_eq_none_iff.mp found)⟩
      | some port =>
        have number := readPort_eq_some_iff.mp found
        by_cases zero : port = 0
        · subst zero
          exact .inr ⟨_, .portZero parted empty number⟩
        · have proper : 1 ≤ port.toNat := by
            by_contra small
            apply zero
            apply UInt16.toNat_inj.mp
            show port.toNat = 0
            omega
          rw [← String.toList_ofList (l := stripBrackets left)] at parted empty
          exact .inl ⟨_, port, parted, by simpa using empty, number, proper⟩

theorem readTrimmed_ok_iff {host : String} :
    readTrimmed cs = .ok ⟨host, port⟩ ↔ Written cs host port := by
  refine ⟨fun accepted => ?_, Written.read⟩
  rcases written_or_faulty cs with ⟨host', port', written⟩ | ⟨defect, faulty⟩
  · rw [written.read] at accepted
    cases accepted
    exact written
  · rw [faulty.read] at accepted
    cases accepted

theorem readTrimmed_error_iff : readTrimmed cs = .error defect ↔ Faulty cs defect := by
  refine ⟨fun refused => ?_, Faulty.read⟩
  rcases written_or_faulty cs with ⟨host, port, written⟩ | ⟨defect', faulty⟩
  · rw [written.read] at refused
    cases refused
  · rw [faulty.read] at refused
    cases refused
    exact faulty

end Reading

theorem error_message (cs : List Char) (defect : Defect) :
    Error.ofRejection ⟨String.ofList cs, defect⟩ =
      .config "endpoint" ("'" ++ String.ofList cs ++ "' " ++ defect.reason) := by
  have worded : defect.message (String.ofList cs) =
      "'" ++ String.ofList cs ++ "' " ++ defect.reason := by
    cases defect <;> simp [Defect.message, Defect.reason, String.append_assoc, toString]
  rw [← worded]
  rfl

/-- Which texts are read as which endpoints, and why the others are refused; it is the trimmed text
that is quoted. -/
theorem read_exact (s : String) : ∃ cs, Text.Stripped Text.isBlank Text.isBlank s.toList cs ∧
    (∀ host port, read s = .ok ⟨host, port⟩ ↔ Written cs host port) ∧
    ∀ e, (read s).mapError Error.ofRejection = .error e ↔ ∃ defect, Faulty cs defect ∧
      e = .config "endpoint" ("'" ++ String.ofList cs ++ "' " ++ defect.reason) := by
  refine ⟨Text.trimList s.toList, Text.stripped_trimList s.toList, fun host port => ?_, fun e => ?_⟩
  · exact read_ok_iff.trans readTrimmed_ok_iff
  · simp only [← error_message]
    unfold read
    constructor
    · intro refused
      cases tried : readTrimmed (Text.trimList s.toList) with
      | ok e => simp [tried, Except.mapError] at refused
      | error defect =>
        simp only [tried, Except.mapError, Except.error.injEq] at refused
        exact ⟨defect, readTrimmed_error_iff.mp tried, refused.symm⟩
    · rintro ⟨defect, faulty, rfl⟩
      simp only [faulty.read, Except.mapError]

end Testbed.Endpoint
