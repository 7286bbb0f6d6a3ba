import Testbed.Endpoint.Read
import Testbed.Proofs.Numeral
import Testbed.Proofs.Text.Stripped

namespace Testbed.Endpoint

section Brackets

def Unbracketed (host : List Char) : Prop := host.head? ≠ some '[' ∧ host.getLast? ≠ some ']'

theorem stripBrackets_eq (host : List Char) :
    stripBrackets host = (host.dropWhile (· == '[')).rdropWhile (· == ']') := rfl

theorem stripped_stripBrackets (host : List Char) :
    Text.Stripped (· == '[') (· == ']') host (stripBrackets host) :=
  Text.stripped_strip _ _ host

theorem unbracketed_of_stripped {left host : List Char}
    (stripped : Text.Stripped (· == '[') (· == ']') left host) : Unbracketed host := by
  constructor
  · intro opened
    exact absurd (stripped.first _ opened) (by decide)
  · intro closed
    exact absurd (stripped.last _ closed) (by decide)

theorem stripBrackets_of_unbracketed {host : List Char} (bare : Unbracketed host) :
    stripBrackets host = host := by
  have opening : host.dropWhile (· == '[') = host := by
    apply dropWhile_eq_self_of_head
    intro c first
    have other : c ≠ '[' := fun same => bare.1 (same ▸ first)
    simpa using other
  rw [stripBrackets_eq, opening]
  apply rdropWhile_eq_self_of_last
  intro c last
  have other : c ≠ ']' := fun same => bare.2 (same ▸ last)
  simpa using other

theorem stripBrackets_bracketed (host : List Char) :
    stripBrackets ('[' :: host ++ [']']) = stripBrackets host := by
  have opening : ('[' :: host ++ [']']).dropWhile (· == '[') =
      host.dropWhile (· == '[') ++ [']'] := by
    rw [List.cons_append, List.dropWhile_cons_of_pos (by rfl)]
    exact dropWhile_append_stop (by decide) host []
  rw [stripBrackets_eq, stripBrackets_eq, opening]
  exact List.rdropWhile_concat_pos _ _ _ (by rfl)

end Brackets

section Ports

theorem not_blank_of_digit {c : Char} (digit : c.isDigit = true) : Text.isBlank c = false := by
  have range : 48 ≤ c.toNat ∧ c.toNat ≤ 57 := by
    simp only [Char.isDigit, Bool.and_eq_true, decide_eq_true_eq] at digit
    exact digit
  have other : ∀ n, 57 < n → (c.toNat == n) = false := by
    intro n large
    rw [beq_eq_false_iff_ne]
    omega
  have low : ¬ c.toNat ≤ 13 := by omega
  have high : ¬ 8192 ≤ c.toNat := by omega
  have space : (c.toNat == 32) = false := by
    rw [beq_eq_false_iff_ne]
    omega
  simp [Text.isBlank, low, high, space, other]

theorem decimalValue_toString (n : Nat) : decimalValue (toString n).toList = n :=
  ofDigitChars_toString n

theorem readPort_toString (port : UInt16) : readPort (toString port.toNat).toList = some port := by
  have signless : (toString port.toNat).toList.head? ≠ some '+' := by
    intro plus
    have digit := isDigit_of_mem_toString (List.mem_of_mem_head? plus)
    exact absurd digit (by decide)
  have digits : (toString port.toNat).toList.all Char.isDigit = true := by
    rw [List.all_eq_true]
    intro c member
    exact isDigit_of_mem_toString member
  have some_digit : (toString port.toNat).toList.isEmpty = false := by
    rw [List.isEmpty_eq_false_iff]
    exact toString_ne_nil port.toNat
  have small : port.toNat < 65536 := port.toNat_lt
  unfold readPort
  rw [if_neg signless]
  simp only [some_digit, digits, decimalValue_toString, small, Bool.not_true, Bool.or_self,
    Bool.false_eq_true, ↓reduceIte]
  rw [UInt16.ofNat_toNat]

end Ports

section Written

def writtenHost (host : String) : List Char :=
  if needsBrackets host then '[' :: host.toList ++ [']'] else host.toList

theorem toList_text (e : Endpoint) :
    e.text.toList = writtenHost e.host ++ ':' :: (toString e.port.toNat).toList := by
  unfold text writtenHost
  split <;> simp

theorem trimList_written (host : List Char) (n : Nat) :
    Text.trimList (host ++ ':' :: (toString n).toList) =
      Text.dropBlanks host ++ ':' :: (toString n).toList := by
  have front : Text.dropBlanks (host ++ ':' :: (toString n).toList) =
      Text.dropBlanks host ++ ':' :: (toString n).toList :=
    dropWhile_append_stop (by decide) host _
  have back : Text.dropBlanks (Text.dropBlanks host ++ ':' :: (toString n).toList).reverse =
      (Text.dropBlanks host ++ ':' :: (toString n).toList).reverse := by
    apply dropWhile_eq_self_of_head
    intro c last
    apply not_blank_of_digit
    apply isDigit_of_mem_toString (n := n)
    rw [List.head?_reverse, List.getLast?_append_cons, List.getLast?_cons,
      List.getLast?_eq_some_getLast (toString_ne_nil n)] at last
    cases last
    exact List.getLast_mem _
  rw [Text.trimList, front, Text.dropBlanksEnd, back, List.reverse_reverse]

theorem readTrimmed_written (host : List Char) (port : UInt16) (e : Endpoint) :
    readTrimmed (host ++ ':' :: (toString port.toNat).toList) = .ok e ↔
      stripBrackets host ≠ [] ∧ port ≠ 0 ∧ e = ⟨String.ofList (stripBrackets host), port⟩ := by
  have no_colon : ':' ∉ (toString port.toNat).toList := by
    intro colon
    exact absurd (isDigit_of_mem_toString colon) (by decide)
  unfold readTrimmed
  simp only [Text.splitAtLast_append no_colon, readPort_toString, List.isEmpty_iff]
  by_cases empty : stripBrackets host = []
  · simp [empty]
  · by_cases zero : port = 0
    · simp [empty, zero]
    · simp [empty, zero, eq_comm]

theorem read_ok_iff {s : String} {e : Endpoint} :
    read s = .ok e ↔ readTrimmed (Text.trimList s.toList) = .ok e := by
  unfold read
  dsimp only
  cases readTrimmed (Text.trimList s.toList) <;> simp [Except.mapError]

theorem read_text_ok_iff {e f : Endpoint} :
    read e.text = .ok f ↔ stripBrackets (Text.dropBlanks (writtenHost e.host)) ≠ [] ∧
      e.port ≠ 0 ∧
        f = ⟨String.ofList (stripBrackets (Text.dropBlanks (writtenHost e.host))), e.port⟩ := by
  rw [read_ok_iff, toList_text, trimList_written, readTrimmed_written]

end Written

section Accepted

theorem readTrimmed_cases {cs : List Char} {e : Endpoint} (accepted : readTrimmed cs = .ok e) :
    ∃ left right, cs = left ++ ':' :: right ∧ e.host.toList = stripBrackets left ∧
      e.host.toList ≠ [] ∧ e.port ≠ 0 := by
  unfold readTrimmed at accepted
  split at accepted
  next => cases accepted
  next left right split_at =>
    dsimp only at accepted
    split at accepted
    next => cases accepted
    next some_char =>
      split at accepted
      next => cases accepted
      next port _ =>
        split at accepted
        next => cases accepted
        next proper =>
          cases accepted
          refine ⟨left, right, (Text.eq_of_splitAtLast split_at).1, ?_, ?_, proper⟩
          · exact String.toList_ofList
          · simpa using some_char

theorem head_of_accepted {cs left right host : List Char} (cut : cs = left ++ ':' :: right)
    (stripped : host = stripBrackets left) (bare : cs.head? ≠ some '[') :
    ∀ c ∈ host.head?, c ∈ cs.head? := by
  intro c first
  have opening : left.dropWhile (· == '[') = left := by
    apply dropWhile_eq_self_of_head
    intro d opened
    have other : d ≠ '[' := by
      intro same
      apply bare
      rw [cut, List.head?_append, opened, same]
      rfl
    simpa using other
  rw [stripped, stripBrackets_eq, opening] at first
  have left_first := head?_of_prefix (List.rdropWhile_prefix _ _) first
  exact head?_of_prefix ⟨_, cut.symm⟩ left_first

theorem length_stripBrackets_le (host : List Char) : (stripBrackets host).length ≤ host.length := by
  have back := (List.rdropWhile_prefix (· == ']') (host.dropWhile (· == '['))).length_le
  have front := (List.dropWhile_sublist (l := host) (· == '[')).length_le
  rw [stripBrackets_eq]
  omega

theorem stripBrackets_dropBlanks {host : List Char} (bare : Unbracketed host) :
    stripBrackets (Text.dropBlanks host) = host ↔ ∀ c ∈ host.head?, Text.isBlank c = false := by
  constructor
  · intro same
    apply head_of_dropWhile_eq_self
    have strip := length_stripBrackets_le (Text.dropBlanks host)
    rw [same] at strip
    exact (List.dropWhile_sublist (l := host) Text.isBlank).eq_of_length_le strip
  · intro stops
    have kept : Text.dropBlanks host = host := dropWhile_eq_self_of_head stops
    rw [kept, stripBrackets_of_unbracketed bare]

theorem read_text_of_unbracketed {e : Endpoint} (bare : Unbracketed e.host.toList)
    (some_char : e.host.toList ≠ []) (proper : e.port ≠ 0) : read e.text = .ok e ↔
      ':' ∈ e.host.toList ∨ ∀ c ∈ e.host.toList.head?, Text.isBlank c = false := by
  have same_host : read e.text = .ok e ↔
      stripBrackets (Text.dropBlanks (writtenHost e.host)) = e.host.toList := by
    rw [read_text_ok_iff]
    constructor
    · rintro ⟨-, -, same⟩
      have hosts := congrArg (fun f => f.host.toList) same
      simpa using hosts.symm
    · intro same
      rw [same, String.ofList_toList]
      exact ⟨some_char, proper, rfl⟩
  rw [same_host]
  by_cases colon : ':' ∈ e.host.toList
  · have brackets : needsBrackets e.host = true := by
      simp [needsBrackets, colon, bare.1]
    have kept : Text.dropBlanks ('[' :: e.host.toList ++ [']']) = '[' :: e.host.toList ++ [']'] :=
      dropWhile_eq_self_of_head (by simp; decide)
    simp only [writtenHost, brackets, ↓reduceIte, kept, stripBrackets_bracketed,
      stripBrackets_of_unbracketed bare, colon, true_or]
  · have plain : needsBrackets e.host = false := by
      simp [needsBrackets, colon]
    simp only [writtenHost, plain, Bool.false_eq_true, ↓reduceIte, colon, false_or]
    exact stripBrackets_dropBlanks bare

/-- What was accepted as an endpoint is read back from its written form just if the host holds a
colon or does not begin with a blank; so it always is if no bracket opened the text. -/
theorem reread_iff {s : String} {e : Endpoint} (accepted : read s = .ok e) :
    (read e.text = .ok e ↔
      ':' ∈ e.host.toList ∨ ∀ c ∈ e.host.toList.head?, Text.isBlank c = false) ∧
    ((Text.trimList s.toList).head? ≠ some '[' → read e.text = .ok e) := by
  obtain ⟨left, right, cut, stripped, some_char, proper⟩ :=
    readTrimmed_cases (read_ok_iff.mp accepted)
  have bare : Unbracketed e.host.toList :=
    stripped ▸ unbracketed_of_stripped (stripped_stripBrackets left)
  have back := read_text_of_unbracketed bare some_char proper
  refine ⟨back, fun unopened => back.mpr (.inr fun c first => ?_)⟩
  apply (Text.stripped_trimList s.toList).first
  exact head_of_accepted cut stripped unopened c first

theorem bracketed_blank_reread : read "\t[ fe80::1]:+06653 " = .ok ⟨" fe80::1", 6653⟩ ∧
    read (Endpoint.text ⟨" fe80::1", 6653⟩) = .ok ⟨" fe80::1", 6653⟩ := by
  have accepted : read "\t[ fe80::1]:+06653 " = .ok ⟨" fe80::1", 6653⟩ := by decide
  exact ⟨accepted, (reread_iff accepted).1.mpr (.inl (by decide))⟩

/-- Without a colon in the host the writer leaves the brackets out, and the blank is trimmed. -/
theorem blank_host_changed :
    ¬ ∀ (s : String) (e : Endpoint), read s = .ok e → read e.text = .ok e := by
  intro claimed
  have accepted : read "[ a]:80" = .ok ⟨" a", 80⟩ := by decide
  have changed : read (Endpoint.text ⟨" a", 80⟩) = .ok ⟨"a", 80⟩ := by decide
  have back := claimed _ _ accepted
  rw [changed] at back
  exact absurd back (by decide)

end Accepted

section Unchecked

theorem proper_of_reread {e : Endpoint} (back : read e.text = .ok e) :
    Unbracketed e.host.toList ∧ e.host.toList ≠ [] ∧ e.port ≠ 0 := by
  obtain ⟨some_char, proper, same⟩ := read_text_ok_iff.mp back
  have host : e.host.toList = stripBrackets (Text.dropBlanks (writtenHost e.host)) := by
    have hosts := congrArg (fun f => f.host.toList) same
    simpa using hosts
  have bare := unbracketed_of_stripped
    (stripped_stripBrackets (Text.dropBlanks (writtenHost e.host)))
  rw [← host] at some_char bare
  exact ⟨bare, some_char, proper⟩

/-- Of the endpoints that nobody has checked, those are read back from their written form that
have a port and a host without brackets around it, where the host holds a colon or does not begin
with a blank. -/
theorem unchecked_reread_iff (host : String) (port : UInt16) :
    read (Endpoint.text ⟨host, port⟩) = .ok ⟨host, port⟩ ↔
      port ≠ 0 ∧ host ≠ "" ∧ host.toList.head? ≠ some '[' ∧ host.toList.getLast? ≠ some ']' ∧
        (':' ∈ host.toList ∨ ∀ c ∈ host.toList.head?, Text.isBlank c = false) := by
  have named : host.toList ≠ [] ↔ host ≠ "" := by simp
  constructor
  · intro back
    obtain ⟨bare, some_char, proper⟩ := proper_of_reread back
    have held := (read_text_of_unbracketed bare some_char proper).mp back
    exact ⟨proper, named.mp some_char, bare.1, bare.2, held⟩
  · rintro ⟨proper, some_char, unopened, unclosed, held⟩
    have bare : Unbracketed host.toList := ⟨unopened, unclosed⟩
    exact (read_text_of_unbracketed bare (named.mpr some_char) proper).mpr held

end Unchecked

end Testbed.Endpoint
