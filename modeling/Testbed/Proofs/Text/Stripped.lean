import Mathlib.Data.List.DropRight
import Mathlib.Data.List.TakeWhile
import Testbed.Text.Blank

namespace Testbed

variable {p front back : Char → Bool} {c : Char} {cs middle : List Char}

theorem dropWhile_append_stop (stop : p c = false) (cs rest : List Char) :
    (cs ++ c :: rest).dropWhile p = cs.dropWhile p ++ c :: rest := by
  induction cs with
  | nil => simp [stop]
  | cons d cs ih =>
    by_cases dropped : p d = true
    · simp [dropped, ih]
    · simp [dropped]

theorem dropWhile_eq_self_of_head (stops : ∀ c ∈ cs.head?, p c = false) : cs.dropWhile p = cs := by
  cases cs with
  | nil => rfl
  | cons c cs => simp [stops c rfl]

theorem head_of_dropWhile_eq_self (same : cs.dropWhile p = cs) : ∀ c ∈ cs.head?, p c = false := by
  cases cs with
  | nil => simp
  | cons c cs =>
    intro d first
    cases first
    by_contra dropped
    have shorter := (List.dropWhile_sublist (l := cs) p).length_le
    rw [List.dropWhile_cons_of_pos (by simpa using dropped)] at same
    rw [same, List.length_cons] at shorter
    omega

theorem rdropWhile_eq_self_of_last (stops : ∀ c ∈ cs.getLast?, p c = false) :
    cs.rdropWhile p = cs := by
  rw [List.rdropWhile_eq_self_iff]
  intro some_char dropped
  rw [stops _ (List.getLast?_eq_some_getLast some_char)] at dropped
  cases dropped

theorem rdropWhile_append_of_pos {after : List Char} (dropped : ∀ c ∈ after, p c = true) :
    (cs ++ after).rdropWhile p = cs.rdropWhile p := by
  have dropped' : ∀ c ∈ after.reverse, p c = true := by simpa using dropped
  rw [List.rdropWhile, List.reverse_append, List.dropWhile_append_of_pos dropped', List.rdropWhile]

theorem head?_of_prefix {ds : List Char} (start : cs <+: ds) (first : cs.head? = some c) :
    ds.head? = some c := by
  obtain ⟨rest, rfl⟩ := start
  rw [List.head?_append, first]
  rfl

/-- What is left of `cs` when all that `front` holds of is taken away at its beginning and all that
`back` holds of at its end. -/
structure Text.Stripped (front back : Char → Bool) (cs middle : List Char) : Prop where
  around : ∃ before after, cs = before ++ middle ++ after ∧
    (∀ c ∈ before, front c = true) ∧ ∀ c ∈ after, back c = true
  first : ∀ c ∈ middle.head?, front c = false
  last : ∀ c ∈ middle.getLast?, back c = false

namespace Text

theorem stripped_strip (front back : Char → Bool) (cs : List Char) :
    Stripped front back cs ((cs.dropWhile front).rdropWhile back) := by
  constructor
  case around =>
    refine ⟨cs.takeWhile front, (cs.dropWhile front).rtakeWhile back, ?_, ?_, ?_⟩
    · rw [List.append_assoc, List.rdropWhile_append_rtakeWhile, List.takeWhile_append_dropWhile]
    · intro c taken
      exact List.mem_takeWhile_imp taken
    · intro c taken
      exact List.mem_rtakeWhile_imp taken
  case first =>
    intro c first
    have again : (cs.dropWhile front).dropWhile front = cs.dropWhile front :=
      List.dropWhile_idempotent _ _
    apply head_of_dropWhile_eq_self again
    exact head?_of_prefix (List.rdropWhile_prefix _ _) first
  case last =>
    intro c last
    obtain ⟨some_char, rfl⟩ := List.mem_getLast?_eq_getLast last
    simpa using List.rdropWhile_last_not back (cs.dropWhile front) some_char

theorem stripped_iff :
    Stripped front back cs middle ↔ middle = (cs.dropWhile front).rdropWhile back := by
  constructor
  · rintro ⟨⟨before, after, rfl, opens, closes⟩, first, last⟩
    rw [List.append_assoc, List.dropWhile_append_of_pos opens]
    cases middle with
    | nil =>
      -- everything is taken away, part of it from the front
      symm
      rw [List.nil_append, List.rdropWhile_eq_nil_iff]
      intro c kept
      apply closes
      exact (List.dropWhile_sublist front).subset kept
    | cons c rest =>
      rw [dropWhile_eq_self_of_head (by simpa using first), rdropWhile_append_of_pos closes]
      exact (rdropWhile_eq_self_of_last last).symm
  · rintro rfl
    exact stripped_strip front back cs

theorem stripped_trimList (cs : List Char) : Stripped isBlank isBlank cs (trimList cs) :=
  stripped_strip isBlank isBlank cs

end Text

end Testbed
