namespace Testbed.Text

def splitAtLast (sep : Char) : List Char → Option (List Char × List Char)
  | [] => none
  | c :: rest =>
    match splitAtLast sep rest with
    | some (left, right) => some (c :: left, right)
    | none => if c = sep then some ([], rest) else none

theorem splitAtLast_eq_none_iff {sep : Char} {cs : List Char} :
    splitAtLast sep cs = none ↔ sep ∉ cs := by
  induction cs with
  | nil => simp [splitAtLast]
  | cons c rest ih =>
    cases h : splitAtLast sep rest with
    | none =>
      have hr := ih.1 h
      by_cases hc : c = sep
      · simp [splitAtLast, h, hc]
      · simp [splitAtLast, h, hc, hr, Ne.symm hc]
    | some p =>
      have hr : sep ∈ rest := by
        by_cases hm : sep ∈ rest
        · exact hm
        · rw [ih.2 hm] at h
          cases h
      simp [splitAtLast, h, hr]

theorem eq_of_splitAtLast {sep : Char} {cs left right : List Char}
    (h : splitAtLast sep cs = some (left, right)) : cs = left ++ sep :: right ∧ sep ∉ right := by
  induction cs generalizing left right with
  | nil => cases h
  | cons c rest ih =>
    cases hr : splitAtLast sep rest with
    | none =>
      simp only [splitAtLast, hr] at h
      split at h
      · next hc =>
        cases h
        exact ⟨by simp [hc], splitAtLast_eq_none_iff.1 hr⟩
      · cases h
    | some p =>
      obtain ⟨l, r⟩ := p
      simp only [splitAtLast, hr] at h
      cases h
      exact ⟨by simp [(ih hr).1], (ih hr).2⟩

theorem splitAtLast_append {sep : Char} {left right : List Char} (h : sep ∉ right) :
    splitAtLast sep (left ++ sep :: right) = some (left, right) := by
  induction left with
  | nil => simp [splitAtLast, splitAtLast_eq_none_iff.2 h]
  | cons c left ih => simp [splitAtLast, ih]

def pieces (sep : Char) : List Char → List (List Char)
  | [] => [[]]
  | c :: rest =>
    if c = sep then [] :: pieces sep rest
    else
      match pieces sep rest with
      | [] => [[c]]
      | first :: others => (c :: first) :: others

end Testbed.Text
