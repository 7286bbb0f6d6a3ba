namespace Testbed

variable {α : Type}

def insertSorted (before : α → α → Bool) (x : α) : List α → List α
  | [] => [x]
  | y :: rest => if before y x then y :: insertSorted before x rest else x :: y :: rest

def sortBy (before : α → α → Bool) (xs : List α) : List α :=
  xs.foldr (insertSorted before) []

theorem insertSorted_perm (before : α → α → Bool) (x : α) (xs : List α) :
    (insertSorted before x xs).Perm (x :: xs) := by
  induction xs with
  | nil => exact .refl _
  | cons y rest ih =>
    simp only [insertSorted]
    split
    · exact (ih.cons y).trans (.swap x y rest)
    · exact .refl _

theorem sortBy_perm (before : α → α → Bool) (xs : List α) : (sortBy before xs).Perm xs := by
  induction xs with
  | nil => exact .refl _
  | cons x rest ih => exact (insertSorted_perm before x _).trans (ih.cons x)

theorem mem_sortBy {before : α → α → Bool} {xs : List α} {x : α} :
    x ∈ sortBy before xs ↔ x ∈ xs := (sortBy_perm before xs).mem_iff

/-- Names in the order of their code points, which is also the order of their UTF-8 bytes. -/
def sortNames (names : List String) : List String := sortBy (fun a b => decide (a < b)) names

def addName (name : String) (names : List String) : List String :=
  if names.contains name then names else names ++ [name]

def dropName (name : String) (names : List String) : List String := names.filter (· != name)

theorem mem_addName {name other : String} {names : List String} :
    other ∈ addName name names ↔ other = name ∨ other ∈ names := by
  unfold addName
  split
  · next h =>
    have hm : name ∈ names := by simpa using h
    exact ⟨Or.inr, fun h => h.elim (fun he => he ▸ hm) id⟩
  · simp [or_comm]

theorem mem_dropName {name other : String} {names : List String} :
    other ∈ dropName name names ↔ other ∈ names ∧ other ≠ name := by
  simp [dropName]

end Testbed
