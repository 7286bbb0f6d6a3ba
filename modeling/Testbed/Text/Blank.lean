namespace Testbed.Text

/-- The characters with Unicode's `White_Space` property. -/
def isBlank (c : Char) : Bool :=
  let n := c.toNat
  (9 ≤ n && n ≤ 13) || n == 0x20 || n == 0x85 || n == 0xA0 || n == 0x1680 ||
    (0x2000 ≤ n && n ≤ 0x200A) || n == 0x2028 || n == 0x2029 || n == 0x202F || n == 0x205F ||
    n == 0x3000

def dropBlanks : List Char → List Char := List.dropWhile isBlank

def dropBlanksEnd (cs : List Char) : List Char := (dropBlanks cs.reverse).reverse

def trimList (cs : List Char) : List Char := dropBlanksEnd (dropBlanks cs)

def trim (s : String) : String := String.ofList (trimList s.toList)

def isAllBlank (s : String) : Bool := s.toList.all isBlank

theorem dropBlanks_eq_nil_iff {cs : List Char} :
    dropBlanks cs = [] ↔ ∀ c ∈ cs, isBlank c = true := by
  induction cs with
  | nil => simp [dropBlanks]
  | cons c rest ih =>
    cases h : isBlank c with
    | true =>
      have dropped : dropBlanks (c :: rest) = dropBlanks rest := by simp [dropBlanks, h]
      simp [dropped, ih, h]
    | false => simp [dropBlanks, h]

theorem dropBlanks_head {cs : List Char} {c : Char} {rest : List Char}
    (h : dropBlanks cs = c :: rest) : isBlank c = false := by
  induction cs with
  | nil => simp [dropBlanks] at h
  | cons d tail ih =>
    cases hd : isBlank d with
    | true => exact ih (by simpa [dropBlanks, hd] using h)
    | false =>
      simp only [dropBlanks, List.dropWhile_cons, hd] at h
      exact (List.cons.inj h).1 ▸ hd

theorem trimList_eq_nil_iff {cs : List Char} :
    trimList cs = [] ↔ ∀ c ∈ cs, isBlank c = true := by
  rw [← dropBlanks_eq_nil_iff]
  constructor
  · intro h
    cases hd : dropBlanks cs with
    | nil => rfl
    | cons c rest =>
      have hc := dropBlanks_head hd
      simp only [trimList, dropBlanksEnd, hd, List.reverse_eq_nil_iff, dropBlanks_eq_nil_iff,
        List.mem_reverse] at h
      simp [h c (by simp)] at hc
  · intro h
    rw [trimList, dropBlanksEnd, h]
    rfl

theorem trim_eq_empty_iff {s : String} : trim s = "" ↔ isAllBlank s = true := by
  rw [trim, String.ofList_eq_empty_iff, trimList_eq_nil_iff, isAllBlank, List.all_eq_true]

end Testbed.Text
