import Testbed.Host.Quoting

namespace Testbed.Host.CommandLine

/-- Characters that stand for themselves outside of quotes, wherever in a word they are. -/
def isOrdinary (c : Char) : Bool :=
  c.isAlphanum || ['/', '-', '_', '.', ':', '@', '%', '+', ','].contains c

def isSeparator (c : Char) : Bool := c == ' ' || c == '\t'

def isActive (c : Char) : Bool := c == '$' || c == graveAccent

inductive Place where
  | between
  | word (sofar : List Char)
  | quoted (sofar : List Char)
  | escaped (sofar : List Char)

def readFrom : Place → List Char → Option (List (List Char))
  | .between, [] => some []
  | .between, c :: rest =>
    if isSeparator c then readFrom .between rest
    else if c = '"' then readFrom (.quoted []) rest
    else if isOrdinary c then readFrom (.word [c]) rest
    else none
  | .word sofar, [] => some [sofar]
  | .word sofar, c :: rest =>
    if isSeparator c then (readFrom .between rest).map (sofar :: ·)
    else if c = '"' then readFrom (.quoted sofar) rest
    else if isOrdinary c then readFrom (.word (sofar ++ [c])) rest
    else none
  | .quoted _, [] => none
  | .quoted sofar, c :: rest =>
    if c = '"' then readFrom (.word sofar) rest
    else if c = '\\' then readFrom (.escaped sofar) rest
    else if isActive c || c = '\x00' then none
    else readFrom (.quoted (sofar ++ [c])) rest
  | .escaped _, [] => none
  | .escaped sofar, c :: rest =>
    if c = '\n' then readFrom (.quoted sofar) rest
    else if isActive c || c = '"' || c = '\\' then readFrom (.quoted (sofar ++ [c])) rest
    else if c = '\x00' then none
    else readFrom (.quoted (sofar ++ ['\\', c])) rest

def read (line : String) : Option (List String) :=
  (readFrom .between line.toList).map (·.map String.ofList)

def reservedWords : List String :=
  ["!", "\x7b", "\x7d", "case", "do", "done", "elif", "else", "esac", "fi", "for", "if", "in",
    "then", "until", "while"]

/-- A simple command: a line of words of which the first is free for the name of a tool. -/
def readSimple (line : String) : Option (List String) :=
  (read line).filter fun words => words.head?.any fun first => !reservedWords.contains first

theorem readFrom_escape {cs : List Char} (h : '\x00' ∉ cs) (sofar rest : List Char) :
    readFrom (.quoted sofar) (escape cs ++ '"' :: rest) =
      readFrom (.word (sofar ++ cs.filter (· != '\n'))) rest := by
  induction cs generalizing sofar with
  | nil => simp [escape, readFrom]
  | cons c cs ih =>
    have hc : c ≠ '\x00' := fun e => h (by simp [e])
    have hcs : '\x00' ∉ cs := fun e => h (by simp [e])
    cases hq : needsEscape c with
    | true =>
      have hstep : readFrom (.quoted sofar) (escape (c :: cs) ++ '"' :: rest) =
          readFrom (.escaped sofar) (c :: (escape cs ++ '"' :: rest)) := by
        simp [escape, hq, readFrom]
      rw [hstep, readFrom]
      by_cases hn : c = '\n'
      · subst hn
        simpa using ih hcs sofar
      · have ha : isActive c || c = '"' || c = '\\' := by
          simp only [needsEscape, Bool.or_eq_true, beq_iff_eq] at hq
          rcases hq with (((rfl | rfl) | rfl) | rfl) | rfl
          · decide
          · decide
          · decide
          · decide
          · exact absurd rfl hn
        rw [if_neg hn, if_pos (by simpa using ha), ih hcs]
        simp [hn]
    | false =>
      simp only [needsEscape, Bool.or_eq_false_iff, beq_eq_false_iff_ne] at hq
      obtain ⟨⟨⟨⟨h1, h2⟩, h3⟩, h4⟩, h5⟩ := hq
      have ha : isActive c = false := by simp [isActive, h1, h2]
      have hstep : readFrom (.quoted sofar) (escape (c :: cs) ++ '"' :: rest) =
          readFrom (.quoted (sofar ++ [c])) (escape cs ++ '"' :: rest) := by
        simp [escape, needsEscape, h1, h2, h3, h4, h5, readFrom, ha, hc]
      rw [hstep, ih hcs]
      simp [h5]

theorem readFrom_quoteList {cs : List Char} (h : '\x00' ∉ cs) (rest : List Char) :
    readFrom .between (quoteList cs ++ rest) =
      readFrom (.word (cs.filter (· != '\n'))) rest := by
  have hq : quoteList cs ++ rest = '"' :: (escape cs ++ '"' :: rest) := by simp [quoteList]
  have hs : isSeparator '"' = false := by decide
  rw [hq, readFrom, hs]
  simpa using readFrom_escape h [] rest

end Testbed.Host.CommandLine
