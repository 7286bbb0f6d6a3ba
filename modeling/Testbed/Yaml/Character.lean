namespace Testbed.Yaml

def isReadable (c : Char) : Bool :=
  let n := c.toNat
  n == 0x9 || n == 0xA || n == 0xD || (0x20 ≤ n && n ≤ 0x7E) || n == 0x85 ||
    (0xA0 ≤ n && n ≤ 0xD7FF) || (0xE000 ≤ n && n ≤ 0xFFFD) || 0x10000 ≤ n

def isSpace (c : Char) : Bool := c == ' ' || c == '\t'

def isBreak (c : Char) : Bool :=
  c == '\n' || c == '\r' || c == '\u0085' || c == '\u2028' || c == '\u2029'

/-- Stands after the last character of a text, in which it cannot occur. -/
def endMark : Char := '\x00'

def isBreakOrEnd (c : Char) : Bool := isBreak c || c == endMark

def isGap (c : Char) : Bool := isSpace c || isBreakOrEnd c

def isNameChar (c : Char) : Bool := c.isAlphanum || c == '_' || c == '-'

def isUriChar (c : Char) : Bool :=
  isNameChar c || [';', '/', '?', ':', '@', '&', '=', '+', '$', '.', '%', '!', '~', '*', '\'', '(',
    ')'].contains c

def isLongUriChar (c : Char) : Bool := isUriChar c || c == ',' || c == '[' || c == ']'

def isFlowIndicator (c : Char) : Bool := [',', '[', ']', '{', '}'].contains c

def isIndicator (c : Char) : Bool :=
  isFlowIndicator c ||
    ['-', '?', ':', '#', '&', '*', '!', '|', '>', '\'', '"', '%', '@', '\x60'].contains c

def hexValue? (c : Char) : Option Nat :=
  if c.isDigit then some (c.toNat - '0'.toNat)
  else if 'a' ≤ c ∧ c ≤ 'f' then some (c.toNat - 'a'.toNat + 10)
  else if 'A' ≤ c ∧ c ≤ 'F' then some (c.toNat - 'A'.toNat + 10)
  else none

structure Placed where
  char : Char
  index : Nat
  line : Nat
  column : Nat

abbrev Rest := List Placed

/-- Gives every character its place. Line breaks that have more than one spelling become `'\n'`. -/
def placeFrom (index line column : Nat) : List Char → Rest
  | [] => [⟨endMark, index, line, column⟩]
  | '\r' :: '\n' :: cs => ⟨'\n', index, line, column⟩ :: placeFrom (index + 2) (line + 1) 0 cs
  | c :: cs =>
    if isBreak c then
      let shown := if c == '\r' || c == '\u0085' then '\n' else c
      ⟨shown, index, line, column⟩ :: placeFrom (index + 1) (line + 1) 0 cs
    else ⟨c, index, line, column⟩ :: placeFrom (index + 1) line (column + 1) cs

def place (text : String) : Rest := placeFrom 0 0 0 text.toList

namespace Rest

def char (r : Rest) : Char := (r.head?.map Placed.char).getD endMark

def ahead (r : Rest) (n : Nat) : Char := char (r.drop n)

def column (r : Rest) : Nat := (r.head?.map Placed.column).getD 0

def line (r : Rest) : Nat := (r.head?.map Placed.line).getD 0

def index (r : Rest) : Nat := (r.head?.map Placed.index).getD 0

def atEnd (r : Rest) : Bool := r.char == endMark

def skipWhile (keep : Char → Bool) (r : Rest) : Rest := r.dropWhile fun p => keep p.char

def spanChars (keep : Char → Bool) (r : Rest) : List Char × Rest :=
  let (taken, r) := r.span fun p => keep p.char
  (taken.map Placed.char, r)

def skipLine (r : Rest) : Rest := r.skipWhile fun c => !isBreakOrEnd c

/-- A line of three dashes or dots, which ends what stands before it wherever that is. -/
def atDocumentMark (r : Rest) : Bool :=
  r.column == 0 && isGap (r.ahead 3) &&
    ((r.char == '-' && r.ahead 1 == '-' && r.ahead 2 == '-') ||
      (r.char == '.' && r.ahead 1 == '.' && r.ahead 2 == '.'))

def finishLine? (r : Rest) : Option Rest :=
  let r := r.skipWhile isSpace
  let r := if r.char == '#' then r.skipLine else r
  if isBreak r.char then some r.tail else if r.atEnd then some r else none

end Rest

end Testbed.Yaml
