import Testbed.Yaml.Character

namespace Testbed.Yaml

/-- What becomes of the line breaks at the end of a block scalar. -/
inductive Chomping where
  | strip
  | clip
  | keep
deriving DecidableEq, Repr

def Chomping.ofChar? : Char → Option Chomping
  | '-' => some .strip
  | '+' => some .keep
  | _ => none

structure BlockHeader where
  chomping : Chomping
  /-- How much deeper than what is around them the lines stand, if the header says so. -/
  increment : Option Nat

def readIncrement (r : Rest) : Option (Option Nat × Rest) :=
  if !r.char.isDigit then some (none, r)
  else if r.char == '0' then none
  else some (some (r.char.toNat - '0'.toNat), r.tail)

/-- Reads what comes after `|` or `>` on its line: both indicators may stand there in any order. -/
def readHeader (r : Rest) : Option (BlockHeader × Rest) := do
  match Chomping.ofChar? r.char with
  | some chomping =>
    let (increment, r) ← readIncrement r.tail
    let r ← r.finishLine?
    return (⟨chomping, increment⟩, r)
  | none =>
    let (increment, r) ← readIncrement r
    match increment, Chomping.ofChar? r.char with
    | some n, some chomping =>
      let r : Rest := r.tail
      let r ← r.finishLine?
      return (⟨chomping, some n⟩, r)
    | increment, _ =>
      let r ← r.finishLine?
      return (⟨.clip, increment⟩, r)

/-- Empty lines, of which only the breaks count; also the deepest column that was reached. Zero for
`indent` means that it is not known yet. A tab among the columns of the indentation is refused. -/
def readEmptyLines (indent deepest : Nat) : Rest → Option (List Char × Nat × Rest)
  | [] => some ([], deepest, [])
  | p :: rest =>
    let indenting := indent == 0 || p.column < indent
    if indenting && p.char == ' ' then readEmptyLines indent deepest rest
    else
      let deepest := max deepest p.column
      if indenting && p.char == '\t' then none
      else if isBreak p.char then
        (readEmptyLines indent deepest rest).map fun (breaks, n, r) => (p.char :: breaks, n, r)
      else some ([], deepest, p :: rest)

/-- Lines of a block scalar; what is not text yet is the break after the last one and the breaks of
the empty lines below it. -/
structure BlockLines where
  text : List Char
  lastBreak : List Char
  emptyLines : List Char
  rest : Rest

/-- What stands for the break before a line of a folded scalar: between two lines that do not begin
with a blank the break folds. -/
def foldedBreak (lastBreak emptyLines : List Char) (blankBefore blankAfter : Bool) : List Char :=
  if lastBreak.head? == some '\n' && !blankBefore && !blankAfter then
    if emptyLines.isEmpty then [' '] else []
  else lastBreak

def readLines (literal : Bool) (indent : Nat) :
    Nat → List Char → List Char → Bool → Rest → Option BlockLines
  | 0, lastBreak, emptyLines, _, r => some ⟨[], lastBreak, emptyLines, r⟩
  | fuel + 1, lastBreak, emptyLines, blankBefore, r =>
    if r.column != indent || r.atEnd then some ⟨[], lastBreak, emptyLines, r⟩
    else
      let blank := isSpace r.char
      let joint := if literal then lastBreak else foldedBreak lastBreak emptyLines blankBefore blank
      let (line, r) := r.spanChars fun c => !isBreakOrEnd c
      let (newBreak, r) : List Char × Rest := if isBreak r.char then ([r.char], r.tail) else ([], r)
      match readEmptyLines indent 0 r with
      | none => none
      | some (newEmpty, _, r) =>
        (readLines literal indent fuel newBreak newEmpty blank r).map fun b =>
          { b with text := joint ++ emptyLines ++ line ++ b.text }

def readBlock (parent : Int) (r : Rest) : Option (List Char × Rest) := do
  let literal := r.char == '|'
  let (header, r) ← readHeader r.tail
  let stated := match header.increment with
    | some n => (max parent 0).toNat + n
    | none => 0
  let (emptyLines, deepest, r) ← readEmptyLines stated 0 r
  let indent := if stated == 0 then max (max deepest (parent + 1).toNat) 1 else stated
  let b ← readLines literal indent r.length [] emptyLines false r
  let ending := match header.chomping with
    | .strip => []
    | .clip => b.lastBreak
    | .keep => b.lastBreak ++ b.emptyLines
  return (b.text ++ ending, b.rest)

end Testbed.Yaml
