import Testbed.Yaml.Character
import Testbed.Yaml.Tree

namespace Testbed.Yaml

inductive Problem (ε : Type) where
  | malformed
  | severalDocuments
  | unexpected (wanted : String)
  | repeatedKey (key : String)
  | missingKey (key : String)
  | tooManyAliases
  | refused (cause : ε)
deriving DecidableEq, Repr

def Problem.message {ε : Type} (text : ε → String) : Problem ε → String
  | .malformed => "not well formed"
  | .severalDocuments => "more than one document"
  | .unexpected wanted => s!"expected {wanted}"
  | .repeatedKey key => s!"duplicate field '{key}'"
  | .missingKey key => s!"missing field '{key}'"
  | .tooManyAliases => "too many aliases"
  | .refused cause => text cause

abbrev Decode (ε : Type) := ReaderT Document (StateT Nat (Except (Problem ε)))

namespace Decode

variable {ε α β : Type}

def fail (p : Problem ε) : Decode ε α := throw p

def aliasLimit (d : Document) : Nat := 100 * ((d.root.map Tree.size).getD 0)

def resolve (t : Tree) : Decode ε Tree := do
  match t with
  | .broken => fail .malformed
  | .alias number =>
    let d ← read
    let followed ← get
    set (followed + 1)
    if aliasLimit d < followed + 1 then fail .tooManyAliases
    else
      match d.target? number with
      | none => fail .malformed
      | some t => return t
  | t => return t

def text (t : Tree) : Decode ε String := do
  match ← resolve t with
  | .scalar _ s => return s.text
  | _ => fail (.unexpected "a string")

def digits? (base : Nat) (cs : List Char) : Option Nat :=
  if cs.isEmpty then none
  else
    cs.foldl (fun n c => n.bind fun n => ((hexValue? c).filter (· < base)).map (base * n + ·))
      (some 0)

/-- Numbers below 2^64: after an optional plus sign, decimal digits that do not begin with a zero,
or the digits of another base after its mark. -/
def natural? (text : String) : Option Nat :=
  let cs := text.toList
  let unsigned := if cs.head? == some '+' then cs.tail else cs
  let value := match unsigned with
    | '0' :: 'x' :: digits => digits? 16 digits
    | '0' :: 'o' :: digits => digits? 8 digits
    | '0' :: 'b' :: digits => digits? 2 digits
    | '0' :: _ :: _ => none
    | digits => digits? 10 digits
  value.filter (· < UInt64.size)

/-- Quotes make a number a text, unless it is a literal block with the tag of the integers. -/
def mayBeNumber (s : Scalar) : Bool :=
  s.style == .plain || (s.style == .literal && s.tag == some (standardTag "int"))

def natural (t : Tree) : Decode ε Nat := do
  match ← resolve t with
  | .scalar _ s =>
    match natural? s.text with
    | some n => if mayBeNumber s then return n else fail (.unexpected "a number")
    | none => fail (.unexpected "a number")
  | _ => fail (.unexpected "a number")

def isNull (text : String) : Bool := ["null", "Null", "NULL", "~"].contains text

def optional (f : Tree → Decode ε α) (t : Tree) : Decode ε (Option α) := do
  let t ← resolve t
  match t with
  | .scalar _ s =>
    if s.style != .plain then return some (← f t)
    else if s.tag == some (standardTag "null") then
      if isNull s.text then return none else fail (.unexpected "null")
    else if s.tag.isNone && (s.text.isEmpty || isNull s.text) then return none
    else return some (← f t)
  | _ => return some (← f t)

/-- Where a collection is wanted, an empty place is an empty one. -/
def isEmptyPlace (s : Scalar) : Bool := s.style == .plain && s.text.isEmpty

def list (f : Tree → Decode ε α) (t : Tree) : Decode ε (List α) := do
  match ← resolve t with
  | .sequence _ items => items.mapM f
  | .scalar _ s => if isEmptyPlace s then return [] else fail (.unexpected "a sequence")
  | _ => fail (.unexpected "a sequence")

def pair (f : Tree → Decode ε α) (t : Tree) : Decode ε (α × α) := do
  match ← list f t with
  | [a, b] => return (a, b)
  | _ => fail (.unexpected "a sequence of two")

/-- Takes the entries one after the other. A key that `known` lists may come only once; the values
of other keys are not looked at, but they have to be there. -/
def foldEntries (known : List String) (f : β → String → Tree → Decode ε β) :
    List String → β → List (Tree × Tree) → Decode ε β
  | _, b, [] => return b
  | seen, b, (k, v) :: rest => do
    let key ← text k
    if !known.contains key then
      if v.isWhole then foldEntries known f seen b rest else fail .malformed
    else if seen.contains key then fail (.repeatedKey key)
    else
      let b ← f b key v
      foldEntries known f (key :: seen) b rest

/-- A mapping with the known keys, from what holds where a key is missing. -/
def record (known : List String) (start : β) (f : β → String → Tree → Decode ε β) (t : Tree) :
    Decode ε β := do
  match ← resolve t with
  | .mapping _ entries => foldEntries known f [] start entries
  | .scalar _ s => if isEmptyPlace s then return start else fail (.unexpected "a mapping")
  | _ => fail (.unexpected "a mapping")

def required (key : String) : Option α → Decode ε α
  | some a => return a
  | none => fail (.missingKey key)

/-- The value of a document; `nothing` if it says nothing. What comes after the document is looked
at last. -/
def run (f : Tree → Decode ε α) (nothing : α) (d : Document) : Except (Problem ε) α := do
  let a ← match d.root with
    | none => pure nothing
    | some t => Prod.fst <$> StateT.run (ReaderT.run (f t) d) 0
  if d.alone then return a else throw .severalDocuments

end Decode

end Testbed.Yaml
