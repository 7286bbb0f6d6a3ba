import Testbed.Yaml.Token.Block
import Testbed.Yaml.Token.Plain
import Testbed.Yaml.Token.Property

namespace Testbed.Yaml

/-- Something that is a key if a colon follows on its line. -/
structure PossibleKey where
  number : Nat
  required : Bool
  start : Placed

def keyLimit : Nat := 1024

structure Lexer where
  rest : Rest
  tokens : List Token
  indent : Int
  outerIndents : List Int
  keyAllowed : Bool
  pending : Option PossibleKey
  outerPending : List (Option PossibleKey)

namespace Lexer

def start (r : Rest) : Lexer := ⟨r, [], -1, [], true, none, []⟩

def inFlow (x : Lexer) : Bool := !x.outerPending.isEmpty

def push (x : Lexer) (t : Token) : Lexer := { x with tokens := x.tokens ++ [t] }

def insertAt (x : Lexer) (number : Nat) (t : Token) : Lexer :=
  { x with tokens := x.tokens.take number ++ t :: x.tokens.drop number }

def take (x : Lexer) (n : Nat) (t : Token) : Lexer := { x with rest := x.rest.drop n }.push t

def allowKey (x : Lexer) (allowed : Bool) : Lexer := { x with keyAllowed := allowed }

def openBlock (x : Lexer) (column number : Nat) (t : Token) : Lexer :=
  if x.inFlow || (column : Int) ≤ x.indent then x
  else { x.insertAt number t with indent := column, outerIndents := x.indent :: x.outerIndents }

def closeIndents (tokens : List Token) (column indent : Int) :
    List Int → List Token × Int × List Int
  | [] => (tokens, indent, [])
  | outer :: more =>
    if indent ≤ column then (tokens, indent, outer :: more)
    else closeIndents (tokens ++ [.blockEnd]) column outer more

def closeBlocks (x : Lexer) (column : Int) : Lexer :=
  if x.inFlow then x
  else
    let (tokens, indent, outerIndents) := closeIndents x.tokens column x.indent x.outerIndents
    { x with tokens, indent, outerIndents }

def dropKey (x : Lexer) : Option Lexer :=
  match x.pending with
  | some k => if k.required then none else some { x with pending := none }
  | none => some x

def saveKey (x : Lexer) : Option Lexer :=
  match x.rest with
  | [] => some x
  | p :: _ =>
    if !x.keyAllowed then some x
    else
      let required := !x.inFlow && x.indent == (p.column : Int)
      x.dropKey.map fun x => { x with pending := some ⟨x.tokens.length, required, p⟩ }

def isStale (r : Rest) (k : PossibleKey) : Bool :=
  decide (k.start.line < r.line) || decide (k.start.index + keyLimit < r.index)

def refresh (r : Rest) : Option PossibleKey → Option (Option PossibleKey)
  | some k => if isStale r k then (if k.required then none else some none) else some (some k)
  | none => some none

def refreshKeys (x : Lexer) : Option Lexer := do
  let pending ← refresh x.rest x.pending
  let outerPending ← x.outerPending.mapM (refresh x.rest)
  return { x with pending, outerPending }

/-- How many tokens are settled: those before the first that could still be a key. -/
def settled (x : Lexer) : Nat :=
  (x.pending :: x.outerPending).foldl (fun n k => min n ((k.map PossibleKey.number).getD n))
    x.tokens.length

/-- Goes past blanks, comments and line breaks. A tab is a blank only where no key can begin. -/
def skipToToken (flow : Bool) : Bool → Rest → Bool × Rest
  | keyAllowed, [] => (keyAllowed, [])
  | keyAllowed, p :: rest =>
    if p.char == ' ' || (p.char == '\t' && (flow || !keyAllowed)) then
      skipToToken flow keyAllowed rest
    else if p.char == '\ufeff' && p.column == 0 then skipToToken flow keyAllowed rest
    else if isBreak p.char then skipToToken flow (!flow || keyAllowed) rest
    else (keyAllowed, p :: rest)

def skipComments (flow : Bool) : Nat → Bool → Rest → Bool × Rest
  | 0, keyAllowed, r => (keyAllowed, r)
  | fuel + 1, keyAllowed, r =>
    let (keyAllowed, r) := skipToToken flow keyAllowed r
    if r.char == '#' then skipComments flow fuel keyAllowed r.skipLine else (keyAllowed, r)

def advance (x : Lexer) : Lexer :=
  let (keyAllowed, rest) := skipComments x.inFlow x.rest.length x.keyAllowed x.rest
  { x with keyAllowed, rest }

def lexEnd (x : Lexer) : Option Lexer :=
  (x.closeBlocks (-1)).dropKey.map fun x => (x.allowKey false).push .streamEnd

def lexDirective (x : Lexer) : Option Lexer := do
  let x ← (x.closeBlocks (-1)).dropKey
  let (token, rest) ← readDirective x.rest
  return ({ x with rest }.allowKey false).push token

def lexDocumentMark (x : Lexer) (t : Token) : Option Lexer :=
  (x.closeBlocks (-1)).dropKey.map fun x => (x.allowKey false).take 3 t

def lexOpening (x : Lexer) (t : Token) : Option Lexer :=
  x.saveKey.map fun x =>
    ({ x with pending := none, outerPending := x.pending :: x.outerPending }.allowKey true).take 1 t

def lexClosing (x : Lexer) (t : Token) : Option Lexer :=
  x.dropKey.map fun x =>
    let x := match x.outerPending with
      | [] => x
      | pending :: outerPending => { x with pending, outerPending }
    (x.allowKey false).take 1 t

def lexFlowEntry (x : Lexer) : Option Lexer :=
  x.dropKey.map fun x => (x.allowKey true).take 1 .flowEntry

/-- Outside of brackets an entry, a key or a value may stand only where a key may. -/
def startEntry (x : Lexer) (t : Token) : Option Lexer :=
  if x.inFlow then some x
  else if x.keyAllowed then some (x.openBlock x.rest.column x.tokens.length t)
  else none

def lexBlockEntry (x : Lexer) : Option Lexer := do
  let x ← x.startEntry .blockSequenceStart
  let x ← x.dropKey
  return (x.allowKey true).take 1 .blockEntry

def lexKey (x : Lexer) : Option Lexer := do
  let x ← x.startEntry .blockMappingStart
  let x ← x.dropKey
  return (x.allowKey !x.inFlow).take 1 .key

def lexValue (x : Lexer) : Option Lexer :=
  match x.pending with
  | some k =>
    let x := (x.insertAt k.number .key).openBlock k.start.column k.number .blockMappingStart
    some (({ x with pending := none }.allowKey false).take 1 .value)
  | none => (x.startEntry .blockMappingStart).map fun x => (x.allowKey !x.inFlow).take 1 .value

def lexName (x : Lexer) (t : String → Token) : Option Lexer := do
  let x ← x.saveKey
  let (name, rest) ← readAnchorName x.rest.tail
  return ({ x with rest }.allowKey false).push (t name)

def lexTag (x : Lexer) : Option Lexer := do
  let x ← x.saveKey
  let (token, rest) ← readTag x.inFlow x.rest
  return ({ x with rest }.allowKey false).push token

def lexBlockScalar (x : Lexer) : Option Lexer := do
  let x ← x.dropKey
  let style : Style := if x.rest.char == '|' then .literal else .folded
  let (text, rest) ← readBlock x.indent x.rest
  return ({ x with rest }.allowKey true).push (.scalar (String.ofList text) style)

def lexQuoted (x : Lexer) : Option Lexer := do
  let x ← x.saveKey
  let (text, rest) ← readQuoted x.rest
  return ({ x with rest }.allowKey false).push (.scalar (String.ofList text) .quoted)

def lexPlain (x : Lexer) : Option Lexer := do
  let x ← x.saveKey
  let s ← readPlain x.inFlow (x.indent + 1) x.rest
  return ({ x with rest := s.rest }.allowKey s.brokeLine).push
    (.scalar (String.ofList s.text) .plain)

def beginsPlain (flow : Bool) (r : Rest) : Bool :=
  !(isGap r.char || isIndicator r.char) || (r.char == '-' && !isSpace (r.ahead 1)) ||
    (!flow && (r.char == '?' || r.char == ':') && !isGap (r.ahead 1))

def lexToken (x : Lexer) : Option Lexer :=
  let r := x.rest
  let c := r.char
  let marks := x.inFlow || isGap (r.ahead 1)
  if r.atEnd then x.lexEnd
  else if r.column == 0 && c == '%' then x.lexDirective
  else if r.atDocumentMark then
    x.lexDocumentMark (if c == '-' then .documentStart else .documentEnd)
  else if c == '[' then x.lexOpening .flowSequenceStart
  else if c == '{' then x.lexOpening .flowMappingStart
  else if c == ']' then x.lexClosing .flowSequenceEnd
  else if c == '}' then x.lexClosing .flowMappingEnd
  else if c == ',' then x.lexFlowEntry
  else if c == '-' && isGap (r.ahead 1) then x.lexBlockEntry
  else if c == '?' && marks then x.lexKey
  else if c == ':' && marks then x.lexValue
  else if c == '*' then x.lexName .alias
  else if c == '&' then x.lexName .anchor
  else if c == '!' then x.lexTag
  else if (c == '|' || c == '>') && !x.inFlow then x.lexBlockScalar
  else if c == '\'' || c == '"' then x.lexQuoted
  else if beginsPlain x.inFlow r then x.lexPlain
  else none

def step (x : Lexer) : Option Lexer := do
  let x ← x.advance.refreshKeys
  let x ← (x.closeBlocks x.rest.column).lexToken
  x.refreshKeys

def run : Nat → Lexer → List Token
  | 0, x => x.tokens
  | fuel + 1, x =>
    match x.step with
    | none => x.tokens.take x.settled
    | some y => if y.tokens.getLast? == some .streamEnd then y.tokens else run fuel y

end Lexer

/-- The tokens of a text. They end with `streamEnd`, unless the text breaks a rule. -/
def tokensOf (text : String) : List Token :=
  if text.toList.all isReadable then
    let r := place text
    Lexer.run (r.length + 1) (.start r)
  else []

end Testbed.Yaml
