import Testbed.Yaml.Token.Lexer
import Testbed.Yaml.Tree

namespace Testbed.Yaml

structure Stream where
  tokens : List Token
  anchors : List (String × Nat)
  handles : List (String × String)

abbrev Reading (α : Type) := α × Option Stream

namespace Stream

def standardHandles : List (String × String) := [("!", "!"), ("!!", standardTag "")]

def numbered (s : Stream) : Option String → Option Nat × Stream
  | none => (none, s)
  | some name =>
    let number := s.anchors.length
    let others := s.anchors.filter (·.1 != name)
    (some number, { s with anchors := others ++ [(name, number)] })

/-- The tag that a handle and a suffix abbreviate; without a handle nothing is abbreviated. -/
def tag? (s : Stream) (handle suffix : String) : Option String :=
  if handle.isEmpty then some suffix
  else (s.handles.find? (·.1 == handle)).map fun (_, start) => start ++ suffix

def properties (s : Stream) : Option (Option String × Option String × Stream) :=
  match s.tokens with
  | .anchor name :: .tag handle suffix :: rest =>
    (s.tag? handle suffix).map fun tag => (some name, some tag, { s with tokens := rest })
  | .tag handle suffix :: .anchor name :: rest =>
    (s.tag? handle suffix).map fun tag => (some name, some tag, { s with tokens := rest })
  | .tag handle suffix :: rest =>
    (s.tag? handle suffix).map fun tag => (none, some tag, { s with tokens := rest })
  | .anchor name :: rest => some (some name, none, { s with tokens := rest })
  | _ => some (none, none, s)

def breakOff : Reading Tree := (.broken, none)

def nothing (s : Stream) : Reading Tree := (.scalar none .empty, some s)

def endsBlockItem : Token → Bool
  | .blockEntry | .blockEnd => true
  | _ => false

def endsIndentlessItem : Token → Bool
  | .blockEntry | .key | .value | .blockEnd => true
  | _ => false

def endsBlockPart : Token → Bool
  | .key | .value | .blockEnd => true
  | _ => false

def endsFlowKey : Token → Bool
  | .value | .flowEntry | .flowMappingEnd => true
  | _ => false

def endsFlowValue : Token → Bool
  | .flowEntry | .flowMappingEnd => true
  | _ => false

def endsPairKey : Token → Bool
  | .value | .flowEntry | .flowSequenceEnd => true
  | _ => false

def endsPairValue : Token → Bool
  | .flowEntry | .flowSequenceEnd => true
  | _ => false

def orNothing (s : Stream) (ends : Token → Bool) (node : Stream → Reading Tree) : Reading Tree :=
  match s.tokens with
  | [] => breakOff
  | t :: _ => if ends t then s.nothing else node s

def valueOf (s : Stream) (ends : Token → Bool) (node : Stream → Reading Tree) : Reading Tree :=
  match s.tokens with
  | [] => breakOff
  | .value :: rest => { s with tokens := rest }.orNothing ends node
  | _ => s.nothing

def thenItems (r : Reading Tree) (more : Stream → Reading (List Tree)) : Reading (List Tree) :=
  match r with
  | (t, none) => ([t], none)
  | (t, some s) =>
    let (ts, s) := more s
    (t :: ts, s)

def brokenEntries : Reading (List (Tree × Tree)) := ([(.broken, .broken)], none)

def thenEntries (key : Reading Tree) (value : Stream → Reading Tree)
    (more : Stream → Reading (List (Tree × Tree))) : Reading (List (Tree × Tree)) :=
  match key with
  | (k, none) => ([(k, .broken)], none)
  | (k, some s) =>
    match value s with
    | (v, none) => ([(k, v)], none)
    | (v, some s) =>
      let (es, s) := more s
      ((k, v) :: es, s)

/-- The end of a mapping of one entry is not seen before there is a token after it. -/
def endOfPair (s : Stream) : Reading (List (Tree × Tree)) :=
  if s.tokens.isEmpty then brokenEntries else ([], some s)

def asSequence (number : Option Nat) (r : Reading (List Tree)) : Reading Tree :=
  (.sequence number r.1, r.2)

def asMapping (number : Option Nat) (r : Reading (List (Tree × Tree))) : Reading Tree :=
  (.mapping number r.1, r.2)

mutual

/-- Reads a node. Outside of brackets it may be a block collection, and as a key or a value also a
sequence that is not indented. -/
def node (block indentless : Bool) : Nat → Stream → Reading Tree
  | 0, _ => breakOff
  | fuel + 1, s =>
    match s.tokens with
    | .alias name :: rest =>
      match s.anchors.find? (·.1 == name) with
      | none => breakOff
      | some (_, number) => (.alias number, some { s with tokens := rest })
    | _ =>
      match s.properties with
      | none => breakOff
      | some (anchor, tag, s) =>
        let (number, s) := s.numbered anchor
        match s.tokens with
        | [] => breakOff
        | t :: rest =>
          let after := { s with tokens := rest }
          match t, block, indentless with
          | .scalar text style, _, _ =>
            (.scalar number ⟨text, style, tag.filter (· != "!")⟩, some after)
          | .blockEntry, _, true => asSequence number (indentlessItems fuel s)
          | .flowSequenceStart, _, _ => asSequence number (flowItems true fuel after)
          | .flowMappingStart, _, _ => asMapping number (flowEntries true fuel after)
          | .blockSequenceStart, true, _ => asSequence number (blockItems fuel after)
          | .blockMappingStart, true, _ => asMapping number (blockEntries fuel after)
          | _, _, _ =>
            if anchor.isSome || tag.isSome then (.scalar number ⟨"", .plain, tag⟩, some s)
            else breakOff

def blockItems : Nat → Stream → Reading (List Tree)
  | 0, _ => ([.broken], none)
  | fuel + 1, s =>
    match s.tokens with
    | .blockEntry :: rest =>
      thenItems ({ s with tokens := rest }.orNothing endsBlockItem (node true false fuel))
        (blockItems fuel)
    | .blockEnd :: rest => ([], some { s with tokens := rest })
    | _ => ([.broken], none)

def indentlessItems : Nat → Stream → Reading (List Tree)
  | 0, _ => ([.broken], none)
  | fuel + 1, s =>
    match s.tokens with
    | .blockEntry :: rest =>
      thenItems ({ s with tokens := rest }.orNothing endsIndentlessItem (node true false fuel))
        (indentlessItems fuel)
    | [] => ([.broken], none)
    | _ => ([], some s)

def blockEntries : Nat → Stream → Reading (List (Tree × Tree))
  | 0, _ => brokenEntries
  | fuel + 1, s =>
    match s.tokens with
    | .key :: rest =>
      thenEntries ({ s with tokens := rest }.orNothing endsBlockPart (node true true fuel))
        (fun s => s.valueOf endsBlockPart (node true true fuel)) (blockEntries fuel)
    | .blockEnd :: rest => ([], some { s with tokens := rest })
    | _ => brokenEntries

def flowItems (first : Bool) : Nat → Stream → Reading (List Tree)
  | 0, _ => ([.broken], none)
  | fuel + 1, s =>
    match first, s.tokens with
    | _, .flowSequenceEnd :: rest => ([], some { s with tokens := rest })
    | true, _ => flowItem fuel s
    | false, .flowEntry :: rest => flowItem fuel { s with tokens := rest }
    | false, _ => ([.broken], none)

/-- An item and those after it; a comma may also be the last thing between the brackets. -/
def flowItem : Nat → Stream → Reading (List Tree)
  | 0, _ => ([.broken], none)
  | fuel + 1, s =>
    match s.tokens with
    | .flowSequenceEnd :: rest => ([], some { s with tokens := rest })
    | .key :: rest =>
      thenItems (asMapping none (flowPair fuel { s with tokens := rest })) (flowItems false fuel)
    | _ => thenItems (node false false fuel s) (flowItems false fuel)

/-- A mapping of one entry that has no brackets of its own. Where its key is missing, the token that
shows it is lost. -/
def flowPair : Nat → Stream → Reading (List (Tree × Tree))
  | 0, _ => brokenEntries
  | fuel + 1, s =>
    let key := match s.tokens with
      | [] => breakOff
      | t :: rest =>
        if endsPairKey t then nothing { s with tokens := rest } else node false false fuel s
    thenEntries key (fun s => s.valueOf endsPairValue (node false false fuel)) endOfPair

def flowEntries (first : Bool) : Nat → Stream → Reading (List (Tree × Tree))
  | 0, _ => brokenEntries
  | fuel + 1, s =>
    match first, s.tokens with
    | _, .flowMappingEnd :: rest => ([], some { s with tokens := rest })
    | true, _ => flowEntry fuel s
    | false, .flowEntry :: rest => flowEntry fuel { s with tokens := rest }
    | false, _ => brokenEntries

def flowEntry : Nat → Stream → Reading (List (Tree × Tree))
  | 0, _ => brokenEntries
  | fuel + 1, s =>
    match s.tokens with
    | .flowMappingEnd :: rest => ([], some { s with tokens := rest })
    | .key :: rest =>
      thenEntries ({ s with tokens := rest }.orNothing endsFlowKey (node false false fuel))
        (fun s => s.valueOf endsFlowValue (node false false fuel)) (flowEntries false fuel)
    | _ =>
      thenEntries (node false false fuel s)
        (fun s => if s.tokens.isEmpty then breakOff else s.nothing) (flowEntries false fuel)

end

def directives (version : Bool) (handles : List (String × String)) :
    List Token → Option (List (String × String) × List Token)
  | .versionDirective major minor :: rest =>
    if version || major != 1 || !(minor == 1 || minor == 2) then none
    else directives true handles rest
  | .tagDirective handle uri :: rest =>
    if handles.any (·.1 == handle) then none
    else directives version (handles ++ [(handle, uri)]) rest
  | tokens => some (handles, tokens)

def endsDocument : Token → Bool
  | .versionDirective .. | .tagDirective .. | .documentStart | .documentEnd | .streamEnd => true
  | _ => false

def content (tokens : List Token) (handles : List (String × String)) : Reading Tree :=
  orNothing ⟨tokens, [], handles⟩ endsDocument (node true false (4 * tokens.length + 4))

def rootOf (tokens : List Token) : Reading Tree :=
  match directives false [] tokens with
  | none => breakOff
  | some (handles, .documentStart :: rest) => content rest (handles ++ standardHandles)
  | some (_, rest) =>
    if rest.length == tokens.length then
      node true false (4 * tokens.length + 4) ⟨tokens, [], standardHandles⟩
    else breakOff

def endsWell : Option Stream → Bool
  | none => false
  | some s => s.tokens.dropWhile (· == .documentEnd) == [.streamEnd]

end Stream

def Document.ofTokens : List Token → Document
  | .streamEnd :: _ => ⟨none, true⟩
  | tokens =>
    let (t, rest) := Stream.rootOf tokens
    ⟨some t, Stream.endsWell rest⟩

def Document.ofText (text : String) : Document := .ofTokens (tokensOf text)

end Testbed.Yaml
