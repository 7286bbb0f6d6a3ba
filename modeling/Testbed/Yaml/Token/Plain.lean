import Testbed.Yaml.Token.Folding

namespace Testbed.Yaml

/-- The characters up to a gap or to what ends the scalar. Between brackets a colon right before
one of their marks is refused. -/
def readWord (flow : Bool) : Rest → Option (List Char × Rest)
  | [] => some ([], [])
  | p :: rest =>
    let next := Rest.char rest
    if isGap p.char then some ([], p :: rest)
    else if flow && p.char == ':' && (next == '?' || isFlowIndicator next) then none
    else if (p.char == ':' && isGap next) || (flow && isFlowIndicator p.char) then
      some ([], p :: rest)
    else (readWord flow rest).map fun (word, r) => (p.char :: word, r)

structure PlainScalar where
  text : List Char
  brokeLine : Bool
  rest : Rest

def readWords (flow : Bool) (indent : Int) : Nat → Gap → Rest → Option PlainScalar
  | 0, gap, r => some ⟨[], gap.breaksLine, r⟩
  | fuel + 1, gap, r =>
    if r.atDocumentMark || r.char == '#' then some ⟨[], gap.breaksLine, r⟩
    else
      match readWord flow r with
      | none => none
      | some (word, r) =>
        let (text, gap) := if word.isEmpty then ([], gap) else (gap.text ++ word, Gap.none)
        if !(isSpace r.char || isBreak r.char) then some ⟨text, gap.breaksLine, r⟩
        else
          let (gap, r) := readGap indent false r
          if gap.tabbed then none
          else if !flow && (r.column : Int) < indent then some ⟨text, gap.breaksLine, r⟩
          else (readWords flow indent fuel gap r).map fun s => { s with text := text ++ s.text }

def readPlain (flow : Bool) (indent : Int) (r : Rest) : Option PlainScalar :=
  readWords flow indent r.length .none r

end Testbed.Yaml
