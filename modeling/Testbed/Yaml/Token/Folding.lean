import Testbed.Yaml.Character

namespace Testbed.Yaml

def foldBreaks : List Char → List Char
  | [] => []
  | '\n' :: [] => [' ']
  | '\n' :: more => more
  | breaks => breaks

structure Gap where
  spaces : List Char
  breaks : List Char
  /-- Whether there is a tab among the first `indent` columns of a line that begins here. -/
  tabbed : Bool

namespace Gap

def none : Gap := ⟨[], [], false⟩

def breaksLine (g : Gap) : Bool := !g.breaks.isEmpty

def text (g : Gap) : List Char := if g.breaksLine then foldBreaks g.breaks else g.spaces

end Gap

/-- Reads on to the next character that is neither a blank nor a line break. `onNewLine` tells
whether a line break came before. -/
def readGap (indent : Int) : Bool → Rest → Gap × Rest
  | _, [] => (.none, [])
  | onNewLine, p :: rest =>
    if isSpace p.char then
      let (g, r) := readGap indent onNewLine rest
      if onNewLine then
        (if p.char == '\t' && (p.column : Int) < indent then { g with tabbed := true } else g, r)
      else ({ g with spaces := p.char :: g.spaces }, r)
    else if isBreak p.char then
      let (g, r) := readGap indent true rest
      ({ g with breaks := p.char :: g.breaks }, r)
    else (.none, p :: rest)

end Testbed.Yaml
