import Testbed.Yaml.Token.Folding

namespace Testbed.Yaml

def shortEscape? : Char → Option Char
  | '0' => some '\x00'
  | 'a' => some '\x07'
  | 'b' => some '\x08'
  | 't' => some '\t'
  | '\t' => some '\t'
  | 'n' => some '\n'
  | 'v' => some '\x0b'
  | 'f' => some '\x0c'
  | 'r' => some '\r'
  | 'e' => some '\x1b'
  | ' ' => some ' '
  | '"' => some '"'
  | '/' => some '/'
  | '\\' => some '\\'
  | 'N' => some '\u0085'
  | '_' => some '\u00a0'
  | 'L' => some '\u2028'
  | 'P' => some '\u2029'
  | _ => none

def escapeWidth? : Char → Option Nat
  | 'x' => some 2
  | 'u' => some 4
  | 'U' => some 8
  | _ => none

def hexNumber? (cs : List Char) : Option Nat :=
  cs.foldl (fun n c => n.bind fun n => (hexValue? c).map (16 * n + ·)) (some 0)

def charOfNumber? (n : Nat) : Option Char := if n.isValidChar then some (Char.ofNat n) else none

def readEscape (r : Rest) : Option (Char × Rest) :=
  match shortEscape? r.char with
  | some c => some (c, r.tail)
  | none =>
    match escapeWidth? r.char with
    | none => none
    | some width =>
      let digits := (r.tail.take width).map Placed.char
      ((hexNumber? digits).bind charOfNumber?).map fun c => (c, r.tail.drop width)

def readUntilQuote (quote : Char) : Nat → Rest → Option (List Char × Rest)
  | 0, _ => none
  | fuel + 1, r =>
    let goOn (text : List Char) (r : Rest) : Option (List Char × Rest) :=
      (readUntilQuote quote fuel r).map fun (more, r) => (text ++ more, r)
    if r.atEnd || r.atDocumentMark then none
    else if r.char == quote then
      if quote == '\'' && r.ahead 1 == '\'' then goOn ['\''] (r.drop 2) else some ([], r.tail)
    else if quote == '"' && r.char == '\\' then
      if isBreak (r.ahead 1) then
        let (gap, r) := readGap 0 true (r.drop 2)
        goOn gap.breaks r
      else (readEscape r.tail).bind fun (c, r) => goOn [c] r
    else if isSpace r.char || isBreak r.char then
      let (gap, r) := readGap 0 false r
      goOn gap.text r
    else goOn [r.char] r.tail

def readQuoted (r : Rest) : Option (List Char × Rest) := readUntilQuote r.char r.length r.tail

end Testbed.Yaml
