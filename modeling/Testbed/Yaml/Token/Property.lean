import Testbed.Text.Utf8
import Testbed.Yaml.Token
import Testbed.Yaml.Token.Quoted

namespace Testbed.Yaml

def readAnchorName (r : Rest) : Option (String × Rest) :=
  let (name, r) := r.spanChars isNameChar
  let ends := isGap r.char || ['?', ':', ',', ']', '}', '%', '@', '\x60'].contains r.char
  if name.isEmpty || !ends then none else some (String.ofList name, r)

def readOctet (r : Rest) : Option (UInt8 × Rest) :=
  if r.char != '%' then none
  else do
    let high ← hexValue? (r.ahead 1)
    let low ← hexValue? (r.ahead 2)
    return (UInt8.ofNat (16 * high + low), r.drop 3)

def octetCount? (b : UInt8) : Option Nat :=
  if b &&& 0x80 == 0 then some 1
  else if b &&& 0xE0 == 0xC0 then some 2
  else if b &&& 0xF0 == 0xE0 then some 3
  else if b &&& 0xF8 == 0xF0 then some 4
  else none

def readFurtherOctets : Nat → Rest → Option (List UInt8 × Rest)
  | 0, r => some ([], r)
  | n + 1, r => do
    let (b, r) ← readOctet r
    if b &&& 0xC0 != 0x80 then none
    else
      let (more, r) ← readFurtherOctets n r
      return (b :: more, r)

def readEscapedChar (r : Rest) : Option (List Char × Rest) := do
  let (b, r) ← readOctet r
  let count ← octetCount? b
  let (more, r) ← readFurtherOctets (count - 1) r
  return (Text.lossyFrom none (b :: more), r)

def readUriChars (allowed : Char → Bool) : Nat → Rest → Option (List Char × Rest)
  | 0, r => some ([], r)
  | fuel + 1, r =>
    if !allowed r.char then some ([], r)
    else do
      let (cs, r) ← if r.char == '%' then readEscapedChar r else some ([r.char], r.tail)
      let (more, r) ← readUriChars allowed fuel r
      return (cs ++ more, r)

/-- Reads the characters of a tag; an escaped NUL hides what comes after it. -/
def readUri (allowed : Char → Bool) (r : Rest) : Option (List Char × Rest) :=
  (readUriChars allowed r.length r).map fun (cs, r) => (cs.takeWhile (· != endMark), r)

def readHandle (r : Rest) : Option (List Char × Rest) :=
  if r.char != '!' then none
  else
    let r : Rest := r.tail
    let (name, r) := r.spanChars isNameChar
    if r.char == '!' then some ('!' :: name ++ ['!'], r.tail) else some ('!' :: name, r)

def readVerbatimTag (r : Rest) : Option (Token × Rest) := do
  let r : Rest := r.drop 2
  if !isLongUriChar r.char then none
  else
    let (uri, r) ← readUri isLongUriChar r
    if r.char != '>' then none else return (.tag "" (String.ofList uri), r.tail)

/-- The tag `!name!rest` or `!rest`; a lone exclamation mark is a tag that says nothing. -/
def readShortTag (r : Rest) : Option (Token × Rest) := do
  let (handle, r) ← readHandle r
  if 2 ≤ handle.length && handle.getLast? == some '!' then
    if !isUriChar r.char then none
    else
      let (suffix, r) ← readUri isUriChar r
      return (.tag (String.ofList handle) (String.ofList suffix), r)
  else
    let (more, r) ← readUri isUriChar r
    let suffix := handle.tail ++ more
    return (if suffix.isEmpty then .tag "" "!" else .tag "!" (String.ofList suffix), r)

def readTag (flow : Bool) (r : Rest) : Option (Token × Rest) := do
  let (token, r) ← if r.ahead 1 == '<' then readVerbatimTag r else readShortTag r
  if isGap r.char || (flow && r.char == ',') then return (token, r) else none

def readVersionNumber (r : Rest) : Option (Nat × Rest) :=
  let (digits, r) := r.spanChars Char.isDigit
  if digits.isEmpty || 9 < digits.length then none
  else some (digits.foldl (fun n c => 10 * n + (c.toNat - '0'.toNat)) 0, r)

def readVersion (r : Rest) : Option (Token × Rest) := do
  let (major, r) ← readVersionNumber (r.skipWhile isSpace)
  if r.char != '.' then none
  else
    let (minor, r) ← readVersionNumber r.tail
    return (.versionDirective major minor, r)

def readTagShorthand (r : Rest) : Option (Token × Rest) := do
  let (handle, r) ← readHandle (r.skipWhile isSpace)
  if (handle.getLast? != some '!') || !isSpace r.char then none
  else
    let r := r.skipWhile isSpace
    if !isLongUriChar r.char then none
    else
      let (uri, r) ← readUri isLongUriChar r
      if !isGap r.char then none
      else return (.tagDirective (String.ofList handle) (String.ofList uri), r)

def readDirective (r : Rest) : Option (Token × Rest) := do
  let r : Rest := r.tail
  let (name, r) := r.spanChars isNameChar
  if name.isEmpty || !isGap r.char then none
  else
    let (token, r) ←
      if name == ['Y', 'A', 'M', 'L'] then readVersion r
      else if name == ['T', 'A', 'G'] then readTagShorthand r
      else none
    let r ← r.finishLine?
    return (token, r)

end Testbed.Yaml
