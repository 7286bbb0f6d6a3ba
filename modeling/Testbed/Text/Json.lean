namespace Testbed.Text

def hexDigit (n : Nat) : Char := Char.ofNat (if n < 10 then '0'.toNat + n else 'a'.toNat + n - 10)

def escapeJson (c : Char) : List Char :=
  match c with
  | '"' => ['\\', '"']
  | '\\' => ['\\', '\\']
  | '\n' => ['\\', 'n']
  | '\r' => ['\\', 'r']
  | '\t' => ['\\', 't']
  | '\x08' => ['\\', 'b']
  | '\x0c' => ['\\', 'f']
  | c =>
    if c.toNat < 0x20 then ['\\', 'u', '0', '0', hexDigit (c.toNat / 16), hexDigit (c.toNat % 16)]
    else [c]

def quoteJson (s : String) : String :=
  "\"" ++ String.ofList (s.toList.flatMap escapeJson) ++ "\""

def separated : List (List String) → List String
  | [] => []
  | [lines] => lines
  | lines :: rest => lines.dropLast ++ (lines.getLast?.map (· ++ ",")).toList ++ separated rest

def indented (lines : List String) : List String := lines.map ("  " ++ ·)

def jsonArray (elements : List (List String)) : List String :=
  if elements.isEmpty then ["[]"] else ["["] ++ indented (separated elements) ++ ["]"]

def jsonField (name : String) (value : List String) : List String :=
  match value with
  | [] => []
  | first :: rest => (quoteJson name ++ ": " ++ first) :: rest

def jsonObject (fields : List (List String)) : List String :=
  ["\x7b"] ++ indented (separated fields) ++ ["\x7d"]

end Testbed.Text
