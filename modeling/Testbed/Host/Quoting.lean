namespace Testbed.Host

def graveAccent : Char := '\x60'

def needsEscape (c : Char) : Bool :=
  c == '$' || c == graveAccent || c == '"' || c == '\\' || c == '\n'

def escape : List Char → List Char
  | [] => []
  | c :: rest => if needsEscape c then '\\' :: c :: escape rest else c :: escape rest

def quoteList (cs : List Char) : List Char := '"' :: escape cs ++ ['"']

def quote (s : String) : String := String.ofList (quoteList s.toList)

end Testbed.Host
