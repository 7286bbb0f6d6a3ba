namespace Testbed.Text

def containsList (pattern : List Char) : List Char → Bool
  | [] => pattern.isEmpty
  | c :: rest => pattern.isPrefixOf (c :: rest) || containsList pattern rest

def contains (pattern s : String) : Bool := containsList pattern.toList s.toList

/-- `skip` characters are left out, since they belong to an occurrence that was replaced. -/
def replaceFrom (pattern value : List Char) : Nat → List Char → List Char
  | _, [] => []
  | skip + 1, _ :: rest => replaceFrom pattern value skip rest
  | 0, c :: rest =>
    if pattern.isPrefixOf (c :: rest) then
      value ++ replaceFrom pattern value (pattern.length - 1) rest
    else c :: replaceFrom pattern value 0 rest

/-- Every occurrence of `pattern` becomes `value`, from left to right and without overlaps; the
pattern is not empty. -/
def replace (pattern value s : String) : String :=
  String.ofList (replaceFrom pattern.toList value.toList 0 s.toList)

end Testbed.Text
