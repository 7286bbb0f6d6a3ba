namespace Testbed.Cli

structure OptionSpec where
  short : Option Char
  long : String
  takesValue : Bool
  final : Bool
  accepts : String → Bool

abbrev Given := List (String × String)

/-- What the arguments begin with: options up to their end or up to a word that is none. -/
inductive Scan where
  | ended (given : Given)
  | word (given : Given) (word : String) (rest : List String)
  | final (long : String)
  | refused

def looksLikeOption (arg : String) : Bool := arg.startsWith "-" && arg != "-"

def add (given : Given) (o : OptionSpec) (value : String) : Option Given :=
  if given.any (·.1 == o.long) || !o.accepts value then none
  else some (given ++ [(o.long, value)])

structure Written where
  option : OptionSpec
  attached : Option String

def writtenLong? (options : List OptionSpec) (body : List Char) : Option Written :=
  let name := String.ofList (body.takeWhile (· != '='))
  let value := match body.dropWhile (· != '=') with
    | [] => none
    | _ :: value => some (String.ofList value)
  (options.find? (·.long == name)).bind fun o =>
    if value.isSome && !o.takesValue then none else some ⟨o, value⟩

/-- A short option and the value right after it, before which an equals sign may stand. What comes
after a final option does not matter, and no other option of one letter is without a value. -/
def writtenShort? (options : List OptionSpec) : List Char → Option Written
  | [] => none
  | letter :: rest =>
    let value := match rest with
      | [] => none
      | '=' :: value => some (String.ofList value)
      | value => some (String.ofList value)
    (options.find? (·.short == some letter)).map fun o => ⟨o, value⟩

def written? (options : List OptionSpec) (arg : String) : Option Written :=
  match arg.toList with
  | '-' :: '-' :: body => writtenLong? options body
  | '-' :: body => writtenShort? options body
  | _ => none

def scan (options : List OptionSpec) (given : Given) : List String → Scan
  | [] => .ended given
  | arg :: rest =>
    if arg == "--" then if rest.isEmpty then .ended given else .refused
    else if !looksLikeOption arg then .word given arg rest
    else
      match written? options arg with
      | none => .refused
      | some w =>
        if w.option.final then .final w.option.long
        else if !w.option.takesValue then
          match add given w.option "" with
          | none => .refused
          | some given => scan options given rest
        else
          match w.attached, rest with
          | some value, rest =>
            match add given w.option value with
            | none => .refused
            | some given => scan options given rest
          | none, [] => .refused
          | none, value :: rest =>
            if looksLikeOption value then .refused
            else
              match add given w.option value with
              | none => .refused
              | some given => scan options given rest

end Testbed.Cli
