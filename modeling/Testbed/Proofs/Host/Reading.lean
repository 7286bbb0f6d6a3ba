import Testbed.Host.Network

namespace Testbed.Host

def bare (name : String) : String := String.ofList (name.toList.filter (· != '\n'))

def Clean (name : String) : Prop := '\x00' ∉ name.toList

theorem bare_of_plain {name : String} (plain : '\n' ∉ name.toList) : bare name = name := by
  have kept : name.toList.filter (· != '\n') = name.toList :=
    List.filter_eq_self.mpr fun c member => by
      simpa using fun same : c = '\n' => plain (same ▸ member)
  rw [bare, kept, String.ofList_toList]

theorem bare_eq_self_iff {name : String} : bare name = name ↔ '\n' ∉ name.toList := by
  refine ⟨fun same newline => ?_, bare_of_plain⟩
  rw [← same, bare, String.toList_ofList] at newline
  simp at newline

theorem mem_escape {c : Char} {cs : List Char} (quiet : c ≠ '\\') : c ∈ escape cs ↔ c ∈ cs := by
  induction cs with
  | nil => simp [escape]
  | cons d rest ih =>
    unfold escape
    split <;> simp [ih, quiet]

theorem nul_mem_quote {name : String} : '\x00' ∈ (quote name).toList ↔ '\x00' ∈ name.toList := by
  simp [quote, quoteList, mem_escape]

theorem mem_intercalate {c : Char} (letter : c ≠ ' ') {texts : List String} :
    c ∈ (" ".intercalate texts).toList ↔ ∃ text ∈ texts, c ∈ text.toList := by
  induction texts with
  | nil => simp
  | cons text rest ih =>
    cases rest with
    | nil => simp
    | cons next rest =>
      have space : " ".toList = [' '] := rfl
      rw [String.intercalate_cons_cons, String.toList_append, String.toList_append, space,
        List.mem_append, ih]
      simp [letter]

namespace CommandLine

theorem not_special_of_ordinary {c : Char} (ordinary : isOrdinary c = true) :
    isSeparator c = false ∧ c ≠ '"' ∧ c ≠ '\x00' := by
  have other {d : Char} (special : isOrdinary d = false) : c ≠ d := by
    intro same
    rw [same, special] at ordinary
    cases ordinary
  have blank : c ≠ ' ' := other (by decide)
  have tab : c ≠ '\t' := other (by decide)
  exact ⟨by simp [isSeparator, blank, tab], other (by decide), other (by decide)⟩

theorem readFrom_ordinary {cs : List Char} (ordinary : ∀ c ∈ cs, isOrdinary c = true)
    (sofar rest : List Char) :
    readFrom (.word sofar) (cs ++ rest) = readFrom (.word (sofar ++ cs)) rest := by
  induction cs generalizing sofar with
  | nil => simp
  | cons c cs ih =>
    have first := ordinary c List.mem_cons_self
    obtain ⟨separator, quoted, _⟩ := not_special_of_ordinary first
    have others : ∀ d ∈ cs, isOrdinary d = true :=
      fun d member => ordinary d (List.mem_cons_of_mem _ member)
    rw [List.cons_append, readFrom, separator, if_neg (by simp), if_neg quoted, if_pos first,
      ih others, List.append_assoc]
    rfl

end CommandLine

namespace Word

def bare : Word → String
  | .plain text => text
  | .name text => Host.bare text

/-- A name may hold all but NUL, and a plain word nothing that the shell treats in a way of its
own. -/
def Readable : Word → Prop
  | .plain text => text.toList ≠ [] ∧ ∀ c ∈ text.toList, CommandLine.isOrdinary c = true
  | .name text => Clean text

theorem Readable.readFrom {w : Word} (readable : w.Readable) (rest : List Char) :
    CommandLine.readFrom .between (w.text.toList ++ rest) =
      CommandLine.readFrom (.word w.bare.toList) rest := by
  cases w with
  | name text =>
    simp only [Word.text, Word.bare, Host.bare, quote, String.toList_ofList]
    exact CommandLine.readFrom_quoteList readable rest
  | plain text =>
    obtain ⟨some_char, ordinary⟩ := readable
    simp only [Word.text, Word.bare]
    cases chars : text.toList with
    | nil => exact absurd chars some_char
    | cons c cs =>
      rw [chars] at ordinary
      have first := ordinary c List.mem_cons_self
      obtain ⟨separator, quoted, _⟩ := CommandLine.not_special_of_ordinary first
      rw [List.cons_append, CommandLine.readFrom, separator, if_neg (by simp), if_neg quoted,
        if_pos first, CommandLine.readFrom_ordinary]
      · rfl
      · exact fun d member => ordinary d (List.mem_cons_of_mem _ member)

end Word

theorem CommandLine.read_words {words : List Word} (readable : ∀ w ∈ words, w.Readable) :
    CommandLine.read (" ".intercalate (words.map Word.text)) = some (words.map Word.bare) := by
  suffices chars : CommandLine.readFrom .between (" ".intercalate (words.map Word.text)).toList =
      some (words.map fun w => w.bare.toList) by
    rw [CommandLine.read, chars]
    simp [Function.comp_def]
  induction words with
  | nil => rfl
  | cons w rest ih =>
    have first := readable w List.mem_cons_self
    have others : ∀ v ∈ rest, v.Readable :=
      fun v member => readable v (List.mem_cons_of_mem _ member)
    cases rest with
    | nil =>
      have last := first.readFrom []
      simp only [List.append_nil] at last
      simp [last, CommandLine.readFrom]
    | cons v rest =>
      have space : CommandLine.isSeparator ' ' = true := by decide
      simp only [List.map_cons, String.intercalate_cons_cons, String.toList_append,
        List.append_assoc, first.readFrom] at ih ⊢
      rw [show " ".toList = [' '] from rfl, List.singleton_append, CommandLine.readFrom, space,
        if_pos rfl, ih others]
      rfl

/-- The quoted form of a name reads as one word, and this word is the name just if there is no
newline in the name. -/
theorem CommandLine.read_quote {name : String} (clean : Clean name) :
    CommandLine.read (quote name) = some [bare name] ∧
      (CommandLine.read (quote name) = some [name] ↔ '\n' ∉ name.toList) := by
  have word : CommandLine.read (quote name) = some [bare name] := by
    have readable : ∀ w ∈ [Word.name name], w.Readable := List.forall_mem_singleton.mpr clean
    have line := CommandLine.read_words readable
    rwa [List.map_singleton, String.intercalate_singleton] at line
  refine ⟨word, ?_⟩
  rw [word, Option.some_inj, List.singleton_inj]
  exact bare_eq_self_iff

theorem CommandLine.read_quote_special : Clean "say \"$HOME\" \\\\n" ∧
    CommandLine.read (quote "say \"$HOME\" \\\\n") = some ["say \"$HOME\" \\\\n"] := by
  have clean : Clean "say \"$HOME\" \\\\n" := by unfold Clean; decide
  exact ⟨clean, (CommandLine.read_quote clean).2.mpr (by decide)⟩

/-- The shell takes an escaped newline for a line that goes on. -/
theorem CommandLine.broken_line_joined : Clean "line1\nline2" ∧
    CommandLine.read (quote "line1\nline2") = some ["line1line2"] ∧
    CommandLine.read (quote "line1\nline2") ≠ some ["line1\nline2"] := by
  have joined : CommandLine.read (quote "line1\nline2") = some ["line1line2"] := rfl
  refine ⟨by unfold Clean; decide, joined, ?_⟩
  rw [joined]
  decide

namespace Command

def names (c : Command) : List String :=
  c.words.filterMap fun w => match w with
    | .plain _ => none
    | .name text => some text

theorem mem_names {c : Command} {name : String} : name ∈ c.names ↔ Word.name name ∈ c.words := by
  unfold names
  rw [List.mem_filterMap]
  constructor
  · rintro ⟨w, member, is_name⟩
    cases w with
    | plain text => cases is_name
    | name text =>
      cases is_name
      exact member
  · exact fun member => ⟨_, member, rfl⟩

@[simp]
theorem names_addNamespace (ns : String) : (addNamespace ns).names = [ns] := rfl

@[simp]
theorem names_deleteNamespace (ns : String) : (deleteNamespace ns).names = [ns] := rfl

@[simp]
theorem names_raiseLoopback (ns : String) : (raiseLoopback ns).names = [ns] := rfl

@[simp]
theorem names_addPair (a b : String) : (addPair a b).names = [a, b] := rfl

@[simp]
theorem names_moveToNamespace (interface ns : String) :
    (moveToNamespace interface ns).names = [interface, ns] := rfl

@[simp]
theorem names_raise (ns : Option String) (interface : String) :
    (raise ns interface).names = ns.toList ++ [interface] := by
  cases ns <;> rfl

@[simp]
theorem names_deleteInterface (ns : Option String) (interface : String) :
    (deleteInterface ns interface).names = ns.toList ++ [interface] := by
  cases ns <;> rfl

/-- The command as the host reads it: with the newlines gone, and the loopback like any other
interface. -/
def heard : Command → Command
  | .addNamespace ns => .addNamespace (bare ns)
  | .deleteNamespace ns => .deleteNamespace (bare ns)
  | .raiseLoopback ns => .raise (some (bare ns)) Network.loopback
  | .addPair a b => .addPair (bare a) (bare b)
  | .moveToNamespace interface ns => .moveToNamespace (bare interface) (bare ns)
  | .raise ns interface => .raise (ns.map bare) (bare interface)
  | .deleteInterface ns interface => .deleteInterface (ns.map bare) (bare interface)
  | .disableOffloads ns interface => .disableOffloads (bare ns) (bare interface)
  | .findTool tool => .findTool (bare tool)

def ofNetwork : Command → Bool
  | .disableOffloads .. | .findTool _ => false
  | _ => true

def fixedWords : List String :=
  [ipTool, "netns", "exec", "add", "del", "link", "set", "lo", "up", "type", "veth", "peer", "name",
    ethtool, "-K", "command", "-v"] ++ offloadFeatures ++ ["off"]

theorem fixedWords_ordinary : ∀ text ∈ fixedWords,
    text.toList ≠ [] ∧ ∀ c ∈ text.toList, CommandLine.isOrdinary c = true := by
  have checked : fixedWords.all (fun text => !text.toList.isEmpty &&
      text.toList.all CommandLine.isOrdinary) = true := rfl
  intro text listed
  simpa using List.all_eq_true.mp checked text listed

theorem fixed_of_plain {c : Command} {text : String} (member : .plain text ∈ c.words) :
    text ∈ fixedWords := by
  have fixed : c.words.all (fun w => match w with
      | .plain text => fixedWords.contains text
      | .name _ => true) = true := by
    cases c with
    | raise ns interface | deleteInterface ns interface => cases ns <;> rfl
    | _ => rfl
  simpa using List.all_eq_true.mp fixed _ member

theorem text_clean_iff {c : Command} : Clean c.text ↔ ∀ name ∈ c.names, Clean name := by
  unfold Clean text
  rw [mem_intercalate (by decide)]
  constructor
  · intro quiet name listed nul
    exact quiet ⟨_, List.mem_map_of_mem (mem_names.mp listed), nul_mem_quote.mpr nul⟩
  · rintro clean ⟨_, listed, nul⟩
    obtain ⟨w, member, rfl⟩ := List.mem_map.mp listed
    cases w with
    | plain text =>
      have ordinary := (fixedWords_ordinary text (fixed_of_plain member)).2 _ nul
      exact (CommandLine.not_special_of_ordinary ordinary).2.2 rfl
    | name text =>
      exact clean text (mem_names.mpr member) (nul_mem_quote.mp nul)

theorem read_text {c : Command} (clean : ∀ name ∈ c.names, Clean name) :
    CommandLine.read c.text = some (c.words.map Word.bare) := by
  refine CommandLine.read_words fun w member => ?_
  cases w with
  | plain text => exact fixedWords_ordinary text (fixed_of_plain member)
  | name text => exact clean text (mem_names.mpr member)

theorem ofWords?_words {c : Command} (network : c.ofNetwork = true) :
    ofWords? (c.words.map Word.bare) = some c.heard := by
  cases c with
  | raise ns interface | deleteInterface ns interface => cases ns <;> rfl
  | disableOffloads | findTool => cases network
  | _ => rfl

end Command

end Testbed.Host
