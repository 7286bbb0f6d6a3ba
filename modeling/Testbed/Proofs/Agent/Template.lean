import Mathlib.Data.List.TakeWhile
import Testbed.Agent.Template
import Testbed.Proofs.Numeral

namespace Testbed

section Words

variable {pattern value cs word : List Char}

/-- A word in braces, with no brace inside. -/
def Braced (cs : List Char) : Prop :=
  ∃ word, cs = '{' :: word ++ ['}'] ∧ '{' ∉ word ∧ '}' ∉ word

theorem takeWhile_word (no_close : '}' ∉ word) (rest : List Char) :
    (word ++ '}' :: rest).takeWhile (· != '}') = word := by
  have inside : ∀ c ∈ word, (c != '}') = true := by
    intro c member
    rw [bne_iff_ne]
    rintro rfl
    exact no_close member
  rw [List.takeWhile_append_of_pos inside, List.takeWhile_cons_of_neg (by decide), List.append_nil]

theorem Braced.eq_of_prefix {other rest : List Char} (first : Braced pattern)
    (second : Braced other) (start : pattern <+: other ++ rest) : pattern = other := by
  obtain ⟨word, rfl, -, no_close⟩ := first
  obtain ⟨word', rfl, -, no_close'⟩ := second
  obtain ⟨after, same⟩ := start
  have tails : word ++ '}' :: after = word' ++ '}' :: rest := by simpa using same
  have words := congrArg (List.takeWhile (· != '}')) tails
  rw [takeWhile_word no_close, takeWhile_word no_close'] at words
  rw [words]

namespace Text

theorem replaceFrom_skip (pattern value skipped rest : List Char) :
    replaceFrom pattern value skipped.length (skipped ++ rest) =
      replaceFrom pattern value 0 rest := by
  induction skipped with
  | nil => rfl
  | cons c skipped ih => exact ih

theorem replaceFrom_pattern (some_char : pattern ≠ []) (value rest : List Char) :
    replaceFrom pattern value 0 (pattern ++ rest) = value ++ replaceFrom pattern value 0 rest := by
  cases pattern with
  | nil => exact absurd rfl some_char
  | cons c tail =>
    have start : (c :: tail).isPrefixOf (c :: (tail ++ rest)) = true :=
      List.isPrefixOf_iff_prefix.mpr (List.prefix_append (c :: tail) rest)
    rw [List.cons_append, replaceFrom, if_pos start]
    exact congrArg (value ++ ·) (replaceFrom_skip (c :: tail) value tail rest)

theorem replaceFrom_apart (braced : Braced pattern) (unopened : '{' ∉ cs) (value rest : List Char) :
    replaceFrom pattern value 0 (cs ++ rest) = cs ++ replaceFrom pattern value 0 rest := by
  induction cs with
  | nil => rfl
  | cons c cs ih =>
    rw [List.mem_cons, not_or] at unopened
    have no_start : ¬ pattern.isPrefixOf (c :: (cs ++ rest)) = true := by
      rw [List.isPrefixOf_iff_prefix]
      obtain ⟨word, rfl, -⟩ := braced
      rintro ⟨after, same⟩
      exact unopened.1 (List.cons.inj same).1
    rw [List.cons_append, replaceFrom, if_neg no_start, ih unopened.2, List.cons_append]

theorem replaceFrom_other {other : List Char} (braced : Braced pattern) (braced' : Braced other)
    (differ : pattern ≠ other) (value rest : List Char) :
    replaceFrom pattern value 0 (other ++ rest) = other ++ replaceFrom pattern value 0 rest := by
  have no_start : ¬ pattern.isPrefixOf (other ++ rest) = true := by
    rw [List.isPrefixOf_iff_prefix]
    intro start
    exact differ (braced.eq_of_prefix braced' start)
  obtain ⟨word, rfl, unopened, -⟩ := braced'
  have inside : '{' ∉ word ++ ['}'] := by simp [unopened]
  rw [List.cons_append, List.cons_append] at no_start
  rw [List.cons_append, List.cons_append, replaceFrom, if_neg no_start,
    replaceFrom_apart braced inside, List.cons_append]

end Text

end Words

namespace Placeholder

theorem text_braced (p : Placeholder) : Braced p.text.toList := by
  cases p with
  | name => exact ⟨"name".toList, by decide⟩
  | deviceId => exact ⟨"device_id".toList, by decide⟩
  | dataPlanePort => exact ⟨"data_plane_port".toList, by decide⟩
  | dataPlane => exact ⟨"data_plane".toList, by decide⟩
  | controller => exact ⟨"controller".toList, by decide⟩

theorem text_injective {p q : Placeholder} (same : p.text.toList = q.text.toList) : p = q := by
  cases p <;> cases q <;> first | rfl | exact absurd same (by decide)

end Placeholder

theorem ports_braced : Braced portsPlaceholder.toList := ⟨"ports".toList, by decide⟩

theorem text_ne_ports (p : Placeholder) : p.text.toList ≠ portsPlaceholder.toList := by
  cases p <;> decide

namespace TemplatePiece

def filled (p : Placeholder) (value : String) : TemplatePiece → TemplatePiece
  | .text s => .text s
  | .placeholder q => if q = p then .text value else .placeholder q
  | .ports => .ports

variable {p : Placeholder} {value : String} {piece : TemplatePiece} {ps : List TemplatePiece}

theorem IsProper.filled (proper : piece.IsProper) (clean : (text value).IsProper) :
    (piece.filled p value).IsProper := by
  cases piece with
  | text s => exact proper
  | ports => trivial
  | placeholder q =>
    by_cases same : q = p
    · simp only [TemplatePiece.filled, same, ↓reduceIte]
      exact clean
    · simp only [TemplatePiece.filled, same, ↓reduceIte]
      trivial

theorem replaceFrom_written (proper : piece.IsProper) (rest : List Char) :
    Text.replaceFrom p.text.toList value.toList 0 (piece.written.toList ++ rest) =
      (piece.filled p value).written.toList ++
        Text.replaceFrom p.text.toList value.toList 0 rest := by
  cases piece with
  | text s => exact Text.replaceFrom_apart p.text_braced proper.1 _ _
  | ports => exact Text.replaceFrom_other p.text_braced ports_braced (text_ne_ports p) _ _
  | placeholder q =>
    by_cases same : q = p
    · subst same
      obtain ⟨word, text, -⟩ := q.text_braced
      have some_char : q.text.toList ≠ [] := by
        rw [text]
        exact List.cons_ne_nil _ _
      simp only [filled, ↓reduceIte, written]
      exact Text.replaceFrom_pattern some_char _ _
    · have differ : p.text.toList ≠ q.text.toList := fun texts =>
        same (Placeholder.text_injective texts).symm
      simp only [filled, same, ↓reduceIte, written]
      exact Text.replaceFrom_other p.text_braced q.text_braced differ _ _

theorem replace_written (p : Placeholder) (value : String) (proper : ∀ piece ∈ ps, piece.IsProper) :
    Text.replace p.text value (String.join (ps.map written)) =
      String.join ((ps.map (filled p value)).map written) := by
  have pieces : Text.replaceFrom p.text.toList value.toList 0
      ((ps.map written).flatMap String.toList) =
        ((ps.map (filled p value)).map written).flatMap String.toList := by
    induction ps with
    | nil => rfl
    | cons piece rest ih =>
      obtain ⟨first, others⟩ := List.forall_mem_cons.mp proper
      simp only [List.map_cons, List.flatMap_cons]
      rw [replaceFrom_written first, ih others]
  rw [Text.replace, String.toList_join, pieces, ← String.toList_join, String.ofList_toList]

theorem replaceAll_written {values : Placeholder → String}
    (clean : ∀ p, (text (values p)).IsProper) (order : List Placeholder)
    (proper : ∀ piece ∈ ps, piece.IsProper) :
    order.foldl (fun s p => Text.replace p.text (values p) s) (String.join (ps.map written)) =
      String.join (ps.map fun piece =>
        (order.foldl (fun piece p => piece.filled p (values p)) piece).written) := by
  induction order generalizing ps with
  | nil => rfl
  | cons p order ih =>
    have proper' : ∀ piece ∈ ps.map (filled p (values p)), piece.IsProper :=
      List.forall_mem_map.mpr fun piece member => (proper piece member).filled (clean p)
    rw [List.foldl_cons, replace_written p (values p) proper, ih proper', List.map_map]
    rfl

end TemplatePiece

/-- What a launch is filled in with has no braces. -/
structure Launch.Braceless (l : Launch) : Prop where
  switch : '{' ∉ l.switch.toList ∧ '}' ∉ l.switch.toList
  dataPlane : '{' ∉ l.dataPlane.text.toList ∧ '}' ∉ l.dataPlane.text.toList
  controller : '{' ∉ l.controller.text.toList ∧ '}' ∉ l.controller.text.toList

/-- Pieces that come to nothing but the placeholder of the ports are no argument of their own. -/
def TemplateArgument.IsProper : TemplateArgument → Prop
  | .ports => True
  | .pieces ps => (∀ piece ∈ ps, piece.IsProper) ∧
      String.join (ps.map TemplatePiece.written) ≠ portsPlaceholder

instance (piece : TemplatePiece) : Decidable piece.IsProper :=
  match piece with
  | .text s => inferInstanceAs (Decidable ('{' ∉ s.toList ∧ '}' ∉ s.toList))
  | .placeholder _ => .isTrue trivial
  | .ports => .isTrue trivial

instance (argument : TemplateArgument) : Decidable argument.IsProper :=
  match argument with
  | .ports => .isTrue trivial
  | .pieces ps => inferInstanceAs (Decidable ((∀ piece ∈ ps, piece.IsProper) ∧
      String.join (ps.map TemplatePiece.written) ≠ portsPlaceholder))

theorem number_braceless (n : Nat) : (TemplatePiece.text (toString n)).IsProper := by
  constructor
  · intro opened
    exact absurd (isDigit_of_mem_toString opened) (by decide)
  · intro closed
    exact absurd (isDigit_of_mem_toString closed) (by decide)

namespace AgentCommand

variable {l : Launch}

theorem value_braceless (braceless : l.Braceless) (p : Placeholder) :
    (TemplatePiece.text (p.value l)).IsProper := by
  cases p with
  | name => exact braceless.switch
  | deviceId => exact number_braceless _
  | dataPlanePort => exact number_braceless _
  | dataPlane => exact braceless.dataPlane
  | controller => exact braceless.controller

theorem filled_inOrder (l : Launch) (piece : TemplatePiece) :
    (Placeholder.inOrder.foldl (fun piece p => piece.filled p (p.value l)) piece).written =
      piece.expanded l := by
  cases piece with
  | text s => rfl
  | ports => rfl
  | placeholder p => cases p <;> rfl

theorem renderArgument_expanded (braceless : l.Braceless) {argument : TemplateArgument}
    (proper : argument.IsProper) : renderArgument l argument.written = argument.expanded l := by
  cases argument with
  | ports => rfl
  | pieces ps =>
    obtain ⟨pieces, more⟩ := proper
    have filled := TemplatePiece.replaceAll_written (value_braceless braceless) Placeholder.inOrder
      pieces
    simp only [filled_inOrder] at filled
    rw [renderArgument, TemplateArgument.written, if_neg more, fill, filled]
    rfl

/-- The arguments come out as if all placeholders were replaced at once, each by its own value. -/
theorem render_expanded (braceless : l.Braceless) (binary : String) {args : List TemplateArgument}
    (proper : ∀ argument ∈ args, argument.IsProper) :
    render ⟨binary, args.map TemplateArgument.written⟩ l =
      args.flatMap (TemplateArgument.expanded l) := by
  rw [render, List.flatMap_map]
  apply List.flatMap_congr
  intro argument member
  exact renderArgument_expanded braceless (proper argument member)

def patch : Launch :=
  ⟨"name", 7, ⟨"::1", 50051⟩, ⟨"10.0.0.1", 6653⟩, [(1, "name-eth1"), (2, "name-eth2")]⟩

def patchArguments : List TemplateArgument :=
  [.pieces [.text "--id=", .placeholder .deviceId, .placeholder .name, .ports], .ports,
    .pieces [.placeholder .dataPlane, .text "/", .placeholder .controller], .pieces []]

theorem patch_rendered : patch.Braceless ∧ (∀ argument ∈ patchArguments, argument.IsProper) ∧
    patchArguments.map TemplateArgument.written =
      ["--id=\x7bdevice_id\x7d\x7bname\x7d\x7bports\x7d", "\x7bports\x7d",
        "\x7bdata_plane\x7d/\x7bcontroller\x7d", ""] ∧
    render ⟨"agent", patchArguments.map TemplateArgument.written⟩ patch =
      ["--id=7name\x7bports\x7d", "-i", "1@name-eth1", "-i", "2@name-eth2",
        "[::1]:50051/10.0.0.1:6653", ""] := by
  have braceless : patch.Braceless := ⟨by decide, by decide, by decide⟩
  have proper : ∀ argument ∈ patchArguments, argument.IsProper := by decide
  refine ⟨braceless, proper, by decide, ?_⟩
  rw [render_expanded braceless "agent" proper]
  decide

example :
    render ⟨"agent", [Placeholder.name.text]⟩ { patch with switch := Placeholder.controller.text } =
    ["10.0.0.1:6653"] := by
  decide

end AgentCommand

end Testbed
