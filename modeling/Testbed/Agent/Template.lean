import Testbed.Agent.Command

namespace Testbed

/-- A part of an argument template. Inside of an argument the placeholder of the ports is text. -/
inductive TemplatePiece where
  | text (s : String)
  | placeholder (p : Placeholder)
  | ports
deriving DecidableEq, Repr

namespace TemplatePiece

def written : TemplatePiece → String
  | .text s => s
  | .placeholder p => p.text
  | .ports => portsPlaceholder

def expanded (l : Launch) : TemplatePiece → String
  | .text s => s
  | .placeholder p => p.value l
  | .ports => portsPlaceholder

/-- Text outside of placeholders has no braces. -/
def IsProper : TemplatePiece → Prop
  | .text s => '{' ∉ s.toList ∧ '}' ∉ s.toList
  | .placeholder _ => True
  | .ports => True

end TemplatePiece

inductive TemplateArgument where
  | ports
  | pieces (ps : List TemplatePiece)
deriving DecidableEq, Repr

namespace TemplateArgument

def written : TemplateArgument → String
  | .ports => portsPlaceholder
  | .pieces ps => String.join (ps.map TemplatePiece.written)

def expanded (l : Launch) : TemplateArgument → List String
  | .ports => AgentCommand.portArguments l.ports
  | .pieces ps => [String.join (ps.map (TemplatePiece.expanded l))]

end TemplateArgument

end Testbed
