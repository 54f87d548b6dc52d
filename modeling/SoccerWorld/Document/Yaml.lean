import SoccerWorld.Document.Yaml.Nesting

/-!
# YAML texts

The value of a text with one document: block and flow mappings and sequences, plain and quoted
scalars, and comments.  Anchors, tags, block scalars and directives are refused.
-/

namespace SoccerWorld
namespace Yaml

/-- The value that a text holds. -/
def read? (s : String) : Option Value :=
  if s.toList.all isAllowed then (tokens? (cells s)).bind valueOfTokens? else none

end Yaml
end SoccerWorld
