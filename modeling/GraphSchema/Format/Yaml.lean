import GraphSchema.Format.Yaml.Node

/-!
The part of YAML that options documents use: block mappings and sequences, flow collections, plain
and quoted scalars, and comments, in one document whose beginning may be marked. Block scalars,
anchors, tags and directives are no part of it.
-/

namespace GraphSchema.Yaml

/-- The document that a text spells; a text without content is blank. -/
def read? (text : String) : Option Datum := (tokens? text).bind ofTokens?

end GraphSchema.Yaml
