import ApiModel.Yaml.Tree

/-!
# Reading YAML

## Main definitions

* `Yaml.parse`: the document of a text.
-/

namespace ApiModel.Yaml

/-- The document of a text, unless it is not well-formed or there is more than one. -/
def parse (text : String) : Option Document := (tokens text).bind documentOf

end ApiModel.Yaml
