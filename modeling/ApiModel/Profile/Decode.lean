import ApiModel.Profile.Basic
import ApiModel.Yaml.Reader

/-!
# Reading profiles

A profile is read directly, with its form known in advance. Only a row of the table of types
mixes two records: the type of the platform stands beside the type and format that it is
for, so the fields of the former are read as they stand.

## Main definitions

* `Read.profile`: a profile.
* `Profile.ofYaml`: the profile of a text.
-/

namespace ApiModel

namespace Read

/-- A list of texts. -/
def texts : Read (List String) := list text

/-- A single character. -/
def character : Read Char := fun levels node => do
  match (← text levels node).toList with
  | [c] => return c
  | _ => failure

/-- A type of the platform. -/
def targetType : Read TargetType :=
  record ["name", "import", "primitive", "boxed"] fun n slots => do
    return {
      name := ← slots.required "name" (text n)
      importName := ← slots.defaulted "import" none (optional text n)
      primitive := ← slots.defaulted "primitive" false (flag n)
      boxed := ← slots.defaulted "boxed" none (optional text n) }

/-- The fields of a type of the platform that stand in a row. -/
def targetOfRow (entries : List (Datum × Datum)) : Option TargetType := do
  let slots ← (Datum.map entries).namedRecord ["name", "import", "primitive", "boxed"]
  return {
    name := ← slots.required "name" Datum.asText
    importName := ← slots.defaulted "import" none (Datum.asOptional Datum.asText)
    primitive := ← slots.defaulted "primitive" false Datum.asFlag
    boxed := ← slots.defaulted "boxed" none (Datum.asOptional Datum.asText) }

/-- A row of the table of types. -/
def typeRow : Read TypeRow := fun levels node => do
  match levels, ← node.follow with
  | n + 1, .map _ entries =>
    let pairs ← entries.mapM fun (k, v) => do return (← text n k, v)
    let (own, others) := pairs.partition fun e => ["type", "format"].contains e.1
    let slots ← Reading.ofOption
      (Slots.named ["type", "format"] (own.map fun (k, v) => (some k, v)))
    let rest ← others.mapM fun (k, v) => do return (Datum.text k, ← v.buffer n)
    return {
      type := ← slots.required "type" (choice SchemaType.ofKeyword? n)
      format := ← slots.defaulted "format" none (optional text n)
      target := ← Reading.ofOption (targetOfRow rest) }
  | _, _ => failure

/-- How a container is written. -/
def containerSyntax : Read ContainerSyntax :=
  record ["template", "target", "empty_literal", "empty_imports", "literal_template",
      "literal_imports"] fun n slots => do
    return {
      template := ← slots.required "template" (text n)
      target := ← slots.required "target" (targetType n)
      emptyLiteral := ← slots.defaulted "empty_literal" none (optional text n)
      emptyImports := ← slots.defaulted "empty_imports" [] (texts n)
      literalTemplate := ← slots.defaulted "literal_template" none (optional text n)
      literalImports := ← slots.defaulted "literal_imports" [] (texts n) }

/-- How a type is wrapped. -/
def wrapperSyntax : Read WrapperSyntax :=
  record ["template", "target"] fun n slots => do
    return {
      template := ← slots.required "template" (text n)
      target := ← slots.required "target" (targetType n) }

/-- How literals are written. -/
def literalSyntax : Read LiteralSyntax :=
  record ["string_quote", "null_literal", "true_literal", "false_literal", "numbers",
      "enum_member"] fun n slots => do
    return {
      quote := ← slots.defaulted "string_quote" '"' (character n)
      null := ← slots.required "null_literal" (text n)
      true := ← slots.required "true_literal" (text n)
      false := ← slots.required "false_literal" (text n)
      numbers := ← slots.defaulted "numbers" [] (map text n)
      enumMember := ← slots.required "enum_member" (text n) }

/-- How names are made. -/
def namingRules : Read NamingRules :=
  record ["field_case", "enum_member_case", "api_suffix", "reserved_prefix",
      "enum_fallback_member"] fun n slots => do
    return {
      fieldCase := ← slots.required "field_case" (choice NameCase.ofKeyword? n)
      memberCase := ← slots.required "enum_member_case" (choice NameCase.ofKeyword? n)
      apiSuffix := ← slots.required "api_suffix" (text n)
      reservedPrefix := ← slots.required "reserved_prefix" (text n)
      fallbackMember := ← slots.required "enum_fallback_member" (text n) }

/-- A profile. -/
def profile : Read Profile :=
  record ["id", "spec_file_location", "types", "any", "void", "response", "array", "map",
      "async_wrapper", "reactive_wrapper", "async_requires_boxed", "box_nullable_primitives",
      "implementation_returns_response", "model_import", "models_share_namespace",
      "literals", "naming", "reserved_words"] fun n slots => do
    return {
      id := ← slots.required "id" (text n)
      specLocation := ← slots.required "spec_file_location" (text n)
      rows := ← slots.required "types" (list typeRow n)
      any := ← slots.required "any" (targetType n)
      void := ← slots.required "void" (targetType n)
      response := ← slots.required "response" (targetType n)
      array := ← slots.required "array" (containerSyntax n)
      map := ← slots.required "map" (containerSyntax n)
      asyncWrapper := ← slots.required "async_wrapper" (wrapperSyntax n)
      reactiveWrapper := ← slots.defaulted "reactive_wrapper" none (optional wrapperSyntax n)
      asyncRequiresBoxed := ← slots.defaulted "async_requires_boxed" false (flag n)
      boxNullablePrimitives := ← slots.defaulted "box_nullable_primitives" false (flag n)
      implementationReturnsResponse :=
        ← slots.defaulted "implementation_returns_response" false (flag n)
      modelImport := ← slots.defaulted "model_import" none (optional text n)
      modelsShareNamespace := ← slots.defaulted "models_share_namespace" false (flag n)
      literals := ← slots.required "literals" (literalSyntax n)
      naming := ← slots.required "naming" (namingRules n)
      reservedWords := ← slots.defaulted "reserved_words" [] (texts n) }

end Read

/-- The profile of a text. -/
def Profile.ofYaml (text : String) : Option Profile := do
  (← Yaml.parse text).read Read.profile

end ApiModel
