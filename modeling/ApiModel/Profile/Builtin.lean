import ApiModel.Profile.Decode

/-!
# The profiles that come with the program

## Main definitions

* `Profile.jaxrsSpec`: server interfaces and models of JAX-RS.
* `Profile.typescript`: clients in TypeScript.
* `Profile.builtin?`: the profile of a name.
-/

namespace ApiModel.Profile

/-- Server interfaces and models of JAX-RS. -/
def jaxrsSpec : Profile where
  id := "jaxrs_spec"
  specLocation := "src/main/openapi/openapi.yaml"
  rows :=
    [ ⟨.integer, none, { name := "int", primitive := true, boxed := some "Integer" }⟩,
      ⟨.integer, some "int32", { name := "int", primitive := true, boxed := some "Integer" }⟩,
      ⟨.integer, some "int64", { name := "long", primitive := true, boxed := some "Long" }⟩,
      ⟨.integer, some "*", { name := "int", primitive := true, boxed := some "Integer" }⟩,
      ⟨.number, none, { name := "BigDecimal", importName := some "java.math.BigDecimal" }⟩,
      ⟨.number, some "float", { name := "float", primitive := true, boxed := some "Float" }⟩,
      ⟨.number, some "double", { name := "double", primitive := true, boxed := some "Double" }⟩,
      ⟨.number, some "*", { name := "BigDecimal", importName := some "java.math.BigDecimal" }⟩,
      ⟨.boolean, none, { name := "boolean", primitive := true, boxed := some "Boolean" }⟩,
      ⟨.string, none, { name := "String" }⟩,
      ⟨.string, some "date", { name := "LocalDate", importName := some "java.time.LocalDate" }⟩,
      ⟨.string, some "date-time",
        { name := "OffsetDateTime", importName := some "java.time.OffsetDateTime" }⟩,
      ⟨.string, some "byte", { name := "byte[]" }⟩,
      ⟨.string, some "binary", { name := "byte[]" }⟩,
      ⟨.string, some "uuid", { name := "UUID", importName := some "java.util.UUID" }⟩,
      ⟨.string, some "uri", { name := "URI", importName := some "java.net.URI" }⟩,
      ⟨.string, some "*", { name := "String" }⟩]
  any := { name := "Object" }
  void := { name := "void", primitive := true, boxed := some "Void" }
  response := { name := "Response", importName := some "javax.ws.rs.core.Response" }
  array := {
    template := "List<\x7bitem\x7d>"
    target := { name := "List", importName := some "java.util.List" }
    emptyLiteral := some "new ArrayList<>()"
    emptyImports := ["java.util.ArrayList"]
    literalTemplate := some "new ArrayList<>(Arrays.asList(\x7bitem\x7d))"
    literalImports := ["java.util.ArrayList", "java.util.Arrays"] }
  map := {
    template := "Map<String, \x7bitem\x7d>"
    target := { name := "Map", importName := some "java.util.Map" }
    emptyLiteral := some "new HashMap<>()"
    emptyImports := ["java.util.HashMap"] }
  asyncWrapper := {
    template := "CompletionStage<\x7bitem\x7d>"
    target :=
      { name := "CompletionStage", importName := some "java.util.concurrent.CompletionStage" } }
  reactiveWrapper := some {
    template := "Uni<\x7bitem\x7d>"
    target := { name := "Uni", importName := some "io.smallrye.mutiny.Uni" } }
  asyncRequiresBoxed := true
  boxNullablePrimitives := true
  implementationReturnsResponse := true
  modelImport := some "org.openapitools.model.\x7bitem\x7d"
  modelsShareNamespace := true
  literals := {
    quote := '"'
    null := "null"
    true := "true"
    false := "false"
    numbers :=
      [("long", "\x7bitem\x7dL"), ("Long", "\x7bitem\x7dL"),
        ("float", "\x7bitem\x7df"), ("Float", "\x7bitem\x7df"),
        ("double", "\x7bitem\x7dd"), ("Double", "\x7bitem\x7dd"),
        ("BigDecimal", "new BigDecimal(\"\x7bitem\x7d\")")]
    enumMember := "\x7btype\x7d.\x7bmember\x7d" }
  naming := {
    fieldCase := .camel
    memberCase := .screamingSnake
    apiSuffix := "Api"
    reservedPrefix := "_"
    fallbackMember := "UNKNOWN_DEFAULT_OPEN_API" }
  reservedWords :=
    ["abstract", "assert", "boolean", "break", "byte", "case", "catch", "char", "class", "const",
     "continue", "default", "do", "double", "else", "enum", "extends", "final", "finally",
     "float", "for", "goto", "if", "implements", "import", "instanceof", "int", "interface",
     "long", "native", "new", "null", "package", "private", "protected", "public", "return",
     "short", "static", "strictfp", "super", "switch", "synchronized", "this", "throw", "throws",
     "transient", "try", "void", "volatile", "while", "true", "false"]

/-- Clients in TypeScript. -/
def typescript : Profile where
  id := "typescript"
  specLocation := "openapi.yaml"
  rows :=
    [ ⟨.integer, none, { name := "number", primitive := true }⟩,
      ⟨.integer, some "*", { name := "number", primitive := true }⟩,
      ⟨.number, none, { name := "number", primitive := true }⟩,
      ⟨.number, some "*", { name := "number", primitive := true }⟩,
      ⟨.boolean, none, { name := "boolean", primitive := true }⟩,
      ⟨.string, none, { name := "string", primitive := true }⟩,
      ⟨.string, some "date", { name := "Date" }⟩,
      ⟨.string, some "date-time", { name := "Date" }⟩,
      ⟨.string, some "binary", { name := "Blob" }⟩,
      ⟨.string, some "*", { name := "string", primitive := true }⟩]
  any := { name := "any", primitive := true }
  void := { name := "void", primitive := true }
  response := { name := "Response" }
  array := {
    template := "Array<\x7bitem\x7d>"
    target := { name := "Array" }
    emptyLiteral := some "[]"
    literalTemplate := some "[\x7bitem\x7d]" }
  map := {
    template := "\x7b [key: string]: \x7bitem\x7d; \x7d"
    target := { name := "Record" }
    emptyLiteral := some "\x7b\x7d" }
  asyncWrapper := {
    template := "Promise<\x7bitem\x7d>"
    target := { name := "Promise" } }
  modelImport := some "./\x7bitem\x7d"
  literals := {
    quote := '\''
    null := "null"
    true := "true"
    false := "false"
    enumMember := "\x7btype\x7d.\x7bmember\x7d" }
  naming := {
    fieldCase := .camel
    memberCase := .pascal
    apiSuffix := "Api"
    reservedPrefix := "_"
    fallbackMember := "UnknownDefaultOpenApi" }
  reservedWords :=
    ["break", "case", "catch", "class", "const", "continue", "debugger", "default", "delete",
     "do", "else", "enum", "export", "extends", "false", "finally", "for", "function", "if",
     "import", "in", "instanceof", "new", "null", "return", "super", "switch", "this", "throw",
     "true", "try", "typeof", "var", "void", "while", "with"]

/-- The profile of a name, among those that come with the program. -/
def builtin? : String → Option Profile
  | "jaxrs_spec" => some jaxrsSpec
  | "typescript" => some typescript
  | _ => none

end ApiModel.Profile
