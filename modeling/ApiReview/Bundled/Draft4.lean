import ApiReview.Json.Basic

/-!
The schema of schemas: what a schema of draft 4 has to look like. It has two forms. The
published one asks for lists of different values; the one that schemas are checked by takes
any list, but asks for identifiers that are complete.
-/
namespace ApiReview.Bundled.Draft4

namespace Definitions

def schemaArray : Json :=
  .object [
    ("type", .string "array"), ("minItems", .int 1), ("items", .object [("$ref", .string "#")])]

def positiveInteger : Json :=
  .object [("type", .string "integer"), ("minimum", .int 0)]

def positiveIntegerDefault0 : Json :=
  .object [
    ("allOf", .array [
      .object [("$ref", .string "#/definitions/positiveInteger")],
      .object [("default", .int 0)]])]

def simpleTypes : Json :=
  .object [
    ("enum", .array [
      .string "array",
      .string "boolean",
      .string "integer",
      .string "null",
      .string "number",
      .string "object",
      .string "string"])]

def stringArray : Json :=
  .object [
    ("type", .string "array"), ("items", .object [("type", .string "string")]),
    ("minItems", .int 1), ("uniqueItems", .bool true)]

end Definitions

/-- The parts that the others refer to, by their names. -/
def definitions : Json :=
  .object [
    ("schemaArray", Definitions.schemaArray), ("positiveInteger", Definitions.positiveInteger),
    ("positiveIntegerDefault0", Definitions.positiveIntegerDefault0),
    ("simpleTypes", Definitions.simpleTypes), ("stringArray", Definitions.stringArray)]

/-- The members of a schema, by what its identifiers and its list of values have to be. -/
def propertiesWith (identifier values : Json) : Json :=
  .object [
    ("id", identifier), ("$schema", identifier),
    ("title", .object [("type", .string "string")]),
    ("description", .object [("type", .string "string")]), ("default", .object []),
    ("multipleOf", .object [
      ("type", .string "number"), ("minimum", .int 0), ("exclusiveMinimum", .bool true)]),
    ("maximum", .object [("type", .string "number")]),
    ("exclusiveMaximum", .object [("type", .string "boolean"), ("default", .bool false)]),
    ("minimum", .object [("type", .string "number")]),
    ("exclusiveMinimum", .object [("type", .string "boolean"), ("default", .bool false)]),
    ("maxLength", .object [("$ref", .string "#/definitions/positiveInteger")]),
    ("minLength", .object [("$ref", .string "#/definitions/positiveIntegerDefault0")]),
    ("pattern", .object [("type", .string "string"), ("format", .string "regex")]),
    ("additionalItems", .object [
      ("anyOf", .array [.object [("type", .string "boolean")], .object [("$ref", .string "#")]]),
      ("default", .object [])]),
    ("items", .object [
      ("anyOf", .array [
        .object [("$ref", .string "#")],
        .object [("$ref", .string "#/definitions/schemaArray")]]),
      ("default", .object [])]),
    ("maxItems", .object [("$ref", .string "#/definitions/positiveInteger")]),
    ("minItems", .object [("$ref", .string "#/definitions/positiveIntegerDefault0")]),
    ("uniqueItems", .object [("type", .string "boolean"), ("default", .bool false)]),
    ("maxProperties", .object [("$ref", .string "#/definitions/positiveInteger")]),
    ("minProperties", .object [("$ref", .string "#/definitions/positiveIntegerDefault0")]),
    ("required", .object [("$ref", .string "#/definitions/stringArray")]),
    ("additionalProperties", .object [
      ("anyOf", .array [.object [("type", .string "boolean")], .object [("$ref", .string "#")]]),
      ("default", .object [])]),
    ("definitions", .object [
      ("type", .string "object"), ("additionalProperties", .object [("$ref", .string "#")]),
      ("default", .object [])]),
    ("properties", .object [
      ("type", .string "object"), ("additionalProperties", .object [("$ref", .string "#")]),
      ("default", .object [])]),
    ("patternProperties", .object [
      ("type", .string "object"), ("additionalProperties", .object [("$ref", .string "#")]),
      ("default", .object [])]),
    ("dependencies", .object [
      ("type", .string "object"),
      ("additionalProperties", .object [
        ("anyOf", .array [
          .object [("$ref", .string "#")],
          .object [("$ref", .string "#/definitions/stringArray")]])])]),
    ("enum", values),
    ("type", .object [
      ("anyOf", .array [
        .object [("$ref", .string "#/definitions/simpleTypes")],
        .object [
          ("type", .string "array"),
          ("items", .object [("$ref", .string "#/definitions/simpleTypes")]), ("minItems", .int 1),
          ("uniqueItems", .bool true)]])]),
    ("format", .object [("type", .string "string")]),
    ("allOf", .object [("$ref", .string "#/definitions/schemaArray")]),
    ("anyOf", .object [("$ref", .string "#/definitions/schemaArray")]),
    ("oneOf", .object [("$ref", .string "#/definitions/schemaArray")]),
    ("not", .object [("$ref", .string "#")])]

def documentWith (identifier values : Json) : Json :=
  .object [
    ("id", .string "http://json-schema.org/draft-04/schema#"),
    ("$schema", .string "http://json-schema.org/draft-04/schema#"),
    ("description", .string "Core schema meta-schema"), ("definitions", definitions),
    ("type", .string "object"), ("properties", propertiesWith identifier values),
    ("dependencies", .object [
      ("exclusiveMaximum", .array [.string "maximum"]),
      ("exclusiveMinimum", .array [.string "minimum"])]),
    ("default", .object [])]

/-- The published form. -/
def document : Json :=
  documentWith (.object [("type", .string "string")])
    (.object [("type", .string "array"), ("minItems", .int 1), ("uniqueItems", .bool true)])

/-- The form that schemas are checked by, and that references lead to. -/
def applied : Json :=
  documentWith (.object [("format", .string "uri"), ("type", .string "string")])
    (.object [("type", .string "array")])

end ApiReview.Bundled.Draft4
