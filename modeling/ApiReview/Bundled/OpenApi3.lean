import ApiReview.Json.Basic

/-!
The published schema of the newer dialect.
-/
namespace ApiReview.Bundled.OpenApi3

namespace Definitions

def reference : Json :=
  .object [
    ("type", .string "object"), ("required", .array [.string "$ref"]),
    ("patternProperties", .object [
      ("^\\$ref$", .object [("type", .string "string"), ("format", .string "uri-reference")])])]

def info : Json :=
  .object [
    ("type", .string "object"), ("required", .array [.string "title", .string "version"]),
    ("properties", .object [
      ("title", .object [("type", .string "string")]),
      ("description", .object [("type", .string "string")]),
      ("termsOfService", .object [("type", .string "string"), ("format", .string "uri-reference")]),
      ("contact", .object [("$ref", .string "#/definitions/Contact")]),
      ("license", .object [("$ref", .string "#/definitions/License")]),
      ("version", .object [("type", .string "string")])]),
    ("patternProperties", .object [("^x-", .object [])]), ("additionalProperties", .bool false)]

def contact : Json :=
  .object [
    ("type", .string "object"),
    ("properties", .object [
      ("name", .object [("type", .string "string")]),
      ("url", .object [("type", .string "string"), ("format", .string "uri-reference")]),
      ("email", .object [("type", .string "string"), ("format", .string "email")])]),
    ("patternProperties", .object [("^x-", .object [])]), ("additionalProperties", .bool false)]

def license : Json :=
  .object [
    ("type", .string "object"), ("required", .array [.string "name"]),
    ("properties", .object [
      ("name", .object [("type", .string "string")]),
      ("url", .object [("type", .string "string"), ("format", .string "uri-reference")])]),
    ("patternProperties", .object [("^x-", .object [])]), ("additionalProperties", .bool false)]

def server : Json :=
  .object [
    ("type", .string "object"), ("required", .array [.string "url"]),
    ("properties", .object [
      ("url", .object [("type", .string "string")]),
      ("description", .object [("type", .string "string")]),
      ("variables", .object [
        ("type", .string "object"),
        ("additionalProperties", .object [("$ref", .string "#/definitions/ServerVariable")])])]),
    ("patternProperties", .object [("^x-", .object [])]), ("additionalProperties", .bool false)]

def serverVariable : Json :=
  .object [
    ("type", .string "object"), ("required", .array [.string "default"]),
    ("properties", .object [
      ("enum", .object [
        ("type", .string "array"), ("items", .object [("type", .string "string")])]),
      ("default", .object [("type", .string "string")]),
      ("description", .object [("type", .string "string")])]),
    ("patternProperties", .object [("^x-", .object [])]), ("additionalProperties", .bool false)]

def components : Json :=
  .object [
    ("type", .string "object"),
    ("properties", .object [
      ("schemas", .object [
        ("type", .string "object"),
        ("patternProperties", .object [
          ("^[a-zA-Z0-9\\.\\-_]+$", .object [
            ("oneOf", .array [
              .object [("$ref", .string "#/definitions/Schema")],
              .object [("$ref", .string "#/definitions/Reference")]])])])]),
      ("responses", .object [
        ("type", .string "object"),
        ("patternProperties", .object [
          ("^[a-zA-Z0-9\\.\\-_]+$", .object [
            ("oneOf", .array [
              .object [("$ref", .string "#/definitions/Reference")],
              .object [("$ref", .string "#/definitions/Response")]])])])]),
      ("parameters", .object [
        ("type", .string "object"),
        ("patternProperties", .object [
          ("^[a-zA-Z0-9\\.\\-_]+$", .object [
            ("oneOf", .array [
              .object [("$ref", .string "#/definitions/Reference")],
              .object [("$ref", .string "#/definitions/Parameter")]])])])]),
      ("examples", .object [
        ("type", .string "object"),
        ("patternProperties", .object [
          ("^[a-zA-Z0-9\\.\\-_]+$", .object [
            ("oneOf", .array [
              .object [("$ref", .string "#/definitions/Reference")],
              .object [("$ref", .string "#/definitions/Example")]])])])]),
      ("requestBodies", .object [
        ("type", .string "object"),
        ("patternProperties", .object [
          ("^[a-zA-Z0-9\\.\\-_]+$", .object [
            ("oneOf", .array [
              .object [("$ref", .string "#/definitions/Reference")],
              .object [("$ref", .string "#/definitions/RequestBody")]])])])]),
      ("headers", .object [
        ("type", .string "object"),
        ("patternProperties", .object [
          ("^[a-zA-Z0-9\\.\\-_]+$", .object [
            ("oneOf", .array [
              .object [("$ref", .string "#/definitions/Reference")],
              .object [("$ref", .string "#/definitions/Header")]])])])]),
      ("securitySchemes", .object [
        ("type", .string "object"),
        ("patternProperties", .object [
          ("^[a-zA-Z0-9\\.\\-_]+$", .object [
            ("oneOf", .array [
              .object [("$ref", .string "#/definitions/Reference")],
              .object [("$ref", .string "#/definitions/SecurityScheme")]])])])]),
      ("links", .object [
        ("type", .string "object"),
        ("patternProperties", .object [
          ("^[a-zA-Z0-9\\.\\-_]+$", .object [
            ("oneOf", .array [
              .object [("$ref", .string "#/definitions/Reference")],
              .object [("$ref", .string "#/definitions/Link")]])])])]),
      ("callbacks", .object [
        ("type", .string "object"),
        ("patternProperties", .object [
          ("^[a-zA-Z0-9\\.\\-_]+$", .object [
            ("oneOf", .array [
              .object [("$ref", .string "#/definitions/Reference")],
              .object [("$ref", .string "#/definitions/Callback")]])])])])]),
    ("patternProperties", .object [("^x-", .object [])]), ("additionalProperties", .bool false)]

def schema : Json :=
  .object [
    ("type", .string "object"),
    ("properties", .object [
      ("title", .object [("type", .string "string")]),
      ("multipleOf", .object [
        ("type", .string "number"), ("minimum", .int 0), ("exclusiveMinimum", .bool true)]),
      ("maximum", .object [("type", .string "number")]),
      ("exclusiveMaximum", .object [("type", .string "boolean"), ("default", .bool false)]),
      ("minimum", .object [("type", .string "number")]),
      ("exclusiveMinimum", .object [("type", .string "boolean"), ("default", .bool false)]),
      ("maxLength", .object [("type", .string "integer"), ("minimum", .int 0)]),
      ("minLength", .object [
        ("type", .string "integer"), ("minimum", .int 0), ("default", .int 0)]),
      ("pattern", .object [("type", .string "string"), ("format", .string "regex")]),
      ("maxItems", .object [("type", .string "integer"), ("minimum", .int 0)]),
      ("minItems", .object [("type", .string "integer"), ("minimum", .int 0), ("default", .int 0)]),
      ("uniqueItems", .object [("type", .string "boolean"), ("default", .bool false)]),
      ("maxProperties", .object [("type", .string "integer"), ("minimum", .int 0)]),
      ("minProperties", .object [
        ("type", .string "integer"), ("minimum", .int 0), ("default", .int 0)]),
      ("required", .object [
        ("type", .string "array"), ("items", .object [("type", .string "string")]),
        ("minItems", .int 1), ("uniqueItems", .bool true)]),
      ("enum", .object [
        ("type", .string "array"), ("items", .object []), ("minItems", .int 1),
        ("uniqueItems", .bool false)]),
      ("type", .object [
        ("type", .string "string"),
        ("enum", .array [
          .string "array",
          .string "boolean",
          .string "integer",
          .string "number",
          .string "object",
          .string "string"])]),
      ("not", .object [
        ("oneOf", .array [
          .object [("$ref", .string "#/definitions/Schema")],
          .object [("$ref", .string "#/definitions/Reference")]])]),
      ("allOf", .object [
        ("type", .string "array"),
        ("items", .object [
          ("oneOf", .array [
            .object [("$ref", .string "#/definitions/Schema")],
            .object [("$ref", .string "#/definitions/Reference")]])])]),
      ("oneOf", .object [
        ("type", .string "array"),
        ("items", .object [
          ("oneOf", .array [
            .object [("$ref", .string "#/definitions/Schema")],
            .object [("$ref", .string "#/definitions/Reference")]])])]),
      ("anyOf", .object [
        ("type", .string "array"),
        ("items", .object [
          ("oneOf", .array [
            .object [("$ref", .string "#/definitions/Schema")],
            .object [("$ref", .string "#/definitions/Reference")]])])]),
      ("items", .object [
        ("oneOf", .array [
          .object [("$ref", .string "#/definitions/Schema")],
          .object [("$ref", .string "#/definitions/Reference")]])]),
      ("properties", .object [
        ("type", .string "object"),
        ("additionalProperties", .object [
          ("oneOf", .array [
            .object [("$ref", .string "#/definitions/Schema")],
            .object [("$ref", .string "#/definitions/Reference")]])])]),
      ("additionalProperties", .object [
        ("oneOf", .array [
          .object [("$ref", .string "#/definitions/Schema")],
          .object [("$ref", .string "#/definitions/Reference")],
          .object [("type", .string "boolean")]]),
        ("default", .bool true)]),
      ("description", .object [("type", .string "string")]),
      ("format", .object [("type", .string "string")]), ("default", .object []),
      ("nullable", .object [("type", .string "boolean"), ("default", .bool false)]),
      ("discriminator", .object [("$ref", .string "#/definitions/Discriminator")]),
      ("readOnly", .object [("type", .string "boolean"), ("default", .bool false)]),
      ("writeOnly", .object [("type", .string "boolean"), ("default", .bool false)]),
      ("example", .object []),
      ("externalDocs", .object [("$ref", .string "#/definitions/ExternalDocumentation")]),
      ("deprecated", .object [("type", .string "boolean"), ("default", .bool false)]),
      ("xml", .object [("$ref", .string "#/definitions/XML")])]),
    ("patternProperties", .object [("^x-", .object [])]), ("additionalProperties", .bool false)]

def discriminator : Json :=
  .object [
    ("type", .string "object"), ("required", .array [.string "propertyName"]),
    ("properties", .object [
      ("propertyName", .object [("type", .string "string")]),
      ("mapping", .object [
        ("type", .string "object"),
        ("additionalProperties", .object [("type", .string "string")])])])]

def xml : Json :=
  .object [
    ("type", .string "object"),
    ("properties", .object [
      ("name", .object [("type", .string "string")]),
      ("namespace", .object [("type", .string "string"), ("format", .string "uri")]),
      ("prefix", .object [("type", .string "string")]),
      ("attribute", .object [("type", .string "boolean"), ("default", .bool false)]),
      ("wrapped", .object [("type", .string "boolean"), ("default", .bool false)])]),
    ("patternProperties", .object [("^x-", .object [])]), ("additionalProperties", .bool false)]

def response : Json :=
  .object [
    ("type", .string "object"), ("required", .array [.string "description"]),
    ("properties", .object [
      ("description", .object [("type", .string "string")]),
      ("headers", .object [
        ("type", .string "object"),
        ("additionalProperties", .object [
          ("oneOf", .array [
            .object [("$ref", .string "#/definitions/Header")],
            .object [("$ref", .string "#/definitions/Reference")]])])]),
      ("content", .object [
        ("type", .string "object"),
        ("additionalProperties", .object [("$ref", .string "#/definitions/MediaType")])]),
      ("links", .object [
        ("type", .string "object"),
        ("additionalProperties", .object [
          ("oneOf", .array [
            .object [("$ref", .string "#/definitions/Link")],
            .object [("$ref", .string "#/definitions/Reference")]])])])]),
    ("patternProperties", .object [("^x-", .object [])]), ("additionalProperties", .bool false)]

def mediaType : Json :=
  .object [
    ("type", .string "object"),
    ("properties", .object [
      ("schema", .object [
        ("oneOf", .array [
          .object [("$ref", .string "#/definitions/Schema")],
          .object [("$ref", .string "#/definitions/Reference")]])]),
      ("example", .object []),
      ("examples", .object [
        ("type", .string "object"),
        ("additionalProperties", .object [
          ("oneOf", .array [
            .object [("$ref", .string "#/definitions/Example")],
            .object [("$ref", .string "#/definitions/Reference")]])])]),
      ("encoding", .object [
        ("type", .string "object"),
        ("additionalProperties", .object [("$ref", .string "#/definitions/Encoding")])])]),
    ("patternProperties", .object [("^x-", .object [])]), ("additionalProperties", .bool false),
    ("allOf", .array [.object [("$ref", .string "#/definitions/ExampleXORExamples")]])]

def exampleObject : Json :=
  .object [
    ("type", .string "object"),
    ("properties", .object [
      ("summary", .object [("type", .string "string")]),
      ("description", .object [("type", .string "string")]), ("value", .object []),
      ("externalValue", .object [
        ("type", .string "string"), ("format", .string "uri-reference")])]),
    ("patternProperties", .object [("^x-", .object [])]), ("additionalProperties", .bool false)]

def header : Json :=
  .object [
    ("type", .string "object"),
    ("properties", .object [
      ("description", .object [("type", .string "string")]),
      ("required", .object [("type", .string "boolean"), ("default", .bool false)]),
      ("deprecated", .object [("type", .string "boolean"), ("default", .bool false)]),
      ("allowEmptyValue", .object [("type", .string "boolean"), ("default", .bool false)]),
      ("style", .object [
        ("type", .string "string"), ("enum", .array [.string "simple"]),
        ("default", .string "simple")]),
      ("explode", .object [("type", .string "boolean")]),
      ("allowReserved", .object [("type", .string "boolean"), ("default", .bool false)]),
      ("schema", .object [
        ("oneOf", .array [
          .object [("$ref", .string "#/definitions/Schema")],
          .object [("$ref", .string "#/definitions/Reference")]])]),
      ("content", .object [
        ("type", .string "object"),
        ("additionalProperties", .object [("$ref", .string "#/definitions/MediaType")]),
        ("minProperties", .int 1), ("maxProperties", .int 1)]),
      ("example", .object []),
      ("examples", .object [
        ("type", .string "object"),
        ("additionalProperties", .object [
          ("oneOf", .array [
            .object [("$ref", .string "#/definitions/Example")],
            .object [("$ref", .string "#/definitions/Reference")]])])])]),
    ("patternProperties", .object [("^x-", .object [])]), ("additionalProperties", .bool false),
    ("allOf", .array [
      .object [("$ref", .string "#/definitions/ExampleXORExamples")],
      .object [("$ref", .string "#/definitions/SchemaXORContent")]])]

def paths : Json :=
  .object [
    ("type", .string "object"),
    ("patternProperties", .object [
      ("^\\/", .object [("$ref", .string "#/definitions/PathItem")]), ("^x-", .object [])]),
    ("additionalProperties", .bool false)]

def pathItem : Json :=
  .object [
    ("type", .string "object"),
    ("properties", .object [
      ("$ref", .object [("type", .string "string")]),
      ("summary", .object [("type", .string "string")]),
      ("description", .object [("type", .string "string")]),
      ("servers", .object [
        ("type", .string "array"), ("items", .object [("$ref", .string "#/definitions/Server")])]),
      ("parameters", .object [
        ("type", .string "array"),
        ("items", .object [
          ("oneOf", .array [
            .object [("$ref", .string "#/definitions/Parameter")],
            .object [("$ref", .string "#/definitions/Reference")]])]),
        ("uniqueItems", .bool true)])]),
    ("patternProperties", .object [
      ("^(get|put|post|delete|options|head|patch|trace)$", .object [
        ("$ref", .string "#/definitions/Operation")]),
      ("^x-", .object [])]),
    ("additionalProperties", .bool false)]

def operation : Json :=
  .object [
    ("type", .string "object"), ("required", .array [.string "responses"]),
    ("properties", .object [
      ("tags", .object [
        ("type", .string "array"), ("items", .object [("type", .string "string")])]),
      ("summary", .object [("type", .string "string")]),
      ("description", .object [("type", .string "string")]),
      ("externalDocs", .object [("$ref", .string "#/definitions/ExternalDocumentation")]),
      ("operationId", .object [("type", .string "string")]),
      ("parameters", .object [
        ("type", .string "array"),
        ("items", .object [
          ("oneOf", .array [
            .object [("$ref", .string "#/definitions/Parameter")],
            .object [("$ref", .string "#/definitions/Reference")]])]),
        ("uniqueItems", .bool true)]),
      ("requestBody", .object [
        ("oneOf", .array [
          .object [("$ref", .string "#/definitions/RequestBody")],
          .object [("$ref", .string "#/definitions/Reference")]])]),
      ("responses", .object [("$ref", .string "#/definitions/Responses")]),
      ("callbacks", .object [
        ("type", .string "object"),
        ("additionalProperties", .object [
          ("oneOf", .array [
            .object [("$ref", .string "#/definitions/Callback")],
            .object [("$ref", .string "#/definitions/Reference")]])])]),
      ("deprecated", .object [("type", .string "boolean"), ("default", .bool false)]),
      ("security", .object [
        ("type", .string "array"),
        ("items", .object [("$ref", .string "#/definitions/SecurityRequirement")])]),
      ("servers", .object [
        ("type", .string "array"),
        ("items", .object [("$ref", .string "#/definitions/Server")])])]),
    ("patternProperties", .object [("^x-", .object [])]), ("additionalProperties", .bool false)]

def responses : Json :=
  .object [
    ("type", .string "object"),
    ("properties", .object [
      ("default", .object [
        ("oneOf", .array [
          .object [("$ref", .string "#/definitions/Response")],
          .object [("$ref", .string "#/definitions/Reference")]])])]),
    ("patternProperties", .object [
      ("^[1-5](?:\\d\x7b2\x7d|XX)$", .object [
        ("oneOf", .array [
          .object [("$ref", .string "#/definitions/Response")],
          .object [("$ref", .string "#/definitions/Reference")]])]),
      ("^x-", .object [])]),
    ("minProperties", .int 1), ("additionalProperties", .bool false)]

def securityRequirement : Json :=
  .object [
    ("type", .string "object"),
    ("additionalProperties", .object [
      ("type", .string "array"), ("items", .object [("type", .string "string")])])]

def tag : Json :=
  .object [
    ("type", .string "object"), ("required", .array [.string "name"]),
    ("properties", .object [
      ("name", .object [("type", .string "string")]),
      ("description", .object [("type", .string "string")]),
      ("externalDocs", .object [("$ref", .string "#/definitions/ExternalDocumentation")])]),
    ("patternProperties", .object [("^x-", .object [])]), ("additionalProperties", .bool false)]

def externalDocumentation : Json :=
  .object [
    ("type", .string "object"), ("required", .array [.string "url"]),
    ("properties", .object [
      ("description", .object [("type", .string "string")]),
      ("url", .object [("type", .string "string"), ("format", .string "uri-reference")])]),
    ("patternProperties", .object [("^x-", .object [])]), ("additionalProperties", .bool false)]

def exampleXORExamples : Json :=
  .object [
    ("description", .string "Example and examples are mutually exclusive"),
    ("not", .object [("required", .array [.string "example", .string "examples"])])]

def schemaXORContent : Json :=
  .object [
    ("description", .string "Schema and content are mutually exclusive, at least one is required"),
    ("not", .object [("required", .array [.string "schema", .string "content"])]),
    ("oneOf", .array [
      .object [("required", .array [.string "schema"])],
      .object [
        ("required", .array [.string "content"]),
        ("description", .string "Some properties are not allowed if content is present"),
        ("allOf", .array [
          .object [("not", .object [("required", .array [.string "style"])])],
          .object [("not", .object [("required", .array [.string "explode"])])],
          .object [("not", .object [("required", .array [.string "allowReserved"])])],
          .object [("not", .object [("required", .array [.string "example"])])],
          .object [("not", .object [("required", .array [.string "examples"])])]])]])]

def parameter : Json :=
  .object [
    ("type", .string "object"),
    ("properties", .object [
      ("name", .object [("type", .string "string")]), ("in", .object [("type", .string "string")]),
      ("description", .object [("type", .string "string")]),
      ("required", .object [("type", .string "boolean"), ("default", .bool false)]),
      ("deprecated", .object [("type", .string "boolean"), ("default", .bool false)]),
      ("allowEmptyValue", .object [("type", .string "boolean"), ("default", .bool false)]),
      ("style", .object [("type", .string "string")]),
      ("explode", .object [("type", .string "boolean")]),
      ("allowReserved", .object [("type", .string "boolean"), ("default", .bool false)]),
      ("schema", .object [
        ("oneOf", .array [
          .object [("$ref", .string "#/definitions/Schema")],
          .object [("$ref", .string "#/definitions/Reference")]])]),
      ("content", .object [
        ("type", .string "object"),
        ("additionalProperties", .object [("$ref", .string "#/definitions/MediaType")]),
        ("minProperties", .int 1), ("maxProperties", .int 1)]),
      ("example", .object []),
      ("examples", .object [
        ("type", .string "object"),
        ("additionalProperties", .object [
          ("oneOf", .array [
            .object [("$ref", .string "#/definitions/Example")],
            .object [("$ref", .string "#/definitions/Reference")]])])])]),
    ("patternProperties", .object [("^x-", .object [])]), ("additionalProperties", .bool false),
    ("required", .array [.string "name", .string "in"]),
    ("allOf", .array [
      .object [("$ref", .string "#/definitions/ExampleXORExamples")],
      .object [("$ref", .string "#/definitions/SchemaXORContent")],
      .object [("$ref", .string "#/definitions/ParameterLocation")]])]

def parameterLocation : Json :=
  .object [
    ("description", .string "Parameter location"),
    ("oneOf", .array [
      .object [
        ("description", .string "Parameter in path"), ("required", .array [.string "required"]),
        ("properties", .object [
          ("in", .object [("enum", .array [.string "path"])]),
          ("style", .object [
            ("enum", .array [.string "matrix", .string "label", .string "simple"]),
            ("default", .string "simple")]),
          ("required", .object [("enum", .array [.bool true])])])],
      .object [
        ("description", .string "Parameter in query"),
        ("properties", .object [
          ("in", .object [("enum", .array [.string "query"])]),
          ("style", .object [
            ("enum", .array [
              .string "form",
              .string "spaceDelimited",
              .string "pipeDelimited",
              .string "deepObject"]),
            ("default", .string "form")])])],
      .object [
        ("description", .string "Parameter in header"),
        ("properties", .object [
          ("in", .object [("enum", .array [.string "header"])]),
          ("style", .object [
            ("enum", .array [.string "simple"]),
            ("default", .string "simple")])])],
      .object [
        ("description", .string "Parameter in cookie"),
        ("properties", .object [
          ("in", .object [("enum", .array [.string "cookie"])]),
          ("style", .object [("enum", .array [.string "form"]), ("default", .string "form")])])]])]

def requestBody : Json :=
  .object [
    ("type", .string "object"), ("required", .array [.string "content"]),
    ("properties", .object [
      ("description", .object [("type", .string "string")]),
      ("content", .object [
        ("type", .string "object"),
        ("additionalProperties", .object [("$ref", .string "#/definitions/MediaType")])]),
      ("required", .object [("type", .string "boolean"), ("default", .bool false)])]),
    ("patternProperties", .object [("^x-", .object [])]), ("additionalProperties", .bool false)]

def securityScheme : Json :=
  .object [
    ("oneOf", .array [
      .object [("$ref", .string "#/definitions/APIKeySecurityScheme")],
      .object [("$ref", .string "#/definitions/HTTPSecurityScheme")],
      .object [("$ref", .string "#/definitions/OAuth2SecurityScheme")],
      .object [("$ref", .string "#/definitions/OpenIdConnectSecurityScheme")]])]

def apiKeySecurityScheme : Json :=
  .object [
    ("type", .string "object"), ("required", .array [.string "type", .string "name", .string "in"]),
    ("properties", .object [
      ("type", .object [("type", .string "string"), ("enum", .array [.string "apiKey"])]),
      ("name", .object [("type", .string "string")]),
      ("in", .object [
        ("type", .string "string"),
        ("enum", .array [.string "header", .string "query", .string "cookie"])]),
      ("description", .object [("type", .string "string")])]),
    ("patternProperties", .object [("^x-", .object [])]), ("additionalProperties", .bool false)]

def httpSecurityScheme : Json :=
  .object [
    ("type", .string "object"), ("required", .array [.string "scheme", .string "type"]),
    ("properties", .object [
      ("scheme", .object [("type", .string "string")]),
      ("bearerFormat", .object [("type", .string "string")]),
      ("description", .object [("type", .string "string")]),
      ("type", .object [("type", .string "string"), ("enum", .array [.string "http"])])]),
    ("patternProperties", .object [("^x-", .object [])]), ("additionalProperties", .bool false),
    ("oneOf", .array [
      .object [
        ("description", .string "Bearer"),
        ("properties", .object [
          ("scheme", .object [
            ("type", .string "string"),
            ("pattern", .string "^[Bb][Ee][Aa][Rr][Ee][Rr]$")])])],
      .object [
        ("description", .string "Non Bearer"),
        ("not", .object [("required", .array [.string "bearerFormat"])]),
        ("properties", .object [
          ("scheme", .object [
            ("not", .object [
              ("type", .string "string"),
              ("pattern", .string "^[Bb][Ee][Aa][Rr][Ee][Rr]$")])])])]])]

def oauth2SecurityScheme : Json :=
  .object [
    ("type", .string "object"), ("required", .array [.string "type", .string "flows"]),
    ("properties", .object [
      ("type", .object [("type", .string "string"), ("enum", .array [.string "oauth2"])]),
      ("flows", .object [("$ref", .string "#/definitions/OAuthFlows")]),
      ("description", .object [("type", .string "string")])]),
    ("patternProperties", .object [("^x-", .object [])]), ("additionalProperties", .bool false)]

def openIdConnectSecurityScheme : Json :=
  .object [
    ("type", .string "object"), ("required", .array [.string "type", .string "openIdConnectUrl"]),
    ("properties", .object [
      ("type", .object [("type", .string "string"), ("enum", .array [.string "openIdConnect"])]),
      ("openIdConnectUrl", .object [
        ("type", .string "string"), ("format", .string "uri-reference")]),
      ("description", .object [("type", .string "string")])]),
    ("patternProperties", .object [("^x-", .object [])]), ("additionalProperties", .bool false)]

def oauthFlows : Json :=
  .object [
    ("type", .string "object"),
    ("properties", .object [
      ("implicit", .object [("$ref", .string "#/definitions/ImplicitOAuthFlow")]),
      ("password", .object [("$ref", .string "#/definitions/PasswordOAuthFlow")]),
      ("clientCredentials", .object [("$ref", .string "#/definitions/ClientCredentialsFlow")]),
      ("authorizationCode", .object [
        ("$ref", .string "#/definitions/AuthorizationCodeOAuthFlow")])]),
    ("patternProperties", .object [("^x-", .object [])]), ("additionalProperties", .bool false)]

def implicitOAuthFlow : Json :=
  .object [
    ("type", .string "object"), ("required", .array [.string "authorizationUrl", .string "scopes"]),
    ("properties", .object [
      ("authorizationUrl", .object [
        ("type", .string "string"), ("format", .string "uri-reference")]),
      ("refreshUrl", .object [("type", .string "string"), ("format", .string "uri-reference")]),
      ("scopes", .object [
        ("type", .string "object"),
        ("additionalProperties", .object [("type", .string "string")])])]),
    ("patternProperties", .object [("^x-", .object [])]), ("additionalProperties", .bool false)]

def passwordOAuthFlow : Json :=
  .object [
    ("type", .string "object"), ("required", .array [.string "tokenUrl", .string "scopes"]),
    ("properties", .object [
      ("tokenUrl", .object [("type", .string "string"), ("format", .string "uri-reference")]),
      ("refreshUrl", .object [("type", .string "string"), ("format", .string "uri-reference")]),
      ("scopes", .object [
        ("type", .string "object"),
        ("additionalProperties", .object [("type", .string "string")])])]),
    ("patternProperties", .object [("^x-", .object [])]), ("additionalProperties", .bool false)]

def clientCredentialsFlow : Json :=
  .object [
    ("type", .string "object"), ("required", .array [.string "tokenUrl", .string "scopes"]),
    ("properties", .object [
      ("tokenUrl", .object [("type", .string "string"), ("format", .string "uri-reference")]),
      ("refreshUrl", .object [("type", .string "string"), ("format", .string "uri-reference")]),
      ("scopes", .object [
        ("type", .string "object"),
        ("additionalProperties", .object [("type", .string "string")])])]),
    ("patternProperties", .object [("^x-", .object [])]), ("additionalProperties", .bool false)]

def authorizationCodeOAuthFlow : Json :=
  .object [
    ("type", .string "object"),
    ("required", .array [.string "authorizationUrl", .string "tokenUrl", .string "scopes"]),
    ("properties", .object [
      ("authorizationUrl", .object [
        ("type", .string "string"), ("format", .string "uri-reference")]),
      ("tokenUrl", .object [("type", .string "string"), ("format", .string "uri-reference")]),
      ("refreshUrl", .object [("type", .string "string"), ("format", .string "uri-reference")]),
      ("scopes", .object [
        ("type", .string "object"),
        ("additionalProperties", .object [("type", .string "string")])])]),
    ("patternProperties", .object [("^x-", .object [])]), ("additionalProperties", .bool false)]

def link : Json :=
  .object [
    ("type", .string "object"),
    ("properties", .object [
      ("operationId", .object [("type", .string "string")]),
      ("operationRef", .object [("type", .string "string"), ("format", .string "uri-reference")]),
      ("parameters", .object [("type", .string "object"), ("additionalProperties", .object [])]),
      ("requestBody", .object []), ("description", .object [("type", .string "string")]),
      ("server", .object [("$ref", .string "#/definitions/Server")])]),
    ("patternProperties", .object [("^x-", .object [])]), ("additionalProperties", .bool false),
    ("not", .object [
      ("description", .string "Operation Id and Operation Ref are mutually exclusive"),
      ("required", .array [.string "operationId", .string "operationRef"])])]

def callback : Json :=
  .object [
    ("type", .string "object"),
    ("additionalProperties", .object [("$ref", .string "#/definitions/PathItem")]),
    ("patternProperties", .object [("^x-", .object [])])]

def encoding : Json :=
  .object [
    ("type", .string "object"),
    ("properties", .object [
      ("contentType", .object [("type", .string "string")]),
      ("headers", .object [
        ("type", .string "object"),
        ("additionalProperties", .object [
          ("oneOf", .array [
            .object [("$ref", .string "#/definitions/Header")],
            .object [("$ref", .string "#/definitions/Reference")]])])]),
      ("style", .object [
        ("type", .string "string"),
        ("enum", .array [
          .string "form",
          .string "spaceDelimited",
          .string "pipeDelimited",
          .string "deepObject"])]),
      ("explode", .object [("type", .string "boolean")]),
      ("allowReserved", .object [("type", .string "boolean"), ("default", .bool false)])]),
    ("patternProperties", .object [("^x-", .object [])]), ("additionalProperties", .bool false)]

end Definitions

/-- The parts that the others refer to, by their names. -/
def definitions : Json :=
  .object [
    ("Reference", Definitions.reference), ("Info", Definitions.info),
    ("Contact", Definitions.contact), ("License", Definitions.license),
    ("Server", Definitions.server), ("ServerVariable", Definitions.serverVariable),
    ("Components", Definitions.components), ("Schema", Definitions.schema),
    ("Discriminator", Definitions.discriminator), ("XML", Definitions.xml),
    ("Response", Definitions.response), ("MediaType", Definitions.mediaType),
    ("Example", Definitions.exampleObject), ("Header", Definitions.header),
    ("Paths", Definitions.paths), ("PathItem", Definitions.pathItem),
    ("Operation", Definitions.operation), ("Responses", Definitions.responses),
    ("SecurityRequirement", Definitions.securityRequirement), ("Tag", Definitions.tag),
    ("ExternalDocumentation", Definitions.externalDocumentation),
    ("ExampleXORExamples", Definitions.exampleXORExamples),
    ("SchemaXORContent", Definitions.schemaXORContent), ("Parameter", Definitions.parameter),
    ("ParameterLocation", Definitions.parameterLocation), ("RequestBody", Definitions.requestBody),
    ("SecurityScheme", Definitions.securityScheme),
    ("APIKeySecurityScheme", Definitions.apiKeySecurityScheme),
    ("HTTPSecurityScheme", Definitions.httpSecurityScheme),
    ("OAuth2SecurityScheme", Definitions.oauth2SecurityScheme),
    ("OpenIdConnectSecurityScheme", Definitions.openIdConnectSecurityScheme),
    ("OAuthFlows", Definitions.oauthFlows), ("ImplicitOAuthFlow", Definitions.implicitOAuthFlow),
    ("PasswordOAuthFlow", Definitions.passwordOAuthFlow),
    ("ClientCredentialsFlow", Definitions.clientCredentialsFlow),
    ("AuthorizationCodeOAuthFlow", Definitions.authorizationCodeOAuthFlow),
    ("Link", Definitions.link), ("Callback", Definitions.callback),
    ("Encoding", Definitions.encoding)]

/-- The members of an API description. -/
def properties : Json :=
  .object [
    ("openapi", .object [("type", .string "string"), ("pattern", .string "^3\\.0\\.\\d(-.+)?$")]),
    ("info", .object [("$ref", .string "#/definitions/Info")]),
    ("externalDocs", .object [("$ref", .string "#/definitions/ExternalDocumentation")]),
    ("servers", .object [
      ("type", .string "array"), ("items", .object [("$ref", .string "#/definitions/Server")])]),
    ("security", .object [
      ("type", .string "array"),
      ("items", .object [("$ref", .string "#/definitions/SecurityRequirement")])]),
    ("tags", .object [
      ("type", .string "array"), ("items", .object [("$ref", .string "#/definitions/Tag")]),
      ("uniqueItems", .bool true)]),
    ("paths", .object [("$ref", .string "#/definitions/Paths")]),
    ("components", .object [("$ref", .string "#/definitions/Components")])]

/-- The whole schema. -/
def document : Json :=
  .object [
    ("id", .string "https://spec.openapis.org/oas/3.0/schema/2021-09-28"),
    ("$schema", .string "http://json-schema.org/draft-04/schema#"),
    ("description", .string (
      "The description of OpenAPI v3.0.x documents, as defined by " ++
      "https://spec.openapis.org/oas/v3.0.3")),
    ("type", .string "object"),
    ("required", .array [.string "openapi", .string "info", .string "paths"]),
    ("properties", properties), ("patternProperties", .object [("^x-", .object [])]),
    ("additionalProperties", .bool false), ("definitions", definitions)]

end ApiReview.Bundled.OpenApi3
