import ApiReview.Json.Basic

/-!
The published schema of the older dialect.
-/
namespace ApiReview.Bundled.Swagger

namespace Definitions

def info : Json :=
  .object [
    ("type", .string "object"), ("description", .string "General information about the API."),
    ("required", .array [.string "version", .string "title"]),
    ("additionalProperties", .bool false),
    ("patternProperties", .object [
      ("^x-", .object [("$ref", .string "#/definitions/vendorExtension")])]),
    ("properties", .object [
      ("title", .object [
        ("type", .string "string"),
        ("description", .string "A unique and precise title of the API.")]),
      ("version", .object [
        ("type", .string "string"),
        ("description", .string "A semantic version number of the API.")]),
      ("description", .object [
        ("type", .string "string"),
        ("description", .string (
          "A longer description of the API. Should be different from the title.  GitHub " ++
          "Flavored Markdown is allowed."))]),
      ("termsOfService", .object [
        ("type", .string "string"), ("description", .string "The terms of service for the API.")]),
      ("contact", .object [("$ref", .string "#/definitions/contact")]),
      ("license", .object [("$ref", .string "#/definitions/license")])])]

def contact : Json :=
  .object [
    ("type", .string "object"),
    ("description", .string "Contact information for the owners of the API."),
    ("additionalProperties", .bool false),
    ("properties", .object [
      ("name", .object [
        ("type", .string "string"),
        ("description", .string "The identifying name of the contact person/organization.")]),
      ("url", .object [
        ("type", .string "string"),
        ("description", .string "The URL pointing to the contact information."),
        ("format", .string "uri")]),
      ("email", .object [
        ("type", .string "string"),
        ("description", .string "The email address of the contact person/organization."),
        ("format", .string "email")])]),
    ("patternProperties", .object [
      ("^x-", .object [("$ref", .string "#/definitions/vendorExtension")])])]

def license : Json :=
  .object [
    ("type", .string "object"), ("required", .array [.string "name"]),
    ("additionalProperties", .bool false),
    ("properties", .object [
      ("name", .object [
        ("type", .string "string"),
        ("description", .string (
          "The name of the license type. It's encouraged to use an OSI compatible " ++
          "license."))]),
      ("url", .object [
        ("type", .string "string"), ("description", .string "The URL pointing to the license."),
        ("format", .string "uri")])]),
    ("patternProperties", .object [
      ("^x-", .object [("$ref", .string "#/definitions/vendorExtension")])])]

def paths : Json :=
  .object [
    ("type", .string "object"),
    ("description", .string (
      "Relative paths to the individual endpoints. They must be relative to the " ++
      "'basePath'.")),
    ("patternProperties", .object [
      ("^x-", .object [("$ref", .string "#/definitions/vendorExtension")]),
      ("^/", .object [("$ref", .string "#/definitions/pathItem")])]),
    ("additionalProperties", .bool false)]

def definitions : Json :=
  .object [
    ("type", .string "object"),
    ("additionalProperties", .object [("$ref", .string "#/definitions/schema")]),
    ("description", .string (
      "One or more JSON objects describing the schemas being consumed and produced by " ++
      "the API."))]

def parameterDefinitions : Json :=
  .object [
    ("type", .string "object"),
    ("additionalProperties", .object [("$ref", .string "#/definitions/parameter")]),
    ("description", .string "One or more JSON representations for parameters")]

def responseDefinitions : Json :=
  .object [
    ("type", .string "object"),
    ("additionalProperties", .object [("$ref", .string "#/definitions/response")]),
    ("description", .string "One or more JSON representations for responses")]

def externalDocs : Json :=
  .object [
    ("type", .string "object"), ("additionalProperties", .bool false),
    ("description", .string "information about external documentation"),
    ("required", .array [.string "url"]),
    ("properties", .object [
      ("description", .object [("type", .string "string")]),
      ("url", .object [("type", .string "string"), ("format", .string "uri")])]),
    ("patternProperties", .object [
      ("^x-", .object [("$ref", .string "#/definitions/vendorExtension")])])]

def examples : Json :=
  .object [("type", .string "object"), ("additionalProperties", .bool true)]

def mimeType : Json :=
  .object [
    ("type", .string "string"), ("description", .string "The MIME type of the HTTP message.")]

def operation : Json :=
  .object [
    ("type", .string "object"), ("required", .array [.string "responses"]),
    ("additionalProperties", .bool false),
    ("patternProperties", .object [
      ("^x-", .object [("$ref", .string "#/definitions/vendorExtension")])]),
    ("properties", .object [
      ("tags", .object [
        ("type", .string "array"), ("items", .object [("type", .string "string")]),
        ("uniqueItems", .bool true)]),
      ("summary", .object [
        ("type", .string "string"), ("description", .string "A brief summary of the operation.")]),
      ("description", .object [
        ("type", .string "string"),
        ("description",
          .string "A longer description of the operation, GitHub Flavored Markdown is allowed.")]),
      ("externalDocs", .object [("$ref", .string "#/definitions/externalDocs")]),
      ("operationId", .object [
        ("type", .string "string"),
        ("description", .string "A unique identifier of the operation.")]),
      ("produces", .object [
        ("description", .string "A list of MIME types the API can produce."),
        ("allOf", .array [.object [("$ref", .string "#/definitions/mediaTypeList")]])]),
      ("consumes", .object [
        ("description", .string "A list of MIME types the API can consume."),
        ("allOf", .array [.object [("$ref", .string "#/definitions/mediaTypeList")]])]),
      ("parameters", .object [("$ref", .string "#/definitions/parametersList")]),
      ("responses", .object [("$ref", .string "#/definitions/responses")]),
      ("schemes", .object [("$ref", .string "#/definitions/schemesList")]),
      ("deprecated", .object [("type", .string "boolean"), ("default", .bool false)]),
      ("security", .object [("$ref", .string "#/definitions/security")])])]

def pathItem : Json :=
  .object [
    ("type", .string "object"), ("additionalProperties", .bool false),
    ("patternProperties", .object [
      ("^x-", .object [("$ref", .string "#/definitions/vendorExtension")])]),
    ("properties", .object [
      ("$ref", .object [("type", .string "string")]),
      ("get", .object [("$ref", .string "#/definitions/operation")]),
      ("put", .object [("$ref", .string "#/definitions/operation")]),
      ("post", .object [("$ref", .string "#/definitions/operation")]),
      ("delete", .object [("$ref", .string "#/definitions/operation")]),
      ("options", .object [("$ref", .string "#/definitions/operation")]),
      ("head", .object [("$ref", .string "#/definitions/operation")]),
      ("patch", .object [("$ref", .string "#/definitions/operation")]),
      ("parameters", .object [("$ref", .string "#/definitions/parametersList")])])]

def responses : Json :=
  .object [
    ("type", .string "object"),
    ("description",
      .string "Response objects names can either be any valid HTTP status code or 'default'."),
    ("minProperties", .int 1), ("additionalProperties", .bool false),
    ("patternProperties", .object [
      ("^([0-9]\x7b3\x7d)$|^(default)$", .object [("$ref", .string "#/definitions/responseValue")]),
      ("^x-", .object [("$ref", .string "#/definitions/vendorExtension")])]),
    ("not", .object [
      ("type", .string "object"), ("additionalProperties", .bool false),
      ("patternProperties", .object [
        ("^x-", .object [("$ref", .string "#/definitions/vendorExtension")])])])]

def responseValue : Json :=
  .object [
    ("oneOf", .array [
      .object [("$ref", .string "#/definitions/response")],
      .object [("$ref", .string "#/definitions/jsonReference")]])]

def response : Json :=
  .object [
    ("type", .string "object"), ("required", .array [.string "description"]),
    ("properties", .object [
      ("description", .object [("type", .string "string")]),
      ("schema", .object [
        ("oneOf", .array [
          .object [("$ref", .string "#/definitions/schema")],
          .object [("$ref", .string "#/definitions/fileSchema")]])]),
      ("headers", .object [("$ref", .string "#/definitions/headers")]),
      ("examples", .object [("$ref", .string "#/definitions/examples")])]),
    ("additionalProperties", .bool false),
    ("patternProperties", .object [
      ("^x-", .object [("$ref", .string "#/definitions/vendorExtension")])])]

def headers : Json :=
  .object [
    ("type", .string "object"),
    ("additionalProperties", .object [("$ref", .string "#/definitions/header")])]

def header : Json :=
  .object [
    ("type", .string "object"), ("additionalProperties", .bool false),
    ("required", .array [.string "type"]),
    ("properties", .object [
      ("type", .object [
        ("type", .string "string"),
        ("enum", .array [
          .string "string",
          .string "number",
          .string "integer",
          .string "boolean",
          .string "array"])]),
      ("format", .object [("type", .string "string")]),
      ("items", .object [("$ref", .string "#/definitions/primitivesItems")]),
      ("collectionFormat", .object [("$ref", .string "#/definitions/collectionFormat")]),
      ("default", .object [("$ref", .string "#/definitions/default")]),
      ("maximum", .object [("$ref", .string "#/definitions/maximum")]),
      ("exclusiveMaximum", .object [("$ref", .string "#/definitions/exclusiveMaximum")]),
      ("minimum", .object [("$ref", .string "#/definitions/minimum")]),
      ("exclusiveMinimum", .object [("$ref", .string "#/definitions/exclusiveMinimum")]),
      ("maxLength", .object [("$ref", .string "#/definitions/maxLength")]),
      ("minLength", .object [("$ref", .string "#/definitions/minLength")]),
      ("pattern", .object [("$ref", .string "#/definitions/pattern")]),
      ("maxItems", .object [("$ref", .string "#/definitions/maxItems")]),
      ("minItems", .object [("$ref", .string "#/definitions/minItems")]),
      ("uniqueItems", .object [("$ref", .string "#/definitions/uniqueItems")]),
      ("enum", .object [("$ref", .string "#/definitions/enum")]),
      ("multipleOf", .object [("$ref", .string "#/definitions/multipleOf")]),
      ("description", .object [("type", .string "string")])]),
    ("patternProperties", .object [
      ("^x-", .object [("$ref", .string "#/definitions/vendorExtension")])])]

def vendorExtension : Json :=
  .object [
    ("description", .string "Any property starting with x- is valid."),
    ("additionalProperties", .bool true), ("additionalItems", .bool true)]

def bodyParameter : Json :=
  .object [
    ("type", .string "object"),
    ("required", .array [.string "name", .string "in", .string "schema"]),
    ("patternProperties", .object [
      ("^x-", .object [("$ref", .string "#/definitions/vendorExtension")])]),
    ("properties", .object [
      ("description", .object [
        ("type", .string "string"),
        ("description", .string (
          "A brief description of the parameter. This could contain examples of use.  " ++
          "GitHub Flavored Markdown is allowed."))]),
      ("name", .object [
        ("type", .string "string"), ("description", .string "The name of the parameter.")]),
      ("in", .object [
        ("type", .string "string"),
        ("description", .string "Determines the location of the parameter."),
        ("enum", .array [.string "body"])]),
      ("required", .object [
        ("type", .string "boolean"),
        ("description",
          .string "Determines whether or not this parameter is required or optional."),
        ("default", .bool false)]),
      ("schema", .object [("$ref", .string "#/definitions/schema")])]),
    ("additionalProperties", .bool false)]

def headerParameterSubSchema : Json :=
  .object [
    ("additionalProperties", .bool false),
    ("patternProperties", .object [
      ("^x-", .object [("$ref", .string "#/definitions/vendorExtension")])]),
    ("properties", .object [
      ("required", .object [
        ("type", .string "boolean"),
        ("description",
          .string "Determines whether or not this parameter is required or optional."),
        ("default", .bool false)]),
      ("in", .object [
        ("type", .string "string"),
        ("description", .string "Determines the location of the parameter."),
        ("enum", .array [.string "header"])]),
      ("description", .object [
        ("type", .string "string"),
        ("description", .string (
          "A brief description of the parameter. This could contain examples of use.  " ++
          "GitHub Flavored Markdown is allowed."))]),
      ("name", .object [
        ("type", .string "string"), ("description", .string "The name of the parameter.")]),
      ("type", .object [
        ("type", .string "string"),
        ("enum", .array [
          .string "string",
          .string "number",
          .string "boolean",
          .string "integer",
          .string "array"])]),
      ("format", .object [("type", .string "string")]),
      ("items", .object [("$ref", .string "#/definitions/primitivesItems")]),
      ("collectionFormat", .object [("$ref", .string "#/definitions/collectionFormat")]),
      ("default", .object [("$ref", .string "#/definitions/default")]),
      ("maximum", .object [("$ref", .string "#/definitions/maximum")]),
      ("exclusiveMaximum", .object [("$ref", .string "#/definitions/exclusiveMaximum")]),
      ("minimum", .object [("$ref", .string "#/definitions/minimum")]),
      ("exclusiveMinimum", .object [("$ref", .string "#/definitions/exclusiveMinimum")]),
      ("maxLength", .object [("$ref", .string "#/definitions/maxLength")]),
      ("minLength", .object [("$ref", .string "#/definitions/minLength")]),
      ("pattern", .object [("$ref", .string "#/definitions/pattern")]),
      ("maxItems", .object [("$ref", .string "#/definitions/maxItems")]),
      ("minItems", .object [("$ref", .string "#/definitions/minItems")]),
      ("uniqueItems", .object [("$ref", .string "#/definitions/uniqueItems")]),
      ("enum", .object [("$ref", .string "#/definitions/enum")]),
      ("multipleOf", .object [("$ref", .string "#/definitions/multipleOf")])])]

def queryParameterSubSchema : Json :=
  .object [
    ("additionalProperties", .bool false),
    ("patternProperties", .object [
      ("^x-", .object [("$ref", .string "#/definitions/vendorExtension")])]),
    ("properties", .object [
      ("required", .object [
        ("type", .string "boolean"),
        ("description",
          .string "Determines whether or not this parameter is required or optional."),
        ("default", .bool false)]),
      ("in", .object [
        ("type", .string "string"),
        ("description", .string "Determines the location of the parameter."),
        ("enum", .array [.string "query"])]),
      ("description", .object [
        ("type", .string "string"),
        ("description", .string (
          "A brief description of the parameter. This could contain examples of use.  " ++
          "GitHub Flavored Markdown is allowed."))]),
      ("name", .object [
        ("type", .string "string"), ("description", .string "The name of the parameter.")]),
      ("allowEmptyValue", .object [
        ("type", .string "boolean"), ("default", .bool false),
        ("description",
          .string "allows sending a parameter by name only or with an empty value.")]),
      ("type", .object [
        ("type", .string "string"),
        ("enum", .array [
          .string "string",
          .string "number",
          .string "boolean",
          .string "integer",
          .string "array"])]),
      ("format", .object [("type", .string "string")]),
      ("items", .object [("$ref", .string "#/definitions/primitivesItems")]),
      ("collectionFormat", .object [("$ref", .string "#/definitions/collectionFormatWithMulti")]),
      ("default", .object [("$ref", .string "#/definitions/default")]),
      ("maximum", .object [("$ref", .string "#/definitions/maximum")]),
      ("exclusiveMaximum", .object [("$ref", .string "#/definitions/exclusiveMaximum")]),
      ("minimum", .object [("$ref", .string "#/definitions/minimum")]),
      ("exclusiveMinimum", .object [("$ref", .string "#/definitions/exclusiveMinimum")]),
      ("maxLength", .object [("$ref", .string "#/definitions/maxLength")]),
      ("minLength", .object [("$ref", .string "#/definitions/minLength")]),
      ("pattern", .object [("$ref", .string "#/definitions/pattern")]),
      ("maxItems", .object [("$ref", .string "#/definitions/maxItems")]),
      ("minItems", .object [("$ref", .string "#/definitions/minItems")]),
      ("uniqueItems", .object [("$ref", .string "#/definitions/uniqueItems")]),
      ("enum", .object [("$ref", .string "#/definitions/enum")]),
      ("multipleOf", .object [("$ref", .string "#/definitions/multipleOf")])])]

def formDataParameterSubSchema : Json :=
  .object [
    ("additionalProperties", .bool false),
    ("patternProperties", .object [
      ("^x-", .object [("$ref", .string "#/definitions/vendorExtension")])]),
    ("properties", .object [
      ("required", .object [
        ("type", .string "boolean"),
        ("description",
          .string "Determines whether or not this parameter is required or optional."),
        ("default", .bool false)]),
      ("in", .object [
        ("type", .string "string"),
        ("description", .string "Determines the location of the parameter."),
        ("enum", .array [.string "formData"])]),
      ("description", .object [
        ("type", .string "string"),
        ("description", .string (
          "A brief description of the parameter. This could contain examples of use.  " ++
          "GitHub Flavored Markdown is allowed."))]),
      ("name", .object [
        ("type", .string "string"), ("description", .string "The name of the parameter.")]),
      ("allowEmptyValue", .object [
        ("type", .string "boolean"), ("default", .bool false),
        ("description",
          .string "allows sending a parameter by name only or with an empty value.")]),
      ("type", .object [
        ("type", .string "string"),
        ("enum", .array [
          .string "string",
          .string "number",
          .string "boolean",
          .string "integer",
          .string "array",
          .string "file"])]),
      ("format", .object [("type", .string "string")]),
      ("items", .object [("$ref", .string "#/definitions/primitivesItems")]),
      ("collectionFormat", .object [("$ref", .string "#/definitions/collectionFormatWithMulti")]),
      ("default", .object [("$ref", .string "#/definitions/default")]),
      ("maximum", .object [("$ref", .string "#/definitions/maximum")]),
      ("exclusiveMaximum", .object [("$ref", .string "#/definitions/exclusiveMaximum")]),
      ("minimum", .object [("$ref", .string "#/definitions/minimum")]),
      ("exclusiveMinimum", .object [("$ref", .string "#/definitions/exclusiveMinimum")]),
      ("maxLength", .object [("$ref", .string "#/definitions/maxLength")]),
      ("minLength", .object [("$ref", .string "#/definitions/minLength")]),
      ("pattern", .object [("$ref", .string "#/definitions/pattern")]),
      ("maxItems", .object [("$ref", .string "#/definitions/maxItems")]),
      ("minItems", .object [("$ref", .string "#/definitions/minItems")]),
      ("uniqueItems", .object [("$ref", .string "#/definitions/uniqueItems")]),
      ("enum", .object [("$ref", .string "#/definitions/enum")]),
      ("multipleOf", .object [("$ref", .string "#/definitions/multipleOf")])])]

def pathParameterSubSchema : Json :=
  .object [
    ("additionalProperties", .bool false),
    ("patternProperties", .object [
      ("^x-", .object [("$ref", .string "#/definitions/vendorExtension")])]),
    ("required", .array [.string "required"]),
    ("properties", .object [
      ("required", .object [
        ("type", .string "boolean"), ("enum", .array [.bool true]),
        ("description",
          .string "Determines whether or not this parameter is required or optional.")]),
      ("in", .object [
        ("type", .string "string"),
        ("description", .string "Determines the location of the parameter."),
        ("enum", .array [.string "path"])]),
      ("description", .object [
        ("type", .string "string"),
        ("description", .string (
          "A brief description of the parameter. This could contain examples of use.  " ++
          "GitHub Flavored Markdown is allowed."))]),
      ("name", .object [
        ("type", .string "string"), ("description", .string "The name of the parameter.")]),
      ("type", .object [
        ("type", .string "string"),
        ("enum", .array [
          .string "string",
          .string "number",
          .string "boolean",
          .string "integer",
          .string "array"])]),
      ("format", .object [("type", .string "string")]),
      ("items", .object [("$ref", .string "#/definitions/primitivesItems")]),
      ("collectionFormat", .object [("$ref", .string "#/definitions/collectionFormat")]),
      ("default", .object [("$ref", .string "#/definitions/default")]),
      ("maximum", .object [("$ref", .string "#/definitions/maximum")]),
      ("exclusiveMaximum", .object [("$ref", .string "#/definitions/exclusiveMaximum")]),
      ("minimum", .object [("$ref", .string "#/definitions/minimum")]),
      ("exclusiveMinimum", .object [("$ref", .string "#/definitions/exclusiveMinimum")]),
      ("maxLength", .object [("$ref", .string "#/definitions/maxLength")]),
      ("minLength", .object [("$ref", .string "#/definitions/minLength")]),
      ("pattern", .object [("$ref", .string "#/definitions/pattern")]),
      ("maxItems", .object [("$ref", .string "#/definitions/maxItems")]),
      ("minItems", .object [("$ref", .string "#/definitions/minItems")]),
      ("uniqueItems", .object [("$ref", .string "#/definitions/uniqueItems")]),
      ("enum", .object [("$ref", .string "#/definitions/enum")]),
      ("multipleOf", .object [("$ref", .string "#/definitions/multipleOf")])])]

def nonBodyParameter : Json :=
  .object [
    ("type", .string "object"), ("required", .array [.string "name", .string "in", .string "type"]),
    ("oneOf", .array [
      .object [("$ref", .string "#/definitions/headerParameterSubSchema")],
      .object [("$ref", .string "#/definitions/formDataParameterSubSchema")],
      .object [("$ref", .string "#/definitions/queryParameterSubSchema")],
      .object [("$ref", .string "#/definitions/pathParameterSubSchema")]])]

def parameter : Json :=
  .object [
    ("oneOf", .array [
      .object [("$ref", .string "#/definitions/bodyParameter")],
      .object [("$ref", .string "#/definitions/nonBodyParameter")]])]

def schema : Json :=
  .object [
    ("type", .string "object"),
    ("description", .string "A deterministic version of a JSON Schema object."),
    ("patternProperties", .object [
      ("^x-", .object [("$ref", .string "#/definitions/vendorExtension")])]),
    ("properties", .object [
      ("$ref", .object [("type", .string "string")]),
      ("format", .object [("type", .string "string")]),
      ("title", .object [
        ("$ref", .string "http://json-schema.org/draft-04/schema#/properties/title")]),
      ("description", .object [
        ("$ref", .string "http://json-schema.org/draft-04/schema#/properties/description")]),
      ("default", .object [
        ("$ref", .string "http://json-schema.org/draft-04/schema#/properties/default")]),
      ("multipleOf", .object [
        ("$ref", .string "http://json-schema.org/draft-04/schema#/properties/multipleOf")]),
      ("maximum", .object [
        ("$ref", .string "http://json-schema.org/draft-04/schema#/properties/maximum")]),
      ("exclusiveMaximum", .object [
        ("$ref", .string "http://json-schema.org/draft-04/schema#/properties/exclusiveMaximum")]),
      ("minimum", .object [
        ("$ref", .string "http://json-schema.org/draft-04/schema#/properties/minimum")]),
      ("exclusiveMinimum", .object [
        ("$ref", .string "http://json-schema.org/draft-04/schema#/properties/exclusiveMinimum")]),
      ("maxLength", .object [
        ("$ref", .string "http://json-schema.org/draft-04/schema#/definitions/positiveInteger")]),
      ("minLength", .object [
        ("$ref",
          .string "http://json-schema.org/draft-04/schema#/definitions/positiveIntegerDefault0")]),
      ("pattern", .object [
        ("$ref", .string "http://json-schema.org/draft-04/schema#/properties/pattern")]),
      ("maxItems", .object [
        ("$ref", .string "http://json-schema.org/draft-04/schema#/definitions/positiveInteger")]),
      ("minItems", .object [
        ("$ref",
          .string "http://json-schema.org/draft-04/schema#/definitions/positiveIntegerDefault0")]),
      ("uniqueItems", .object [
        ("$ref", .string "http://json-schema.org/draft-04/schema#/properties/uniqueItems")]),
      ("maxProperties", .object [
        ("$ref", .string "http://json-schema.org/draft-04/schema#/definitions/positiveInteger")]),
      ("minProperties", .object [
        ("$ref",
          .string "http://json-schema.org/draft-04/schema#/definitions/positiveIntegerDefault0")]),
      ("required", .object [
        ("$ref", .string "http://json-schema.org/draft-04/schema#/definitions/stringArray")]),
      ("enum", .object [
        ("$ref", .string "http://json-schema.org/draft-04/schema#/properties/enum")]),
      ("additionalProperties", .object [
        ("anyOf", .array [
          .object [("$ref", .string "#/definitions/schema")],
          .object [("type", .string "boolean")]]),
        ("default", .object [])]),
      ("type", .object [
        ("$ref", .string "http://json-schema.org/draft-04/schema#/properties/type")]),
      ("items", .object [
        ("anyOf", .array [
          .object [("$ref", .string "#/definitions/schema")],
          .object [
            ("type", .string "array"), ("minItems", .int 1),
            ("items", .object [("$ref", .string "#/definitions/schema")])]]),
        ("default", .object [])]),
      ("allOf", .object [
        ("type", .string "array"), ("minItems", .int 1),
        ("items", .object [("$ref", .string "#/definitions/schema")])]),
      ("properties", .object [
        ("type", .string "object"),
        ("additionalProperties", .object [("$ref", .string "#/definitions/schema")]),
        ("default", .object [])]),
      ("discriminator", .object [("type", .string "string")]),
      ("readOnly", .object [("type", .string "boolean"), ("default", .bool false)]),
      ("xml", .object [("$ref", .string "#/definitions/xml")]),
      ("externalDocs", .object [("$ref", .string "#/definitions/externalDocs")]),
      ("example", .object [])]),
    ("additionalProperties", .bool false)]

def fileSchema : Json :=
  .object [
    ("type", .string "object"),
    ("description", .string "A deterministic version of a JSON Schema object."),
    ("patternProperties", .object [
      ("^x-", .object [("$ref", .string "#/definitions/vendorExtension")])]),
    ("required", .array [.string "type"]),
    ("properties", .object [
      ("format", .object [("type", .string "string")]),
      ("title", .object [
        ("$ref", .string "http://json-schema.org/draft-04/schema#/properties/title")]),
      ("description", .object [
        ("$ref", .string "http://json-schema.org/draft-04/schema#/properties/description")]),
      ("default", .object [
        ("$ref", .string "http://json-schema.org/draft-04/schema#/properties/default")]),
      ("required", .object [
        ("$ref", .string "http://json-schema.org/draft-04/schema#/definitions/stringArray")]),
      ("type", .object [("type", .string "string"), ("enum", .array [.string "file"])]),
      ("readOnly", .object [("type", .string "boolean"), ("default", .bool false)]),
      ("externalDocs", .object [("$ref", .string "#/definitions/externalDocs")]),
      ("example", .object [])]),
    ("additionalProperties", .bool false)]

def primitivesItems : Json :=
  .object [
    ("type", .string "object"), ("additionalProperties", .bool false),
    ("properties", .object [
      ("type", .object [
        ("type", .string "string"),
        ("enum", .array [
          .string "string",
          .string "number",
          .string "integer",
          .string "boolean",
          .string "array"])]),
      ("format", .object [("type", .string "string")]),
      ("items", .object [("$ref", .string "#/definitions/primitivesItems")]),
      ("collectionFormat", .object [("$ref", .string "#/definitions/collectionFormat")]),
      ("default", .object [("$ref", .string "#/definitions/default")]),
      ("maximum", .object [("$ref", .string "#/definitions/maximum")]),
      ("exclusiveMaximum", .object [("$ref", .string "#/definitions/exclusiveMaximum")]),
      ("minimum", .object [("$ref", .string "#/definitions/minimum")]),
      ("exclusiveMinimum", .object [("$ref", .string "#/definitions/exclusiveMinimum")]),
      ("maxLength", .object [("$ref", .string "#/definitions/maxLength")]),
      ("minLength", .object [("$ref", .string "#/definitions/minLength")]),
      ("pattern", .object [("$ref", .string "#/definitions/pattern")]),
      ("maxItems", .object [("$ref", .string "#/definitions/maxItems")]),
      ("minItems", .object [("$ref", .string "#/definitions/minItems")]),
      ("uniqueItems", .object [("$ref", .string "#/definitions/uniqueItems")]),
      ("enum", .object [("$ref", .string "#/definitions/enum")]),
      ("multipleOf", .object [("$ref", .string "#/definitions/multipleOf")])]),
    ("patternProperties", .object [
      ("^x-", .object [("$ref", .string "#/definitions/vendorExtension")])])]

def security : Json :=
  .object [
    ("type", .string "array"),
    ("items", .object [("$ref", .string "#/definitions/securityRequirement")]),
    ("uniqueItems", .bool true)]

def securityRequirement : Json :=
  .object [
    ("type", .string "object"),
    ("additionalProperties", .object [
      ("type", .string "array"), ("items", .object [("type", .string "string")]),
      ("uniqueItems", .bool true)])]

def xml : Json :=
  .object [
    ("type", .string "object"), ("additionalProperties", .bool false),
    ("properties", .object [
      ("name", .object [("type", .string "string")]),
      ("namespace", .object [("type", .string "string")]),
      ("prefix", .object [("type", .string "string")]),
      ("attribute", .object [("type", .string "boolean"), ("default", .bool false)]),
      ("wrapped", .object [("type", .string "boolean"), ("default", .bool false)])]),
    ("patternProperties", .object [
      ("^x-", .object [("$ref", .string "#/definitions/vendorExtension")])])]

def tag : Json :=
  .object [
    ("type", .string "object"), ("additionalProperties", .bool false),
    ("required", .array [.string "name"]),
    ("properties", .object [
      ("name", .object [("type", .string "string")]),
      ("description", .object [("type", .string "string")]),
      ("externalDocs", .object [("$ref", .string "#/definitions/externalDocs")])]),
    ("patternProperties", .object [
      ("^x-", .object [("$ref", .string "#/definitions/vendorExtension")])])]

def securityDefinitions : Json :=
  .object [
    ("type", .string "object"),
    ("additionalProperties", .object [
      ("oneOf", .array [
        .object [("$ref", .string "#/definitions/basicAuthenticationSecurity")],
        .object [("$ref", .string "#/definitions/apiKeySecurity")],
        .object [("$ref", .string "#/definitions/oauth2ImplicitSecurity")],
        .object [("$ref", .string "#/definitions/oauth2PasswordSecurity")],
        .object [("$ref", .string "#/definitions/oauth2ApplicationSecurity")],
        .object [("$ref", .string "#/definitions/oauth2AccessCodeSecurity")]])])]

def basicAuthenticationSecurity : Json :=
  .object [
    ("type", .string "object"), ("additionalProperties", .bool false),
    ("required", .array [.string "type"]),
    ("properties", .object [
      ("type", .object [("type", .string "string"), ("enum", .array [.string "basic"])]),
      ("description", .object [("type", .string "string")])]),
    ("patternProperties", .object [
      ("^x-", .object [("$ref", .string "#/definitions/vendorExtension")])])]

def apiKeySecurity : Json :=
  .object [
    ("type", .string "object"), ("additionalProperties", .bool false),
    ("required", .array [.string "type", .string "name", .string "in"]),
    ("properties", .object [
      ("type", .object [("type", .string "string"), ("enum", .array [.string "apiKey"])]),
      ("name", .object [("type", .string "string")]),
      ("in", .object [
        ("type", .string "string"), ("enum", .array [.string "header", .string "query"])]),
      ("description", .object [("type", .string "string")])]),
    ("patternProperties", .object [
      ("^x-", .object [("$ref", .string "#/definitions/vendorExtension")])])]

def oauth2ImplicitSecurity : Json :=
  .object [
    ("type", .string "object"), ("additionalProperties", .bool false),
    ("required", .array [.string "type", .string "flow", .string "authorizationUrl"]),
    ("properties", .object [
      ("type", .object [("type", .string "string"), ("enum", .array [.string "oauth2"])]),
      ("flow", .object [("type", .string "string"), ("enum", .array [.string "implicit"])]),
      ("scopes", .object [("$ref", .string "#/definitions/oauth2Scopes")]),
      ("authorizationUrl", .object [("type", .string "string"), ("format", .string "uri")]),
      ("description", .object [("type", .string "string")])]),
    ("patternProperties", .object [
      ("^x-", .object [("$ref", .string "#/definitions/vendorExtension")])])]

def oauth2PasswordSecurity : Json :=
  .object [
    ("type", .string "object"), ("additionalProperties", .bool false),
    ("required", .array [.string "type", .string "flow", .string "tokenUrl"]),
    ("properties", .object [
      ("type", .object [("type", .string "string"), ("enum", .array [.string "oauth2"])]),
      ("flow", .object [("type", .string "string"), ("enum", .array [.string "password"])]),
      ("scopes", .object [("$ref", .string "#/definitions/oauth2Scopes")]),
      ("tokenUrl", .object [("type", .string "string"), ("format", .string "uri")]),
      ("description", .object [("type", .string "string")])]),
    ("patternProperties", .object [
      ("^x-", .object [("$ref", .string "#/definitions/vendorExtension")])])]

def oauth2ApplicationSecurity : Json :=
  .object [
    ("type", .string "object"), ("additionalProperties", .bool false),
    ("required", .array [.string "type", .string "flow", .string "tokenUrl"]),
    ("properties", .object [
      ("type", .object [("type", .string "string"), ("enum", .array [.string "oauth2"])]),
      ("flow", .object [("type", .string "string"), ("enum", .array [.string "application"])]),
      ("scopes", .object [("$ref", .string "#/definitions/oauth2Scopes")]),
      ("tokenUrl", .object [("type", .string "string"), ("format", .string "uri")]),
      ("description", .object [("type", .string "string")])]),
    ("patternProperties", .object [
      ("^x-", .object [("$ref", .string "#/definitions/vendorExtension")])])]

def oauth2AccessCodeSecurity : Json :=
  .object [
    ("type", .string "object"), ("additionalProperties", .bool false),
    ("required", .array [
      .string "type",
      .string "flow",
      .string "authorizationUrl",
      .string "tokenUrl"]),
    ("properties", .object [
      ("type", .object [("type", .string "string"), ("enum", .array [.string "oauth2"])]),
      ("flow", .object [("type", .string "string"), ("enum", .array [.string "accessCode"])]),
      ("scopes", .object [("$ref", .string "#/definitions/oauth2Scopes")]),
      ("authorizationUrl", .object [("type", .string "string"), ("format", .string "uri")]),
      ("tokenUrl", .object [("type", .string "string"), ("format", .string "uri")]),
      ("description", .object [("type", .string "string")])]),
    ("patternProperties", .object [
      ("^x-", .object [("$ref", .string "#/definitions/vendorExtension")])])]

def oauth2Scopes : Json :=
  .object [
    ("type", .string "object"), ("additionalProperties", .object [("type", .string "string")])]

def mediaTypeList : Json :=
  .object [
    ("type", .string "array"), ("items", .object [("$ref", .string "#/definitions/mimeType")]),
    ("uniqueItems", .bool true)]

def parametersList : Json :=
  .object [
    ("type", .string "array"),
    ("description", .string "The parameters needed to send a valid API call."),
    ("additionalItems", .bool false),
    ("items", .object [
      ("oneOf", .array [
        .object [("$ref", .string "#/definitions/parameter")],
        .object [("$ref", .string "#/definitions/jsonReference")]])]),
    ("uniqueItems", .bool true)]

def schemesList : Json :=
  .object [
    ("type", .string "array"), ("description", .string "The transfer protocol of the API."),
    ("items", .object [
      ("type", .string "string"),
      ("enum", .array [.string "http", .string "https", .string "ws", .string "wss"])]),
    ("uniqueItems", .bool true)]

def collectionFormat : Json :=
  .object [
    ("type", .string "string"),
    ("enum", .array [.string "csv", .string "ssv", .string "tsv", .string "pipes"]),
    ("default", .string "csv")]

def collectionFormatWithMulti : Json :=
  .object [
    ("type", .string "string"),
    ("enum", .array [
      .string "csv",
      .string "ssv",
      .string "tsv",
      .string "pipes",
      .string "multi"]),
    ("default", .string "csv")]

def title : Json :=
  .object [("$ref", .string "http://json-schema.org/draft-04/schema#/properties/title")]

def description : Json :=
  .object [("$ref", .string "http://json-schema.org/draft-04/schema#/properties/description")]

def defaultValue : Json :=
  .object [("$ref", .string "http://json-schema.org/draft-04/schema#/properties/default")]

def multipleOf : Json :=
  .object [("$ref", .string "http://json-schema.org/draft-04/schema#/properties/multipleOf")]

def maximum : Json :=
  .object [("$ref", .string "http://json-schema.org/draft-04/schema#/properties/maximum")]

def exclusiveMaximum : Json :=
  .object [("$ref", .string "http://json-schema.org/draft-04/schema#/properties/exclusiveMaximum")]

def minimum : Json :=
  .object [("$ref", .string "http://json-schema.org/draft-04/schema#/properties/minimum")]

def exclusiveMinimum : Json :=
  .object [("$ref", .string "http://json-schema.org/draft-04/schema#/properties/exclusiveMinimum")]

def maxLength : Json :=
  .object [("$ref", .string "http://json-schema.org/draft-04/schema#/definitions/positiveInteger")]

def minLength : Json :=
  .object [
    ("$ref", .string "http://json-schema.org/draft-04/schema#/definitions/positiveIntegerDefault0")]

def pattern : Json :=
  .object [("$ref", .string "http://json-schema.org/draft-04/schema#/properties/pattern")]

def maxItems : Json :=
  .object [("$ref", .string "http://json-schema.org/draft-04/schema#/definitions/positiveInteger")]

def minItems : Json :=
  .object [
    ("$ref", .string "http://json-schema.org/draft-04/schema#/definitions/positiveIntegerDefault0")]

def uniqueItems : Json :=
  .object [("$ref", .string "http://json-schema.org/draft-04/schema#/properties/uniqueItems")]

def enum : Json :=
  .object [("$ref", .string "http://json-schema.org/draft-04/schema#/properties/enum")]

def jsonReference : Json :=
  .object [
    ("type", .string "object"), ("required", .array [.string "$ref"]),
    ("additionalProperties", .bool false),
    ("properties", .object [("$ref", .object [("type", .string "string")])])]

end Definitions

/-- The parts that the others refer to, by their names. -/
def definitions : Json :=
  .object [
    ("info", Definitions.info), ("contact", Definitions.contact), ("license", Definitions.license),
    ("paths", Definitions.paths), ("definitions", Definitions.definitions),
    ("parameterDefinitions", Definitions.parameterDefinitions),
    ("responseDefinitions", Definitions.responseDefinitions),
    ("externalDocs", Definitions.externalDocs), ("examples", Definitions.examples),
    ("mimeType", Definitions.mimeType), ("operation", Definitions.operation),
    ("pathItem", Definitions.pathItem), ("responses", Definitions.responses),
    ("responseValue", Definitions.responseValue), ("response", Definitions.response),
    ("headers", Definitions.headers), ("header", Definitions.header),
    ("vendorExtension", Definitions.vendorExtension), ("bodyParameter", Definitions.bodyParameter),
    ("headerParameterSubSchema", Definitions.headerParameterSubSchema),
    ("queryParameterSubSchema", Definitions.queryParameterSubSchema),
    ("formDataParameterSubSchema", Definitions.formDataParameterSubSchema),
    ("pathParameterSubSchema", Definitions.pathParameterSubSchema),
    ("nonBodyParameter", Definitions.nonBodyParameter), ("parameter", Definitions.parameter),
    ("schema", Definitions.schema), ("fileSchema", Definitions.fileSchema),
    ("primitivesItems", Definitions.primitivesItems), ("security", Definitions.security),
    ("securityRequirement", Definitions.securityRequirement), ("xml", Definitions.xml),
    ("tag", Definitions.tag), ("securityDefinitions", Definitions.securityDefinitions),
    ("basicAuthenticationSecurity", Definitions.basicAuthenticationSecurity),
    ("apiKeySecurity", Definitions.apiKeySecurity),
    ("oauth2ImplicitSecurity", Definitions.oauth2ImplicitSecurity),
    ("oauth2PasswordSecurity", Definitions.oauth2PasswordSecurity),
    ("oauth2ApplicationSecurity", Definitions.oauth2ApplicationSecurity),
    ("oauth2AccessCodeSecurity", Definitions.oauth2AccessCodeSecurity),
    ("oauth2Scopes", Definitions.oauth2Scopes), ("mediaTypeList", Definitions.mediaTypeList),
    ("parametersList", Definitions.parametersList), ("schemesList", Definitions.schemesList),
    ("collectionFormat", Definitions.collectionFormat),
    ("collectionFormatWithMulti", Definitions.collectionFormatWithMulti),
    ("title", Definitions.title), ("description", Definitions.description),
    ("default", Definitions.defaultValue), ("multipleOf", Definitions.multipleOf),
    ("maximum", Definitions.maximum), ("exclusiveMaximum", Definitions.exclusiveMaximum),
    ("minimum", Definitions.minimum), ("exclusiveMinimum", Definitions.exclusiveMinimum),
    ("maxLength", Definitions.maxLength), ("minLength", Definitions.minLength),
    ("pattern", Definitions.pattern), ("maxItems", Definitions.maxItems),
    ("minItems", Definitions.minItems), ("uniqueItems", Definitions.uniqueItems),
    ("enum", Definitions.enum), ("jsonReference", Definitions.jsonReference)]

/-- The members of an API description. -/
def properties : Json :=
  .object [
    ("swagger", .object [
      ("type", .string "string"), ("enum", .array [.string "2.0"]),
      ("description", .string "The Swagger version of this document.")]),
    ("info", .object [("$ref", .string "#/definitions/info")]),
    ("host", .object [
      ("type", .string "string"), ("pattern", .string "^[^\x7b\x7d/ :\\\\]+(?::\\d+)?$"),
      ("description", .string "The host (name or ip) of the API. Example: 'swagger.io'")]),
    ("basePath", .object [
      ("type", .string "string"), ("pattern", .string "^/"),
      ("description", .string "The base path to the API. Example: '/api'.")]),
    ("schemes", .object [("$ref", .string "#/definitions/schemesList")]),
    ("consumes", .object [
      ("description", .string "A list of MIME types accepted by the API."),
      ("allOf", .array [.object [("$ref", .string "#/definitions/mediaTypeList")]])]),
    ("produces", .object [
      ("description", .string "A list of MIME types the API can produce."),
      ("allOf", .array [.object [("$ref", .string "#/definitions/mediaTypeList")]])]),
    ("paths", .object [("$ref", .string "#/definitions/paths")]),
    ("definitions", .object [("$ref", .string "#/definitions/definitions")]),
    ("parameters", .object [("$ref", .string "#/definitions/parameterDefinitions")]),
    ("responses", .object [("$ref", .string "#/definitions/responseDefinitions")]),
    ("security", .object [("$ref", .string "#/definitions/security")]),
    ("securityDefinitions", .object [("$ref", .string "#/definitions/securityDefinitions")]),
    ("tags", .object [
      ("type", .string "array"), ("items", .object [("$ref", .string "#/definitions/tag")]),
      ("uniqueItems", .bool true)]),
    ("externalDocs", .object [("$ref", .string "#/definitions/externalDocs")])]

/-- The whole schema. -/
def document : Json :=
  .object [
    ("title", .string "A JSON Schema for Swagger 2.0 API."),
    ("id", .string "http://swagger.io/v2/schema.json#"),
    ("$schema", .string "http://json-schema.org/draft-04/schema#"), ("type", .string "object"),
    ("required", .array [.string "swagger", .string "info", .string "paths"]),
    ("additionalProperties", .bool false),
    ("patternProperties", .object [
      ("^x-", .object [("$ref", .string "#/definitions/vendorExtension")])]),
    ("properties", properties), ("definitions", definitions)]

end ApiReview.Bundled.Swagger
