import ApiReview.Schema.Constraint

/-!
Schemas in the form in which they are applied to values. Every keyword stands by itself:
keywords that are written apart but mean something together, such as those on the members
of an object, are one keyword here.
-/
namespace ApiReview

mutual

inductive Schema where
  | everything
  | nothing
  /-- The schema at a place of a table that is kept beside this one. -/
  | reference (target : Nat)
  | keywords (list : List Schema.Keyword)

inductive Schema.Keyword where
  | constraint (c : Schema.Constraint)
  /-- Members that an object must have. -/
  | required (names : List String)
  /-- Schemas for objects that have a member. -/
  | dependencies (list : List (String × Schema))
  | properties (list : List (String × Schema))
  | patternProperties (list : List (Schema.Pattern × Schema))
  /-- The schemas of named and of matching members, and one for all others. -/
  | members (named : List (String × Schema)) (matching : List (Schema.Pattern × Schema))
      (rest : Schema)
  /-- The schemas of named and of matching members; there are no others. -/
  | onlyMembers (named : List (String × Schema)) (matching : List (Schema.Pattern × Schema))
  /-- No member at all. -/
  | noMembers
  | items (s : Schema)
  /-- A schema for each of the first items. -/
  | firstItems (list : List Schema)
  /-- A schema for the items behind the first ones. -/
  | restItems (first : Nat) (s : Schema)
  | noRestItems (first : Nat)
  | allOf (list : List Schema)
  | anyOf (list : List Schema)
  | oneOf (list : List Schema)
  /-- A schema that must not hold, with its text for the message. -/
  | not (source : Json) (s : Schema)

end

end ApiReview
