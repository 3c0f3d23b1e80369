import Rpn.Converter
import Rpn.Field

/-!
# Checking tokens, grammars, rules and results

Each kind of value is built from named fields. Fields that the kind does not know are passed over.
-/

namespace Rpn

/-- A token from its fields. -/
def Token.ofFields (fields : Fields) : Checked Token :=
  .ok Token.mk
    |> Checked.give (fields.required "value" Field.asText)
    |> Checked.give (fields.required "type" Field.asText)

/-- A side from its name. -/
def Associativity.ofField : Field → Checked Associativity
  | .text "left" => .ok .left
  | .text "right" => .ok .right
  | _ => .fail .notAssociativity

/-- The clash in words. -/
def Clash.message (clash : Clash) : String :=
  "Type " ++ Text.quoted clash.tag ++ " is classified both as " ++ clash.earlier.name ++ " and " ++
    clash.later.name

namespace Grammar

/-- The grammar of tables and tags, unless a tag plays two roles. -/
def ofParts (precedences : OperatorTable Int) (associativities : OperatorTable Associativity)
    (sets : TagSets) : Checked Grammar :=
  match Classification.ofTagSets? sets with
  | .ok classes => .ok ⟨precedences, associativities, classes⟩
  | .error clash => .fail (.refused clash.message)

/-- A grammar from its fields. Tags are compared only if every field is valid. -/
def ofFields (fields : Fields) : Checked Grammar :=
  let parts : Checked (Checked Grammar) :=
    .ok (fun precedences associativities values functions operators separator openBracket
        closeBracket => ofParts precedences associativities
          ⟨values, functions, operators, separator, openBracket, closeBracket⟩)
      |> Checked.give (fields.required "precedences" (Field.asTable Field.asInteger))
      |> Checked.give
        (fields.withDefault "associativities" [] (Field.asTable Associativity.ofField))
      |> Checked.give (fields.required "value_types" Field.asTextSet)
      |> Checked.give (fields.withDefault "function_types" [] Field.asTextSet)
      |> Checked.give (fields.required "operator_types" Field.asTextSet)
      |> Checked.give (fields.required "param_separator_type" Field.asText)
      |> Checked.give (fields.required "open_bracket_type" Field.asText)
      |> Checked.give (fields.required "close_bracket_type" Field.asText)
  match parts with
  | .ok checked => checked
  | .error errors => .error errors

end Grammar

/-- A pattern as it is given for a rule: ready, or still to be read. -/
inductive PatternField where
  | ready (pattern : Pattern)
  | field (field : Field)

/-- A transform as it is given for a rule. -/
inductive TransformField where
  | function (transform : Match → Transformed)
  | field (field : Field)

namespace PatternField

/-- Refuses a pattern that matches the empty text, because such a match leaves the cursor where it
is. -/
def refuseEmpty (pattern : Pattern) : Checked Pattern :=
  if pattern.matchesEmpty then
    .fail (.refused ("Pattern " ++ Text.quoted pattern.source ++ " matches the empty string"))
  else
    .ok pattern

/-- The pattern of a rule. -/
def check : PatternField → Checked Pattern
  | .ready pattern => refuseEmpty pattern
  | .field (.text source) =>
      match Pattern.read source with
      | .ok pattern => refuseEmpty pattern
      | .error _ => .fail .badPattern
  | .field _ => .fail .notPattern

end PatternField

/-- The transform of a rule, if it has one. -/
def TransformField.check : TransformField → Checked (Option (Match → Transformed))
  | .function transform => .ok (some transform)
  | .field .null => .ok none
  | .field _ => .fail .notTransform

/-- The fields of a rule. -/
structure RuleFields where
  pattern : Option PatternField
  tag : Option Field
  transform : Option TransformField

/-- A rule from its fields. -/
def Rule.ofFields (fields : RuleFields) : Checked Rule :=
  let pattern := match fields.pattern with
    | some pattern => pattern.check
    | none => .fail .missing
  let tag := match fields.tag with
    | some tag => tag.asText
    | none => .fail .missing
  let transform := match fields.transform with
    | some transform => transform.check
    | none => .ok none
  .ok Rule.mk
    |> Checked.give (Checked.under (.key "pattern") pattern)
    |> Checked.give (Checked.under (.key "type") tag)
    |> Checked.give (Checked.under (.key "transform") transform)

/-- A result from its fields, the tokens of its output being built already. -/
def ConversionResult.ofFields (rpn : Option (List Token)) (fields : Fields) :
    Checked ConversionResult :=
  .ok (fun expression error => ⟨expression, rpn, error⟩)
    |> Checked.give (fields.required "expression" Field.asText)
    |> Checked.give
      (Checked.under (.key "error") (Field.optionally Field.asText (fields.lookup "error")))

end Rpn
