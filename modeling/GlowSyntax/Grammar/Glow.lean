import GlowSyntax.Grammar.Validation

/-!
The grammar of Glow. An expression is a factor with an optional tail. A product or a quotient takes one
factor and goes on with another tail; a sum or a difference takes the rest of the expression, which
gives it the lower precedence. No rule matches at the end of the text, so wherever a tail can be empty
there is an alternative without it.
-/

namespace GlowSyntax.Grammar

def glowStart : String := "program"

def binding (keyword : Kind) : Alternative :=
  [.token keyword, .tokenAs .identifier "name", .token .assign, .ruleAs "expr" "value",
    .token .semicolon]

def chained (op : Kind) : List Alternative :=
  [[.tokenAs op "op", .ruleAs "factor" "rhs", .ruleAs "expr_tail" "tail"],
    [.tokenAs op "op", .ruleAs "factor" "rhs"]]

def closing (op : Kind) : Alternative := [.tokenAs op "op", .ruleAs "expr" "rhs"]

def glow : Grammar := ofRules [
  ⟨"program", [
    [.ruleAs "declaration" "first", .ruleAs "program" "rest"],
    [.ruleAs "declaration" "first"]]⟩,
  ⟨"declaration", [binding .kwVar, binding .kwConst]⟩,
  ⟨"expr", [
    [.ruleAs "factor" "lhs", .ruleAs "expr_tail" "tail"],
    [.ruleAs "factor" "lhs"]]⟩,
  ⟨"expr_tail", chained .times ++ chained .slash ++ [closing .plus, closing .minus, []]⟩,
  ⟨"factor", [[.ruleAs "paren" "body"], [.ruleAs "atomic" "body"]]⟩,
  ⟨"paren", [[.token .parenOpen, .ruleAs "expr" "body", .token .parenClose]]⟩,
  ⟨"atomic", [
    [.tokenAs .identifier "value"],
    [.tokenAs .integer "value"],
    [.ruleAs "string" "value"]]⟩,
  ⟨"string", [[.token .quote, .ruleAs "chars" "body", .token .quote]]⟩,
  ⟨"chars", [
    [.tokenAs .stringChar "char", .ruleAs "chars" "rest"],
    [.tokenAs .escapedQuote "char", .ruleAs "chars" "rest"],
    []]⟩]

end GlowSyntax.Grammar
