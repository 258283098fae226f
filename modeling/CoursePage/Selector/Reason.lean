import CoursePage.Selector.Token

/-!
Why a text is no selector, and how messages say so.
-/

namespace CoursePage.Selector

inductive Reason where
  | endOfInput
  | unexpectedToken (t : Token)
  | emptySelector
  | danglingCombinator
  | invalidState
  | noNameInAttribute (t : Token)
  | unexpectedInAttribute (t : Token)
  | barExpectedInAttribute (t : Token)
  | badAttributeValue (t : Token)
  | badNameInAttribute (t : Token)
  | badNameAfterBar (t : Token)
  | namespaceExpected (name : String)
  | classNeedsName (t : Token)
  | pseudoNeedsName (t : Token)
  | unsupportedPseudo (name : String)
  deriving DecidableEq, Repr

/-- A reason as messages show it. -/
def Reason.text : Reason → String
  | .endOfInput => "Basic(EndOfInput)"
  | .unexpectedToken t => "Basic(UnexpectedToken(" ++ t.text ++ "))"
  | .emptySelector => "Custom(EmptySelector)"
  | .danglingCombinator => "Custom(DanglingCombinator)"
  | .invalidState => "Custom(InvalidState)"
  | .noNameInAttribute t => "Custom(NoQualifiedNameInAttributeSelector(" ++ t.text ++ "))"
  | .unexpectedInAttribute t => "Custom(UnexpectedTokenInAttributeSelector(" ++ t.text ++ "))"
  | .barExpectedInAttribute t => "Custom(ExpectedBarInAttr(" ++ t.text ++ "))"
  | .badAttributeValue t => "Custom(BadValueInAttr(" ++ t.text ++ "))"
  | .badNameInAttribute t => "Custom(InvalidQualNameInAttr(" ++ t.text ++ "))"
  | .badNameAfterBar t => "Custom(ExplicitNamespaceUnexpectedToken(" ++ t.text ++ "))"
  | .namespaceExpected name => "Custom(ExpectedNamespace(" ++ Text.quoted name ++ "))"
  | .classNeedsName t => "Custom(ClassNeedsIdent(" ++ t.text ++ "))"
  | .pseudoNeedsName t => "Custom(PseudoElementExpectedIdent(" ++ t.text ++ "))"
  | .unsupportedPseudo name =>
    "Custom(UnsupportedPseudoClassOrElement(" ++ Text.quoted name ++ "))"

end CoursePage.Selector
