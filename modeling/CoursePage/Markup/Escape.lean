/-!
Escapes in written markup. Text escapes the ampersand, the no-break space and the angle
brackets; an attribute value escapes the double quote as well.
-/

namespace CoursePage.Markup

def escapeTextChar : Char → List Char
  | '&' => ['&', 'a', 'm', 'p', ';']
  | '\u00a0' => ['&', 'n', 'b', 's', 'p', ';']
  | '<' => ['&', 'l', 't', ';']
  | '>' => ['&', 'g', 't', ';']
  | c => [c]

def escapeValueChar : Char → List Char
  | '"' => ['&', 'q', 'u', 'o', 't', ';']
  | c => escapeTextChar c

def escapeText (s : String) : String := String.ofList (s.toList.flatMap escapeTextChar)

def escapeValue (s : String) : String := String.ofList (s.toList.flatMap escapeValueChar)

/-- Escaping goes character by character, so it may be done in parts. -/
theorem escapeText_append (s t : String) :
    escapeText (s ++ t) = escapeText s ++ escapeText t := by
  simp [escapeText]

theorem escapeValue_append (s t : String) :
    escapeValue (s ++ t) = escapeValue s ++ escapeValue t := by
  simp [escapeValue]

end CoursePage.Markup
