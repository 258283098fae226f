import CoursePage.Markup.Token

/-!
Names in foreign content. Tags are read in lower case, so the names of SVG and MathML that have
capitals get them back, and attributes with a known mark get their namespace.
-/

namespace CoursePage.Markup.Foreign

/-- Names in lower case with their spelling. -/
def spellings (names : List String) : List (String × String) :=
  names.map fun n => (String.ofList (n.toList.map Char.toLower), n)

def svgTags : List (String × String) := spellings
  ["altGlyph", "altGlyphDef", "altGlyphItem", "animateColor", "animateMotion", "animateTransform",
   "clipPath", "feBlend", "feColorMatrix", "feComponentTransfer", "feComposite",
   "feConvolveMatrix", "feDiffuseLighting", "feDisplacementMap", "feDistantLight", "feDropShadow",
   "feFlood", "feFuncA", "feFuncB", "feFuncG", "feFuncR", "feGaussianBlur", "feImage", "feMerge",
   "feMergeNode", "feMorphology", "feOffset", "fePointLight", "feSpecularLighting", "feSpotLight",
   "feTile", "feTurbulence", "foreignObject", "glyphRef", "linearGradient", "radialGradient",
   "textPath"]

def svgAttributes : List (String × String) := spellings
  ["attributeName", "attributeType", "baseFrequency", "baseProfile", "calcMode", "clipPathUnits",
   "diffuseConstant", "edgeMode", "filterUnits", "glyphRef", "gradientTransform", "gradientUnits",
   "kernelMatrix", "kernelUnitLength", "keyPoints", "keySplines", "keyTimes", "lengthAdjust",
   "limitingConeAngle", "markerHeight", "markerUnits", "markerWidth", "maskContentUnits",
   "maskUnits", "numOctaves", "pathLength", "patternContentUnits", "patternTransform",
   "patternUnits", "pointsAtX", "pointsAtY", "pointsAtZ", "preserveAlpha", "preserveAspectRatio",
   "primitiveUnits", "refX", "refY", "repeatCount", "repeatDur", "requiredExtensions",
   "requiredFeatures", "specularConstant", "specularExponent", "spreadMethod", "startOffset",
   "stdDeviation", "stitchTiles", "surfaceScale", "systemLanguage", "tableValues", "targetX",
   "targetY", "textLength", "viewBox", "viewTarget", "xChannelSelector", "yChannelSelector",
   "zoomAndPan"]

def mathAttributes : List (String × String) := spellings ["definitionURL"]

/-- Attributes that belong to a namespace. -/
def markedAttributes : List (String × QualName) :=
  [("xlink:actuate", ⟨.xlink, "actuate"⟩), ("xlink:arcrole", ⟨.xlink, "arcrole"⟩),
   ("xlink:href", ⟨.xlink, "href"⟩), ("xlink:role", ⟨.xlink, "role"⟩),
   ("xlink:show", ⟨.xlink, "show"⟩), ("xlink:title", ⟨.xlink, "title"⟩),
   ("xlink:type", ⟨.xlink, "type"⟩), ("xml:lang", ⟨.xml, "lang"⟩),
   ("xml:space", ⟨.xml, "space"⟩), ("xmlns", ⟨.xmlns, "xmlns"⟩),
   ("xmlns:xlink", ⟨.xmlns, "xlink"⟩)]

def respell (table : List (String × String)) (a : Attribute) : Attribute :=
  match table.lookup a.name.name with
  | some name => { a with name := ⟨.none, name⟩ }
  | none => a

def place (a : Attribute) : Attribute :=
  match markedAttributes.lookup a.name.name with
  | some name => { a with name }
  | none => a

/-- The spellings of attributes in a namespace. -/
def attributeTable : Namespace → List (String × String)
  | .svg => svgAttributes
  | .mathml => mathAttributes
  | _ => []

def attributes (space : Namespace) (attrs : List Attribute) : List Attribute :=
  attrs.map fun a => place (respell (attributeTable space) a)

/-- The name of an element that a tag opens inside a foreign element. -/
def elementName (space : Namespace) (name : String) : QualName :=
  ⟨space, if space == .svg then (svgTags.lookup name).getD name else name⟩

end CoursePage.Markup.Foreign
