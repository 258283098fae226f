import CoursePage.Name

/-!
The sets of elements by which the tree is built. Unless a set says otherwise it holds elements
of the HTML namespace only.
-/

namespace CoursePage

/-- An HTML element with one of the names. -/
def QualName.isHtmlIn (names : List String) (n : QualName) : Bool :=
  n.space == .html && names.contains n.name

def QualName.isHtmlNamed (name : String) (n : QualName) : Bool :=
  n.space == .html && n.name == name

namespace Markup

/-- MathML elements whose content is text of the page. -/
def isMathText (n : QualName) : Bool :=
  n.space == .mathml && ["mi", "mo", "mn", "ms", "mtext"].contains n.name

/-- SVG elements whose content is HTML. -/
def isSvgHtml (n : QualName) : Bool :=
  n.space == .svg && ["foreignObject", "desc", "title"].contains n.name

/-- Elements at which a search for an open element ends. -/
def endsScope (n : QualName) : Bool :=
  n.isHtmlIn ["applet", "caption", "html", "table", "td", "th", "marquee", "object", "select",
    "template"] || isMathText n || isSvgHtml n

def endsListScope (n : QualName) : Bool := endsScope n || n.isHtmlIn ["ol", "ul"]
def endsButtonScope (n : QualName) : Bool := endsScope n || n.isHtmlNamed "button"
def endsTableScope (n : QualName) : Bool := n.isHtmlIn ["html", "table", "template"]

/-- Elements that a section of table rows is opened in. -/
def isBodyContext (n : QualName) : Bool :=
  n.isHtmlIn ["tbody", "tfoot", "thead", "template", "html"]

def isRowContext (n : QualName) : Bool := n.isHtmlIn ["tr", "template", "html"]
def isCell (n : QualName) : Bool := n.isHtmlIn ["td", "th"]
def isHeading (n : QualName) : Bool := n.isHtmlIn ["h1", "h2", "h3", "h4", "h5", "h6"]

/-- Elements of a table that can hold no content of their own. -/
def isTableFrame (n : QualName) : Bool := n.isHtmlIn ["table", "tbody", "tfoot", "thead", "tr"]

/-- Elements that end where their container ends. -/
def endsByItself (n : QualName) : Bool :=
  n.isHtmlIn ["dd", "dt", "li", "option", "optgroup", "p", "rb", "rp", "rt", "rtc"]

/-- Elements that end where a template ends. -/
def endsWithTemplate (n : QualName) : Bool :=
  endsByItself n ||
    n.isHtmlIn ["caption", "colgroup", "tbody", "td", "tfoot", "th", "thead", "tr"]

/-- Elements that no end tag of another element closes. -/
def specialTags : List String :=
  ["address", "applet", "area", "article", "aside", "base", "basefont", "bgsound", "blockquote",
   "body", "br", "button", "caption", "center", "col", "colgroup", "dd", "details", "dir", "div",
   "dl", "dt", "embed", "fieldset", "figcaption", "figure", "footer", "form", "frame", "frameset",
   "h1", "h2", "h3", "h4", "h5", "h6", "head", "header", "hgroup", "hr", "html", "iframe", "img",
   "input", "isindex", "li", "link", "listing", "main", "marquee", "menu", "meta", "nav",
   "noembed", "noframes", "noscript", "object", "ol", "p", "param", "plaintext", "pre", "script",
   "section", "select", "source", "style", "summary", "table", "tbody", "td", "template",
   "textarea", "tfoot", "th", "thead", "title", "tr", "track", "ul", "wbr", "xmp"]

def isSpecial (n : QualName) : Bool := n.isHtmlIn specialTags

/-- Special elements, of which some do not keep list items apart. -/
def keepsItemsApart (n : QualName) : Bool :=
  isSpecial n && !n.isHtmlIn ["address", "div", "p"]

/-- Tags of the head, wherever they stand. -/
def headTags : List String :=
  ["base", "basefont", "bgsound", "link", "meta", "noframes", "script", "style", "template",
   "title"]

/-- Start tags of blocks, before which a paragraph ends. -/
def blockTags : List String :=
  ["address", "article", "aside", "blockquote", "center", "details", "dialog", "dir", "div", "dl",
   "fieldset", "figcaption", "figure", "footer", "header", "hgroup", "main", "menu", "nav", "ol",
   "p", "search", "section", "summary", "ul"]

/-- End tags that close everything inside their element. -/
def blockEndTags : List String :=
  ["address", "article", "aside", "blockquote", "button", "center", "details", "dialog", "dir",
   "div", "dl", "fieldset", "figcaption", "figure", "footer", "header", "hgroup", "listing",
   "main", "menu", "nav", "ol", "pre", "search", "section", "select", "summary", "ul"]

def headingTags : List String := ["h1", "h2", "h3", "h4", "h5", "h6"]

/-- Elements that are opened anew where their element was cut. -/
def formattingTags : List String :=
  ["b", "big", "code", "em", "font", "i", "s", "small", "strike", "strong", "tt", "u"]

/-- Elements that formatting does not reach across. -/
def objectTags : List String := ["applet", "marquee", "object"]

/-- Tags that mean something only in a table or in a frame set. -/
def misplacedTags : List String :=
  ["caption", "col", "colgroup", "frame", "head", "tbody", "td", "tfoot", "th", "thead", "tr"]

/-- HTML tags that end foreign content. -/
def breakoutTags : List String :=
  ["b", "big", "blockquote", "body", "br", "center", "code", "dd", "div", "dl", "dt", "em",
   "embed", "h1", "h2", "h3", "h4", "h5", "h6", "head", "hr", "i", "img", "li", "listing", "menu",
   "meta", "nobr", "ol", "p", "pre", "ruby", "s", "small", "span", "strong", "strike", "sub",
   "sup", "table", "tt", "u", "ul", "var"]

end Markup

end CoursePage
