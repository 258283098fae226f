import CoursePage.Markup.Token
import CoursePage.Text.Ascii

/-!
Document types that ask for the old layout of tables, in which a table does not end a paragraph.
-/

namespace CoursePage.Markup

/-- Public identifiers of old pages. -/
def oldPublicIds : List String :=
  ["-//w3o//dtd w3 html strict 3.0//en//", "-/w3c/dtd html 4.0 transitional/en", "html"]

def oldSystemIds : List String :=
  ["http://www.ibm.com/data/dtd/v11/ibmxhtml1-transitional.dtd"]

/-- Beginnings of public identifiers of old pages. -/
def oldPublicStarts : List String :=
  ["-//as//dtd html 3.0 aswedit + extensions//",
   "-//advasoft ltd//dtd html 3.0 aswedit + extensions//",
   "-//ietf//dtd html 2.0 level 1//",
   "-//ietf//dtd html 2.0 level 2//",
   "-//ietf//dtd html 2.0 strict level 1//",
   "-//ietf//dtd html 2.0 strict level 2//",
   "-//ietf//dtd html 2.0 strict//",
   "-//ietf//dtd html 2.0//",
   "-//ietf//dtd html 2.1e//",
   "-//ietf//dtd html 3.0//",
   "-//ietf//dtd html 3.2 final//",
   "-//ietf//dtd html 3.2//",
   "-//ietf//dtd html 3//",
   "-//ietf//dtd html level 0//",
   "-//ietf//dtd html level 1//",
   "-//ietf//dtd html level 2//",
   "-//ietf//dtd html level 3//",
   "-//ietf//dtd html strict level 0//",
   "-//ietf//dtd html strict level 1//",
   "-//ietf//dtd html strict level 2//",
   "-//ietf//dtd html strict level 3//",
   "-//ietf//dtd html strict//",
   "-//ietf//dtd html//",
   "-//metrius//dtd metrius presentational//",
   "-//microsoft//dtd internet explorer 2.0 html strict//",
   "-//microsoft//dtd internet explorer 2.0 html//",
   "-//microsoft//dtd internet explorer 2.0 tables//",
   "-//microsoft//dtd internet explorer 3.0 html strict//",
   "-//microsoft//dtd internet explorer 3.0 html//",
   "-//microsoft//dtd internet explorer 3.0 tables//",
   "-//netscape comm. corp.//dtd html//",
   "-//netscape comm. corp.//dtd strict html//",
   "-//o'reilly and associates//dtd html 2.0//",
   "-//o'reilly and associates//dtd html extended 1.0//",
   "-//o'reilly and associates//dtd html extended relaxed 1.0//",
   "-//sq//dtd html 2.0 hotmetal + extensions//",
   "-//softquad software//dtd hotmetal pro 6.0::19990601::extensions to html 4.0//",
   "-//softquad//dtd hotmetal pro 4.0::19971010::extensions to html 4.0//",
   "-//spyglass//dtd html 2.0 extended//",
   "-//sun microsystems corp.//dtd hotjava html//",
   "-//sun microsystems corp.//dtd hotjava strict html//",
   "-//w3c//dtd html 3 1995-03-24//",
   "-//w3c//dtd html 3.2 draft//",
   "-//w3c//dtd html 3.2 final//",
   "-//w3c//dtd html 3.2//",
   "-//w3c//dtd html 3.2s draft//",
   "-//w3c//dtd html 4.0 frameset//",
   "-//w3c//dtd html 4.0 transitional//",
   "-//w3c//dtd html experimental 19960712//",
   "-//w3c//dtd html experimental 970421//",
   "-//w3c//dtd w3 html//",
   "-//w3o//dtd w3 html 3.0//",
   "-//webtechs//dtd mozilla html 2.0//",
   "-//webtechs//dtd mozilla html//"]

/-- Beginnings of public identifiers that mean an old page if there is no system identifier. -/
def lonePublicStarts : List String :=
  ["-//w3c//dtd html 4.01 frameset//", "-//w3c//dtd html 4.01 transitional//"]

def startsAny (starts : List String) (s : String) : Bool :=
  starts.any fun start => start.toList.isPrefixOf s.toList

/-- The page asks for the old layout. -/
def Doctype.isOld (d : Doctype) : Bool :=
  let publicId := d.publicId.map Text.lowered
  let systemId := d.systemId.map Text.lowered
  d.broken || d.name != some "html" ||
    publicId.any (fun p => oldPublicIds.contains p || startsAny oldPublicStarts p) ||
    systemId.any oldSystemIds.contains ||
    (systemId.isNone && publicId.any (startsAny lonePublicStarts))

end CoursePage.Markup
