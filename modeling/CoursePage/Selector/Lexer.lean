import CoursePage.Selector.Token
import CoursePage.Text.Ascii

/-!
Cutting a selector into tokens. Comments are dropped; an open quote, bracket or comment at the
end of the text is closed there. Every reader returns what it read and the text behind it.
-/

namespace CoursePage.Selector.Lexer

def isNewline (c : Char) : Bool := c == '\n' || c == '\r' || c == '\x0c'

def isSpace (c : Char) : Bool := c == ' ' || c == '\t' || isNewline c

def isNameStart (c : Char) : Bool := c.isAlpha || c == '_' || c == '\x00' || c.toNat ≥ 0x80

def isNameChar (c : Char) : Bool := c.isAlphanum || c == '_' || c == '-' || c.toNat ≥ 0x80

def isHexDigit (c : Char) : Bool :=
  c.isDigit || ('a' ≤ c && c ≤ 'f') || ('A' ≤ c && c ≤ 'F')

def hexDigit (c : Char) : Nat :=
  if c.isDigit then c.toNat - '0'.toNat else c.toLower.toNat - 'a'.toNat + 10

/-- A character that stands for what cannot be one. -/
def replacement : Char := '\ufffd'

def charOf (n : Nat) : Char :=
  if n == 0 then replacement else if n.isValidChar then Char.ofNat n else replacement

def startsNewline : List Char → Bool
  | c :: _ => isNewline c
  | [] => false

/-- Skips one line break, of which a carriage return with a line feed is one. -/
def dropNewline : List Char → List Char
  | '\r' :: '\n' :: cs => cs
  | _ :: cs => cs
  | [] => []

/-- The blank that ends a number of hexadecimal digits belongs to it. -/
def dropBlank : List Char → List Char
  | c :: cs =>
    if c == ' ' || c == '\t' then cs
    else if isNewline c then dropNewline (c :: cs)
    else c :: cs
  | [] => []

/-- Reads what follows a backslash. -/
def readEscape : List Char → Char × List Char
  | [] => (replacement, [])
  | c :: cs =>
    if isHexDigit c then
      let ds := c :: (cs.take 5).takeWhile isHexDigit
      (charOf (ds.foldl (fun n d => 16 * n + hexDigit d) 0), dropBlank (cs.drop (ds.length - 1)))
    else if c == '\x00' then (replacement, cs)
    else (c, cs)

theorem length_dropNewline (cs : List Char) : (dropNewline cs).length ≤ cs.length := by
  unfold dropNewline
  split
  · simp only [List.length_cons]
    omega
  · exact Nat.le_succ _
  · exact Nat.le_refl _

theorem length_dropBlank (cs : List Char) : (dropBlank cs).length ≤ cs.length := by
  cases cs with
  | nil => simp [dropBlank]
  | cons c cs =>
    simp only [dropBlank]
    split
    · simp
    · split
      · exact length_dropNewline _
      · simp

theorem length_readEscape (cs : List Char) : (readEscape cs).2.length ≤ cs.length := by
  cases cs with
  | nil => simp [readEscape]
  | cons c cs =>
    simp only [readEscape]
    split
    · refine Nat.le_trans (length_dropBlank _) ?_
      simp
      omega
    · split <;> simp

/-- Reads the rest of a name. -/
def readName : List Char → List Char × List Char
  | [] => ([], [])
  | c :: cs =>
    if isNameChar c then
      let r := readName cs
      (c :: r.1, r.2)
    else if c == '\x00' then
      let r := readName cs
      (replacement :: r.1, r.2)
    else if c == '\\' && !startsNewline cs then
      let e := readEscape cs
      let r := readName e.2
      (e.1 :: r.1, r.2)
    else ([], c :: cs)
termination_by cs => cs.length
decreasing_by
  · simp
  · simp
  · have := length_readEscape cs
    simp
    omega

/-- A name begins here. -/
def startsName : List Char → Bool
  | '-' :: c :: _ => isNameStart c || c == '-' || c == '\\'
  | '\\' :: cs => !startsNewline cs
  | c :: _ => isNameStart c
  | [] => false

/-- Reads a quoted text behind its opening quote. The flag is off if a line break cut it. -/
def readQuoted (quote : Char) : List Char → List Char × Bool × List Char
  | [] => ([], true, [])
  | c :: cs =>
    if c == quote then ([], true, cs)
    else if isNewline c then ([], false, c :: cs)
    else if c == '\\' then
      if cs.isEmpty then ([], true, [])
      else if startsNewline cs then readQuoted quote (dropNewline cs)
      else
        let e := readEscape cs
        let r := readQuoted quote e.2
        (e.1 :: r.1, r.2)
    else
      let r := readQuoted quote cs
      ((if c == '\x00' then replacement else c) :: r.1, r.2)
termination_by cs => cs.length
decreasing_by
  · have := length_dropNewline cs
    simp
    omega
  · have := length_readEscape cs
    simp
    omega
  · simp

/-- Skips a comment behind its opening. -/
def dropComment : List Char → List Char
  | '*' :: '/' :: cs => cs
  | _ :: cs => dropComment cs
  | [] => []

def isControl (c : Char) : Bool :=
  (1 ≤ c.toNat && c.toNat ≤ 8) || c == '\x0b' || (0x0E ≤ c.toNat && c.toNat ≤ 0x1F) || c == '\x7f'

/-- Skips the rest of a spoiled address up to its closing bracket, and returns what was skipped. -/
def readBadUrl : List Char → List Char × List Char
  | [] => ([], [])
  | ')' :: cs => ([], cs)
  | '\\' :: c :: cs =>
    if c == ')' || c == '\\' then
      let r := readBadUrl cs
      ('\\' :: c :: r.1, r.2)
    else
      let r := readBadUrl (c :: cs)
      ('\\' :: r.1, r.2)
  | c :: cs =>
    let r := readBadUrl cs
    (c :: r.1, r.2)

/-- Reads an unquoted address. `seen` is the text since its first character, in reverse. -/
def readUrl (seen : List Char) : List Char → Token × List Char
  | cs => go seen [] cs cs.length
where
  bad (seen : List Char) (cs : List Char) : Token × List Char :=
    let r := readBadUrl cs
    (.badUrl (String.ofList (seen.reverse ++ r.1)), r.2)
  /-- `value` is the address read so far, in reverse. -/
  go (seen value : List Char) (cs : List Char) : Nat → Token × List Char
    | 0 => (.url (String.ofList value.reverse), cs)
    | fuel + 1 =>
      match cs with
      | [] => (.url (String.ofList value.reverse), [])
      | ')' :: cs => (.url (String.ofList value.reverse), cs)
      | c :: cs =>
        if isSpace c then
          let blanks := (c :: cs).takeWhile isSpace
          match (c :: cs).dropWhile isSpace with
          | [] => (.url (String.ofList value.reverse), [])
          | ')' :: rest => (.url (String.ofList value.reverse), rest)
          | d :: rest => bad (d :: (blanks.reverse ++ seen)) rest
        else if isControl c || c == '"' || c == '\'' || c == '(' then bad (c :: seen) cs
        else if c == '\\' then
          if startsNewline cs then bad (c :: seen) cs
          else
            let e := readEscape cs
            let taken := cs.take (cs.length - e.2.length)
            go (taken.reverse ++ (c :: seen)) (e.1 :: value) e.2 fuel
        else
          go (c :: seen) ((if c == '\x00' then replacement else c) :: value) cs fuel

/-- Reads an address behind its opening bracket. One in quotes is no address but a function. -/
def readUrl? (cs : List Char) : Option (Token × List Char) :=
  match cs.dropWhile isSpace with
  | [] => some (.url "", [])
  | '"' :: _ => none
  | '\'' :: _ => none
  | rest => some (readUrl [] rest)

def startsNumber : List Char → Bool
  | '.' :: c :: _ => c.isDigit
  | c :: _ => c.isDigit
  | [] => false

def splitSign : List Char → Option Char × List Char
  | '+' :: cs => (some '+', cs)
  | '-' :: cs => (some '-', cs)
  | cs => (none, cs)

def readFraction : List Char → Option (List Char) × List Char
  | '.' :: c :: cs =>
    if c.isDigit then (some ((c :: cs).takeWhile Char.isDigit), (c :: cs).dropWhile Char.isDigit)
    else (none, '.' :: c :: cs)
  | cs => (none, cs)

def readExponent : List Char → Option (Option Char × List Char) × List Char
  | c :: cs =>
    let (sign, ds) := splitSign cs
    match ds with
    | d :: _ =>
      if (c == 'e' || c == 'E') && d.isDigit then
        (some (sign, ds.takeWhile Char.isDigit), ds.dropWhile Char.isDigit)
      else (none, c :: cs)
    | [] => (none, c :: cs)
  | [] => (none, [])

def readNumeral (cs : List Char) : Numeral × List Char :=
  let (sign, cs) := splitSign cs
  let whole := cs.takeWhile Char.isDigit
  let (fraction, cs) := readFraction (cs.dropWhile Char.isDigit)
  let (exponent, cs) := readExponent cs
  (⟨sign, whole, fraction, exponent⟩, cs)

/-- Reads a number with its percent sign or unit. -/
def readNumber (cs : List Char) : Token × List Char :=
  let (n, cs) := readNumeral cs
  match cs with
  | '%' :: cs => (.percentage n, cs)
  | cs =>
    if startsName cs then
      let (unit, rest) := readName cs
      (.dimension n (String.ofList unit), rest)
    else (.number n, cs)

/-- Reads a name, or the name of a function with its opening bracket. -/
def readWord (cs : List Char) : Token × List Char :=
  let (name, rest) := readName cs
  match rest with
  | '(' :: rest =>
    if Text.sameLetters name ['u', 'r', 'l'] then
      (readUrl? rest).getD (.function (String.ofList name), rest)
    else (.function (String.ofList name), rest)
  | rest => (.ident (String.ofList name), rest)

def named (make : String → Token) (cs : List Char) : Token × List Char :=
  let (name, rest) := readName cs
  (make (String.ofList name), rest)

def quotedToken (quote : Char) (cs : List Char) : Token × List Char :=
  let (text, whole, rest) := readQuoted quote cs
  (if whole then .quoted (String.ofList text) else .badQuoted (String.ofList text), rest)

/-- Reads one token from a text that is not empty and does not start with a comment. -/
def readToken (c : Char) (cs : List Char) : Token × List Char :=
  let here := c :: cs
  if isSpace c then (.space (String.ofList (here.takeWhile isSpace)), here.dropWhile isSpace)
  else if isNameStart c then readWord here
  else if c.isDigit then readNumber here
  else
    match c, cs with
    | '"', _ => quotedToken '"' cs
    | '\'', _ => quotedToken '\'' cs
    | '#', d :: _ =>
      if startsName cs then named .idHash cs
      else if d.isDigit || d == '-' then named .hash cs
      else (.delim '#', cs)
    | '$', '=' :: rest => (.suffixMatch, rest)
    | '*', '=' :: rest => (.substringMatch, rest)
    | '^', '=' :: rest => (.prefixMatch, rest)
    | '|', '=' :: rest => (.dashMatch, rest)
    | '~', '=' :: rest => (.includeMatch, rest)
    | '(', _ => (.opening .round, cs)
    | '[', _ => (.opening .square, cs)
    | '\x7b', _ => (.opening .curly, cs)
    | ')', _ => (.closing .round, cs)
    | ']', _ => (.closing .square, cs)
    | '\x7d', _ => (.closing .curly, cs)
    | ',', _ => (.comma, cs)
    | ':', _ => (.colon, cs)
    | ';', _ => (.semicolon, cs)
    | '+', _ => if startsNumber cs then readNumber here else (.delim '+', cs)
    | '.', _ => if startsNumber here then readNumber here else (.delim '.', cs)
    | '-', _ =>
      if startsNumber cs then readNumber here
      else
        match cs with
        | '-' :: '>' :: rest => (.commentClose, rest)
        | _ => if startsName here then readWord here else (.delim '-', cs)
    | '<', '!' :: '-' :: '-' :: rest => (.commentOpen, rest)
    | '@', _ => if startsName cs then named .atWord cs else (.delim '@', cs)
    | '\\', _ => if startsNewline cs then (.delim '\\', cs) else readWord here
    | _, _ => (.delim c, cs)

/-- Reads tokens until the text or the fuel ends. -/
def readAll : Nat → List Char → List Token
  | 0, _ => []
  | _, [] => []
  | fuel + 1, '/' :: '*' :: cs => readAll fuel (dropComment cs)
  | fuel + 1, c :: cs =>
    let (token, rest) := readToken c cs
    token :: readAll fuel rest

/-- The tokens of a text. Each token takes at least one character. -/
def tokens (s : String) : List Token :=
  let cs := s.toList
  readAll (cs.length + 1) cs

end CoursePage.Selector.Lexer
