/-!
White space, of which this library needs two notions: the Unicode property, which separates
class tokens and trims values, and the five characters of the markup and selector standards.
-/

namespace CoursePage.Text

/-- The characters with the Unicode property `White_Space`. -/
def isBlank (c : Char) : Bool :=
  let n := c.toNat
  (9 ≤ n && n ≤ 13) || n == 0x20 || n == 0x85 || n == 0xA0 || n == 0x1680 ||
    (0x2000 ≤ n && n ≤ 0x200A) || n == 0x2028 || n == 0x2029 || n == 0x202F ||
    n == 0x205F || n == 0x3000

/-- Space, tab, line feed, form feed and carriage return. -/
def isSpace (c : Char) : Bool :=
  c == ' ' || c == '\t' || c == '\n' || c == '\x0c' || c == '\r'

/-- Every markup space is blank. -/
theorem isBlank_of_isSpace {c : Char} (h : isSpace c = true) : isBlank c = true := by
  simp only [isSpace, Bool.or_eq_true, beq_iff_eq] at h
  rcases h with (((rfl | rfl) | rfl) | rfl) | rfl <;> decide

/-- Drops the characters of a class from both ends. -/
def trimBy (drop : Char → Bool) (cs : List Char) : List Char :=
  ((cs.dropWhile drop).reverse.dropWhile drop).reverse

def trimBlank (s : String) : String :=
  String.ofList (trimBy isBlank s.toList)

/-- Cuts at every separator, so that neighbouring separators leave an empty piece. -/
def pieces (cut : Char → Bool) : List Char → List (List Char)
  | [] => [[]]
  | c :: cs =>
    if cut c then [] :: pieces cut cs
    else
      match pieces cut cs with
      | [] => [[c]]
      | p :: ps => (c :: p) :: ps

/-- The maximal runs of characters that are no separators. -/
def words (cut : Char → Bool) (cs : List Char) : List (List Char) :=
  (pieces cut cs).filter (fun p => !p.isEmpty)

/-- The words of a text between blanks. -/
def blankWords (s : String) : List String :=
  (words isBlank s.toList).map String.ofList

theorem pieces_ne_nil (cut : Char → Bool) (cs : List Char) : pieces cut cs ≠ [] := by
  cases cs with
  | nil => simp [pieces]
  | cons c cs =>
    simp only [pieces]
    split
    · simp
    · split <;> simp

/-- No piece holds a separator. -/
theorem not_cut_of_mem_pieces {cut : Char → Bool} {cs p : List Char} (hp : p ∈ pieces cut cs) :
    ∀ c ∈ p, cut c = false := by
  induction cs generalizing p with
  | nil =>
    simp only [pieces, List.mem_singleton] at hp
    subst p
    simp
  | cons c cs ih =>
    simp only [pieces] at hp
    split at hp
    · rcases List.mem_cons.mp hp with rfl | ht
      · simp
      · exact ih ht
    · rename_i hc
      have hc' : cut c = false := by simpa using hc
      split at hp
      · rw [List.mem_singleton] at hp
        subst p
        simpa using hc'
      · rename_i q qs he
        rcases List.mem_cons.mp hp with rfl | ht
        · intro d hd
          rcases List.mem_cons.mp hd with rfl | hq
          · exact hc'
          · exact ih (he ▸ List.mem_cons_self) d hq
        · exact ih (he ▸ List.mem_cons_of_mem q ht)

end CoursePage.Text
