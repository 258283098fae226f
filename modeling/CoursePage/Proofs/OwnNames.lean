import CoursePage.Proofs.Commute
import CoursePage.Proofs.Label

/-!
Elements and attributes looked up by their own names. A name that is a selector by itself is read as
one, but what an element is compared with is the name in lower case. Names in foreign markup have
capital letters, so they do not find the elements that have them.
-/

namespace CoursePage

open CoursePage.Tree (document)

namespace Selector

namespace Lexer

variable {c : Char} {cs name rest : List Char} {s : String}

/-- A name as it stands in a selector without backslashes. -/
def IsIdentifier (s : String) : Prop :=
  startsName s.toList = true ∧ ∀ c ∈ s.toList, isNameChar c = true

instance (s : String) : Decidable (IsIdentifier s) :=
  decidable_of_iff ((startsName s.toList && s.toList.all isNameChar) = true)
    (by simp [IsIdentifier])

/-- Nothing of a name is at the front. -/
def EndsName (rest : List Char) : Prop := rest = [] ∨ ∃ more, rest = ']' :: more

theorem readName_of_endsName (h : EndsName rest) : readName rest = ([], rest) := by
  obtain rfl | ⟨more, rfl⟩ := h
  · rw [readName]
  · rw [readName]
    rfl

theorem readName_append (hn : ∀ c ∈ name, isNameChar c = true) (hr : EndsName rest) :
    readName (name ++ rest) = (name, rest) := by
  induction name with
  | nil => exact readName_of_endsName hr
  | cons c name ih =>
    rw [List.cons_append, readName, if_pos (hn c List.mem_cons_self),
      ih fun d hd => hn d (List.mem_cons_of_mem c hd)]

theorem readWord_append (hn : ∀ c ∈ name, isNameChar c = true) (hr : EndsName rest) :
    readWord (name ++ rest) = (.ident (String.ofList name), rest) := by
  rw [readWord, readName_append hn hr]
  obtain rfl | ⟨more, rfl⟩ := hr <;> rfl

theorem readToken_of_isNameStart (h : isNameStart c = true) (cs : List Char) :
    readToken c cs = readWord (c :: cs) := by
  have hs : isSpace c = false := by
    cases hs : isSpace c with
    | false => rfl
    | true =>
      simp only [isSpace, isNewline, Bool.or_eq_true, beq_iff_eq] at hs
      rcases hs with (rfl | rfl) | (rfl | rfl) | rfl <;> cases h
  unfold readToken
  simp only [hs, h, if_true, Bool.false_eq_true, if_false]

theorem isDigit_iff : c.isDigit = true ↔ 48 ≤ c.toNat ∧ c.toNat ≤ 57 := by
  simp [Char.isDigit, UInt32.le_iff_toNat_le]

theorem isLower_iff : c.isLower = true ↔ 97 ≤ c.toNat ∧ c.toNat ≤ 122 := by
  simp [Char.isLower, UInt32.le_iff_toNat_le]

theorem isDigit_of_isNameStart (h : isNameStart c = true) : c.isDigit = false := by
  by_contra hd
  rw [Bool.not_eq_false, isDigit_iff] at hd
  simp only [isNameStart, Char.isAlpha, Bool.or_eq_true, Text.isUpper_iff, isLower_iff,
    beq_iff_eq, decide_eq_true_eq] at h
  rcases h with ((h | rfl) | rfl) | h
  · omega
  · exact absurd hd (by decide)
  · exact absurd hd (by decide)
  · omega

/-- A dash or the start of a name is no start of a number. -/
theorem startsNumber_eq_false (h : isNameStart c = true ∨ c = '-') (cs : List Char) :
    startsNumber (c :: cs) = false := by
  have hd : c.isDigit = false ∧ c ≠ '.' := by
    rcases h with h | rfl
    · refine ⟨isDigit_of_isNameStart h, ?_⟩
      rintro rfl
      cases h
    · decide
  unfold startsNumber
  split
  · rename_i heq
    exact absurd (List.cons.inj heq).1 hd.2
  · rename_i heq
    exact (List.cons.inj heq).1 ▸ hd.1
  · rfl

/-- A dash at the front of a name is no sign and ends no comment. -/
theorem readToken_dash (h : isNameStart c = true ∨ c = '-') (hc : cs.head? ≠ some '>') :
    readToken '-' (c :: cs) = readWord ('-' :: c :: cs) := by
  have hs : startsName ('-' :: c :: cs) = true := by
    rcases h with h | rfl
    · simp [startsName, h]
    · rfl
  unfold readToken
  simp only [show isSpace '-' = false by decide, show isNameStart '-' = false by decide,
    show '-'.isDigit = false by decide, startsNumber_eq_false h, Bool.false_eq_true, if_false]
  split
  · rename_i heq
    rw [(List.cons.inj heq).2] at hc
    exact absurd rfl hc
  · rw [if_pos hs]

/-- A name that begins with a dash goes on with another one or with a start of a name. -/
theorem startsName_dash (h : startsName ('-' :: cs) = true)
    (hn : ∀ d ∈ cs, isNameChar d = true) :
    ∃ d more, cs = d :: more ∧ (isNameStart d = true ∨ d = '-') := by
  cases cs with
  | nil => cases h
  | cons d more =>
    simp only [startsName, Bool.or_eq_true, beq_iff_eq] at h
    rcases h with (h | h) | rfl
    · exact ⟨d, more, rfl, Or.inl h⟩
    · exact ⟨d, more, rfl, Or.inr h⟩
    · exact absurd (hn _ List.mem_cons_self) (by decide)

theorem isNameStart_of_startsName (hs : startsName (c :: cs) = true) (hn : isNameChar c = true)
    (hc : c ≠ '-') : isNameStart c = true := by
  unfold startsName at hs
  split at hs
  · rename_i heq
    exact absurd (List.cons.inj heq).1 hc
  · rename_i heq
    rw [(List.cons.inj heq).1] at hn
    exact absurd hn (by decide)
  · rename_i heq
    exact (List.cons.inj heq).1 ▸ hs
  · cases hs

theorem readToken_append (hs : startsName (c :: cs) = true)
    (hn : ∀ d ∈ c :: cs, isNameChar d = true) (hr : EndsName rest) :
    readToken c (cs ++ rest) = (.ident (String.ofList (c :: cs)), rest) := by
  have hword := readWord_append hn hr
  by_cases hc : c = '-'
  · subst c
    have hcs : ∀ d ∈ cs, isNameChar d = true := fun d hd => hn d (List.mem_cons_of_mem _ hd)
    obtain ⟨d, more, rfl, hd⟩ := startsName_dash hs hcs
    rw [List.cons_append, readToken_dash hd, ← hword]
    · rfl
    · intro hh
      cases more with
      | nil => obtain rfl | ⟨_, rfl⟩ := hr <;> cases hh
      | cons b more =>
        obtain rfl : b = '>' := Option.some.inj hh
        exact absurd (hcs '>' (by simp)) (by decide)
  · have hstart := isNameStart_of_startsName hs (hn c List.mem_cons_self) hc
    rw [readToken_of_isNameStart hstart]
    exact hword

theorem readAll_cons (hc : c ≠ '/') (fuel : Nat) (cs : List Char) :
    readAll (fuel + 1) (c :: cs) =
      (readToken c cs).1 :: readAll fuel (readToken c cs).2 := by
  rw [readAll]
  rintro _ rfl
  exact absurd rfl hc

theorem readAll_append (fuel : Nat) (hs : startsName name = true)
    (hn : ∀ d ∈ name, isNameChar d = true) (hr : EndsName rest) :
    readAll (fuel + 1) (name ++ rest) = .ident (String.ofList name) :: readAll fuel rest := by
  cases name with
  | nil => cases hs
  | cons c cs =>
    have hc : c ≠ '/' := by
      rintro rfl
      exact absurd (hn _ List.mem_cons_self) (by decide)
    rw [List.cons_append, readAll_cons hc, readToken_append hs hn hr]

theorem tokens_of_isIdentifier (h : IsIdentifier s) : tokens s = [.ident s] := by
  have hr := readAll_append (s.toList.length) h.1 h.2 (Or.inl rfl)
  rw [List.append_nil, String.ofList_toList] at hr
  rw [tokens, hr]
  cases s.toList.length <;> rfl

theorem tokens_brackets_of_isIdentifier (h : IsIdentifier s) :
    tokens ("[" ++ s ++ "]") = [.opening .square, .ident s, .closing .square] := by
  have hl : ("[" ++ s ++ "]").toList = '[' :: (s.toList ++ [']']) := by simp
  have hr := readAll_append (s.toList.length + 1) h.1 h.2 (Or.inr ⟨[], rfl⟩)
  rw [String.ofList_toList] at hr
  have hlen : ('[' :: (s.toList ++ [']'])).length + 1 = s.toList.length + 1 + 1 + 1 := by simp
  rw [tokens, hl, hlen, readAll_cons (by decide)]
  have hopen : readToken '[' (s.toList ++ [']']) = (.opening .square, s.toList ++ [']']) := rfl
  rw [hopen, hr, readAll_cons (by decide)]
  cases s.toList.length <;> rfl

end Lexer

open Lexer (IsIdentifier)

variable {s : String}

theorem parse_of_isIdentifier (h : IsIdentifier s) :
    parse s = .ok ⟨s, [.compound [.type s]]⟩ := by
  rw [parse, Reader.readList, Lexer.tokens_of_isIdentifier h]
  rfl

theorem parse_brackets_of_isIdentifier (h : IsIdentifier s) :
    parse ("[" ++ s ++ "]") =
      .ok ⟨"[" ++ s ++ "]", [.compound [.attribute ⟨false, s, none⟩]]⟩ := by
  rw [parse, Reader.readList, Lexer.tokens_brackets_of_isIdentifier h]
  rfl

/-- A name in brackets is met by an attribute outside all namespaces that has it in lower case. -/
theorem AttributeTest.holds_name (name : String) (attrs : List Attribute) :
    AttributeTest.holds ⟨false, name, none⟩ attrs =
      attrs.any fun a => a.name.space == .none && a.name.name == Text.lowered name := by
  simp only [AttributeTest.holds, Bool.false_or, ← List.isSome_find?]
  cases attrs.find? fun a => a.name.space == .none && a.name.name == Text.lowered name <;> rfl

end Selector

open Selector.Lexer (IsIdentifier)

theorem Sound.mem_select_attribute {t : Tree} (h : Sound t) {i : NodeId} (source name : String) :
    i ∈ t.select ⟨source, [.compound [.attribute ⟨false, name, none⟩]]⟩ ↔
      i ∈ t.within document ∧ ∃ e, t.element? (some i) = some e ∧
        ∃ a ∈ e.attrs, a.name.space = .none ∧ a.name.name = Text.lowered name := by
  rw [h.mem_select_single source rfl, Selector.Simple.holds]
  refine and_congr_right fun _ => exists_congr fun e => and_congr_right fun he => ?_
  change Selector.AttributeTest.holds ⟨false, name, none⟩ (t.attrs (some i)) = true ↔ _
  rw [Selector.AttributeTest.holds_name]
  simp [Tree.attrs, he]

/-- A selector that is read from a text finds a node. -/
def Tree.Finds (t : Tree) (source : String) (i : NodeId) : Prop :=
  ∃ s, Selector.parse source = .ok s ∧ i ∈ t.select s

/-- A node is found by the name of its element and by each of its attributes outside all
namespaces, as they are spelled in the tree. -/
structure FoundByOwnNames (t : Tree) (i : NodeId) (e : Element) : Prop where
  byType : IsIdentifier e.name.name → t.Finds e.name.name i
  byAttribute : ∀ a ∈ e.attrs, a.name.space = .none → IsIdentifier a.name.name →
    t.Finds ("[" ++ a.name.name ++ "]") i

section Finds

variable {t : Tree} {i : NodeId} {e : Element} {name : String}

theorem Sound.finds_type_iff (h : Sound t) (hi : i ∈ t.within document)
    (he : t.element? (some i) = some e) (hn : IsIdentifier name) :
    t.Finds name i ↔ e.name.name = Text.lowered name := by
  simp [Tree.Finds, Selector.parse_of_isIdentifier hn, h.mem_select_type, hi, he]

theorem Sound.finds_attribute_iff (h : Sound t) (hi : i ∈ t.within document)
    (he : t.element? (some i) = some e) (hn : IsIdentifier name) :
    t.Finds ("[" ++ name ++ "]") i ↔
      ∃ a ∈ e.attrs, a.name.space = .none ∧ a.name.name = Text.lowered name := by
  simp [Tree.Finds, Selector.parse_brackets_of_isIdentifier hn, h.mem_select_attribute, hi, he]

end Finds

/-- An attached element of any namespace is found by its own names exactly if selectors can do
without its capital letters: its name has none, and an attribute whose name has some has one beside
it that is spelled without. -/
theorem Built.foundByOwnNames_iff {t : Tree} (h : Built t) {i : NodeId} {e : Element}
    (ha : t.isAttached (some i) = true) (he : t.element? (some i) = some e) :
    FoundByOwnNames t i e ↔
      (IsIdentifier e.name.name → Text.lowered e.name.name = e.name.name) ∧
        ∀ a ∈ e.attrs, a.name.space = .none → IsIdentifier a.name.name →
          ∃ b ∈ e.attrs, b.name.space = .none ∧ b.name.name = Text.lowered a.name.name := by
  have hi : i ∈ t.within document := h.sound.isAttached_iff.mp ha
  constructor
  · intro hf
    refine ⟨fun hn => ?_, fun a hm hs hn => ?_⟩
    · exact ((h.sound.finds_type_iff hi he hn).mp (hf.byType hn)).symm
    · exact (h.sound.finds_attribute_iff hi he hn).mp (hf.byAttribute a hm hs hn)
  · rintro ⟨htype, hattr⟩
    refine ⟨fun hn => ?_, fun a hm hs hn => ?_⟩
    · exact (h.sound.finds_type_iff hi he hn).mpr (htype hn).symm
    · exact (h.sound.finds_attribute_iff hi he hn).mpr (hattr a hm hs hn)

/-- A picture in a page: a root and a gradient whose names have capital letters, and a path. -/
def picturePage : List Edit :=
  [.createElement ⟨.svg, "svg"⟩ [.plain "viewBox" "0 0 1 1"], .append 0 1,
    .createElement ⟨.svg, "linearGradient"⟩ [], .append 1 2,
    .createElement ⟨.svg, "path"⟩ [.plain "d" "M0 0", .plain "--x" "y"], .append 1 3]

theorem foundByOwnNames_picturePage :
    LegalRun .empty picturePage ∧
      (picturePage.foldl Edit.run .empty).isAttached (some 3) = true ∧
      ∃ e, (picturePage.foldl Edit.run .empty).element? (some 3) = some e ∧
        IsIdentifier e.name.name ∧ FoundByOwnNames (picturePage.foldl Edit.run .empty) 3 e := by
  have hl : LegalRun .empty picturePage := by decide +kernel
  have ha : (picturePage.foldl Edit.run .empty).isAttached (some 3) = true := by decide +kernel
  have he : (picturePage.foldl Edit.run .empty).element? (some 3) =
      some (.ofAttrs ⟨.svg, "path"⟩ [.plain "d" "M0 0", .plain "--x" "y"]) := by decide +kernel
  refine ⟨hl, ha, _, he, by decide +kernel,
    ((Built.empty.run hl).foundByOwnNames_iff ha he).mpr ⟨fun _ => by decide +kernel, ?_⟩⟩
  decide +kernel

/-- Neither the gradient nor the root is found by the name that has a capital letter. -/
theorem not_foundByOwnNames_picturePage :
    LegalRun .empty picturePage ∧
      (picturePage.foldl Edit.run .empty).isAttached (some 2) = true ∧
      (picturePage.foldl Edit.run .empty).element? (some 2) =
        some (.ofAttrs ⟨.svg, "linearGradient"⟩ []) ∧
      IsIdentifier "linearGradient" ∧
      ¬ (picturePage.foldl Edit.run .empty).Finds "linearGradient" 2 ∧
      (picturePage.foldl Edit.run .empty).isAttached (some 1) = true ∧
      (picturePage.foldl Edit.run .empty).element? (some 1) =
        some (.ofAttrs ⟨.svg, "svg"⟩ [.plain "viewBox" "0 0 1 1"]) ∧
      IsIdentifier "viewBox" ∧ ¬ (picturePage.foldl Edit.run .empty).Finds "[viewBox]" 1 := by
  have hl : LegalRun .empty picturePage := by decide +kernel
  have hs := (Built.empty.run hl).sound
  obtain ⟨ha2, he2, hn2, ha1, he1, hn1⟩ :
      (picturePage.foldl Edit.run .empty).isAttached (some 2) = true ∧
        (picturePage.foldl Edit.run .empty).element? (some 2) =
          some (.ofAttrs ⟨.svg, "linearGradient"⟩ []) ∧ IsIdentifier "linearGradient" ∧
        (picturePage.foldl Edit.run .empty).isAttached (some 1) = true ∧
        (picturePage.foldl Edit.run .empty).element? (some 1) =
          some (.ofAttrs ⟨.svg, "svg"⟩ [.plain "viewBox" "0 0 1 1"]) ∧ IsIdentifier "viewBox" := by
    decide +kernel
  refine ⟨hl, ha2, he2, hn2, ?_, ha1, he1, hn1, ?_⟩
  · rw [hs.finds_type_iff (hs.isAttached_iff.mp ha2) he2 hn2]
    decide +kernel
  · rw [show "[viewBox]" = "[" ++ "viewBox" ++ "]" from rfl,
      hs.finds_attribute_iff (hs.isAttached_iff.mp ha1) he1 hn1]
    decide +kernel

end CoursePage
