import CoursePage.Proofs.ClassEdits
import CoursePage.Proofs.OwnNames

/-!
Class tokens and what the markup standard takes for them. The standard cuts the value of a `class`
at its five spaces, and so does a selector that asks for a word of an attribute. The tokens that an
element keeps are cut at every blank, and they are what is written back when one is added.
-/

namespace CoursePage

namespace Text

variable {cut fine : Char → Bool} {cs w : List Char}

/-- The words of a text between the spaces of the markup standard. -/
def spaceWords (s : String) : List String := (words isSpace s.toList).map String.ofList

theorem pieces_congr (h : ∀ c ∈ cs, cut c = fine c) : pieces cut cs = pieces fine cs := by
  induction cs with
  | nil => rfl
  | cons c cs ih =>
    rw [pieces, pieces, h c List.mem_cons_self, ih fun d hd => h d (List.mem_cons_of_mem c hd)]

/-- More separators cut the pieces further. -/
theorem pieces_flatMap (h : ∀ c, cut c = true → fine c = true) (cs : List Char) :
    pieces fine cs = (pieces cut cs).flatMap (pieces fine) := by
  induction cs with
  | nil => rfl
  | cons c cs ih =>
    by_cases hc : cut c = true
    · rw [pieces, pieces, if_pos hc, if_pos (h c hc), List.flatMap_cons, ← ih]
      rfl
    · obtain ⟨p, ps, hp⟩ := List.exists_cons_of_ne_nil (pieces_ne_nil cut cs)
      obtain ⟨q, qs, hq⟩ := List.exists_cons_of_ne_nil (pieces_ne_nil fine p)
      have hcs : pieces fine cs = q :: (qs ++ ps.flatMap (pieces fine)) := by
        rw [ih, hp, List.flatMap_cons, hq, List.cons_append]
      rw [pieces, pieces, if_neg hc, hp, hcs, List.flatMap_cons, pieces, hq]
      split <;> rfl

/-- A word that further separators leave whole is a word between all of them. -/
theorem mem_words_of_uncut (h : ∀ c, cut c = true → fine c = true) (hw : w ∈ words cut cs)
    (hf : ∀ c ∈ w, fine c = false) : w ∈ words fine cs := by
  obtain ⟨hp, hne⟩ := List.mem_filter.mp hw
  refine List.mem_filter.mpr ⟨?_, hne⟩
  rw [pieces_flatMap h, List.mem_flatMap]
  exact ⟨w, hp, by rw [pieces_of_uncut hf]; exact List.mem_singleton_self w⟩

/-- What is no separator is in a word. -/
theorem exists_mem_words {c : Char} (hc : c ∈ cs) (hn : cut c = false) :
    ∃ w ∈ words cut cs, c ∈ w := by
  obtain ⟨p, hp, hcp⟩ : ∃ p ∈ pieces cut cs, c ∈ p := by
    induction cs with
    | nil => cases hc
    | cons d cs ih =>
      obtain ⟨p, ps, hps⟩ := List.exists_cons_of_ne_nil (pieces_ne_nil cut cs)
      rcases List.mem_cons.mp hc with rfl | hc
      · simp [pieces, hn, hps]
      · obtain ⟨q, hq, hcq⟩ := ih hc
        rw [hps] at hq
        by_cases hd : cut d = true
        · exact ⟨q, by simpa [pieces, hd, hps] using Or.inr hq, hcq⟩
        · rcases List.mem_cons.mp hq with rfl | hq
          · exact ⟨d :: q, by simp [pieces, hd, hps], List.mem_cons_of_mem d hcq⟩
          · exact ⟨q, by simp [pieces, hd, hps, hq], hcq⟩
  exact ⟨p, List.mem_filter.mpr ⟨hp, by simpa using List.ne_nil_of_mem hcp⟩, hcp⟩

variable {s token : String}

theorem mem_spaceWords :
    token ∈ spaceWords s ↔ token.toList ∈ pieces isSpace s.toList ∧ token ≠ "" := by
  rw [spaceWords, List.mem_map, ne_eq, ← String.toList_eq_nil_iff]
  constructor
  · rintro ⟨w, hw, rfl⟩
    simpa [words] using hw
  · rintro ⟨hp, hne⟩
    exact ⟨token.toList, by simp [words, hp, hne], String.ofList_toList⟩

/-- A word between spaces is one between blanks if it can be. -/
theorem mem_blankWords_iff (h : token ∈ spaceWords s) : token ∈ blankWords s ↔ IsToken token := by
  refine ⟨isToken_of_mem_blankWords, fun ht => ?_⟩
  obtain ⟨w, hw, rfl⟩ := List.mem_map.mp h
  have hf : ∀ c ∈ w, isBlank c = false := by simpa using ht.2
  exact List.mem_map_of_mem (mem_words_of_uncut (fun _ => isBlank_of_isSpace) hw hf)

/-- A blank that is no space is in a word between spaces. -/
theorem isSpace_of_isToken (h : ∀ w ∈ spaceWords s, IsToken w) {c : Char} (hc : c ∈ s.toList)
    (hb : isBlank c = true) : isSpace c = true := by
  by_contra hs
  obtain ⟨w, hw, hcw⟩ := exists_mem_words hc (Bool.not_eq_true _ ▸ hs)
  have ht := h _ (List.mem_map_of_mem hw)
  rw [ht.2 c (by simpa using hcw)] at hb
  cases hb

theorem blankWords_eq_spaceWords (h : ∀ c ∈ s.toList, isBlank c = true → isSpace c = true) :
    blankWords s = spaceWords s := by
  have hcut : ∀ c ∈ s.toList, isBlank c = isSpace c := fun c hc =>
    Bool.eq_iff_iff.mpr ⟨h c hc, isBlank_of_isSpace⟩
  rw [blankWords, spaceWords, words, words, pieces_congr hcut]

theorem words_intercalate_blankWords (cut : Char → Bool) (hs : cut ' ' = true)
    (hc : ∀ c, cut c = true → isBlank c = true) (s last : String) :
    (words cut (" ".intercalate (blankWords s ++ [last])).toList).map String.ofList =
      blankWords s ++ (words cut last.toList).map String.ofList := by
  have hw : ∀ w ∈ words isBlank s.toList, w ≠ [] ∧ ∀ c ∈ w, cut c = false := by
    intro w hw
    obtain ⟨hp, hne⟩ := List.mem_filter.mp hw
    refine ⟨by simpa using hne, fun c hcw => ?_⟩
    by_contra hcut
    have hb := hc c (Bool.not_eq_false _ ▸ hcut)
    rw [not_cut_of_mem_pieces hp c hcw] at hb
    cases hb
  have hsep : " ".toList = [' '] := rfl
  rw [String.toList_intercalate, hsep, List.map_append, blankWords, List.map_map]
  simp [Function.comp_def, words_intercalate_concat hs hw]

theorem blankWords_intercalate_concat (s last : String) :
    blankWords (" ".intercalate (blankWords s ++ [last])) = blankWords s ++ blankWords last :=
  words_intercalate_blankWords isBlank (by decide) (fun _ h => h) s last

theorem spaceWords_intercalate_concat (s last : String) :
    spaceWords (" ".intercalate (blankWords s ++ [last])) = blankWords s ++ spaceWords last :=
  words_intercalate_blankWords isSpace (by decide) (fun _ => isBlank_of_isSpace) s last

end Text

namespace Element

variable {e : Element} {attrs : List Attribute} {name token : String} {a : Attribute}

/-- `a` is the one attribute with a local name. -/
def Only (name : String) (attrs : List Attribute) (a : Attribute) : Prop :=
  attrs.filter (fun b => b.name.name == name) = [a]

instance (name : String) (attrs : List Attribute) (a : Attribute) :
    Decidable (Only name attrs a) :=
  inferInstanceAs (Decidable (_ = _))

namespace Only

theorem firstValue? (h : Only name attrs a) :
    Element.firstValue? name attrs = some a.value := by
  rw [Element.firstValue?, ← List.head?_filter, h]
  rfl

theorem lastValue? (h : Only name attrs a) : Element.lastValue? name attrs = some a.value := by
  rw [Element.lastValue?, ← List.head?_filter, List.filter_reverse, h]
  rfl

/-- A search that looks at the name, too, finds no other attribute. -/
theorem find? (h : Only name attrs a) {p : Attribute → Bool} (hp : p a = true) :
    attrs.find? (fun b => p b && b.name.name == name) = some a := by
  rw [← List.head?_filter, ← List.filter_filter, h, List.filter_cons_of_pos hp]
  rfl

theorem assign (h : Only name attrs a) (value : String) :
    Only name (Element.assign name value attrs) { a with value } := by
  unfold Only at *
  induction attrs with
  | nil => cases h
  | cons b attrs ih =>
    by_cases hb : b.name.name = name
    · rw [List.filter_cons_of_pos (by simpa using hb)] at h
      obtain ⟨rfl, hnil⟩ := List.cons.inj h
      simpa [Element.assign, hb] using hnil
    · rw [List.filter_cons_of_neg (by simpa using hb)] at h
      simpa [Element.assign, hb] using ih h

end Only

/-- What an element keeps beside its attributes is what they give. -/
def Synced (e : Element) : Prop := e = ofAttrs e.name e.attrs

theorem lasting_synced : Lasting Synced where
  made _ _ _ := rfl
  written _ _ _ _ := rfl
  renamed _ _ _ := rfl

variable (he : e.Synced) (ha : Only "class" e.attrs a)
include he ha

theorem classes_of_only : e.classes = Text.blankWords a.value := by
  rw [he, ofAttrs, classTokens, ha.lastValue?]

/-- A token that an element lacks is written behind those that it keeps. -/
theorem only_addClass (h : token ∉ e.classes) :
    Only "class" (e.addClass token).attrs
      { a with value := " ".intercalate (Text.blankWords a.value ++ [token]) } := by
  rw [addClass, if_neg h, classes_of_only he ha]
  exact ha.assign _

end Element

namespace Selector

open Lexer (IsIdentifier)

namespace Lexer

variable {s : String}

/-- A dot before a name starts no number. -/
theorem startsNumber_dot (h : IsIdentifier s) : startsNumber ('.' :: s.toList) = false := by
  obtain ⟨hs, hn⟩ := h
  cases hl : s.toList with
  | nil => rfl
  | cons c cs =>
    rw [hl] at hs hn
    change c.isDigit = false
    by_cases hc : c = '-'
    · rw [hc]
      rfl
    · exact isDigit_of_isNameStart (isNameStart_of_startsName hs (hn c List.mem_cons_self) hc)

theorem tokens_dot_of_isIdentifier (h : IsIdentifier s) :
    tokens ("." ++ s) = [.delim '.', .ident s] := by
  have hl : ("." ++ s).toList = '.' :: s.toList := by simp
  have hdot : readToken '.' s.toList = (.delim '.', s.toList) := by
    change (if startsNumber ('.' :: s.toList) = true then readNumber ('.' :: s.toList) else
      (.delim '.', s.toList)) = _
    rw [startsNumber_dot h]
    rfl
  have hr := readAll_append s.toList.length h.1 h.2 (Or.inl rfl)
  rw [List.append_nil, String.ofList_toList] at hr
  rw [tokens, hl, List.length_cons, readAll_cons (by decide), hdot, hr]
  cases s.toList.length <;> rfl

end Lexer

/-- A name behind a dot is read as a class. -/
theorem parse_dot_of_isIdentifier {s : String} (h : IsIdentifier s) :
    parse ("." ++ s) = .ok ⟨"." ++ s, [.compound [.className s]]⟩ := by
  rw [parse, Reader.readList, Lexer.tokens_dot_of_isIdentifier h]
  rfl

/-- A selector for a word of an attribute goes by the spaces of the markup standard. -/
theorem holds_includes {name word : String} {attrs : List Attribute} {a : Attribute} {any : Bool}
    (ha : Element.Only name attrs a) (hn : Text.lowered name = name)
    (hf : name ∉ foldedAttributes) (hs : (any || a.name.space == .none) = true) (hw : word ≠ "") :
    AttributeTest.holds ⟨any, name, some ⟨.includes, word, .unmarked⟩⟩ attrs = true ↔
      word ∈ Text.spaceWords a.value := by
  have hfound := ha.find? (p := fun b => any || b.name.space == .none) hs
  have hrule : AttributeTest.caseRule ⟨any, name, some ⟨.includes, word, .unmarked⟩⟩ .unmarked =
      .exact := by
    simp [AttributeTest.caseRule, hn, hf]
  simp only [AttributeTest.holds, hn, hfound, hrule, Operator.holds, Text.CaseRule.equal]
  rw [Text.mem_spaceWords]
  simp [hw]

end Selector

open Selector.Lexer (IsIdentifier)

/-- The class tokens of an element as the markup standard reads them from its attribute. -/
def Tree.standardClasses (t : Tree) (l : Link) : List String :=
  ((t.attr? l "class").map Text.spaceWords).getD []

/-- The class tokens of an element are those of the standard, for a question, for a selector and
where one is added. -/
structure FollowsStandard (t : Tree) (i : NodeId) : Prop where
  has : ∀ c, c ≠ "" → (t.hasClass (some i) c = true ↔ c ∈ t.standardClasses (some i))
  selected : ∀ s : Selector, ∀ c, c ≠ "" → s.alternatives = [.compound [.className c]] →
    (s.holds t i = true ↔ c ∈ t.standardClasses (some i))
  kept : ∀ d, ∀ c ∈ t.standardClasses (some i),
    c ∈ (t.addClass (some i) d).standardClasses (some i)

/-- The class tokens of an element whose one `class` is `a`. -/
structure ClassTokens (t : Tree) (i : NodeId) (a : Attribute) : Prop where
  has : ∀ c, t.hasClass (some i) c = true ↔ c ∈ Text.blankWords a.value
  selected : ∀ s : Selector, ∀ c, s.alternatives = [.compound [.className c]] →
    (s.holds t i = true ↔ c ∈ Text.blankWords a.value)
  dotted : ∀ c, IsIdentifier c →
    ∃ s, Selector.parse ("." ++ c) = .ok s ∧ s.alternatives = [.compound [.className c]]
  /-- A selector for a word of the attribute goes by the standard. -/
  included : ∀ s : Selector, ∀ any c, (any || a.name.space == .none) = true → c ≠ "" →
    s.alternatives = [.compound [.attribute ⟨any, "class", some ⟨.includes, c, .unmarked⟩⟩]] →
    (s.holds t i = true ↔ c ∈ Text.spaceWords a.value)
  standard : t.standardClasses (some i) = Text.spaceWords a.value
  /-- Of the tokens of the standard those without blanks are tokens here. -/
  shared : ∀ c ∈ t.standardClasses (some i),
    (t.hasClass (some i) c = true ↔ Text.IsToken c)
  present : ∀ d, t.hasClass (some i) d = true → t.addClass (some i) d = t
  added : ∀ d, t.hasClass (some i) d = false →
    (t.addClass (some i) d).classes (some i) =
      Text.blankWords a.value ++ Text.blankWords d ∧
    (t.addClass (some i) d).standardClasses (some i) =
      Text.blankWords a.value ++ Text.spaceWords d
  /-- A token of the standard is lost if it has blanks, unless nothing is written or it is written
  again. -/
  kept : ∀ d, ∀ c ∈ t.standardClasses (some i),
    (c ∈ (t.addClass (some i) d).standardClasses (some i) ↔
      t.hasClass (some i) d = true ∨ Text.IsToken c ∨ c ∈ Text.spaceWords d)
  follows : FollowsStandard t i ↔
    ∀ c ∈ a.value.toList, Text.isBlank c = true → Text.isSpace c = true

section Only

variable {t : Tree} {i : NodeId} {e : Element} {a : Attribute}
variable (he : t.element? (some i) = some e) (hs : e.Synced) (ha : Element.Only "class" e.attrs a)
include he ha

namespace Tree

theorem standardClasses_of_only : t.standardClasses (some i) = Text.spaceWords a.value := by
  rw [standardClasses, attr?, attrs, he, Option.map_some, Option.getD_some, ha.firstValue?]
  rfl

include hs

theorem classes_of_only : t.classes (some i) = Text.blankWords a.value := by
  rw [classes, he, Option.map_some, Option.getD_some, Element.classes_of_only hs ha]

theorem hasClass_of_only (c : String) :
    t.hasClass (some i) c = true ↔ c ∈ Text.blankWords a.value := by
  rw [hasClass, List.contains_iff_mem, classes_of_only he hs ha]

theorem hasClass_iff_isToken {c : String} (hc : c ∈ t.standardClasses (some i)) :
    t.hasClass (some i) c = true ↔ Text.IsToken c := by
  rw [standardClasses_of_only he ha] at hc
  rw [hasClass_of_only he hs ha, Text.mem_blankWords_iff hc]

/-- An added token is written behind the tokens that the element keeps, whatever the attribute had
between them. -/
theorem classes_addClass_of_only {d : String} (hd : t.hasClass (some i) d = false) :
    (t.addClass (some i) d).classes (some i) =
        Text.blankWords a.value ++ Text.blankWords d ∧
      (t.addClass (some i) d).standardClasses (some i) =
        Text.blankWords a.value ++ Text.spaceWords d := by
  have hn : d ∉ e.classes := by
    rw [Element.classes_of_only hs ha, ← hasClass_of_only he hs ha, hd]
    exact Bool.false_ne_true
  have he' := element?_addClass he d
  have ha' := Element.only_addClass hs ha hn
  have hs' : (e.addClass d).Synced := by
    rw [Element.addClass, if_neg hn]
    rfl
  rw [classes_of_only he' hs' ha', standardClasses_of_only he' ha']
  exact ⟨Text.blankWords_intercalate_concat a.value d,
    Text.spaceWords_intercalate_concat a.value d⟩

theorem mem_standardClasses_addClass (d : String) {c : String}
    (hc : c ∈ t.standardClasses (some i)) :
    c ∈ (t.addClass (some i) d).standardClasses (some i) ↔
      t.hasClass (some i) d = true ∨ Text.IsToken c ∨ c ∈ Text.spaceWords d := by
  cases hd : t.hasClass (some i) d with
  | true =>
    rw [addClass_of_mem (List.contains_iff_mem.mp hd)]
    exact iff_of_true hc (Or.inl rfl)
  | false =>
    rw [(classes_addClass_of_only he hs ha hd).2, List.mem_append, ← hasClass_of_only he hs ha,
      hasClass_iff_isToken he hs ha hc]
    simp

end Tree

include hs

theorem holds_class_of_only {s : Selector} {c : String}
    (hc : s.alternatives = [.compound [.className c]]) :
    s.holds t i = true ↔ c ∈ Text.blankWords a.value := by
  obtain ⟨source, alternatives⟩ := s
  subst hc
  rw [Selector.holds_class, Tree.isElement, he, Option.isSome_some, Bool.true_and,
    Tree.hasClass_of_only he hs ha]

/-- The tokens are those of the standard exactly if the blanks in the value are its spaces. -/
theorem followsStandard_iff_of_only : FollowsStandard t i ↔
    ∀ c ∈ a.value.toList, Text.isBlank c = true → Text.isSpace c = true := by
  have hstandard := Tree.standardClasses_of_only he ha
  constructor
  · intro h c hc hb
    refine Text.isSpace_of_isToken ?_ hc hb
    intro w hw
    have hne : w ≠ "" := (Text.mem_spaceWords.mp hw).2
    rw [← hstandard] at hw
    exact (Tree.hasClass_iff_isToken he hs ha hw).mp ((h.has w hne).mpr hw)
  · intro h
    rw [← Text.blankWords_eq_spaceWords h] at hstandard
    constructor
    · intro c _
      rw [Tree.hasClass_of_only he hs ha, hstandard]
    · intro s c _ hc
      rw [holds_class_of_only he hs ha hc, hstandard]
    · intro d c hc
      have ht : Text.IsToken c := Text.isToken_of_mem_blankWords (hstandard ▸ hc)
      exact (Tree.mem_standardClasses_addClass he hs ha d hc).mpr (Or.inr (Or.inl ht))

theorem classTokens_of_only : ClassTokens t i a where
  has := Tree.hasClass_of_only he hs ha
  selected _ _ hc := holds_class_of_only he hs ha hc
  dotted _ hc := ⟨_, Selector.parse_dot_of_isIdentifier hc, rfl⟩
  included := by
    rintro ⟨source, _⟩ any c hany hne rfl
    rw [Selector.holds_single, Tree.isElement, he, Option.isSome_some, Bool.true_and,
      Selector.Simple.holds]
    change Selector.AttributeTest.holds _ (t.attrs (some i)) = true ↔ _
    rw [Tree.attrs, he]
    exact Selector.holds_includes ha (by decide +kernel) (by decide) hany hne
  standard := Tree.standardClasses_of_only he ha
  shared _ hc := Tree.hasClass_iff_isToken he hs ha hc
  present _ hd := Tree.addClass_of_mem (List.contains_iff_mem.mp hd)
  added _ hd := Tree.classes_addClass_of_only he hs ha hd
  kept d _ hc := Tree.mem_standardClasses_addClass he hs ha d hc
  follows := followsStandard_iff_of_only he hs ha

end Only

/-- Whatever is called, the tokens of every element with one `class` are cut at all blanks, which is
what the standard says exactly if the blanks in the value are its spaces. -/
theorem classTokens_run (calls : List Call) {i : NodeId} {e : Element} {a : Attribute}
    (he : (calls.foldl Call.run .empty).element? (some i) = some e)
    (ha : Element.Only "class" e.attrs a) : ClassTokens (calls.foldl Call.run .empty) i a := by
  have hs : (calls.foldl Call.run .empty).Every Element.Synced :=
    Tree.Every.runAll Element.lasting_synced Tree.Every.empty fun _ _ _ => rfl
  exact classTokens_of_only he (hs _ e he) ha

/-- A paragraph whose class was pasted with a no-break space in it. -/
def pastedClass : List Call :=
  [.createElement (.html "p") [.plain "id" "x", .plain "class" "a\u00a0b\tc"],
    .append (some 0) (some 1), .setAttr (some 1) "title" "t"]

theorem classTokens_pastedClass :
    ∃ e, (pastedClass.foldl Call.run .empty).element? (some 1) = some e ∧
      Element.Only "class" e.attrs (.plain "class" "a\u00a0b\tc") ∧
      ClassTokens (pastedClass.foldl Call.run .empty) 1 (.plain "class" "a\u00a0b\tc") := by
  have he : (pastedClass.foldl Call.run .empty).element? (some 1) =
      some (.ofAttrs (.html "p")
        [.plain "id" "x", .plain "class" "a\u00a0b\tc", .plain "title" "t"]) := by
    decide +kernel
  have ha : Element.Only "class" [.plain "id" "x", .plain "class" "a\u00a0b\tc", .plain "title" "t"]
      (.plain "class" "a\u00a0b\tc") := by
    decide +kernel
  exact ⟨_, he, ha, classTokens_run pastedClass he ha⟩

/-- The paragraph has a class that the standard does not see, and an added one costs it one that the
standard sees. -/
theorem not_followsStandard_pastedClass :
    (pastedClass.foldl Call.run .empty).hasClass (some 1) "a" = true ∧
      (pastedClass.foldl Call.run .empty).standardClasses (some 1) = ["a\u00a0b", "c"] ∧
      ((pastedClass.foldl Call.run .empty).addClass (some 1) "d").standardClasses (some 1) =
        ["a", "b", "c", "d"] ∧
      ¬ FollowsStandard (pastedClass.foldl Call.run .empty) 1 := by
  have hhas : (pastedClass.foldl Call.run .empty).hasClass (some 1) "a" = true := by
    decide +kernel
  have hstandard : (pastedClass.foldl Call.run .empty).standardClasses (some 1) =
      ["a\u00a0b", "c"] := by
    decide +kernel
  refine ⟨hhas, hstandard, by decide +kernel, fun h => ?_⟩
  have hm := (h.has "a" (by decide)).mp hhas
  rw [hstandard] at hm
  exact absurd hm (by decide)

end CoursePage
