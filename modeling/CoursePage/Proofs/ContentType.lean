import CoursePage.Markup.Charset
import CoursePage.Proofs.Label

/-!
Which encoding a content type declares by the rule of the markup standard, and what the rewriting
to UTF-8 makes of it.
-/

namespace CoursePage

namespace Text

variable {p q cs rest : List Char}

theorem afterLetters?_eq_some_iff : afterLetters? p cs = some rest ↔
    ∃ front, cs = front ++ rest ∧ front.map Char.toLower = p.map Char.toLower := by
  induction p generalizing cs with
  | nil =>
    simp only [afterLetters?, Option.some.injEq, List.map_nil, List.map_eq_nil_iff]
    constructor
    · rintro rfl
      exact ⟨[], rfl, rfl⟩
    · rintro ⟨_, rfl, rfl⟩
      rfl
  | cons a p ih =>
    cases cs with
    | nil => simp [afterLetters?]
    | cons c cs =>
      simp only [afterLetters?]
      split
      · rename_i hc
        rw [ih]
        constructor
        · rintro ⟨front, rfl, hf⟩
          exact ⟨c :: front, rfl, by simp_all⟩
        · rintro ⟨_ | ⟨d, front⟩, he, hf⟩
          · simp at hf
          · cases he
            exact ⟨front, rfl, by simp_all⟩
      · rename_i hc
        constructor
        · intro h
          cases h
        · rintro ⟨_ | ⟨d, front⟩, he, hf⟩
          · simp at hf
          · cases he
            simp_all

theorem afterLetters?_append (p q cs : List Char) :
    afterLetters? (p ++ q) cs = (afterLetters? p cs).bind (afterLetters? q) := by
  induction p generalizing cs with
  | nil => rfl
  | cons a p ih =>
    cases cs with
    | nil => rfl
    | cons c cs =>
      simp only [List.cons_append, afterLetters?, ih]
      split <;> rfl

/-- Whether the letters are at the front does not depend on what comes behind their number. -/
theorem afterLetters?_append_right (h : p.length ≤ cs.length) (more : List Char) :
    afterLetters? p (cs ++ more) = (afterLetters? p cs).map (· ++ more) := by
  induction p generalizing cs with
  | nil => rfl
  | cons a p ih =>
    cases cs with
    | nil => simp at h
    | cons c cs =>
      simp only [List.cons_append, afterLetters?]
      split
      · exact ih (Nat.le_of_succ_le_succ h)
      · rfl

/-- Behind letters stands exactly what a further character leaves behind itself. -/
theorem afterLetters?_concat {d : Char} (hd : d.toNat < 97 ∨ 122 < d.toNat) (hl : d.toLower = d) :
    afterLetters? (p ++ [d]) cs = some rest ↔ afterLetters? p cs = some (d :: rest) := by
  rw [afterLetters?_append, Option.bind_eq_some_iff]
  constructor
  · rintro ⟨_ | ⟨c, more⟩, hm, h⟩
    · cases h
    · simp only [afterLetters?, hl, beq_iff_eq, Option.ite_none_right_eq_some,
        Option.some.injEq] at h
      rw [hm, eq_of_toLower hd h.1.symm, h.2]
  · intro h
    exact ⟨_, h, by simp [afterLetters?]⟩

end Text

namespace Encoding

open Text (isSpace afterLetters?)

variable {cs core rest front : List Char} {e : Encoding}

def charsetLetters : List Char := "charset".toList

theorem charsetLetters_eq : charsetLetters = ['c', 'h', 'a', 'r', 's', 'e', 't'] := rfl

/-- What stands behind the first charset with an equals sign. There may be spaces before the
sign. -/
def behindCharset? : List Char → Option (List Char)
  | [] => none
  | c :: cs =>
    match afterLetters? charsetLetters (c :: cs) with
    | some rest =>
      if (rest.dropWhile isSpace).head? = some '=' then some rest else behindCharset? cs
    | none => behindCharset? cs

/-- The encoding that the value behind an equals sign names. -/
def ofValue? (cs : List Char) : Option Encoding :=
  (Markup.labelAt? (cs.dropWhile isSpace)).bind fun label => ofLabel? (String.ofList label)

/-- The encoding that a content type declares by the markup standard. -/
def ofContentType? (content : String) : Option Encoding :=
  (Markup.charsetOf? content.toList).bind fun label => ofLabel? (String.ofList label)

/-- There are spaces before the equals sign of the charset that a content type declares. -/
def signApart (content : String) : Bool :=
  (behindCharset? content.toList).any fun rest => rest.head? != some '='

theorem ofContentType?_eq (content : String) : ofContentType? content =
    (behindCharset? content.toList).bind fun rest => ofValue? (rest.dropWhile isSpace).tail := by
  rw [ofContentType?]
  induction content.toList with
  | nil => simp [Markup.charsetOf?, behindCharset?]
  | cons c cs ih =>
    have hk : "charset".toList = charsetLetters := rfl
    rw [Markup.charsetOf?, hk, behindCharset?]
    cases afterLetters? charsetLetters (c :: cs) with
    | none => exact ih
    | some rest =>
      simp only [Option.map_some]
      cases hr : rest.dropWhile isSpace with
      | nil => exact ih
      | cons d more =>
        by_cases hd : d = '='
        · subst hd
          simp [hr, ofValue?]
        · simp [hd, ih]

theorem behindCharset?_of_after (h : afterLetters? charsetLetters cs = some rest)
    (hs : (rest.dropWhile isSpace).head? = some '=') : behindCharset? cs = some rest := by
  cases cs with
  | nil => cases h
  | cons c cs => simp [behindCharset?, h, hs]

theorem behindCharset?_cons {c : Char}
    (h : ∀ rest, afterLetters? charsetLetters (c :: cs) = some rest →
      (rest.dropWhile isSpace).head? ≠ some '=') :
    behindCharset? (c :: cs) = behindCharset? cs := by
  rw [behindCharset?]
  split
  · rename_i rest hr
    exact if_neg (h rest hr)
  · rfl

theorem after_charset_iff : afterLetters? "charset=".toList cs = some rest ↔
    afterLetters? charsetLetters cs = some ('=' :: rest) := by
  have hk : "charset=".toList = charsetLetters ++ ['='] := by decide
  rw [hk]
  exact Text.afterLetters?_concat (by decide) (by decide)

/-- Where no charset has its sign directly behind it, no sign that counts is directly behind. -/
theorem head?_ne_of_splitBehind?_eq_none (h : splitBehind? "charset=".toList cs = none)
    (hr : behindCharset? cs = some rest) : rest.head? ≠ some '=' := by
  induction cs with
  | nil => cases hr
  | cons c cs ih =>
    simp only [splitBehind?] at h
    split at h
    · cases h
    · rename_i hn
      rw [behindCharset?] at hr
      split at hr
      · rename_i more hm
        split at hr
        · obtain rfl := Option.some.inj hr
          intro hh
          obtain ⟨more, rfl⟩ := List.head?_eq_some_iff.mp hh
          rw [after_charset_iff.mpr hm] at hn
          cases hn
        · exact ih (Option.map_eq_none_iff.mp h) hr
      · exact ih (Option.map_eq_none_iff.mp h) hr

/-- Whatever comes next, the sign at the end of a text is the one that counts. -/
def EndsAtSign (front : List Char) : Prop :=
  ∀ more, behindCharset? (front ++ more) = some ('=' :: more)

/-- Whatever comes next, an earlier sign counts, and there are spaces before it. -/
def HoldsSign (front : List Char) : Prop :=
  ∃ gap d, gap ≠ [] ∧ (∀ c ∈ gap, isSpace c = true) ∧ '=' ∈ d ∧
    ∀ more, behindCharset? (front ++ more) = some (gap ++ '=' :: (d ++ more))

theorem endsAtSign_of_letters {w : List Char}
    (hl : w.map Char.toLower = charsetLetters.map Char.toLower) : EndsAtSign (w ++ ['=']) := by
  intro more
  refine behindCharset?_of_after ?_ (by simp [isSpace])
  exact Text.afterLetters?_eq_some_iff.mpr ⟨w, by simp, hl⟩

/-- One character more in front either leaves the sign that counts or begins an earlier charset
whose sign counts. -/
theorem endsAtSign_or_holdsSign_cons {c t : Char} {g : List Char} (hg : 6 ≤ g.length)
    (ht : isSpace t = false ∧ t ≠ '=')
    (hn : afterLetters? "charset=".toList (c :: (g ++ [t, '='] ++ rest)) = none)
    (h : EndsAtSign (g ++ [t, '=']) ∨ HoldsSign (g ++ [t, '='])) :
    EndsAtSign (c :: (g ++ [t, '='])) ∨ HoldsSign (c :: (g ++ [t, '='])) := by
  have hafter : ∀ more, afterLetters? charsetLetters (c :: (g ++ [t, '='] ++ more)) =
      (afterLetters? charsetLetters (c :: g)).map (· ++ t :: '=' :: more) := by
    intro more
    rw [← Text.afterLetters?_append_right (by simp [charsetLetters_eq]; omega)]
    simp
  -- The letter before the last sign ends all spaces that lead up to it.
  have hdrop : ∀ g' more, (g' ++ t :: '=' :: more).dropWhile isSpace =
      g'.dropWhile isSpace ++ t :: '=' :: more := fun g' more =>
    Text.dropWhile_append_cons ht.1 g' _
  by_cases hs : ∃ g' d, afterLetters? charsetLetters (c :: g) = some g' ∧
      g'.dropWhile isSpace = '=' :: d
  · obtain ⟨g', d, hg', hd⟩ := hs
    obtain ⟨gap, hgap, hspace⟩ := Text.exists_dropWhile isSpace g'
    rw [hd] at hgap
    refine Or.inr ⟨gap, d ++ [t, '='], ?_, hspace, by simp, fun more => ?_⟩
    · rintro rfl
      have hr := hafter rest
      rw [hg', hgap] at hr
      rw [after_charset_iff.mpr hr] at hn
      cases hn
    · have hm : behindCharset? (c :: (g ++ [t, '='] ++ more)) = some (g' ++ t :: '=' :: more) :=
        behindCharset?_of_after (by rw [hafter, hg', Option.map_some]) (by rw [hdrop, hd]; rfl)
      rw [List.cons_append, hm, hgap]
      simp
  · have hskip : ∀ more, behindCharset? (c :: (g ++ [t, '='] ++ more)) =
        behindCharset? (g ++ [t, '='] ++ more) := by
      intro more
      refine behindCharset?_cons fun r hr => ?_
      rw [hafter] at hr
      obtain ⟨g', hg', rfl⟩ := Option.map_eq_some_iff.mp hr
      rw [hdrop]
      cases hd : g'.dropWhile isSpace with
      | nil => simpa using ht.2
      | cons a d =>
        intro ha
        exact hs ⟨g', d, hg', by simpa [hd] using ha⟩
    unfold EndsAtSign HoldsSign at h ⊢
    simpa only [List.cons_append, hskip] using h

/-- A charset with its sign directly behind it is eight characters long and ends with a letter and
the sign. -/
theorem take_charset (h : afterLetters? "charset=".toList cs = some rest) :
    cs = cs.take 8 ++ rest ∧ EndsAtSign (cs.take 8) ∧
      ∃ g t, cs.take 8 = g ++ [t, '='] ∧ 6 ≤ g.length ∧ t.toLower = 't' := by
  obtain ⟨w, hw, hl⟩ := Text.afterLetters?_eq_some_iff.mp (after_charset_iff.mp h)
  have hlen : w.length = 7 := by simpa [charsetLetters_eq] using congrArg List.length hl
  have htake : cs.take 8 = w ++ ['='] := by
    rw [hw, List.take_append, hlen]
    simp [List.take_of_length_le, hlen]
  rw [htake]
  refine ⟨by simp [hw], endsAtSign_of_letters hl, ?_⟩
  obtain ⟨g, t, rfl⟩ := (List.eq_nil_or_concat' w).resolve_left (by
    rintro rfl
    simp at hlen)
  have hg : g.length = 6 := by simpa using hlen
  have ht : g.map Char.toLower ++ [t.toLower] = ['c', 'h', 'a', 'r', 's', 'e'] ++ ['t'] := by
    simpa [charsetLetters_eq] using hl
  exact ⟨g, t, by simp, Nat.le_of_eq hg.symm,
    List.singleton_inj.mp (List.append_inj ht (by simp [hg])).2⟩

theorem ends_of_toLower {t : Char} (ht : t.toLower = 't') : isSpace t = false ∧ t ≠ '=' := by
  constructor
  · by_contra hs
    rw [Text.toLower_of_isBlank (Text.isBlank_of_isSpace (eq_true_of_ne_false hs))] at ht
    subst t
    exact hs rfl
  · rintro rfl
    cases ht

/-- Up to a charset with its sign directly behind it, that sign counts or an earlier one. -/
theorem endsAtSign_or_holdsSign (h : splitBehind? "charset=".toList cs = some (front, rest)) :
    cs = front ++ rest ∧ (EndsAtSign front ∨ HoldsSign front) := by
  -- The induction is on the characters before the charset, which ends with a letter and the sign.
  suffices hf : cs = front ++ rest ∧
      (∃ g t, front = g ++ [t, '='] ∧ 6 ≤ g.length ∧ t.toLower = 't') ∧
        (EndsAtSign front ∨ HoldsSign front) from ⟨hf.1, hf.2.2⟩
  induction cs generalizing front with
  | nil => cases h
  | cons c cs ih =>
    simp only [splitBehind?] at h
    split at h
    · rename_i r hr
      obtain ⟨hsplit, hends, hg⟩ := take_charset hr
      cases h
      exact ⟨hsplit, hg, Or.inl hends⟩
    · rename_i hn
      obtain ⟨⟨front, r⟩, hp, he⟩ := Option.map_eq_some_iff.mp h
      cases he
      obtain ⟨rfl, ⟨g, t, rfl, hg, ht⟩, hb⟩ := ih hp
      exact ⟨rfl, ⟨c :: g, t, rfl, Nat.le_succ_of_le hg, ht⟩,
        endsAtSign_or_holdsSign_cons hg (ends_of_toLower ht) hn hb⟩

theorem ofLabel?_eq_none_of_sign (h : '=' ∈ cs) : ofLabel? (String.ofList cs) = none := by
  rw [Option.eq_none_iff_forall_ne_some]
  intro e he
  exact absurd (isPlain_of_ofLabel? he h (by decide)) (by decide)

/-- A label that is read across an equals sign or ends before it does not depend on what comes
next. -/
theorem ofLabel?_takeWhile_append (keep : Char → Bool) (h : '=' ∈ core) (more more' : List Char) :
    ofLabel? (String.ofList ((core ++ more).takeWhile keep)) =
      ofLabel? (String.ofList ((core ++ more').takeWhile keep)) := by
  by_cases hk : ∀ c ∈ core, keep c = true
  · rw [List.takeWhile_append_of_pos hk, List.takeWhile_append_of_pos hk,
      ofLabel?_eq_none_of_sign (List.mem_append_left _ h),
      ofLabel?_eq_none_of_sign (List.mem_append_left _ h)]
  · have hl : (core.takeWhile keep).length ≠ core.length := by
      intro hl
      exact hk (List.takeWhile_eq_self_iff.mp ((List.takeWhile_prefix keep).eq_of_length hl))
    rw [List.takeWhile_append, if_neg hl, List.takeWhile_append, if_neg hl]

theorem labelAt?_cons (c : Char) (cs : List Char) : Markup.labelAt? (c :: cs) =
    if isQuote c then if cs.contains c then some (cs.takeWhile (· != c)) else none
    else some ((c :: cs).takeWhile fun d => !(isSpace d || d == ';')) := rfl

/-- Nor does a label in quotes, which are closed before the sign, behind it or not at all. -/
theorem ofLabel?_quoted_append (q : Char) (h : '=' ∈ core) (more more' : List Char) :
    (if (core ++ more).contains q then some ((core ++ more).takeWhile (· != q)) else none).bind
        (fun label => ofLabel? (String.ofList label)) =
      (if (core ++ more').contains q then some ((core ++ more').takeWhile (· != q)) else none).bind
        fun label => ofLabel? (String.ofList label) := by
  by_cases hm : q ∈ core
  · simp only [List.contains_iff_mem, List.mem_append, hm, true_or, if_true, Option.bind_some]
    exact ofLabel?_takeWhile_append _ h _ _
  · have hnone : ∀ more : List Char, (if (core ++ more).contains q then
        some ((core ++ more).takeWhile (· != q)) else none).bind
          (fun label => ofLabel? (String.ofList label)) = none := by
      intro more
      have hkeep : ∀ c ∈ core, (c != q) = true := by
        intro c hc
        rw [bne_iff_ne]
        rintro rfl
        exact hm hc
      split
      · rw [Option.bind_some, List.takeWhile_append_of_pos hkeep]
        exact ofLabel?_eq_none_of_sign (List.mem_append_left _ h)
      · rfl
    rw [hnone, hnone]

theorem ofValue?_append (h : '=' ∈ core) (more more' : List Char) :
    ofValue? (core ++ more) = ofValue? (core ++ more') := by
  have hd : '=' ∈ core.dropWhile isSpace := by
    obtain ⟨front, hf, hs⟩ := Text.exists_dropWhile isSpace core
    rw [hf] at h
    exact (List.mem_append.mp h).resolve_left fun hm => absurd (hs _ hm) (by decide)
  have he : ¬ (core.dropWhile isSpace).isEmpty = true := by
    intro hn
    rw [List.isEmpty_iff.mp hn] at hd
    cases hd
  rw [ofValue?, ofValue?, List.dropWhile_append, if_neg he, List.dropWhile_append, if_neg he]
  cases hc : core.dropWhile isSpace with
  | nil => simp [hc] at he
  | cons c cs =>
    rw [hc] at hd
    rw [List.cons_append, List.cons_append, labelAt?_cons, labelAt?_cons]
    split
    · rename_i hq
      refine ofLabel?_quoted_append c ((List.mem_cons.mp hd).resolve_left ?_) _ _
      rintro rfl
      exact absurd hq (by decide)
    · rw [Option.bind_some, Option.bind_some, ← List.cons_append, ← List.cons_append]
      exact ofLabel?_takeWhile_append _ hd _ _

theorem isPlain_of_isQuote {q : Char} (hq : isQuote q = true) :
    isSpace q = false ∧ isPlain q = false := by
  simp only [isQuote, Bool.or_eq_true, beq_iff_eq] at hq
  rcases hq with rfl | rfl <;> decide

theorem isPlain_head?_takeWhile {keep : Char → Bool} (h : ∀ c ∈ rest.head?, isPlain c = false) :
    ∀ c ∈ (rest.takeWhile keep).head?, isPlain c = false := by
  intro c hc
  rw [List.head?_takeWhile] at hc
  exact h c (Option.filter_eq_some_iff.mp hc).1

theorem isPlain_head?_dropWhile (cs : List Char) :
    ∀ c ∈ (cs.dropWhile fun c => !endsLabel c).head?, isPlain c = false := by
  intro c hc
  have hd := List.head?_dropWhile_not (fun c => !endsLabel c) cs
  rw [Option.mem_def.mp hc] at hd
  simp only [Bool.not_eq_false'] at hd
  simp [isPlain, hd]

theorem ofValue?_of_plain {e₀ : Encoding} (hp : ∀ c ∈ core, isPlain c = true)
    (hr : ∀ c ∈ rest.head?, isPlain c = false)
    (hc : ofLabel? (String.ofList core) = some e₀) (h : ofValue? (core ++ rest) = some e) :
    e = e₀ := by
  cases core with
  | nil => rw [ofLabel?_nil] at hc; cases hc
  | cons c core =>
    have hpc : isPlain c = true := hp c List.mem_cons_self
    have hq : ¬ isQuote c = true := by
      intro hq
      rw [(isPlain_of_isQuote hq).2] at hpc
      cases hpc
    have hkeep : ∀ d ∈ c :: core, (!(isSpace d || d == ';')) = true := by
      intro d hd
      have hpd := hp d hd
      have hs := isSpace_of_isPlain hpd
      simp only [isPlain, endsLabel, Bool.not_eq_true', Bool.or_eq_false_iff] at hpd
      simp [hs, hpd.1.1.1]
    rw [ofValue?, List.cons_append,
      List.dropWhile_cons_of_neg (by simp [isSpace_of_isPlain hpc]), labelAt?_cons, if_neg hq,
      Option.bind_some, ← List.cons_append, List.takeWhile_append_of_pos hkeep] at h
    exact eq_of_append hp (isPlain_head?_takeWhile hr) hc h

/-- Behind a quote, too, a label of plain characters counts up to the next other character. -/
theorem ofValue?_cons_of_plain {e₀ : Encoding} {q : Char} (hq : isQuote q = true)
    (hp : ∀ c ∈ core, isPlain c = true) (hr : ∀ c ∈ rest.head?, isPlain c = false)
    (hc : ofLabel? (String.ofList core) = some e₀) (h : ofValue? (q :: (core ++ rest)) = some e) :
    e = e₀ := by
  have hkeep : ∀ c ∈ core, (c != q) = true := by
    intro c hm
    have hpc := hp c hm
    rw [bne_iff_ne]
    rintro rfl
    rw [(isPlain_of_isQuote hq).2] at hpc
    cases hpc
  rw [ofValue?, List.dropWhile_cons_of_neg (by simp [(isPlain_of_isQuote hq).1]),
    labelAt?_cons, if_pos hq] at h
  split at h
  · rw [Option.bind_some, List.takeWhile_append_of_pos hkeep] at h
    exact eq_of_append hp (isPlain_head?_takeWhile hr) hc h
  · cases h

/-- Nothing behind two quotes is a label. -/
theorem ofValue?_of_quotes {q q' : Char} (hq : isQuote q = true) (hq' : isQuote q' = true) :
    ofValue? (q :: q' :: cs) = none := by
  obtain ⟨hs, hp⟩ := isPlain_of_isQuote hq'
  rw [ofValue?, List.dropWhile_cons_of_neg (by simp [(isPlain_of_isQuote hq).1]),
    labelAt?_cons, if_pos hq]
  split
  · rw [Option.bind_some, List.takeWhile_cons]
    split
    · exact ofLabel?_cons hs hp
    · exact ofLabel?_nil
  · rfl

theorem eq_utf8_of_isUtf8Label {label : String} (hu : isUtf8Label label = true)
    (h : ofLabel? label = some e) : e = .utf8 := by
  have ht := ofLabel?_trimBlank h
  rw [isUtf8Label, beq_iff_eq, ht] at hu
  exact Option.some.inj hu

/-- What the rewriting takes for UTF-8 names nothing else by the standard. -/
theorem ofValue?_of_isUtf8Label (hu : isUtf8Label (String.ofList
      (Text.trimBy isQuote (cs.takeWhile fun c => !endsLabel c))) = true)
    (h : ofValue? cs = some e) : e = .utf8 := by
  obtain ⟨quotes, more, hl, hquotes, hmore⟩ :=
    Text.exists_trimBy isQuote (cs.takeWhile fun c => !endsLabel c)
  generalize Text.trimBy isQuote (cs.takeWhile fun c => !endsLabel c) = core at hu hl
  have hword : ∀ c ∈ core, Text.isBlank c = false := by
    intro c hc
    have hm : c ∈ cs.takeWhile fun c => !endsLabel c := by simp [hl, hc]
    have he := List.mem_takeWhile_imp hm
    simp only [endsLabel, Bool.not_eq_true', Bool.or_eq_false_iff] at he
    exact he.2
  have hc : ofLabel? (String.ofList core) = some .utf8 := by
    simpa [isUtf8Label, Text.trimBlank, Text.trimBy_eq_self hword] using hu
  have hp : ∀ c ∈ core, isPlain c = true := by
    intro c hm
    refine isPlain_of_ofLabel? hc hm ?_
    by_contra hs
    have hb := hword c hm
    rw [Text.isBlank_of_isSpace (eq_true_of_ne_false hs)] at hb
    cases hb
  have hcs : cs = quotes ++ (core ++ (more ++ cs.dropWhile fun c => !endsLabel c)) := by
    conv => lhs; rw [← List.takeWhile_append_dropWhile (p := fun c => !endsLabel c) (l := cs), hl]
    simp
  have hr : ∀ c ∈ (more ++ cs.dropWhile fun c => !endsLabel c).head?, isPlain c = false := by
    intro c hm
    cases more with
    | nil => exact isPlain_head?_dropWhile cs c hm
    | cons d more =>
      obtain rfl : d = c := by simpa using hm
      exact (isPlain_of_isQuote (hmore d List.mem_cons_self)).2
  rw [hcs] at h
  cases quotes with
  | nil => exact ofValue?_of_plain hp hr hc h
  | cons q quotes =>
    have hq := hquotes q List.mem_cons_self
    cases quotes with
    | nil => exact ofValue?_cons_of_plain hq hp hr hc h
    | cons q' quotes =>
      rw [List.cons_append, List.cons_append,
        ofValue?_of_quotes hq (hquotes q' (by simp))] at h
      cases h

/-- A content type after the rewriting. -/
def madeUtf8 (content : String) : String := (withUtf8Charset? content).getD content

theorem madeUtf8_of_eq_none {content : String}
    (h : splitBehind? "charset=".toList content.toList = none) : madeUtf8 content = content := by
  simp only [madeUtf8, withUtf8Charset?, h, Option.bind_eq_bind, Option.bind_none, Option.getD_none]

theorem madeUtf8_of_eq_some {content : String}
    (h : splitBehind? "charset=".toList content.toList = some (front, rest)) :
    madeUtf8 content =
      if isUtf8Label (String.ofList
          (Text.trimBy isQuote (rest.takeWhile fun c => !endsLabel c))) then content
      else String.ofList
        (front ++ ("utf-8".toList ++ rest.dropWhile fun c => !endsLabel c)) := by
  have hd : ((rest.takeWhile fun c => !endsLabel c) ++
      rest.dropWhile fun c => !endsLabel c).drop (rest.takeWhile fun c => !endsLabel c).length =
        rest.dropWhile fun c => !endsLabel c := List.drop_left
  rw [List.takeWhile_append_dropWhile] at hd
  simp only [madeUtf8, withUtf8Charset?, h, Option.bind_eq_bind, Option.bind_some]
  split
  · rfl
  · simp [hd]

theorem isPlain_utf8 : ∀ c ∈ "utf-8".toList, isPlain c = true := by
  have hall : "utf-8".toList.all isPlain = true := by decide
  exact List.all_eq_true.mp hall

theorem ofLabel?_utf8 : ofLabel? (String.ofList "utf-8".toList) = some .utf8 := by
  decide +kernel

theorem EndsAtSign.ofContentType? (h : EndsAtSign front) (more : List Char) :
    ofContentType? (String.ofList (front ++ more)) = ofValue? more ∧
      signApart (String.ofList (front ++ more)) = false := by
  rw [ofContentType?_eq, signApart, String.toList_ofList, h]
  exact ⟨rfl, rfl⟩

theorem HoldsSign.ofContentType? (h : HoldsSign front) :
    ∃ d, '=' ∈ d ∧ ∀ more, ofContentType? (String.ofList (front ++ more)) = ofValue? (d ++ more) ∧
      signApart (String.ofList (front ++ more)) = true := by
  obtain ⟨gap, d, hgap, hspace, hd, hb⟩ := h
  refine ⟨d, hd, fun more => ?_⟩
  rw [ofContentType?_eq, signApart, String.toList_ofList, hb, Option.bind_some,
    List.dropWhile_append_of_pos hspace]
  refine ⟨rfl, ?_⟩
  obtain ⟨c, gap, rfl⟩ := List.exists_cons_of_ne_nil hgap
  have hc : isSpace c = true := hspace c List.mem_cons_self
  rw [Option.any_some, List.cons_append, List.head?_cons, bne_iff_ne]
  rintro ⟨⟩
  cases hc

/-- The rewriting leaves alone what a sign behind spaces declares, and otherwise nothing but UTF-8
is declared behind it. -/
theorem ofContentType?_madeUtf8 (content : String) :
    (signApart content = true → ofContentType? (madeUtf8 content) = ofContentType? content) ∧
      (signApart content = false →
        ∀ e, ofContentType? (madeUtf8 content) = some e → e = .utf8) := by
  cases hs : splitBehind? "charset=".toList content.toList with
  | none =>
    rw [madeUtf8_of_eq_none hs]
    refine ⟨fun _ => rfl, fun ha e he => ?_⟩
    rw [ofContentType?_eq, Option.bind_eq_some_iff] at he
    obtain ⟨rest, hr, -⟩ := he
    simp only [signApart, hr, Option.any_some, bne_eq_false_iff_eq] at ha
    exact absurd ha (head?_ne_of_splitBehind?_eq_none hs hr)
  | some cut =>
    obtain ⟨front, rest⟩ := cut
    obtain ⟨hc, hf⟩ := endsAtSign_or_holdsSign hs
    have hcontent : content = String.ofList (front ++ rest) := by
      rw [← hc, String.ofList_toList]
    rw [madeUtf8_of_eq_some hs, hcontent]
    rcases hf with hf | hf
    · refine ⟨fun h => absurd (h.symm.trans (hf.ofContentType? rest).2) nofun, fun _ e he => ?_⟩
      split at he
      · rename_i hu
        rw [(hf.ofContentType? _).1] at he
        exact ofValue?_of_isUtf8Label hu he
      · rw [(hf.ofContentType? _).1] at he
        exact ofValue?_of_plain isPlain_utf8 (isPlain_head?_dropWhile rest) ofLabel?_utf8 he
    · obtain ⟨d, hd, hv⟩ := hf.ofContentType?
      refine ⟨fun _ => ?_, fun h => absurd (h.symm.trans (hv rest).2) nofun⟩
      split
      · rfl
      · rw [(hv _).1, (hv _).1]
        exact ofValue?_append hd _ _

end Encoding
end CoursePage
