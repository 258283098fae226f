import CoursePage.Encoding.Declaration
import Mathlib

/-!
What labels of encodings look like. A label holds no blank and none of the characters that bound a
label in markup, so a text that names an encoding is a run of plain characters between spaces, and
whatever a reader takes along beside the run does not change what is named.
-/

namespace CoursePage

namespace Text

variable {drop : Char → Bool} {c : Char} {cs : List Char}

theorem dropWhile_eq_self (h : ∀ c ∈ cs, drop c = false) : cs.dropWhile drop = cs := by
  cases cs with
  | nil => rfl
  | cons c cs => simp [h c List.mem_cons_self]

theorem dropWhile_append_cons (h : drop c = false) (cs rest : List Char) :
    (cs ++ c :: rest).dropWhile drop = cs.dropWhile drop ++ c :: rest := by
  rw [List.dropWhile_append]
  split
  · rename_i he
    simp [List.isEmpty_iff.mp he, h]
  · rfl

theorem trimBy_eq_self (h : ∀ c ∈ cs, drop c = false) : trimBy drop cs = cs := by
  rw [trimBy, dropWhile_eq_self h,
    dropWhile_eq_self fun c hc => h c (List.mem_reverse.mp hc), List.reverse_reverse]

theorem exists_dropWhile (drop : Char → Bool) (cs : List Char) :
    ∃ front, cs = front ++ cs.dropWhile drop ∧ ∀ c ∈ front, drop c = true :=
  ⟨cs.takeWhile drop, List.takeWhile_append_dropWhile.symm, fun _ => List.mem_takeWhile_imp⟩

/-- Trimming takes characters of its class from both ends. -/
theorem exists_trimBy (drop : Char → Bool) (cs : List Char) : ∃ front rest,
    cs = front ++ (trimBy drop cs ++ rest) ∧ (∀ c ∈ front, drop c = true) ∧
      ∀ c ∈ rest, drop c = true := by
  obtain ⟨front, hf, hfront⟩ := exists_dropWhile drop cs
  obtain ⟨rest, hr, hrest⟩ := exists_dropWhile drop (cs.dropWhile drop).reverse
  refine ⟨front, rest.reverse, ?_, hfront, fun c hc => hrest c (List.mem_reverse.mp hc)⟩
  rw [trimBy, ← List.reverse_append, ← hr, List.reverse_reverse]
  exact hf

theorem trimBy_append_append {front core rest : List Char} (hf : ∀ c ∈ front, drop c = true)
    (hr : ∀ c ∈ rest, drop c = true) (hn : core ≠ []) (hc : ∀ c ∈ core, drop c = false) :
    trimBy drop (front ++ (core ++ rest)) = core := by
  obtain ⟨c, core, rfl⟩ := List.exists_cons_of_ne_nil hn
  have hd : ¬ drop c = true := by simp [hc c List.mem_cons_self]
  have hr' : ∀ c ∈ rest.reverse, drop c = true := fun c hm => hr c (List.mem_reverse.mp hm)
  rw [trimBy, List.dropWhile_append_of_pos hf, List.cons_append, List.dropWhile_cons_of_neg hd,
    ← List.cons_append, List.reverse_append, List.dropWhile_append_of_pos hr',
    dropWhile_eq_self fun c hm => hc c (List.mem_reverse.mp hm), List.reverse_reverse]

/-- Trimming takes no more than the characters of its class. -/
theorem mem_trimBy (hc : c ∈ cs) (hd : drop c = false) : c ∈ trimBy drop cs := by
  obtain ⟨front, rest, hcs, hfront, hrest⟩ := exists_trimBy drop cs
  rw [hcs, List.mem_append, List.mem_append] at hc
  rcases hc with hc | hc | hc
  · simp [hfront c hc] at hd
  · exact hc
  · simp [hrest c hc] at hd

theorem takeWhile_append_of_stop {keep : Char → Bool} {core rest : List Char}
    (hc : ∀ c ∈ core, keep c = true) (hr : ∀ c ∈ rest.head?, keep c = false) :
    (core ++ rest).takeWhile keep = core := by
  rw [List.takeWhile_append_of_pos hc]
  cases rest with
  | nil => simp
  | cons c rest => simp [hr c rfl]

theorem mem_of_mem_pieces {cut : Char → Bool} {p : List Char} (hp : p ∈ pieces cut cs) :
    ∀ c ∈ p, c ∈ cs := by
  induction cs generalizing p with
  | nil => simp_all [pieces]
  | cons c cs ih =>
    simp only [pieces] at hp
    intro d hd
    split at hp
    · rcases List.mem_cons.mp hp with rfl | hp
      · simp at hd
      · exact List.mem_cons_of_mem c (ih hp d hd)
    · split at hp
      · obtain rfl := List.mem_singleton.mp hp
        exact List.mem_singleton.mp hd ▸ List.mem_cons_self
      · rename_i q qs hq
        rcases List.mem_cons.mp hp with rfl | hp
        · rcases List.mem_cons.mp hd with rfl | hd
          · exact List.mem_cons_self
          · exact List.mem_cons_of_mem c (ih (hq ▸ List.mem_cons_self) d hd)
        · exact List.mem_cons_of_mem c (ih (hq ▸ List.mem_cons_of_mem q hp) d hd)

theorem isUpper_iff : c.isUpper = true ↔ 65 ≤ c.toNat ∧ c.toNat ≤ 90 := by
  simp [Char.isUpper, UInt32.le_iff_toNat_le]

theorem toLower_of_not_letter (h : c.toNat < 65 ∨ 90 < c.toNat) : c.toLower = c := by
  refine Char.toLower_eq_of_not_isUpper fun hc => ?_
  have hc' := isUpper_iff.mp hc
  omega

theorem toNat_toLower (h : 65 ≤ c.toNat ∧ c.toNat ≤ 90) : c.toLower.toNat = c.toNat + 32 := by
  have hv : (c.toNat + 32).isValidChar := Or.inl (by omega)
  rw [Char.toLower_eq_of_isUpper (isUpper_iff.mpr h), Char.toNat_ofNat, if_pos hv]

/-- What is no small letter is the lower case of nothing but itself. -/
theorem eq_of_toLower {d : Char} (hd : d.toNat < 97 ∨ 122 < d.toNat) (h : c.toLower = d) :
    c = d := by
  by_cases hc : 65 ≤ c.toNat ∧ c.toNat ≤ 90
  · have hn := toNat_toLower hc
    rw [h] at hn
    omega
  · rwa [toLower_of_not_letter (by omega)] at h

theorem toLower_of_isBlank (h : isBlank c = true) : c.toLower = c := by
  refine toLower_of_not_letter ?_
  simp only [isBlank, Bool.or_eq_true, Bool.and_eq_true, decide_eq_true_eq, beq_iff_eq] at h
  omega

end Text

namespace Encoding

variable {e e₀ : Encoding} {label : String} {c : Char} {cs core rest : List Char}

/-- Characters that can be part of a label. -/
def isPlain (c : Char) : Bool := !(endsLabel c || isQuote c || c == '=')

theorem isSpace_of_isPlain (h : isPlain c = true) : Text.isSpace c = false := by
  cases hs : Text.isSpace c with
  | false => rfl
  | true => simp [isPlain, endsLabel, Text.isBlank_of_isSpace hs] at h

theorem toLower_of_not_isPlain (h : isPlain c = false) : c.toLower = c := by
  simp only [isPlain, endsLabel, isQuote, Bool.not_eq_false', Bool.or_eq_true, beq_iff_eq] at h
  rcases h with ((rfl | hb) | rfl | rfl) | rfl
  · decide
  · exact Text.toLower_of_isBlank hb
  all_goals decide

theorem labelLines_plain : ∀ line ∈ labelLines,
    line.2.toList.all (fun c => Text.isBlank c || isPlain c) = true := by
  simp only [labelLines, List.forall_mem_cons]
  and_intros
  all_goals try rw [String.toList_ofList]; decide
  exact nofun

/-- A label is a word of plain characters. -/
theorem isPlain_of_mem_labels (h : (label, e) ∈ labels) :
    label ≠ "" ∧ ∀ c ∈ label.toList, isPlain c = true := by
  simp only [labels, List.mem_flatMap, List.mem_map, Prod.mk.injEq, Text.blankWords,
    Text.words, List.mem_filter] at h
  obtain ⟨line, hline, _, ⟨word, ⟨hw, hne⟩, rfl⟩, rfl, -⟩ := h
  refine ⟨by simpa [String.ext_iff] using hne, fun c hc => ?_⟩
  rw [String.toList_ofList] at hc
  have hl := List.all_eq_true.mp (labelLines_plain line hline) c (Text.mem_of_mem_pieces hw c hc)
  rw [Text.not_cut_of_mem_pieces hw c hc] at hl
  simpa using hl

theorem mem_labels (h : ofLabel? (String.ofList cs) = some e) :
    (Text.lowered (String.ofList (Text.trimBy Text.isSpace cs)), e) ∈ labels := by
  rw [ofLabel?, String.toList_ofList] at h
  obtain ⟨front, rest, hl, -⟩ := List.lookup_eq_some_iff.mp h
  rw [hl]
  exact List.mem_append_right front List.mem_cons_self

theorem isPlain_of_mem_trimBy (h : ofLabel? (String.ofList cs) = some e)
    (hc : c ∈ Text.trimBy Text.isSpace cs) : isPlain c = true := by
  have hl := (isPlain_of_mem_labels (mem_labels h)).2 c.toLower (by
    simp only [Text.lowered, String.toList_ofList]
    exact List.mem_map_of_mem hc)
  by_contra hp
  rw [toLower_of_not_isPlain (eq_false_of_ne_true hp)] at hl
  exact hp hl

theorem isPlain_of_ofLabel? (h : ofLabel? (String.ofList cs) = some e) (hc : c ∈ cs)
    (hs : Text.isSpace c = false) : isPlain c = true :=
  isPlain_of_mem_trimBy h (Text.mem_trimBy hc hs)

/-- What names an encoding is a run of plain characters between spaces. -/
theorem exists_plain (h : ofLabel? (String.ofList cs) = some e) : ∃ front core rest,
    cs = front ++ (core ++ rest) ∧ (∀ c ∈ front, Text.isSpace c = true) ∧
      (∀ c ∈ rest, Text.isSpace c = true) ∧ core ≠ [] ∧ (∀ c ∈ core, isPlain c = true) ∧
        ofLabel? (String.ofList core) = some e := by
  obtain ⟨front, rest, hcs, hfront, hrest⟩ := Text.exists_trimBy Text.isSpace cs
  have hp : ∀ c ∈ Text.trimBy Text.isSpace cs, isPlain c = true :=
    fun c => isPlain_of_mem_trimBy h
  refine ⟨front, _, rest, hcs, hfront, hrest, fun hn => ?_, hp, ?_⟩
  · have hl := (isPlain_of_mem_labels (mem_labels h)).1
    rw [hn] at hl
    exact hl rfl
  · rw [← h, ofLabel?, ofLabel?, String.toList_ofList, String.toList_ofList,
      Text.trimBy_eq_self fun c hc => isSpace_of_isPlain (hp c hc)]

/-- The plain characters at the front, behind spaces. -/
def plainStart (cs : List Char) : List Char := (cs.dropWhile Text.isSpace).takeWhile isPlain

/-- Behind spaces, the plain characters at the front name what the whole text names. -/
theorem ofLabel?_plainStart (h : ofLabel? (String.ofList cs) = some e) :
    ofLabel? (String.ofList (plainStart cs)) = some e := by
  obtain ⟨front, core, rest, rfl, hfront, hrest, hne, hp, hc⟩ := exists_plain h
  have hstop : ∀ c ∈ rest.head?, isPlain c = false := by
    intro c hm
    cases hpc : isPlain c with
    | false => rfl
    | true =>
      have hs := hrest c (List.mem_of_head? hm)
      rw [isSpace_of_isPlain hpc] at hs
      cases hs
  obtain ⟨c, core, rfl⟩ := List.exists_cons_of_ne_nil hne
  have hc' : Text.isSpace c = false := isSpace_of_isPlain (hp c List.mem_cons_self)
  rw [plainStart, List.dropWhile_append_of_pos hfront, List.cons_append,
    List.dropWhile_cons_of_neg (by simp [hc']), ← List.cons_append,
    Text.takeWhile_append_of_stop hp hstop, hc]

/-- Blanks of any kind around a label do not change what it names, if it names anything. -/
theorem ofLabel?_trimBlank (h : ofLabel? label = some e) :
    ofLabel? (Text.trimBlank label) = some e := by
  rw [← String.ofList_toList (s := label)] at h
  obtain ⟨front, core, rest, hl, hfront, hrest, hne, hp, hc⟩ := exists_plain h
  have hblank : ∀ c ∈ core, Text.isBlank c = false := by
    intro c hm
    have hpc := hp c hm
    simp only [isPlain, endsLabel, Bool.not_eq_true', Bool.or_eq_false_iff] at hpc
    exact hpc.1.1.2
  rw [Text.trimBlank, hl, Text.trimBy_append_append
    (fun c hm => Text.isBlank_of_isSpace (hfront c hm))
    (fun c hm => Text.isBlank_of_isSpace (hrest c hm)) hne hblank, hc]

theorem ofLabel?_nil : ofLabel? (String.ofList []) = none := by
  rw [Option.eq_none_iff_forall_ne_some]
  intro e h
  obtain ⟨_, _, _, hcs, _, _, hne, _⟩ := exists_plain h
  simp [hne] at hcs

/-- A text that goes on behind a label with a character of another kind names nothing else. -/
theorem eq_of_append (hp : ∀ c ∈ core, isPlain c = true)
    (hr : ∀ c ∈ rest.head?, isPlain c = false)
    (hc : ofLabel? (String.ofList core) = some e₀)
    (h : ofLabel? (String.ofList (core ++ rest)) = some e) : e = e₀ := by
  cases core with
  | nil => rw [ofLabel?_nil] at hc; cases hc
  | cons c core =>
    have hs : Text.isSpace c = false := isSpace_of_isPlain (hp c List.mem_cons_self)
    have hl := ofLabel?_plainStart h
    rw [plainStart, List.cons_append, List.dropWhile_cons_of_neg (by simp [hs]),
      ← List.cons_append, Text.takeWhile_append_of_stop hp hr, hc] at hl
    exact (Option.some.inj hl).symm

/-- Nothing that begins with a character of another kind names an encoding. -/
theorem ofLabel?_cons (hs : Text.isSpace c = false) (hp : isPlain c = false) :
    ofLabel? (String.ofList (c :: cs)) = none := by
  rw [Option.eq_none_iff_forall_ne_some]
  intro e h
  rw [isPlain_of_ofLabel? h List.mem_cons_self hs] at hp
  cases hp

end Encoding

end CoursePage
