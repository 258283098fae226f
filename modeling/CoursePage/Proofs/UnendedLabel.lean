import CoursePage.Encoding.Page
import CoursePage.Proofs.Label

/-!
Labels at the end of what is asked for a declaration. A value that is not ended there is taken as
far as it goes, so the label that is read may be the front of the one that the page declares.
-/

namespace CoursePage

namespace Text

variable {drop : Char → Bool} {front rest : List Char}

/-- Trimming also takes what it would take from an end by itself. -/
theorem trimBy_append_of_all (hr : ∀ c ∈ rest, drop c = true) (front : List Char) :
    trimBy drop (front ++ rest) = trimBy drop front := by
  have hnil : rest.dropWhile drop = [] := List.dropWhile_eq_nil_iff.mpr hr
  have hrev : ∀ c ∈ rest.reverse, drop c = true := fun c hc => hr c (List.mem_reverse.mp hc)
  rw [trimBy, trimBy, List.dropWhile_append]
  split
  · rename_i he
    rw [hnil, List.isEmpty_iff.mp he]
  · rw [List.reverse_append, List.dropWhile_append_of_pos hrev]

/-- What is left of a text after trimming is the front of what is left of a longer one. -/
theorem exists_trimBy_append (hf : trimBy drop front ≠ []) (hr : ∃ c ∈ rest, drop c = false) :
    ∃ more, more ≠ [] ∧ trimBy drop (front ++ rest) = trimBy drop front ++ more := by
  obtain ⟨tail, htail, -⟩ := exists_dropWhile drop (front.dropWhile drop).reverse
  have hcore : front.dropWhile drop = trimBy drop front ++ tail.reverse := by
    rw [trimBy, ← List.reverse_append, ← htail, List.reverse_reverse]
  have hkept : rest.reverse.dropWhile drop ≠ [] := by
    simpa [List.dropWhile_eq_nil_iff] using hr
  refine ⟨tail.reverse ++ (rest.reverse.dropWhile drop).reverse, by simp [hkept], ?_⟩
  rw [trimBy, List.dropWhile_append, if_neg (by simp [hcore, hf]), List.reverse_append,
    List.dropWhile_append, if_neg (by simpa using hkept), List.reverse_append,
    List.reverse_reverse, hcore, List.append_assoc]

end Text

namespace Encoding

variable {key bs more rest a b : List UInt8}

theorem afterKey?_append (h : key.length ≤ bs.length) (more : List UInt8) :
    afterKey? key (bs ++ more) = (afterKey? key bs).map (· ++ more) := by
  induction key generalizing bs with
  | nil => rfl
  | cons k key ih =>
    cases bs with
    | nil => simp at h
    | cons b bs =>
      simp only [List.cons_append, afterKey?]
      split
      · exact ih (Nat.le_of_succ_le_succ h)
      · rfl

theorem length_of_afterKey? (h : afterKey? key bs = some rest) : key.length ≤ bs.length := by
  induction key generalizing bs with
  | nil => exact Nat.zero_le _
  | cons k key ih =>
    cases bs with
    | nil => cases h
    | cons b bs =>
      rw [afterKey?, Option.ite_none_right_eq_some] at h
      exact Nat.succ_le_succ (ih h.2)

theorem suffix_of_afterKey? (h : afterKey? key bs = some rest) : rest <:+ bs := by
  induction key generalizing bs with
  | nil => exact Option.some.inj h ▸ List.suffix_rfl
  | cons k key ih =>
    cases bs with
    | nil => cases h
    | cons b bs =>
      rw [afterKey?, Option.ite_none_right_eq_some] at h
      exact (ih h.2).trans (List.suffix_cons b bs)

theorem length_of_behind? (h : behind? key bs = some rest) : key.length ≤ bs.length := by
  induction bs with
  | nil => exact length_of_afterKey? h
  | cons b bs ih =>
    rcases Option.or_eq_some_iff.mp h with h | ⟨-, h⟩
    · exact length_of_afterKey? h
    · exact Nat.le_succ_of_le (ih h)

theorem suffix_of_behind? (h : behind? key bs = some rest) : rest <:+ bs := by
  induction bs with
  | nil => exact suffix_of_afterKey? h
  | cons b bs ih =>
    rcases Option.or_eq_some_iff.mp h with h | ⟨-, h⟩
    · exact suffix_of_afterKey? h
    · exact (ih h).trans (List.suffix_cons b bs)

/-- The first occurrence of a key is the first one whatever comes behind it. -/
theorem behind?_append (h : behind? key bs = some rest) (more : List UInt8) :
    behind? key (bs ++ more) = some (rest ++ more) := by
  induction bs with
  | nil =>
    cases key with
    | nil =>
      obtain rfl : [] = rest := Option.some.inj h
      cases more <;> rfl
    | cons k key => cases h
  | cons b bs ih =>
    have hlen := length_of_behind? h
    rw [List.cons_append, behind?, ← List.cons_append, afterKey?_append hlen]
    rcases Option.or_eq_some_iff.mp h with h | ⟨hn, h⟩
    · rw [h]
      rfl
    · rw [hn, ih h]
      rfl

theorem exists_takeWhile_append (keep : UInt8 → Bool) (bs more : List UInt8) :
    ∃ cut, (bs ++ more).takeWhile keep = bs.takeWhile keep ++ cut ∧
      (cut ≠ [] → bs.takeWhile keep = bs) := by
  rw [List.takeWhile_append]
  split
  · rename_i hl
    have hall := (List.takeWhile_prefix keep).eq_of_length hl
    exact ⟨more.takeWhile keep, by rw [hall], fun _ => hall⟩
  · exact ⟨[], by simp, fun h => absurd rfl h⟩

/-- A value goes on behind the bytes that begin it only if they have no end of it. -/
theorem exists_valueBytes_append (hne : rest ≠ []) (more : List UInt8) :
    ∃ cut, valueBytes (rest ++ more) = valueBytes rest ++ cut ∧
      (cut ≠ [] → valueBytes rest <:+ rest) := by
  obtain ⟨b, bs, rfl⟩ := List.exists_cons_of_ne_nil hne
  rw [List.cons_append, valueBytes, valueBytes]
  split
  · obtain ⟨cut, hv, hall⟩ := exists_takeWhile_append (fun c => c != b) bs more
    exact ⟨cut, hv, fun h => by rw [hall h]; exact List.suffix_cons b bs⟩
  · obtain ⟨cut, hv, hall⟩ := exists_takeWhile_append (fun c => !endsBareLabel c) (b :: bs) more
    exact ⟨cut, hv, fun h => by rw [hall h]⟩

theorem hasFault_append (parts more : Decoded) :
    hasFault (parts ++ more) = (hasFault parts || hasFault more) :=
  List.any_append

theorem hasFault_cons (part : Option Char) (parts : Decoded) :
    hasFault (part :: parts) = (part.isNone || hasFault parts) :=
  List.any_cons

/-- Behind bytes that are sound UTF-8 decoding begins anew. -/
theorem utf8Parts_append {p : Option Partial} (h : hasFault (utf8Parts p a) = false)
    (b : List UInt8) : utf8Parts p (a ++ b) = utf8Parts p a ++ utf8Parts none b := by
  induction a generalizing p with
  | nil =>
    cases p with
    | none => rfl
    | some q => cases h
  | cons x a ih =>
    rw [utf8Parts] at h
    rw [List.cons_append, utf8Parts, utf8Parts]
    cases ht : p.bind (·.take? x) with
    | some q =>
      simp only [ht] at h ⊢
      split at h <;> rename_i hl
      · rw [hasFault_cons, Bool.or_eq_false_iff] at h
        rw [if_pos hl, if_pos hl, ih h.2, List.cons_append]
      · rw [if_neg hl, if_neg hl, ih h]
    | none =>
      simp only [ht] at h ⊢
      cases hlead : leadOf x with
      | whole c =>
        simp only [hlead] at h ⊢
        rw [hasFault_append, hasFault_cons, Bool.or_eq_false_iff, Bool.or_eq_false_iff] at h
        rw [ih h.2.2, List.append_assoc, List.cons_append]
      | begins q =>
        simp only [hlead] at h ⊢
        rw [hasFault_append, Bool.or_eq_false_iff] at h
        rw [ih h.2, List.append_assoc]
      | bad =>
        simp [hlead, hasFault_append, hasFault_cons] at h

theorem utf8Text?_append {s : String} (h : utf8Text? a = some s) (b : List UInt8) :
    utf8Text? (a ++ b) = (utf8Text? b).map (s ++ ·) := by
  simp only [utf8Text?, Option.ite_none_left_eq_some, Option.some.injEq,
    Bool.not_eq_true] at h
  obtain ⟨ha, rfl⟩ := h
  have hd : decodeUtf8 (a ++ b) = decodeUtf8 a ++ decodeUtf8 b := utf8Parts_append ha b
  simp only [utf8Text?, hd, hasFault_append, ha, Bool.false_or, textOf, List.map_append,
    String.ofList_append]
  split <;> rfl

/-- The bytes of the value behind the first occurrence of a key. -/
def valueOf? (key : String) (bytes : List UInt8) : Option (List UInt8) :=
  (behind? key.toUTF8.toList bytes).map valueBytes

/-- The label that the bytes of a value stand for: none if they are no sound UTF-8 or only
blanks. -/
def labelOf? (value : List UInt8) : Option String :=
  (utf8Text? value).bind fun s =>
    if (Text.trimBlank s).isEmpty then none else some (Text.trimBlank s)

theorem valueAfter?_eq (key : String) (bytes : List UInt8) :
    valueAfter? key bytes = (valueOf? key bytes).bind labelOf? := by
  rw [valueAfter?, valueOf?, Option.bind_map]
  rfl

theorem labelOf?_eq_some {value : List UInt8} {label : String} :
    labelOf? value = some label ↔
      ∃ s, utf8Text? value = some s ∧ Text.trimBlank s = label ∧ label ≠ "" := by
  simp only [labelOf?, Option.bind_eq_some_iff, Option.ite_none_left_eq_some, Option.some.injEq,
    String.isEmpty_iff]
  grind

variable {value cut : List UInt8} {label : String}

theorem labelOf?_append_eq_none (h : labelOf? value = some label) (hc : utf8Text? cut = none) :
    labelOf? (value ++ cut) = none := by
  obtain ⟨s, hs, -⟩ := labelOf?_eq_some.mp h
  rw [labelOf?, utf8Text?_append hs, hc]
  rfl

/-- Blanks behind a value are no part of its label. -/
theorem labelOf?_append_of_blank {s : String} (h : labelOf? value = some label)
    (hc : utf8Text? cut = some s) (hb : ∀ c ∈ s.toList, Text.isBlank c = true) :
    labelOf? (value ++ cut) = some label := by
  obtain ⟨t, ht, rfl, hne⟩ := labelOf?_eq_some.mp h
  refine labelOf?_eq_some.mpr ⟨t ++ s, by rw [utf8Text?_append ht, hc]; rfl, ?_, hne⟩
  rw [Text.trimBlank, Text.trimBlank, String.toList_append, Text.trimBy_append_of_all hb]

/-- Anything else behind a value makes its label longer. -/
theorem labelOf?_append_of_word {s : String} (h : labelOf? value = some label)
    (hc : utf8Text? cut = some s) (hw : ∃ c ∈ s.toList, Text.isBlank c = false) :
    ∃ more, more ≠ "" ∧ labelOf? (value ++ cut) = some (label ++ more) := by
  obtain ⟨t, ht, rfl, hne⟩ := labelOf?_eq_some.mp h
  have htrim : Text.trimBy Text.isBlank t.toList ≠ [] := fun h0 => hne (by rw [Text.trimBlank, h0])
  obtain ⟨more, hmore, heq⟩ := Text.exists_trimBy_append htrim hw
  refine ⟨String.ofList more, by simpa using hmore, labelOf?_eq_some.mpr ⟨t ++ s, ?_, ?_, ?_⟩⟩
  · rw [utf8Text?_append ht, hc]
    rfl
  · rw [Text.trimBlank, Text.trimBlank, String.toList_append, heq, String.ofList_append]
  · simp [hmore]

/-- How a label that was read at the front of some bytes stands to all the bytes: its value goes on
with the bytes of `cut` behind the front. -/
structure CutAt (key : String) (bytes : List UInt8) (label : String) (value cut : List UInt8) :
    Prop where
  front : valueOf? key (bytes.take scanLimit) = some value
  whole : valueOf? key bytes = some (value ++ cut)
  /-- Only a value that the end of the front leaves open goes on. -/
  straddles : cut ≠ [] → scanLimit < bytes.length ∧ value <:+ bytes.take scanLimit
  kept : valueAfter? key bytes = some label ↔
    ∃ s, utf8Text? cut = some s ∧ ∀ c ∈ s.toList, Text.isBlank c = true
  longer : (∃ more, more ≠ "" ∧ valueAfter? key bytes = some (label ++ more)) ↔
    ∃ s, utf8Text? cut = some s ∧ ∃ c ∈ s.toList, Text.isBlank c = false
  lost : valueAfter? key bytes = none ↔ utf8Text? cut = none

/-- A value of some bytes is the front of the value of more bytes. -/
theorem exists_valueOf?_append {key : String} (h : valueOf? key bs = some value) (hv : value ≠ [])
    (more : List UInt8) : ∃ cut, valueOf? key (bs ++ more) = some (value ++ cut) ∧
      (cut ≠ [] → value <:+ bs) := by
  obtain ⟨rest, hrest, rfl⟩ := Option.map_eq_some_iff.mp h
  have hne : rest ≠ [] := fun h0 => hv (by rw [h0]; rfl)
  obtain ⟨cut, happ, hs⟩ := exists_valueBytes_append hne more
  refine ⟨cut, ?_, fun hc => (hs hc).trans (suffix_of_behind? hrest)⟩
  rw [valueOf?, behind?_append hrest, Option.map_some, happ]

theorem eq_append_iff (s more : String) : s = s ++ more ↔ more = "" := by
  rw [eq_comm, ← String.toList_inj, ← String.toList_inj, String.toList_append,
    List.append_right_eq_self]
  rfl

/-- What is behind the end of the front decides what becomes of the label. -/
theorem exists_cutAt {key : String} {bytes : List UInt8}
    (h : valueAfter? key (bytes.take scanLimit) = some label) :
    ∃ value cut, CutAt key bytes label value cut := by
  rw [valueAfter?_eq] at h
  obtain ⟨value, hvalue, hlabel⟩ := Option.bind_eq_some_iff.mp h
  have hne : value ≠ [] := by
    rintro rfl
    exact nomatch hlabel
  obtain ⟨cut, hwhole, hs⟩ := exists_valueOf?_append hvalue hne (bytes.drop scanLimit)
  rw [List.take_append_drop] at hwhole
  have hread : valueAfter? key bytes = labelOf? (value ++ cut) := by
    rw [valueAfter?_eq, hwhole]
    rfl
  have hstraddles : cut ≠ [] → scanLimit < bytes.length ∧ value <:+ bytes.take scanLimit := by
    refine fun hc => ⟨?_, hs hc⟩
    by_contra hle
    rw [List.take_of_length_le (Nat.le_of_not_lt hle), hwhole] at hvalue
    exact hc (List.append_right_eq_self.mp (Option.some.inj hvalue))
  refine ⟨value, cut, ?_⟩
  -- the cut bytes are no sound UTF-8, only blanks, or more of the label
  cases hc : utf8Text? cut with
  | none =>
    have hl := hread.trans (labelOf?_append_eq_none hlabel hc)
    exact ⟨hvalue, hwhole, hstraddles, by simp [hl, hc], by simp [hl, hc], by simp [hl, hc]⟩
  | some s =>
    by_cases hb : ∀ c ∈ s.toList, Text.isBlank c = true
    · have hl := hread.trans (labelOf?_append_of_blank hlabel hc hb)
      exact ⟨hvalue, hwhole, hstraddles, by simpa [hl, hc] using hb,
        by simpa [hl, hc, eq_append_iff] using hb, by simp [hl, hc]⟩
    · have hw : ∃ c ∈ s.toList, Text.isBlank c = false := by simpa using hb
      obtain ⟨more, hmore, happ⟩ := labelOf?_append_of_word hlabel hc hw
      have hl := hread.trans happ
      have hother : label ++ more ≠ label := fun h0 => hmore ((eq_append_iff label more).mp h0.symm)
      exact ⟨hvalue, hwhole, hstraddles, by simpa [hl, hc, hother] using hw,
        by simpa [hl, hc, hmore] using hw, by simp [hl, hc]⟩

/-- What the scan of the front of some bytes says of all of them. -/
structure ReadAtFront (bytes : List UInt8) : Prop where
  value : ∀ key label, valueAfter? key (bytes.take scanLimit) = some label →
    ∃ value cut, CutAt key bytes label value cut
  declared : ∀ label, declared? bytes = some label →
    (∃ value cut, CutAt "charset=" bytes label value cut) ∨
      valueAfter? "charset=" (bytes.take scanLimit) = none ∧
        ∃ value cut, CutAt "encoding=" bytes label value cut

/-- A label that the front gives is kept, made longer or lost by what the bytes behind the front add
to its value, and only by that. -/
theorem readAtFront (bytes : List UInt8) : ReadAtFront bytes where
  value _ _ h := exists_cutAt h
  declared label h := by
    rcases Option.or_eq_some_iff.mp h with h | ⟨hn, h⟩
    · exact Or.inl (exists_cutAt h)
    · exact Or.inr ⟨hn, exists_cutAt h⟩

/-- A page whose encoding begins within the front and ends behind it. -/
def cutPage : List UInt8 :=
  List.replicate 1006 0x20 ++ "<meta charset=koi8-u><p title=".toUTF8.toList ++ [0xa4, 0x3e]

/-- The page says `koi8-u` and is read as one that says `koi8`. -/
theorem declared?_cutPage :
    valueAfter? "charset=" (cutPage.take scanLimit) = some "koi8" ∧
      valueAfter? "charset=" cutPage = some "koi8-u" ∧ declared? cutPage = some "koi8" := by
  decide +kernel

end Encoding

end CoursePage
