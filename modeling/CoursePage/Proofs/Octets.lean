import CoursePage.Proofs.ContentType

/-!
The rewriting of a content type by offsets. The key is searched among the octets of a copy in lower
case, and the text itself is cut at the offsets that the copy gives. The copy has the same offsets
between its characters, and octets of the key stand for themselves only, so no cut is made inside
a character and the text is cut where the key is found among its characters.
-/

namespace CoursePage

namespace Text

variable {c : Char} {cs key front rest : List Char} {s : String}

/-- The octets of a text in UTF-8. -/
def octets (s : String) : List UInt8 := s.toUTF8.data.toList

/-- The first place at which some octets stand among others. -/
def octetIndex? (key : List UInt8) : List UInt8 → Option Nat
  | [] => if key.isEmpty then some 0 else none
  | b :: bs => if key.isPrefixOf (b :: bs) then some 0 else (octetIndex? key bs).map (· + 1)

/-- The part of a text between two offsets in octets. There is none if an offset is not between
characters. -/
def slice? (s : String) (start stop : Nat) : Option String :=
  if String.Pos.Raw.IsValid s ⟨start⟩ ∧ String.Pos.Raw.IsValid s ⟨stop⟩ ∧ start ≤ stop then
    some (String.Pos.Raw.extract s ⟨start⟩ ⟨stop⟩)
  else none

theorem octets_ofList (cs : List Char) :
    octets (String.ofList cs) = cs.flatMap String.utf8EncodeChar := by
  rw [octets, String.toUTF8, String.toByteArray_ofList, List.utf8Encode, List.data_toByteArray]

theorem isValid_append (l r : List Char) :
    String.Pos.Raw.IsValid (String.ofList (l ++ r)) ⟨String.utf8Len l⟩ :=
  String.Pos.Raw.isValid_iff_exists_append.mpr
    ⟨String.ofList l, String.ofList r, String.ofList_append, (String.rawEndPos_ofList l).symm⟩

/-- Between two places between characters stands what was put there. -/
theorem slice?_append (l m r : List Char) : slice? (String.ofList (l ++ m ++ r))
    (String.utf8Len l) (String.utf8Len l + String.utf8Len m) = some (String.ofList m) := by
  have hl : String.Pos.Raw.IsValid (String.ofList (l ++ m ++ r)) ⟨String.utf8Len l⟩ := by
    rw [List.append_assoc]
    exact isValid_append l _
  have hm : String.Pos.Raw.IsValid (String.ofList (l ++ m ++ r))
      ⟨String.utf8Len l + String.utf8Len m⟩ := by
    rw [← String.utf8Len_append]
    exact isValid_append (l ++ m) r
  rw [slice?, if_pos ⟨hl, hm, Nat.le_add_right _ _⟩, String.extract_of_valid]

theorem slice?_front (l r : List Char) : slice? (String.ofList (l ++ r)) 0 (String.utf8Len l) =
    some (String.ofList l) := by
  simpa using slice?_append [] l r

theorem slice?_back (l r : List Char) : slice? (String.ofList (l ++ r)) (String.utf8Len l)
    (String.ofList (l ++ r)).utf8ByteSize = some (String.ofList r) := by
  have hs := slice?_append l r []
  rwa [List.append_nil, ← String.utf8Len_append, ← String.utf8ByteSize_ofList (l ++ r)] at hs

theorem encode_of_low (h : c.toNat < 128) : String.utf8EncodeChar c = [UInt8.ofNat c.toNat] := by
  simp [String.utf8EncodeChar, Nat.le_of_lt_succ h]

/-- Of all characters those of ASCII alone have octets of ASCII. -/
theorem encode_of_high (h : 128 ≤ c.toNat) : ∀ b ∈ String.utf8EncodeChar c, 128 ≤ b.toNat := by
  have hv : ¬ c.val.toNat ≤ 127 := Nat.not_le.mpr h
  intro b hb
  simp only [String.utf8EncodeChar, hv, if_false] at hb
  split at hb
  · simp only [List.mem_cons, List.not_mem_nil, or_false] at hb
    rcases hb with rfl | rfl <;> simp <;> omega
  · split at hb
    · simp only [List.mem_cons, List.not_mem_nil, or_false] at hb
      rcases hb with rfl | rfl | rfl <;> simp <;> omega
    · simp only [List.mem_cons, List.not_mem_nil, or_false] at hb
      rcases hb with rfl | rfl | rfl | rfl <;> simp <;> omega

theorem encode_eq_cons (c : Char) :
    ∃ b bs, String.utf8EncodeChar c = b :: bs ∧ ∀ x ∈ bs, 128 ≤ x.toNat := by
  by_cases h : c.toNat < 128
  · exact ⟨_, [], encode_of_low h, by simp⟩
  · have hlen := String.length_utf8EncodeChar c
    have hh := encode_of_high (Nat.le_of_not_lt h)
    cases he : String.utf8EncodeChar c with
    | nil =>
      rw [he] at hlen
      exact absurd hlen.symm (Nat.ne_of_gt c.utf8Size_pos)
    | cons b bs =>
      rw [he] at hh
      exact ⟨b, bs, rfl, fun x hx => hh x (List.mem_cons_of_mem b hx)⟩

/-- A character that begins with an octet of ASCII is the one that the octet stands for. -/
theorem eq_of_encode {k : Char} (hk : k.toNat < 128) {bs : List UInt8}
    (h : String.utf8EncodeChar c = UInt8.ofNat k.toNat :: bs) : c = k := by
  by_cases hc : c.toNat < 128
  · rw [encode_of_low hc] at h
    have hn := congrArg UInt8.toNat (List.cons.inj h).1
    simp only [UInt8.toNat_ofNat'] at hn
    exact Char.toNat_inj.mp (by omega)
  · have hh := encode_of_high (Nat.le_of_not_lt hc) (UInt8.ofNat k.toNat) (by simp [h])
    simp only [UInt8.toNat_ofNat'] at hh
    omega

theorem utf8Size_toLower (c : Char) : c.toLower.utf8Size = c.utf8Size := by
  by_cases h : 65 ≤ c.toNat ∧ c.toNat ≤ 90
  · have hc : c.utf8Size = 1 := by
      rw [← String.length_utf8EncodeChar, encode_of_low (by omega)]
      rfl
    have hl : c.toLower.utf8Size = 1 := by
      rw [← String.length_utf8EncodeChar, encode_of_low (by rw [toNat_toLower h]; omega)]
      rfl
    rw [hc, hl]
  · rw [toLower_of_not_letter (by omega)]

theorem utf8Len_map_toLower (cs : List Char) :
    String.utf8Len (cs.map Char.toLower) = String.utf8Len cs := by
  induction cs with
  | nil => rfl
  | cons c cs ih =>
    rw [List.map_cons, String.utf8Len_cons, String.utf8Len_cons, ih, utf8Size_toLower]

theorem afterLetters?_cons_of_lower {k : Char} (hk : k.toLower = k) :
    afterLetters? (k :: key) (c :: cs) =
      if c.toLower = k then afterLetters? key cs else none := by
  simp [afterLetters?, hk, eq_comm (a := k)]

/-- Small letters and signs of ASCII. -/
def IsKey (key : List Char) : Prop := ∀ k ∈ key, k.toNat < 128 ∧ k.toLower = k

/-- A key is in front among the octets of the copy if it is in front among the characters. -/
theorem isPrefixOf_encode (hk : IsKey key) (cs : List Char) :
    (key.flatMap String.utf8EncodeChar).isPrefixOf
      ((cs.map Char.toLower).flatMap String.utf8EncodeChar) = (afterLetters? key cs).isSome := by
  induction key generalizing cs with
  | nil => simp [afterLetters?]
  | cons k key ih =>
    obtain ⟨hlow, hself⟩ := hk k List.mem_cons_self
    rw [List.flatMap_cons, encode_of_low hlow, List.singleton_append]
    cases cs with
    | nil => rfl
    | cons c cs =>
      rw [List.map_cons, List.flatMap_cons, afterLetters?_cons_of_lower hself]
      by_cases hc : c.toLower = k
      · rw [hc, encode_of_low hlow, List.singleton_append, List.isPrefixOf_cons_cons_self,
          ih fun k hm => hk k (List.mem_cons_of_mem _ hm), if_pos rfl]
      · obtain ⟨b, bs, he, -⟩ := encode_eq_cons c.toLower
        rw [if_neg hc, Option.isSome_none, he, List.cons_append, List.isPrefixOf_cons_cons,
          Bool.and_eq_false_imp, beq_iff_eq]
        intro hb
        exact absurd (eq_of_encode hlow (hb ▸ he)) hc

/-- No octets of the key are found among those of other characters. -/
theorem octetIndex?_append_of_high {k : UInt8} (hk : k.toNat < 128) (ks : List UInt8)
    {high : List UInt8} (hh : ∀ b ∈ high, 128 ≤ b.toNat) (bs : List UInt8) :
    octetIndex? (k :: ks) (high ++ bs) = (octetIndex? (k :: ks) bs).map (· + high.length) := by
  induction high with
  | nil => simp
  | cons b high ih =>
    have hb := hh b List.mem_cons_self
    have hp : (k :: ks).isPrefixOf (b :: (high ++ bs)) = false := by
      rw [List.isPrefixOf_cons_cons, Bool.and_eq_false_imp, beq_iff_eq]
      rintro rfl
      omega
    rw [List.cons_append, octetIndex?, hp, if_neg (by simp),
      ih fun b hm => hh b (List.mem_cons_of_mem _ hm), Option.map_map]
    rfl

/-- Where a key is not in front, it is searched behind the first character. -/
theorem octetIndex?_cons (hne : key ≠ []) (hk : IsKey key) :
    octetIndex? (key.flatMap String.utf8EncodeChar)
        (((c :: cs).map Char.toLower).flatMap String.utf8EncodeChar) =
      if (afterLetters? key (c :: cs)).isSome then some 0
      else (octetIndex? (key.flatMap String.utf8EncodeChar)
        ((cs.map Char.toLower).flatMap String.utf8EncodeChar)).map (· + c.utf8Size) := by
  have hp := isPrefixOf_encode hk (c :: cs)
  have hlen := String.length_utf8EncodeChar c.toLower
  obtain ⟨b, bs, he, hh⟩ := encode_eq_cons c.toLower
  rw [he, utf8Size_toLower, List.length_cons] at hlen
  rw [List.map_cons, List.flatMap_cons, he, List.cons_append] at hp ⊢
  rw [octetIndex?, hp]
  split
  · rfl
  · obtain ⟨k, ks, rfl⟩ := List.exists_cons_of_ne_nil hne
    have hlow := (hk k List.mem_cons_self).1
    rw [List.flatMap_cons, encode_of_low hlow, List.singleton_append,
      octetIndex?_append_of_high (by simpa using by omega) _ hh, Option.map_map, ← hlen]
    rfl

end Text

namespace Encoding

open Text (octets octetIndex? slice? afterLetters? IsKey)

variable {cs key front rest : List Char}

/-- The octets of the copy up to the end of the key are those of the text up to there. -/
theorem octetIndex?_lowered (hne : key ≠ []) (hk : IsKey key) (cs : List Char) :
    (octetIndex? (key.flatMap String.utf8EncodeChar)
        ((cs.map Char.toLower).flatMap String.utf8EncodeChar)).map (· + String.utf8Len key) =
      (splitBehind? key cs).map fun cut => String.utf8Len cut.1 := by
  induction cs with
  | nil =>
    obtain ⟨k, ks, rfl⟩ := List.exists_cons_of_ne_nil hne
    have hlow := (hk k List.mem_cons_self).1
    simp [octetIndex?, splitBehind?, afterLetters?, Text.encode_of_low hlow]
  | cons c cs ih =>
    rw [Text.octetIndex?_cons hne hk, splitBehind?]
    cases ha : afterLetters? key (c :: cs) with
    | some rest =>
      obtain ⟨found, hf, hl⟩ := Text.afterLetters?_eq_some_iff.mp ha
      have hlen : found.length = key.length := by simpa using congrArg List.length hl
      have hsize : String.utf8Len found = String.utf8Len key := by
        rw [← Text.utf8Len_map_toLower, hl, Text.utf8Len_map_toLower]
      simp [hf, ← hlen, hsize]
    | none =>
      simp only [Option.isSome_none, Bool.false_eq_true, if_false]
      rw [Option.map_map, Option.map_map]
      cases hs : splitBehind? key cs <;> simp [hs] at ih ⊢
      · exact ih
      · obtain ⟨n, hn, he⟩ := ih
        exact ⟨n, hn, by omega⟩

/-- A key is found at the end of a text, the case of letters aside, and nowhere else in it. -/
structure EndsAtFirst (key front : List Char) : Prop where
  found : ∃ before last, front = before ++ last ∧ Text.sameLetters last key = true
  first : ∀ l m r, front = l ++ m ++ r → Text.sameLetters m key = true → r = []

theorem length_eq_of_sameLetters {a b : List Char} (h : Text.sameLetters a b = true) :
    a.length = b.length := by
  simpa using congrArg List.length (eq_of_beq h)

theorem afterLetters?_eq_some_iff_sameLetters : afterLetters? key cs = some rest ↔
    ∃ found, cs = found ++ rest ∧ Text.sameLetters found key = true := by
  simp [Text.afterLetters?_eq_some_iff, Text.sameLetters]

theorem afterLetters?_append_of_sameLetters {found : List Char}
    (h : Text.sameLetters found key = true) (rest : List Char) :
    afterLetters? key (found ++ rest) = some rest :=
  afterLetters?_eq_some_iff_sameLetters.mpr ⟨found, rfl, h⟩

namespace EndsAtFirst

theorem ne_nil (h : EndsAtFirst key front) (hne : key ≠ []) : front ≠ [] := by
  rintro rfl
  obtain ⟨before, last, hf, hl⟩ := h.found
  obtain ⟨-, rfl⟩ := List.append_eq_nil_iff.mp hf.symm
  exact hne (List.length_eq_zero_iff.mp (length_eq_of_sameLetters hl).symm)

/-- A key that is not in front is found at the same place in a text with one character more. -/
theorem cons_iff {c : Char} (hn : afterLetters? key (c :: (front ++ rest)) = none) :
    EndsAtFirst key (c :: front) ↔ EndsAtFirst key front := by
  have hfront : ∀ m r, c :: front = m ++ r → ¬ Text.sameLetters m key = true := by
    intro m r hs hm
    have ha := afterLetters?_append_of_sameLetters hm (r ++ rest)
    rw [← List.append_assoc, ← hs, List.cons_append, hn] at ha
    cases ha
  constructor
  · intro h
    refine ⟨?_, fun l m r hs hm => h.first (c :: l) m r (by rw [hs]; rfl) hm⟩
    obtain ⟨before, last, hs, hl⟩ := h.found
    cases before with
    | nil => exact absurd hl (hfront last [] (by simpa using hs))
    | cons d before => exact ⟨before, last, (List.cons.inj hs).2, hl⟩
  · intro h
    obtain ⟨before, last, hs, hl⟩ := h.found
    refine ⟨⟨c :: before, last, by rw [hs]; rfl, hl⟩, fun l m r hs hm => ?_⟩
    cases l with
    | nil => exact absurd hm (hfront m r hs)
    | cons d l => exact h.first l m r (List.cons.inj hs).2 hm

end EndsAtFirst

/-- A text is cut in two where the first part ends at the first key. -/
theorem splitBehind?_eq_some_iff (hne : key ≠ []) :
    splitBehind? key cs = some (front, rest) ↔ cs = front ++ rest ∧ EndsAtFirst key front := by
  induction cs generalizing front with
  | nil =>
    have hnone : splitBehind? key [] = none := by
      obtain ⟨k, ks, rfl⟩ := List.exists_cons_of_ne_nil hne
      rfl
    rw [hnone]
    refine ⟨nofun, fun ⟨hs, h⟩ => ?_⟩
    exact absurd (List.append_eq_nil_iff.mp hs.symm).1 (h.ne_nil hne)
  | cons c cs ih =>
    rw [splitBehind?]
    cases ha : afterLetters? key (c :: cs) with
    | some behind =>
      obtain ⟨found, hs, hf⟩ := afterLetters?_eq_some_iff_sameLetters.mp ha
      have hlen := length_eq_of_sameLetters hf
      simp only [hs, ← hlen, List.take_left, Option.some.injEq, Prod.mk.injEq]
      constructor
      · rintro ⟨rfl, rfl⟩
        refine ⟨rfl, ⟨[], found, rfl, hf⟩, fun l m r hs hm => ?_⟩
        have hall := congrArg List.length hs
        have hm := length_eq_of_sameLetters hm
        simp only [List.length_append] at hall
        exact List.length_eq_zero_iff.mp (by omega)
      · rintro ⟨hcut, h⟩
        -- The key in front is within the first part, so it is the whole of that part.
        obtain ⟨before, last, hfront, hl⟩ := h.found
        have hle : found.length ≤ front.length := by
          rw [hfront, List.length_append, length_eq_of_sameLetters hl]
          omega
        obtain ⟨r, hr⟩ := List.prefix_of_prefix_length_le ⟨behind, rfl⟩
          (hcut ▸ List.prefix_append front rest) hle
        obtain rfl := h.first [] found r hr.symm hf
        obtain rfl : found = front := by simpa using hr
        exact ⟨rfl, List.append_cancel_left hcut⟩
    | none =>
      simp only [Option.map_eq_some_iff, Prod.exists, Prod.mk.injEq]
      constructor
      · rintro ⟨front, behind, hs, rfl, rfl⟩
        obtain ⟨rfl, h⟩ := ih.mp hs
        exact ⟨rfl, (EndsAtFirst.cons_iff ha).mpr h⟩
      · rintro ⟨hs, h⟩
        cases front with
        | nil => exact absurd rfl (h.ne_nil hne)
        | cons d front =>
          obtain ⟨rfl, rfl⟩ := List.cons.inj hs
          exact ⟨front, rest, ih.mpr ⟨rfl, (EndsAtFirst.cons_iff ha).mp h⟩, rfl, rfl⟩

/-- The rewriting of a content type by offsets in octets. The inner value is missing if nothing is
to be rewritten, the outer one if a cut would be inside a character. -/
def cutUtf8Charset? (content : String) : Option (Option String) :=
  match octetIndex? (octets "charset=") (octets (Text.lowered content)) with
  | none => some none
  | some found => do
    let start := found + "charset=".utf8ByteSize
    let rest ← slice? content start content.utf8ByteSize
    let stop := String.utf8Len (rest.toList.takeWhile fun c => !endsLabel c)
    let label ← slice? rest 0 stop
    if isUtf8Label (String.ofList (Text.trimBy isQuote label.toList)) then some none
    else do
      let front ← slice? content 0 start
      let behind ← slice? rest stop rest.utf8ByteSize
      return some (front ++ "utf-8" ++ behind)

theorem isKey_charset : IsKey "charset=".toList := by
  have hall : "charset=".toList.all (fun k => decide (k.toNat < 128) && k.toLower == k) = true := by
    decide
  simpa only [IsKey, List.all_eq_true, Bool.and_eq_true, decide_eq_true_eq, beq_iff_eq] using hall

theorem withUtf8Charset?_of_split_none {content : String}
    (h : splitBehind? "charset=".toList content.toList = none) :
    withUtf8Charset? content = none := by
  rw [withUtf8Charset?, h]
  rfl

theorem withUtf8Charset?_of_split {content : String}
    (h : splitBehind? "charset=".toList content.toList = some (front, rest)) :
    withUtf8Charset? content =
      if isUtf8Label (String.ofList (Text.trimBy isQuote (rest.takeWhile fun c => !endsLabel c)))
      then none
      else some (String.ofList front ++ "utf-8" ++
        String.ofList (rest.dropWhile fun c => !endsLabel c)) := by
  have hd : ((rest.takeWhile fun c => !endsLabel c) ++
      rest.dropWhile fun c => !endsLabel c).drop (rest.takeWhile fun c => !endsLabel c).length =
        rest.dropWhile fun c => !endsLabel c := List.drop_left
  rw [List.takeWhile_append_dropWhile] at hd
  rw [withUtf8Charset?, h]
  simp only [Option.bind_eq_bind, Option.bind_some, hd, String.ofList_append, String.ofList_toList]

/-- No cut is inside a character, and the cuts are where the characters say. -/
theorem cutUtf8Charset?_eq (content : String) :
    cutUtf8Charset? content = some (withUtf8Charset? content) := by
  have hfound := octetIndex?_lowered (by decide) isKey_charset content.toList
  have hsize : String.utf8Len "charset=".toList = "charset=".utf8ByteSize := rfl
  rw [← Text.octets_ofList, ← Text.octets_ofList, String.ofList_toList, hsize] at hfound
  rw [cutUtf8Charset?, Text.lowered]
  cases hs : splitBehind? "charset=".toList content.toList with
  | none =>
    rw [hs, Option.map_none, Option.map_eq_none_iff] at hfound
    rw [hfound, withUtf8Charset?_of_split_none hs]
  | some cut =>
    obtain ⟨front, rest⟩ := cut
    rw [withUtf8Charset?_of_split hs]
    obtain ⟨hc, -⟩ := (splitBehind?_eq_some_iff (by decide)).mp hs
    rw [hs, Option.map_some, Option.map_eq_some_iff] at hfound
    obtain ⟨found, hi, hstart⟩ := hfound
    have hlabel := Text.slice?_front (rest.takeWhile fun c => !endsLabel c)
      (rest.dropWhile fun c => !endsLabel c)
    have hbehind := Text.slice?_back (rest.takeWhile fun c => !endsLabel c)
      (rest.dropWhile fun c => !endsLabel c)
    rw [List.takeWhile_append_dropWhile] at hlabel hbehind
    rw [hi]
    obtain rfl : content = String.ofList (front ++ rest) := by rw [← hc, String.ofList_toList]
    simp only [hstart, Text.slice?_back, Text.slice?_front, String.toList_ofList, hlabel,
      hbehind, Option.bind_eq_bind, Option.bind_some]
    split <;> rfl

end Encoding

end CoursePage
