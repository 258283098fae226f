import CoursePage.Encoding.Page
import CoursePage.Proofs.Label

/-!
Decoding keeps the ASCII of a page: markup is ASCII, so what a wrong decoder makes of the other
bytes does no harm to it. UTF-8 and the encodings of one byte for a character read ASCII as it is.
UTF-16 never does, for it takes two bytes for each character.
-/

namespace CoursePage.Encoding

variable {bytes : List UInt8}

def isAscii (c : Char) : Bool := c.toNat < 0x80

/-- The ASCII of a text, in order. -/
def asciiOf (text : String) : List Char := text.toList.filter isAscii

/-- The ASCII among bytes, in order. -/
def asciiBytes (bytes : List UInt8) : List Char :=
  (bytes.filter (· < 0x80)).map fun b => Char.ofNat b.toNat

/-- The ASCII of what was decoded. The replacement for a fault is no ASCII. -/
def asciiParts (parts : Decoded) : List Char := (parts.filterMap id).filter isAscii

theorem asciiOf_textOf (parts : Decoded) : asciiOf (textOf parts) = asciiParts parts := by
  rw [asciiOf, textOf, String.toList_ofList, asciiParts]
  induction parts with
  | nil => rfl
  | cons part parts ih =>
    cases part with
    | none => simpa [isAscii, replacementChar] using ih
    | some c => simp [List.filter_cons, ih]

theorem asciiBytes_cons (b : UInt8) (bs : List UInt8) : asciiBytes (b :: bs) =
    if b.toNat < 0x80 then Char.ofNat b.toNat :: asciiBytes bs else asciiBytes bs := by
  simp only [asciiBytes, List.filter_cons, UInt8.lt_iff_toNat_lt]
  by_cases hb : b.toNat < 0x80
  · simp [hb]
  · simp [hb]

@[simp] theorem asciiParts_nil : asciiParts [] = [] := rfl

@[simp] theorem asciiParts_none (parts : Decoded) :
    asciiParts (none :: parts) = asciiParts parts := rfl

theorem asciiParts_append (parts more : Decoded) :
    asciiParts (parts ++ more) = asciiParts parts ++ asciiParts more := by
  simp [asciiParts]

theorem asciiParts_some {c : Char} (parts : Decoded) :
    asciiParts (some c :: parts) =
      if isAscii c then c :: asciiParts parts else asciiParts parts := by
  simp [asciiParts, List.filter_cons]

theorem isAscii_ofNat {n : Nat} (h : n < 0x80) : isAscii (Char.ofNat n) = true := by
  rw [isAscii, Char.toNat_ofNat, if_pos (Or.inl (Nat.lt_trans h (by decide)))]
  exact decide_eq_true h

theorem isAscii_of_charOf? {n : Nat} {c : Char} (hn : 0x80 ≤ n) (h : charOf? n = some c) :
    isAscii c = false := by
  rw [charOf?] at h
  split at h
  · rename_i hv
    cases h
    simp [isAscii, Char.toNat_ofNat, if_pos hv, hn]
  · cases h

/-- A number stands for ASCII exactly if it is below 0x80. -/
theorem asciiParts_charOf? (n : Nat) (parts : Decoded) : asciiParts (charOf? n :: parts) =
    if n < 0x80 then Char.ofNat n :: asciiParts parts else asciiParts parts := by
  split
  · rename_i hn
    have hv : n.isValidChar := Or.inl (Nat.lt_trans hn (by decide))
    rw [charOf?, if_pos hv, asciiParts_some, if_pos (isAscii_ofNat hn)]
  · rename_i hn
    cases hc : charOf? n with
    | none => rfl
    | some c =>
      rw [asciiParts_some, if_neg (by simp [isAscii_of_charOf? (Nat.not_lt.mp hn) hc])]

theorem asciiBytes_cons_of_le {b : UInt8} (h : 0x80 ≤ b.toNat) (bs : List UInt8) :
    asciiBytes (b :: bs) = asciiBytes bs := by
  rw [asciiBytes_cons, if_neg (Nat.not_lt.mpr h)]

/-- A byte below 0x80 is one character and nothing else is. -/
theorem leadOf_eq_whole_iff {b : UInt8} {c : Char} :
    leadOf b = .whole c ↔ b.toNat < 0x80 ∧ c = Char.ofNat b.toNat := by
  simp only [leadOf]
  split
  · rename_i hb
    rw [Lead.whole.injEq, and_iff_right hb, eq_comm]
  · rename_i hb
    refine iff_of_false ?_ fun h => hb h.1
    repeat' split
    all_goals nofun

/-- A character that is still to be completed will be above ASCII. -/
structure Partial.Wide (q : Partial) : Prop where
  left : 1 ≤ q.left
  low : 0x80 ≤ q.low
  next : 2 ≤ 64 * q.value + (q.low - 0x80)
  last : q.left = 1 → 2 ≤ q.value

theorem wide_of_leadOf {b : UInt8} {q : Partial} (h : leadOf b = .begins q) : q.Wide := by
  simp only [leadOf, beq_iff_eq] at h
  repeat' split at h
  all_goals simp only [reduceCtorEq, Lead.begins.injEq] at h
  all_goals
    subst h
    constructor <;> simp only <;> omega

theorem Partial.Wide.take? {q q' : Partial} {b : UInt8} (h : q.Wide) (ht : q.take? b = some q') :
    0x80 ≤ b.toNat ∧ (if q'.left = 0 then 0x80 ≤ q'.value else q'.Wide) := by
  simp only [Partial.take?, Option.ite_none_right_eq_some, Option.some.injEq,
    Bool.and_eq_true, decide_eq_true_eq] at ht
  obtain ⟨⟨hl, hu⟩, rfl⟩ := ht
  have hlow := h.low
  have hleft := h.left
  have hnext := h.next
  refine ⟨by omega, ?_⟩
  split
  · have hlast := h.last
    simp only at *
    omega
  · constructor <;> simp only at * <;> omega

theorem le_of_leadOf_ne_whole {b : UInt8} (h : ∀ c, leadOf b ≠ .whole c) : 0x80 ≤ b.toNat := by
  by_contra hb
  exact h _ (leadOf_eq_whole_iff.mpr ⟨Nat.not_le.mp hb, rfl⟩)

/-- UTF-8 reads exactly the bytes of ASCII as ASCII, sound or not. -/
theorem asciiParts_utf8Parts {p : Option Partial} (h : ∀ q, p = some q → q.Wide)
    (bytes : List UInt8) : asciiParts (utf8Parts p bytes) = asciiBytes bytes := by
  induction bytes generalizing p with
  | nil => cases p <;> rfl
  | cons b bs ih =>
    have hfresh : asciiParts (utf8Parts none bs) = asciiBytes bs := ih nofun
    have hcut : asciiParts (if p.isSome then [none] else []) = [] := by split <;> rfl
    rw [utf8Parts]
    cases ht : p.bind (·.take? b) with
    | some q' =>
      obtain ⟨q, hq, ht⟩ := Option.bind_eq_some_iff.mp ht
      obtain ⟨hb, hq'⟩ := (h q hq).take? ht
      rw [asciiBytes_cons_of_le hb]
      by_cases hl : q'.left = 0
      · rw [if_pos hl] at hq'
        simp only [hl, beq_self_eq_true, if_true]
        rw [asciiParts_charOf?, if_neg (Nat.not_lt.mpr hq'), hfresh]
      · rw [if_neg hl] at hq'
        simp only [beq_iff_eq, hl, if_false]
        exact ih fun q hq => Option.some.inj hq ▸ hq'
    | none =>
      cases hlead : leadOf b with
      | whole c =>
        obtain ⟨hb, rfl⟩ := leadOf_eq_whole_iff.mp hlead
        simp only
        rw [asciiParts_append, hcut, asciiParts_some, if_pos (isAscii_ofNat hb), hfresh,
          asciiBytes_cons, if_pos hb, List.nil_append]
      | begins q =>
        have hb := le_of_leadOf_ne_whole (b := b) (by simp [hlead])
        simp only
        rw [asciiParts_append, hcut, ih fun _ hq => Option.some.inj hq ▸ wide_of_leadOf hlead,
          asciiBytes_cons_of_le hb, List.nil_append]
      | bad =>
        have hb := le_of_leadOf_ne_whole (b := b) (by simp [hlead])
        simp only
        rw [asciiParts_append, hcut, asciiParts_none, hfresh, asciiBytes_cons_of_le hb,
          List.nil_append]

/-- Bytes that are each read on their own keep their ASCII where only ASCII is read as ASCII. -/
theorem asciiParts_map {read : UInt8 → Option Char}
    (hlow : ∀ b : UInt8, b.toNat < 0x80 → read b = some (Char.ofNat b.toNat))
    (hhigh : ∀ b : UInt8, 0x80 ≤ b.toNat → ∀ c ∈ read b, isAscii c = false)
    (bytes : List UInt8) : asciiParts (bytes.map read) = asciiBytes bytes := by
  induction bytes with
  | nil => rfl
  | cons b bs ih =>
    rw [List.map_cons]
    by_cases hb : b.toNat < 0x80
    · rw [hlow b hb, asciiParts_some, if_pos (isAscii_ofNat hb), ih, asciiBytes_cons, if_pos hb]
    · have hb' := Nat.not_lt.mp hb
      rw [asciiBytes_cons_of_le hb']
      cases hr : read b with
      | none => exact ih
      | some c => rw [asciiParts_some, if_neg (by simp [hhigh b hb' c hr]), ih]

/-- No upper half among those with a label holds a character of ASCII. -/
theorem upper_of_labelLines : ∀ line ∈ labelLines, ∀ upper, line.1 = .singleByte upper →
    ∀ n ∈ upper, 0x80 ≤ n := by
  have hall : labelLines.all (fun line => match line.1 with
      | .singleByte upper => upper.all (0x80 ≤ ·)
      | _ => true) = true := by decide +kernel
  intro line hline upper hu n hn
  have h := List.all_eq_true.mp hall line hline
  simp only [hu, List.all_eq_true, decide_eq_true_eq] at h
  exact h n hn

theorem asciiParts_decodeAs [MultiByteDecoders] {e : Encoding}
    (hu : ∀ upper, e = .singleByte upper → ∀ n ∈ upper, 0x80 ≤ n)
    (h16 : e ≠ .utf16Little ∧ e ≠ .utf16Big)
    (hread : (∀ tables, e ≠ .multiByte tables) ∧ e ≠ .replacement)
    (bytes : List UInt8) : asciiParts (decodeAs e bytes) = asciiBytes bytes := by
  cases e with
  | utf8 => exact asciiParts_utf8Parts (by simp) bytes
  | singleByte upper =>
    refine asciiParts_map (fun b hb => ?_) (fun b hb c hc => ?_) bytes
    · rw [decodeByte, if_pos (UInt8.lt_iff_toNat_lt.mpr hb)]
    · rw [decodeByte, if_neg (by simpa [UInt8.lt_iff_toNat_lt] using hb)] at hc
      split at hc
      · rename_i n hn
        split at hc
        · cases hc
        · exact isAscii_of_charOf? (hu upper rfl n (List.mem_of_getElem? hn)) hc
      · cases hc
  | userDefined =>
    refine asciiParts_map (fun b hb => ?_) (fun b hb c hc => ?_) bytes
    · rw [privateByte, if_pos (UInt8.lt_iff_toNat_lt.mpr hb)]
    · rw [privateByte, if_neg (by simpa [UInt8.lt_iff_toNat_lt] using hb)] at hc
      exact isAscii_of_charOf? (by omega) hc
  | utf16Little => exact absurd rfl h16.1
  | utf16Big => exact absurd rfl h16.2
  | multiByte tables => exact absurd rfl (hread.1 tables)
  | replacement => exact absurd rfl hread.2

/-- The ASCII among units of 16 bits, in order. -/
def asciiUnits (units : List (Option Nat)) : List Char :=
  (units.filterMap fun unit => unit.filter (· < 0x80)).map Char.ofNat

@[simp] theorem asciiUnits_nil : asciiUnits [] = [] := rfl

@[simp] theorem asciiUnits_none (units : List (Option Nat)) :
    asciiUnits (none :: units) = asciiUnits units := rfl

theorem asciiUnits_some (n : Nat) (units : List (Option Nat)) : asciiUnits (some n :: units) =
    if n < 0x80 then Char.ofNat n :: asciiUnits units else asciiUnits units := by
  by_cases hn : n < 0x80 <;> simp [asciiUnits, Option.filter, hn]

/-- No surrogate is ASCII, and neither is what a pair of them stands for. -/
theorem asciiParts_utf16Parts (units : List (Option Nat)) :
    asciiParts (utf16Parts units) = asciiUnits units := by
  have hlead : ∀ n, isLeadUnit n = true → ¬ n < 0x80 := by
    intro n hn
    simp only [isLeadUnit, Bool.and_eq_true, decide_eq_true_eq] at hn
    omega
  have htrail : ∀ n, isTrailUnit n = true → ¬ n < 0x80 := by
    intro n hn
    simp only [isTrailUnit, Bool.and_eq_true, decide_eq_true_eq] at hn
    omega
  induction units using utf16Parts.induct with
  | case1 => rfl
  | case2 n m us hs ih =>
    have hs' := Bool.and_eq_true_iff.mp hs
    rw [utf16Parts, if_pos hs, asciiParts_charOf?, if_neg (by omega), ih, asciiUnits_some,
      if_neg (hlead n hs'.1), asciiUnits_some, if_neg (htrail m hs'.2)]
  | case3 n m us hs ih =>
    rw [utf16Parts, if_neg hs, asciiParts_charOf?, ih, asciiUnits_some n]
  | case4 n hs =>
    rw [utf16Parts, if_pos hs, asciiUnits_some, if_neg (hlead n hs)]
    rfl
  | case5 n hs =>
    rw [utf16Parts, if_neg hs, asciiParts_charOf?, asciiUnits_some]
    rfl
  | case6 n us hu hn ih => rw [utf16Parts, asciiParts_charOf?, ih, asciiUnits_some] <;> assumption
  | case7 us ih => rw [utf16Parts, asciiParts_none, ih, asciiUnits_none]

/-- Where a unit below 0x80 is made of two bytes of ASCII, no more than half of the ASCII bytes
give ASCII. -/
theorem two_mul_length_le {unit : UInt8 → UInt8 → Nat}
    (hu : ∀ a b, unit a b < 0x80 → a.toNat < 0x80 ∧ b.toNat < 0x80) (bytes : List UInt8) :
    2 * (asciiParts (utf16Parts (pairs unit bytes))).length ≤ (asciiBytes bytes).length := by
  rw [asciiParts_utf16Parts]
  induction bytes using pairs.induct with
  | case1 a b bs ih =>
    rw [pairs, asciiUnits_some, asciiBytes_cons, asciiBytes_cons]
    by_cases h : unit a b < 0x80
    · obtain ⟨ha, hb⟩ := hu a b h
      simp only [h, ha, hb, if_true, List.length_cons]
      omega
    · rw [if_neg h]
      grind
  | case2 a => simp [pairs]
  | case3 => simp [pairs]

/-- UTF-16 keeps the ASCII of no bytes that have any. -/
theorem asciiParts_utf16_ne [MultiByteDecoders] {e : Encoding}
    (he : e = .utf16Little ∨ e = .utf16Big) (hb : asciiBytes bytes ≠ []) :
    asciiParts (decodeAs e bytes) ≠ asciiBytes bytes := by
  have hl : 2 * (asciiParts (decodeAs e bytes)).length ≤ (asciiBytes bytes).length := by
    rcases he with rfl | rfl
    · exact two_mul_length_le (fun a b h => by omega) bytes
    · exact two_mul_length_le (fun a b h => by omega) bytes
  have hpos := List.length_pos_iff.mpr hb
  intro h
  rw [h] at hl
  omega

theorem exists_of_afterKey? {k : UInt8} {ks bs rest : List UInt8}
    (h : afterKey? (k :: ks) bs = some rest) : ∃ b ∈ bs, lowerByte k = lowerByte b := by
  cases bs with
  | nil => cases h
  | cons b bs =>
    rw [afterKey?, Option.ite_none_right_eq_some] at h
    exact ⟨b, List.mem_cons_self, beq_iff_eq.mp h.1⟩

theorem exists_of_behind? {k : UInt8} {ks bs rest : List UInt8}
    (h : behind? (k :: ks) bs = some rest) : ∃ b ∈ bs, lowerByte k = lowerByte b := by
  induction bs with
  | nil => cases h
  | cons b bs ih =>
    rcases Option.or_eq_some_iff.mp h with h | ⟨-, h⟩
    · exact exists_of_afterKey? h
    · obtain ⟨c, hc, he⟩ := ih h
      exact ⟨c, List.mem_cons_of_mem b hc, he⟩

theorem lt_of_lowerByte {b : UInt8} (h : (lowerByte b).toNat < 0x80) : b.toNat < 0x80 := by
  rw [lowerByte] at h
  split at h
  · rename_i hb
    simp only [Bool.and_eq_true, decide_eq_true_eq, UInt8.le_iff_toNat_le] at hb
    have h5a : (0x5a : UInt8).toNat = 90 := rfl
    omega
  · exact h

theorem asciiBytes_ne_nil_of_mem {b : UInt8} (hm : b ∈ bytes) (hb : b.toNat < 0x80) :
    asciiBytes bytes ≠ [] := by
  have hf : b ∈ bytes.filter (· < 0x80) := by
    rw [List.mem_filter]
    exact ⟨hm, decide_eq_true (UInt8.lt_iff_toNat_lt.mpr hb)⟩
  exact List.ne_nil_of_mem (List.mem_map_of_mem hf)

theorem asciiBytes_ne_nil_of_valueAfter? {k : UInt8} {ks : List UInt8} {key label : String}
    (hk : key.toUTF8.toList = k :: ks) (hl : (lowerByte k).toNat < 0x80)
    (h : valueAfter? key bytes = some label) : asciiBytes bytes ≠ [] := by
  rw [valueAfter?, hk] at h
  obtain ⟨rest, hr, -⟩ := Option.bind_eq_some_iff.mp h
  obtain ⟨b, hb, he⟩ := exists_of_behind? hr
  exact asciiBytes_ne_nil_of_mem hb (lt_of_lowerByte (he ▸ hl))

/-- A page that declares an encoding has ASCII in it. -/
theorem asciiBytes_ne_nil {label : String} (h : declared? bytes = some label) :
    asciiBytes bytes ≠ [] := by
  have hc : "charset=".toUTF8.toList = [0x63, 0x68, 0x61, 0x72, 0x73, 0x65, 0x74, 0x3d] := by cbv
  have he : "encoding=".toUTF8.toList =
      [0x65, 0x6e, 0x63, 0x6f, 0x64, 0x69, 0x6e, 0x67, 0x3d] := by cbv
  have hfront : asciiBytes (bytes.take scanLimit) ≠ [] := by
    rcases Option.or_eq_some_iff.mp h with h | ⟨-, h⟩
    · exact asciiBytes_ne_nil_of_valueAfter? hc (by decide) h
    · exact asciiBytes_ne_nil_of_valueAfter? he (by decide) h
  intro hn
  rw [← List.take_append_drop scanLimit bytes, asciiBytes, List.filter_append, List.map_append,
    List.append_eq_nil_iff] at hn
  exact hfront hn.1

/-- The encoding that a page declares, if it is a known one. -/
def declaredEncoding? (bytes : List UInt8) : Option Encoding := (declared? bytes).bind ofLabel?

/-- No byte decoder that a page can ask for reads ASCII where there is none. -/
theorem upper_of_declaredEncoding? {upper : UpperHalf}
    (h : (declaredEncoding? bytes).getD (.singleByte windows1252) = .singleByte upper) :
    ∀ n ∈ upper, 0x80 ≤ n := by
  cases hd : declaredEncoding? bytes with
  | none =>
    have hm : (.singleByte windows1252, "latin1 us-ascii windows-1252 x-cp1252") ∈ labelLines := by
      simp [labelLines]
    rw [hd] at h
    exact upper_of_labelLines _ hm upper h
  | some e =>
    rw [hd, Option.getD_some] at h
    subst e
    obtain ⟨label, -, hl⟩ := Option.bind_eq_some_iff.mp hd
    rw [← String.ofList_toList (s := label)] at hl
    obtain ⟨line, hline, hm⟩ := List.mem_flatMap.mp (mem_labels hl)
    obtain ⟨_, -, he⟩ := List.mem_map.mp hm
    exact upper_of_labelLines line hline upper (Prod.mk.inj he).2

section Pages

variable [MultiByteDecoders]

theorem asciiOf_pageText (hm : mark? bytes = none) :
    asciiOf (pageText bytes (declared? bytes)) =
      if hasFault (decodeUtf8 bytes) then asciiParts
        (decodeAs ((declaredEncoding? bytes).getD (.singleByte windows1252)) bytes)
      else asciiBytes bytes := by
  have hd : ∀ e, decode e bytes = decodeAs e bytes := by simp [decode, hm]
  have hu : decodeAs .utf8 bytes = decodeUtf8 bytes := rfl
  simp only [pageText, hd, hu]
  by_cases hf : hasFault (decodeUtf8 bytes) = true
  · rw [if_pos hf, if_pos hf, asciiOf_textOf, declaredEncoding?]
  · rw [if_neg hf, if_neg hf, asciiOf_textOf]
    exact asciiParts_utf8Parts (by simp) bytes

/-- The text of a page has exactly the ASCII of its bytes, in order. -/
def KeepsAscii (bytes : List UInt8) : Prop :=
  asciiOf (pageText bytes (declared? bytes)) = asciiBytes bytes

theorem not_keepsAscii (hm : mark? bytes = none) (hf : hasFault (decodeUtf8 bytes) = true)
    {e : Encoding} (hd : declaredEncoding? bytes = some e)
    (he : e = .utf16Little ∨ e = .utf16Big) : ¬ KeepsAscii bytes := by
  obtain ⟨label, hl, -⟩ := Option.bind_eq_some_iff.mp hd
  rw [KeepsAscii, asciiOf_pageText hm, if_pos hf, hd, Option.getD_some]
  exact asciiParts_utf16_ne he (asciiBytes_ne_nil hl)

/-- A page without a byte order mark, whose declaration names no encoding of several bytes, keeps
its ASCII unless it declares UTF-16 and is no sound UTF-8. -/
theorem keepsAscii_iff (hm : mark? bytes = none)
    (hl : ∀ e, declaredEncoding? bytes = some e →
      (∀ tables, e ≠ .multiByte tables) ∧ e ≠ .replacement) :
    KeepsAscii bytes ↔ hasFault (decodeUtf8 bytes) = false ∨
      (declaredEncoding? bytes ≠ some .utf16Little ∧ declaredEncoding? bytes ≠ some .utf16Big) := by
  constructor
  · intro hk
    by_contra hn
    rw [not_or, Bool.not_eq_false, not_and_or, not_not, not_not] at hn
    obtain ⟨hf, hd | hd⟩ := hn
    · exact not_keepsAscii hm hf hd (Or.inl rfl) hk
    · exact not_keepsAscii hm hf hd (Or.inr rfl) hk
  · intro h
    rw [KeepsAscii, asciiOf_pageText hm]
    split
    · rename_i hf
      rw [hf] at h
      obtain ⟨hlittle, hbig⟩ := h.resolve_left nofun
      have hu := @upper_of_declaredEncoding? bytes
      cases hd : declaredEncoding? bytes with
      | none =>
        rw [hd] at hu
        exact asciiParts_decodeAs (fun _ => hu) ⟨nofun, nofun⟩ ⟨fun _ => nofun, nofun⟩ bytes
      | some e =>
        rw [hd] at hu hlittle hbig
        exact asciiParts_decodeAs (fun _ => hu) ⟨fun he => hlittle (congrArg some he),
          fun he => hbig (congrArg some he)⟩ (hl e hd) bytes
    · rfl

end Pages

/-- A page with an accent in a one-byte encoding that it declares. -/
def accentedPage : List UInt8 := "<meta charset=cp866><p>caf".toUTF8.toList ++ [0x82]

theorem keepsAscii_accentedPage :
    mark? accentedPage = none ∧ hasFault (decodeUtf8 accentedPage) = true ∧
      declaredEncoding? accentedPage = some (.singleByte ibm866) ∧ KeepsAscii accentedPage := by
  have hm : mark? accentedPage = none := by decide +kernel
  have hd : declaredEncoding? accentedPage = some (.singleByte ibm866) := by decide +kernel
  refine ⟨hm, by decide +kernel, hd, (keepsAscii_iff hm fun e he => ?_).mpr (Or.inr ?_)⟩
  · rw [hd] at he
    cases he
    exact ⟨fun _ => nofun, nofun⟩
  · rw [hd]
    exact ⟨nofun, nofun⟩

/-- A page with an accent that declares an encoding in which it cannot be written. -/
def garbledPage : List UInt8 :=
  "<meta charset=utf-16><p>caf".toUTF8.toList ++ 0xe9 :: "</p>".toUTF8.toList

/-- A label names the encoding of the first line that it is on. -/
theorem lookup_labels {label : String} (front : List (Encoding × String))
    {back : List (Encoding × String)} {line : Encoding × String}
    (hl : labelLines = front ++ line :: back)
    (hf : ∀ l ∈ front, label ∉ Text.blankWords l.2) (hm : label ∈ Text.blankWords line.2) :
    labels.lookup label = some line.1 := by
  have hnone : (front.flatMap fun l => (Text.blankWords l.2).map fun w => (w, l.1)).lookup label =
      none := by
    rw [List.lookup_eq_none_iff]
    intro p hp
    obtain ⟨l, hl, hp⟩ := List.mem_flatMap.mp hp
    obtain ⟨w, hw, rfl⟩ := List.mem_map.mp hp
    rw [bne_iff_ne]
    rintro rfl
    exact hf l hl hw
  have hsome : ((Text.blankWords line.2).map fun w => (w, line.1)).lookup label =
      some line.1 := List.lookup_graph (fun _ => line.1) hm
  rw [labels, hl, List.flatMap_append, List.flatMap_cons, List.lookup_append, hnone,
    List.lookup_append, hsome]
  rfl

theorem ofLabel?_utf16 : ofLabel? "utf-16" = some .utf16Little := by
  have hfront : ∀ line ∈ labelLines.take 52,
      (Text.words Text.isBlank line.2.toList).contains "utf-16".toList = false := by
    simp only [labelLines, List.take, List.forall_mem_cons]
    and_intros
    all_goals try rw [String.toList_ofList]; decide
  have hkey : Text.lowered (String.ofList (Text.trimBy Text.isSpace "utf-16".toList)) =
      "utf-16" := by decide +kernel
  rw [ofLabel?, hkey]
  refine lookup_labels (labelLines.take 52) rfl (fun line hline hm => ?_) ?_
  · obtain ⟨word, hw, he⟩ := List.mem_map.mp hm
    have hn := hfront line hline
    rw [← he, String.toList_ofList] at hn
    simp [hw] at hn
  · decide +kernel

/-- The accent is no sound UTF-8, and as UTF-16 nothing of the page is left. -/
theorem not_keepsAscii_garbledPage :
    mark? garbledPage = none ∧ declared? garbledPage = some "utf-16" ∧
      ofLabel? "utf-16" = some .utf16Little ∧ ¬ KeepsAscii garbledPage := by
  have hm : mark? garbledPage = none := by decide +kernel
  have hd : declared? garbledPage = some "utf-16" := by decide +kernel
  refine ⟨hm, hd, ofLabel?_utf16, not_keepsAscii hm (by decide +kernel) ?_ (Or.inl rfl)⟩
  rw [declaredEncoding?, hd, Option.bind_some, ofLabel?_utf16]

end CoursePage.Encoding
