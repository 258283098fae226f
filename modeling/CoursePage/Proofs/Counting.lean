import CoursePage.Selector.Query

/-!
Selectors and the indexes that are kept while a page is searched. A selector that counts nothing
finds the elements that meet it by themselves. Where a position is counted, the first element that
gets as far as the position answers for all elements behind it.
-/

namespace CoursePage.Selector

variable {α β : Type} {t : Tree} {s : Selector} {i : NodeId}

/-- The kept indexes have no part in an answer, and none is added to them. -/
def Steady (x : StateM IndexCache α) : Prop := ∃ a, ∀ cache, x cache = (a, cache)

namespace Steady

variable {x y : StateM IndexCache α}

theorem pure (a : α) : Steady (pure a) := ⟨a, fun _ => rfl⟩

theorem bind {f : α → StateM IndexCache β} (hx : Steady x) (hf : ∀ a, Steady (f a)) :
    Steady (x >>= f) := by
  obtain ⟨a, ha⟩ := hx
  obtain ⟨b, hb⟩ := hf a
  refine ⟨b, fun cache => ?_⟩
  change f (x cache).1 (x cache).2 = (b, cache)
  rw [ha, hb]

theorem eq (hx : Steady x) (cache : IndexCache) : x cache = ((x []).1, cache) := by
  obtain ⟨a, ha⟩ := hx
  rw [ha, ha]

theorem and {x y : StateM IndexCache Bool} (hx : Steady x) (hy : Steady y) : Steady (x <&&> y) :=
  hx.bind fun a => by
    cases a with
    | true => exact hy
    | false => exact pure false

theorem or {x y : StateM IndexCache Bool} (hx : Steady x) (hy : Steady y) : Steady (x <||> y) :=
  hx.bind fun a => by
    cases a with
    | true => exact pure true
    | false => exact hy

theorem search {find : NodeId → StateM IndexCache Finding} (c : Combinator)
    (hf : ∀ i, Steady (find i)) (is : List NodeId) : Steady (c.search find is) := by
  induction is with
  | nil => exact pure _
  | cons i is ih =>
    rw [Combinator.search]
    refine (hf i).bind fun finding => ?_
    cases finding <;> cases c <;> first | exact ih | exact pure _

end Steady

mutual

/-- No index is counted for a condition. -/
def Simple.isSteady : Simple → Bool
  | .position p => p.isOutermost
  | .not alternatives => allSteady alternatives
  | _ => true

def conditionsSteady : List Simple → Bool
  | [] => true
  | p :: ps => p.isSteady && conditionsSteady ps

def Complex.isSteady : Complex → Bool
  | .compound parts => conditionsSteady parts
  | .chain left _ parts => left.isSteady && conditionsSteady parts

def allSteady : List Complex → Bool
  | [] => true
  | s :: ss => s.isSteady && allSteady ss

end

/-- A position is asked for from one end, or from both. -/
theorem Position.holds_cases (p : Position) :
    (∃ fromEnd, ∀ t f i, p.holds t f i = p.holdsFrom t f i fromEnd) ∨
      ∀ t f i, p.holds t f i = (p.holdsFrom t f i false <&&> p.holdsFrom t f i true) := by
  simp only [Position.holds]
  cases p.counting with
  | child | ofType => exact Or.inl ⟨false, fun _ _ _ => rfl⟩
  | lastChild | lastOfType => exact Or.inl ⟨true, fun _ _ _ => rfl⟩
  | onlyChild | onlyOfType => exact Or.inr fun _ _ _ => rfl

theorem Position.steady_holds {p : Position} (hp : p.isOutermost = true) (t : Tree) (f : Frame)
    (i : NodeId) : Steady (p.holds t f i) := by
  have hfrom : ∀ fromEnd, Steady (p.holdsFrom t f i fromEnd) := by
    intro fromEnd
    rw [Position.holdsFrom, if_pos hp]
    exact .pure _
  obtain ⟨fromEnd, hone⟩ | hboth := p.holds_cases
  · rw [hone]
    exact hfrom fromEnd
  · rw [hboth]
    exact (hfrom false).and (hfrom true)

mutual

theorem Simple.steady_holds (p : Simple) (hp : p.isSteady = true) (t : Tree) (f : Frame)
    (i : NodeId) : Steady (p.holds t f i) := by
  match p with
  | .position q =>
    rw [Simple.isSteady] at hp
    rw [Simple.holds]
    exact Position.steady_holds hp t f i
  | .not alternatives =>
    rw [Simple.isSteady] at hp
    rw [Simple.holds]
    exact (steady_someHolds alternatives hp t _ i).bind fun _ => .pure _
  | .noNamespace | .universal | .type _ | .id _ | .className _ | .attribute _ | .root | .empty
  | .scope | .host _ | .usage _ =>
    rw [Simple.holds]
    exact .pure _

theorem steady_allHold (ps : List Simple) (hp : conditionsSteady ps = true) (t : Tree) (f : Frame)
    (i : NodeId) : Steady (allHold t ps f i) := by
  match ps with
  | [] =>
    rw [allHold]
    exact .pure _
  | p :: ps =>
    rw [conditionsSteady, Bool.and_eq_true] at hp
    rw [allHold]
    exact (p.steady_holds hp.1 t f i).and (steady_allHold ps hp.2 t f i)

theorem Complex.steady_find (s : Complex) (hs : s.isSteady = true) (t : Tree) (f : Frame)
    (i : NodeId) : Steady (s.find t f i) := by
  match s with
  | .compound parts =>
    rw [Complex.isSteady] at hs
    rw [Complex.find]
    exact (steady_allHold parts hs t f i).bind fun _ => .pure _
  | .chain left c parts =>
    rw [Complex.isSteady, Bool.and_eq_true] at hs
    rw [Complex.find]
    refine (steady_allHold parts hs.2 t f i).bind fun held => ?_
    cases held with
    | true => exact .search c (fun j => left.steady_find hs.1 t _ j) _
    | false => exact .pure _

theorem steady_someHolds (ss : List Complex) (hs : allSteady ss = true) (t : Tree) (f : Frame)
    (i : NodeId) : Steady (someHolds t ss f i) := by
  match ss with
  | [] =>
    rw [someHolds]
    exact .pure _
  | s :: ss =>
    rw [allSteady, Bool.and_eq_true] at hs
    rw [someHolds]
    exact ((s.steady_find hs.1 t f i).bind fun _ => .pure _).or (steady_someHolds ss hs.2 t f i)

end

theorem asks_of_allSteady (hs : allSteady s.alternatives = true) (i : NodeId)
    (cache : IndexCache) : s.asks t i cache = (s.holds t i, cache) := by
  refine Steady.eq ?_ cache
  unfold asks
  split
  · exact steady_someHolds s.alternatives hs t [] i
  · exact .pure _

theorem and_apply (x y : StateM IndexCache Bool) (cache : IndexCache) : (x <&&> y) cache =
    if (x cache).1 then y (x cache).2 else (false, (x cache).2) := by
  change (match toBool (x cache).1 with
    | true => y
    | false => pure (x cache).1 : StateM IndexCache Bool) (x cache).2 = _
  cases (x cache).1 <;> rfl

section Counted

variable {p : Position} {cache : IndexCache} {f : Frame} {fromEnd ofType : Bool}

theorem indexOf_spec (t : Tree) (f : Frame) (i : NodeId) (fromEnd ofType : Bool)
    (cache : IndexCache) : ∃ index after, indexOf t f i fromEnd ofType cache = (index, after) ∧
      after.lookup ⟨fromEnd, ofType, f.owner⟩ = some index ∧
      ∀ key ≠ ⟨fromEnd, ofType, f.owner⟩, after.lookup key = cache.lookup key := by
  simp only [indexOf]
  cases hl : cache.lookup ⟨fromEnd, ofType, f.owner⟩ with
  | some index => exact ⟨index, cache, rfl, hl, fun _ _ => rfl⟩
  | none =>
    refine ⟨_, _, rfl, by simp, fun key hkey => ?_⟩
    rw [List.lookup_cons, beq_false_of_ne hkey]

/-- The answer for a counted position is read from the index that is kept, which stays. -/
theorem Position.holdsFrom_spec (hp : p.isOutermost = false) (t : Tree) (f : Frame) (i : NodeId)
    (fromEnd : Bool) (cache : IndexCache) :
    ∃ index after, p.holdsFrom t f i fromEnd cache = (reaches p.step p.offset index, after) ∧
      after.lookup ⟨fromEnd, p.counting.isOfType, f.owner⟩ = some index ∧
      ∀ key ≠ ⟨fromEnd, p.counting.isOfType, f.owner⟩, after.lookup key = cache.lookup key := by
  obtain ⟨index, after, hi, hl, hr⟩ :=
    indexOf_spec t f i fromEnd p.counting.isOfType cache
  refine ⟨index, after, ?_, hl, hr⟩
  rw [holdsFrom, if_neg (by simp [hp])]
  change (reaches p.step p.offset (indexOf t f i fromEnd p.counting.isOfType cache).1,
    (indexOf t f i fromEnd p.counting.isOfType cache).2) = _
  rw [hi]

theorem Position.holdsFrom_of_lookup (hp : p.isOutermost = false) {index : Nat}
    (hl : cache.lookup ⟨fromEnd, p.counting.isOfType, f.owner⟩ = some index) (t : Tree)
    (i : NodeId) : p.holdsFrom t f i fromEnd cache = (reaches p.step p.offset index, cache) := by
  have hi : indexOf t f i fromEnd p.counting.isOfType cache = (index, cache) := by
    rw [indexOf]
    simp only [hl]
  rw [holdsFrom, if_neg (by simp [hp])]
  change (reaches p.step p.offset (indexOf t f i fromEnd p.counting.isOfType cache).1,
    (indexOf t f i fromEnd p.counting.isOfType cache).2) = _
  rw [hi]

/-- Asked again from the same frame, a counted position has the same answer for every element. -/
theorem Position.holds_again (hp : p.isOutermost = false) (t : Tree) (f : Frame) (i j : NodeId)
    (cache : IndexCache) : p.holds t f j (p.holds t f i cache).2 = p.holds t f i cache := by
  obtain ⟨fromEnd, hone⟩ | hboth := p.holds_cases
  · obtain ⟨index, after, hi, hl, -⟩ := holdsFrom_spec hp t f i fromEnd cache
    rw [hone, hone, hi]
    exact holdsFrom_of_lookup hp hl t j
  · -- The second index is kept beside the first one, so both are there when they are asked again.
    obtain ⟨first, mid, hf, hfl, -⟩ := holdsFrom_spec hp t f i false cache
    obtain ⟨last, after, hb, hbl, hr⟩ := holdsFrom_spec hp t f i true mid
    rw [hboth, hboth, and_apply _ _ cache, hf]
    by_cases hreach : reaches p.step p.offset first = true
    · have hfl' : after.lookup ⟨false, p.counting.isOfType, f.owner⟩ = some first := by
        rw [hr _ (by simp), hfl]
      simp only [hreach, if_true, hb]
      rw [and_apply, holdsFrom_of_lookup hp hfl' t j]
      simp only [hreach, if_true]
      exact holdsFrom_of_lookup hp hbl t j
    · simp only [hreach, Bool.false_eq_true, if_false]
      rw [and_apply, holdsFrom_of_lookup hp hfl t j]
      simp [hreach]

end Counted

/-- The selector whose only alternative is a compound. -/
abbrev ofCompound (source : String) (conditions : List Simple) : Selector :=
  ⟨source, [.compound conditions]⟩

section Compounds

variable {source : String} {ps front back : List Simple} {p : Position} {cache : IndexCache}

theorem allHold_cons (p : Simple) (ps : List Simple) (t : Tree) (f : Frame) (i : NodeId)
    (cache : IndexCache) : allHold t (p :: ps) f i cache =
      if (p.holds t f i cache).1 then allHold t ps f i (p.holds t f i cache).2
      else (false, (p.holds t f i cache).2) := by
  rw [allHold, and_apply]

theorem allHold_append (ps qs : List Simple) (t : Tree) (f : Frame) (i : NodeId)
    (cache : IndexCache) : allHold t (ps ++ qs) f i cache =
      if (allHold t ps f i cache).1 then allHold t qs f i (allHold t ps f i cache).2
      else (false, (allHold t ps f i cache).2) := by
  induction ps generalizing cache with
  | nil => rw [List.nil_append, allHold]; rfl
  | cons p ps ih =>
    rw [List.cons_append, allHold_cons, allHold_cons, ih]
    split <;> rfl

theorem asks_ofCompound (source : String) (ps : List Simple) (t : Tree) (i : NodeId)
    (cache : IndexCache) : (ofCompound source ps).asks t i cache =
      if t.isElement (some i) then allHold t ps [] i cache else (false, cache) := by
  unfold asks
  split
  · simp only [someHolds, Complex.find]
    change (match toBool ((if (allHold t ps [] i cache).1 then Finding.held else .missed) == .held)
      with
      | true => pure ((if (allHold t ps [] i cache).1 then Finding.held else .missed) == .held)
      | false => pure false : StateM IndexCache Bool) (allHold t ps [] i cache).2 = _
    cases allHold t ps [] i cache with
    | mk held after => cases held <;> rfl
  · rfl

theorem holds_ofCompound (source : String) (ps : List Simple) (t : Tree) (i : NodeId) :
    (ofCompound source ps).holds t i = (t.isElement (some i) && (allHold t ps [] i []).1) := by
  rw [holds, asks_ofCompound]
  cases t.isElement (some i) <;> rfl

/-- An element that meets what stands before a counted position is asked for the position, and the
answer may be another element's. -/
theorem asks_counted (hfront : conditionsSteady front = true) (hback : conditionsSteady back = true)
    (source : String) (p : Position) (t : Tree) (i : NodeId) (cache : IndexCache) :
    (ofCompound source (front ++ .position p :: back)).asks t i cache =
      if (ofCompound source front).holds t i then
        ((p.holds t [] i cache).1 && (ofCompound source back).holds t i, (p.holds t [] i cache).2)
      else (false, cache) := by
  rw [asks_ofCompound, holds_ofCompound, holds_ofCompound]
  cases t.isElement (some i) with
  | false => rfl
  | true =>
    simp only [if_true, Bool.true_and]
    rw [allHold_append, (steady_allHold front hfront t [] i).eq cache, allHold_cons, Simple.holds,
      (steady_allHold back hback t [] i).eq (p.holds t [] i cache).2]
    cases (p.holds t [] i cache).1 <;> rfl

section Sift

variable (hfront : conditionsSteady front = true) (hback : conditionsSteady back = true)

include hfront hback

/-- Once the position is answered, the answer goes for all elements to come. -/
theorem sift_of_answered {answer : Bool} (ha : ∀ i, p.holds t [] i cache = (answer, cache))
    (source : String) (is : List NodeId) :
    ((ofCompound source (front ++ .position p :: back)).sift t is cache).1 =
      if answer then (is.filter ((ofCompound source front).holds t)).filter
        ((ofCompound source back).holds t)
      else [] := by
  induction is with
  | nil => cases answer <;> rfl
  | cons i is ih =>
    rw [sift_cons, asks_counted hfront hback, ha]
    by_cases hf : (ofCompound source front).holds t i = true
    · rw [if_pos hf, ih, List.filter_cons_of_pos hf]
      cases answer with
      | false => rfl
      | true =>
        simp only [Bool.true_and, if_true]
        rw [List.filter_cons]
    · rw [if_neg hf, ih, List.filter_cons_of_neg hf]
      rfl

/-- The first element that is asked for a counted position answers for all behind it. -/
theorem sift_counted (hp : p.isOutermost = false) (source : String) (is : List NodeId) :
    ((ofCompound source (front ++ .position p :: back)).sift t is []).1 =
      if (is.filter ((ofCompound source front).holds t)).head?.any
        ((ofCompound source [.position p]).holds t)
      then (is.filter ((ofCompound source front).holds t)).filter ((ofCompound source back).holds t)
      else [] := by
  induction is with
  | nil => rfl
  | cons i is ih =>
    rw [sift_cons, asks_counted hfront hback]
    by_cases hf : (ofCompound source front).holds t i = true
    · have he : t.isElement (some i) = true := by
        rw [holds_ofCompound, Bool.and_eq_true] at hf
        exact hf.1
      have hi : (ofCompound source [.position p]).holds t i = (p.holds t [] i []).1 := by
        rw [holds_ofCompound, he, allHold_cons, Simple.holds]
        cases p.holds t [] i [] with
        | mk held after => cases held <;> rfl
      have ha : ∀ j, p.holds t [] j (p.holds t [] i []).2 =
          ((p.holds t [] i []).1, (p.holds t [] i []).2) := fun j =>
        Position.holds_again hp t [] i j []
      have hrest := sift_of_answered hfront hback ha source is
      rw [if_pos hf, List.filter_cons_of_pos hf, List.head?_cons, Option.any_some, hi, hrest]
      cases (p.holds t [] i []).1 with
      | false => rfl
      | true =>
        simp only [Bool.true_and, if_true]
        rw [List.filter_cons]
    · rw [if_neg hf, List.filter_cons_of_neg hf]
      exact ih

end Sift

end Compounds

end CoursePage.Selector

namespace CoursePage

/-- A selector that counts nothing finds what meets it. -/
theorem Tree.select_of_allSteady (t : Tree) {s : Selector}
    (hs : Selector.allSteady s.alternatives = true) :
    t.select s = (t.descendants (some document)).filter (s.holds t) :=
  congrArg Prod.fst (s.sift_eq_filter _ [] (Selector.asks_of_allSteady hs))

/-- Of the elements that meet what stands before a counted position, the first one answers for all:
the others are taken to be at the same position as it. -/
theorem Tree.select_counted (t : Tree) {front back : List Selector.Simple} {p : Selector.Position}
    (hfront : Selector.conditionsSteady front = true)
    (hback : Selector.conditionsSteady back = true) (hp : p.isOutermost = false)
    (source : String) :
    t.select (.ofCompound source (front ++ .position p :: back)) =
      if (t.select (.ofCompound source front)).head?.any
        ((Selector.ofCompound source [.position p]).holds t)
      then (t.select (.ofCompound source front)).filter ((Selector.ofCompound source back).holds t)
      else [] := by
  have hs : Selector.allSteady [.compound front] = true := by
    simpa [Selector.allSteady, Selector.Complex.isSteady] using hfront
  rw [t.select_of_allSteady (s := .ofCompound source front) hs]
  exact Selector.sift_counted hfront hback hp source _

end CoursePage
