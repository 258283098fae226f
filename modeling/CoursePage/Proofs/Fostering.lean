import CoursePage.Page
import CoursePage.Proofs.ChildLists

/-!
Content that is put out of a table. The rule for it is the place directly before the table, but it
goes behind all that is in the node around the table. So the rule is kept only where the table is in
no node and the content goes to the end of the element around it.
-/

namespace CoursePage

/-- Behind a list stands no element of the list. -/
theorem concat_ne_append_cons {α : Type} {l r : List α} {a b x : α} (hx : x ∉ l ++ a :: r) :
    l ++ a :: r ++ [x] ≠ l ++ b :: a :: r := by
  intro he
  have hlast : (a :: r).getLast? = some x := by
    rw [← List.getLast?_append_cons (l ++ [b]), List.append_assoc, List.singleton_append, ← he,
      List.getLast?_concat]
  exact hx (List.mem_append_right l (List.mem_of_getLast? hlast))

namespace Markup.Builder.Piece

/-- The edit by which a piece is put behind all children of a node. -/
def edit (parent : NodeId) : Piece → Edit
  | .node i => .append parent i
  | .text s => .appendText parent s

/-- `t'` is `t` with a piece at the end of the children of a node: as a node, or as more text in a
text that is there. -/
def AtEnd (p : NodeId) (t t' : Tree) : Piece → Prop
  | .node c => t'.layout = t.layout.set p (t.layout.kids p ++ [c])
  | .text s =>
    (∃ last old, (t.layout.kids p).getLast? = some last ∧ t.text? (some last) = some old ∧
      t'.layout = t.layout.put last (.text (old ++ s))) ∨
    t.text? (t.layout.kids p).getLast? = none ∧
      t'.layout = (t.layout.put t.size (.text s)).set p (t.layout.kids p ++ [t.size])

/-- A piece is directly before a child, and the other children stand as they did. -/
def Before (p child : NodeId) (t t' : Tree) : Piece → Prop
  | .node c => ∃ l r, t.layout.kids p = l ++ child :: r ∧ t'.layout.kids p = l ++ c :: child :: r
  | .text s => ∃ l r, t.layout.kids p = l ++ child :: r ∧
    ((∃ i, t'.layout.kids p = l ++ i :: child :: r ∧ t'.layout.content i = some (.text s)) ∨
      ∃ last old, l.getLast? = some last ∧ t'.layout.kids p = t.layout.kids p ∧
        t.layout.content last = some (.text old) ∧
        t'.layout.content last = some (.text (old ++ s)))

variable {t t' : Tree} {p child c : NodeId}

theorem atEnd_addTo (h : Sound t) {piece : Piece} (hl : (piece.edit p).Legal t) :
    piece.AtEnd p t (piece.addTo t p) := by
  cases piece with
  | node c => exact h.layout_append hl
  | text s => exact h.layout_appendText hl s

/-- A node at the end of a list is not directly before a child of the list. -/
theorem not_before_of_atEnd_node (hc : c ∉ t.children (some p)) (he : (node c).AtEnd p t t') :
    ¬(node c).Before p child t t' := by
  rintro ⟨l, r, hs, hs'⟩
  have hk : t'.layout.kids p = t.layout.kids p ++ [c] :=
    (congrArg (fun v => v.kids p) he).trans (Function.update_self ..)
  have hc' : c ∉ l ++ child :: r := hs ▸ hc
  rw [hs] at hk
  exact concat_ne_append_cons hc' (hk.symm.trans hs')

/-- A text at the end of a list is not directly before a child of the list. -/
theorem not_before_of_atEnd_text (h : Sound t) {s : String} (hs : s ≠ "")
    (he : (text s).AtEnd p t t') : ¬(text s).Before p child t t' := by
  rintro ⟨l, r, hk, hb⟩
  rcases he with ⟨last, old, hlast, _, hv⟩ | ⟨_, hv⟩
  · have hk' : t'.layout.kids p = t.layout.kids p := congrArg (fun v => v.kids p) hv
    rcases hb with ⟨i, hi, _⟩ | ⟨m, before, hm, _, hmt, hmt'⟩
    · rw [hk', hk] at hi
      simpa using congrArg List.length hi
    · -- The text before the child is another one than the text at the end, so it was not written.
      have hne : m ≠ last := by
        rintro rfl
        rw [hk, List.getLast?_append_cons] at hlast
        have hn : (l ++ child :: r).Nodup := hk ▸ h.forest.nodup p
        rw [List.nodup_append] at hn
        exact hn.2.2 m (List.mem_of_getLast? hm) m (List.mem_of_getLast? hlast) rfl
      have hput : t'.layout.content m = t.layout.content m :=
        (congrArg (fun v => v.content m) hv).trans (Function.update_of_ne hne ..)
      rw [hput, hmt] at hmt'
      have hold : before = before ++ s := Content.text.inj (Option.some.inj hmt')
      exact hs (String.append_eq_left_iff.mp hold.symm)
  · have hk' : t'.layout.kids p = t.layout.kids p ++ [t.size] :=
      (congrArg (fun v => v.kids p) hv).trans (Function.update_self ..)
    have hnew : t.size ∉ t.layout.kids p := fun hm =>
      Nat.lt_irrefl _ (h.forest.lt_size_of_mem (p := p) hm)
    rw [hk] at hk' hnew
    rcases hb with ⟨i, hi, _⟩ | ⟨_, _, _, hi, _⟩
    · exact concat_ne_append_cons hnew (hk'.symm.trans hi)
    · rw [hk', hk] at hi
      simpa using congrArg List.length hi

end Markup.Builder.Piece

open Markup.Builder (Piece Place)

/-- The rule for content that is put out of a table. -/
structure Fostered (table outer : NodeId) (t t' : Tree) (piece : Piece) : Prop where
  before : ∀ p, t.parent (some table) = some p → piece.Before p table t t'
  /-- A table that is in no node has no place before it. -/
  around : t.parent (some table) = none → piece.AtEnd outer t t'

/-- Content that is put out of a table goes to the end of the node around the table, or of the
element around it. Apart from a text without characters, it therefore goes by the rule exactly if
the table is in no node. -/
theorem Built.fostered_iff {t : Tree} (h : Built t) (table outer : NodeId) (piece : Piece)
    (hl : (piece.edit ((Place.outOf table outer).parent t)).Legal t) :
    piece.AtEnd ((Place.outOf table outer).parent t) t ((Place.outOf table outer).add t piece) ∧
      (piece ≠ .text "" →
        (Fostered table outer t ((Place.outOf table outer).add t piece) piece ↔
          t.parent (some table) = none)) := by
  have he := Piece.atEnd_addTo h.sound hl
  refine ⟨he, fun hne => ?_⟩
  cases hp : t.parent (some table) with
  | none =>
    have ho : (Place.outOf table outer).parent t = outer := by rw [Place.parent, hp]; rfl
    rw [ho] at he
    refine iff_of_true ⟨fun p hp' => ?_, fun _ => ?_⟩ rfl
    · rw [hp] at hp'
      cases hp'
    · rwa [Place.add, ho]
  | some p =>
    have ho : (Place.outOf table outer).parent t = p := by rw [Place.parent, hp]; rfl
    rw [ho] at hl he
    refine iff_of_false (fun hf => ?_) (by simp)
    have hb := hf.before p hp
    rw [Place.add, ho] at hb
    cases piece with
    | node c =>
      obtain ⟨-, -, hn, -⟩ := hl
      exact Piece.not_before_of_atEnd_node (h.sound.forest.loose_not_mem hn) he hb
    | text s =>
      have hs : s ≠ "" := fun hs => hne (hs ▸ rfl)
      exact Piece.not_before_of_atEnd_text h.sound hs he hb

/-- A table behind a text in an element, and an item and a table that are in no node. -/
def openTable : List Edit :=
  [.createElement (.html "div") [], .append 0 1, .appendText 1 "a",
    .createElement (.html "table") [], .append 1 3, .createElement (.html "b") [],
    .createElement (.html "table") []]

/-- Out of a table that is in no node, an item goes to the end of the element around it. -/
theorem fostered_openTable :
    LegalRun .empty openTable ∧
      (Edit.append 1 4).Legal (openTable.foldl Edit.run .empty) ∧
      (openTable.foldl Edit.run .empty).parent (some 5) = none ∧
      Fostered 5 1 (openTable.foldl Edit.run .empty)
        ((Place.outOf 5 1).add (openTable.foldl Edit.run .empty) (.node 4)) (.node 4) := by
  have hl : LegalRun .empty openTable := by decide +kernel
  have hp : (openTable.foldl Edit.run .empty).parent (some 5) = none := by decide +kernel
  have hc : (Edit.append 1 4).Legal (openTable.foldl Edit.run .empty) := by decide +kernel
  have ho : (Place.outOf 5 1).parent (openTable.foldl Edit.run .empty) = 1 := by decide +kernel
  have hf := ((Built.empty.run hl).fostered_iff 5 1 (.node 4) (ho.symm ▸ hc)).2
  exact ⟨hl, hc, hp, (hf (by simp)).mpr hp⟩

/-- Out of a table in an element, an item goes behind the table. A page with text right inside a
table is read in this way. -/
theorem not_fostered_openTable :
    LegalRun .empty openTable ∧
      (Edit.append 1 4).Legal (openTable.foldl Edit.run .empty) ∧
      (openTable.foldl Edit.run .empty).parent (some 3) = some 1 ∧
      ((Place.outOf 3 0).add (openTable.foldl Edit.run .empty) (.node 4)).children (some 1) =
        [2, 3, 4] ∧
      ¬Fostered 3 0 (openTable.foldl Edit.run .empty)
        ((Place.outOf 3 0).add (openTable.foldl Edit.run .empty) (.node 4)) (.node 4) ∧
      (Tree.ofMarkup "<table>x</table>").toHtml =
        "<html><head></head><body><table></table>x</body></html>" := by
  have hl : LegalRun .empty openTable := by decide +kernel
  have hp : (openTable.foldl Edit.run .empty).parent (some 3) = some 1 := by decide +kernel
  have hk : (openTable.foldl Edit.run .empty).children (some 1) = [2, 3] := by decide +kernel
  have hk' : ((Place.outOf 3 0).add (openTable.foldl Edit.run .empty) (.node 4)).children
      (some 1) = [2, 3, 4] := by decide +kernel
  have hc : (Edit.append 1 4).Legal (openTable.foldl Edit.run .empty) := by decide +kernel
  have he : (Piece.node 4).AtEnd 1 (openTable.foldl Edit.run .empty)
      ((Place.outOf 3 0).add (openTable.foldl Edit.run .empty) (.node 4)) :=
    Piece.atEnd_addTo (Built.empty.run hl).sound hc
  have hb : ¬(Piece.node 4).Before 1 3 (openTable.foldl Edit.run .empty)
      ((Place.outOf 3 0).add (openTable.foldl Edit.run .empty) (.node 4)) :=
    Piece.not_before_of_atEnd_node (by simp [hk]) he
  exact ⟨hl, hc, hp, hk', fun hf => hb (hf.before 1 hp), by decide +kernel⟩

end CoursePage
