import CoursePage.Tree.Walk
import Mathlib.Data.List.Nodup

/-!
Finite walks along one kind of link. Three loops of the library follow links with a bound on
their number of steps; where a walk ends, the loops meet exactly the nodes on it.
-/

namespace CoursePage

/-- The walk from a link on, one step after the other, ends and meets exactly these nodes. -/
inductive Trail (step : Link → Link) : Link → List NodeId → Prop where
  | nil : Trail step none []
  | cons (i : NodeId) (is : List NodeId) (rest : Trail step (step (some i)) is) :
      Trail step (some i) (i :: is)

namespace Trail

variable {step step' : Link → Link} {l : Link} {is js : List NodeId} {i j : NodeId}

/-- A link determines at most one finite walk. -/
theorem unique (h : Trail step l is) (h' : Trail step l js) : is = js := by
  induction h generalizing js with
  | nil => cases h'; rfl
  | cons i is rest ih =>
    cases h' with
    | cons _ ks rest' => exact congrArg (List.cons i) (ih rest')

/-- Every node on a walk splits it, and the walk goes on behind the node. -/
theorem split (h : Trail step l is) (hi : i ∈ is) :
    ∃ before after, is = before ++ i :: after ∧ Trail step (step (some i)) after := by
  induction h with
  | nil => simp at hi
  | cons j js rest ih =>
    rcases List.mem_cons.mp hi with rfl | ht
    · exact ⟨[], js, rfl, rest⟩
    · obtain ⟨before, after, rfl, ha⟩ := ih ht
      exact ⟨j :: before, after, rfl, ha⟩

/-- No node of a walk steps back to where the walk began. -/
theorem step_ne_start (h : Trail step (some i) is) (hj : j ∈ is) : step (some j) ≠ some i := by
  intro he
  obtain ⟨before, after, hs, ha⟩ := h.split hj
  have hlen := congrArg List.length ((he ▸ ha).unique h)
  rw [hs] at hlen
  simp at hlen
  omega

/-- A finite walk meets no node twice. -/
theorem nodup (h : Trail step l is) : is.Nodup := by
  induction h with
  | nil => simp
  | cons i is rest ih =>
    refine List.nodup_cons.mpr ⟨?_, ih⟩
    intro hi
    obtain ⟨before, after, hs, ha⟩ := rest.split hi
    have hlen := congrArg List.length (ha.unique rest)
    rw [hs] at hlen
    simp at hlen
    omega

theorem congr (h : Trail step l is) (hs : ∀ i ∈ is, step' (some i) = step (some i)) :
    Trail step' l is := by
  induction h with
  | nil => exact .nil
  | cons i is rest ih =>
    refine .cons i is ?_
    rw [hs i List.mem_cons_self]
    exact ih fun j hj => hs j (List.mem_cons_of_mem i hj)

/-- A node is met behind the first one exactly if some node of the walk steps to it. -/
theorem mem_tail_iff (h : Trail step (some i) (i :: is)) :
    j ∈ is ↔ ∃ k ∈ i :: is, step (some k) = some j := by
  induction is generalizing i with
  | nil =>
    cases h with
    | cons _ _ rest =>
      generalize hn : step (some i) = n at rest
      cases rest
      simp [hn]
  | cons m ms ih =>
    cases h with
    | cons _ _ rest =>
      have hm : step (some i) = some m := by
        generalize hn : step (some i) = n at rest
        cases rest
        rfl
      have hr := ih (hm ▸ rest)
      constructor
      · intro hj
        rcases List.mem_cons.mp hj with rfl | hj
        · exact ⟨i, List.mem_cons_self, hm⟩
        · obtain ⟨k, hk, he⟩ := hr.mp hj
          exact ⟨k, List.mem_cons_of_mem i hk, he⟩
      · rintro ⟨k, hk, he⟩
        rcases List.mem_cons.mp hk with rfl | hk
        · rw [hm] at he
          exact Option.some.inj he ▸ List.mem_cons_self
        · exact List.mem_cons_of_mem m (hr.mpr ⟨k, hk, he⟩)

/-- Two nodes of one walk that step to the same node are the same. -/
theorem step_inj (h : Trail step l is) {a b : NodeId} (ha : a ∈ is) (hb : b ∈ is)
    (hai : step (some a) = some i) (hbi : step (some b) = some i) : a = b := by
  induction h with
  | nil => simp at ha
  | cons j js rest ih =>
    rcases List.mem_cons.mp ha with hj | hm
    · rcases List.mem_cons.mp hb with hk | hn
      · exact hj.trans hk.symm
      · subst a
        exact absurd hbi ((hai ▸ rest).step_ne_start hn)
    · rcases List.mem_cons.mp hb with hk | hn
      · subst b
        exact absurd hai ((hbi ▸ rest).step_ne_start hm)
      · exact ih hm hn

/-- A walk among the first `n` nodes has at most `n` steps. -/
theorem length_le (h : Trail step l is) {n : Nat} (hn : ∀ i ∈ is, i < n) : is.length ≤ n := by
  have hs : is ⊆ List.range n := fun i hi => List.mem_range.mpr (hn i hi)
  simpa using h.nodup.length_le_of_subset hs

end Trail

namespace Tree

variable {t : Tree} {l : Link} {is : List NodeId}

/-- With enough steps the loop over siblings meets exactly the nodes of the walk. -/
theorem siblingsFrom_of_trail (h : Trail t.nextSibling l is) (n : Nat) (hn : is.length ≤ n) :
    t.siblingsFrom n l = is := by
  induction h generalizing n with
  | nil => cases n <;> rfl
  | cons i is rest ih =>
    cases n with
    | zero => simp at hn
    | succ n => simp [siblingsFrom, ih n (by simpa using hn)]

/-- With enough steps the loop over outer nodes meets exactly the nodes of the walk. -/
theorem ancestorsFrom_of_trail (h : Trail t.parent (t.parent l) is) (n : Nat)
    (hn : is.length ≤ n) : t.ancestorsFrom n l = is := by
  induction n generalizing l is with
  | zero => simpa [ancestorsFrom, eq_comm] using hn
  | succ n ih =>
    cases hp : t.parent l with
    | none =>
      rw [hp] at h
      cases h
      simp [ancestorsFrom, hp]
    | some p =>
      rw [hp] at h
      cases h with
      | cons _ ps rest => simp [ancestorsFrom, hp, ih rest (by simpa using hn)]

/-- With enough steps the loop up to the document says whether the walk meets it. -/
theorem reachesDocument_of_trail (h : Trail t.parent l is) (hk : ∀ i ∈ is, i < t.size) (n : Nat)
    (hn : is.length ≤ n) : t.reachesDocument n l = decide (document ∈ is) := by
  induction h generalizing n with
  | nil => cases n <;> simp [reachesDocument]
  | cons i is rest ih =>
    cases n with
    | zero => simp at hn
    | succ n =>
      have hi : i < t.nodes.size := hk i List.mem_cons_self
      have hg : t.get? (some i) = some t.nodes[i] := by simp [get?, hi]
      have hp : t.nodes[i].parent = t.parent (some i) := by simp [parent, hg]
      have ht := ih (fun j hj => hk j (List.mem_cons_of_mem i hj)) n (by simpa using hn)
      simp only [reachesDocument, hg, hp, ht, List.mem_cons, Bool.decide_or,
        eq_comm (a := document)]
      simp [beq_eq_decide]

end Tree

end CoursePage
