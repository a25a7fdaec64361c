/-!
# Orders by keys

Orders that compare two items by one key after the other are put together with `compareLex` from
`compareOn` for an ascending key and `descendingOn` for a descending one. `sortBy` sorts by such an
order and keeps what compares equal in its place: the result is a permutation of the list
(`perm_sortBy`) in which no item comes before one that it compares greater than
(`pairwise_sortBy`), and items that compare equal stay in their order (`filter_sortBy`,
`pairwise_sortBy_of_pairwise`). Where no two items compare equal, their order before does not matter
(`sortBy_eq_of_perm`). A list in a strict order is determined by its items (`eq_of_pairwise`).
-/

namespace PriorArt

variable {α β : Type}

def descendingOn [Ord β] (key : α → β) (a b : α) : Ordering :=
  compare (key b) (key a)

instance [Ord β] [Std.OrientedOrd β] (key : α → β) : Std.OrientedCmp (descendingOn key) where
  eq_swap := Std.OrientedOrd.eq_swap

instance [Ord β] [Std.TransOrd β] (key : α → β) : Std.TransCmp (descendingOn key) where
  isLE_trans ab bc := Std.TransOrd.isLE_trans bc ab

/-- The items in an order, those that compare equal as they were. -/
def sortBy (order : α → α → Ordering) (items : List α) : List α :=
  items.mergeSort fun a b => (order a b).isLE

theorem perm_sortBy (order : α → α → Ordering) (items : List α) :
    (sortBy order items).Perm items :=
  List.mergeSort_perm ..

@[simp] theorem mem_sortBy {order : α → α → Ordering} {items : List α} {a : α} :
    a ∈ sortBy order items ↔ a ∈ items :=
  (perm_sortBy order items).mem_iff

@[simp] theorem length_sortBy (order : α → α → Ordering) (items : List α) :
    (sortBy order items).length = items.length :=
  (perm_sortBy order items).length_eq

theorem pairwise_sortBy (order : α → α → Ordering) [Std.TransCmp order] (items : List α) :
    (sortBy order items).Pairwise fun a b => (order a b).isLE = true :=
  List.pairwise_mergeSort (fun _ _ _ => Std.TransCmp.isLE_trans)
    (fun a b => by
      have swap : order b a = (order a b).swap := Std.OrientedCmp.eq_swap
      rw [swap]
      cases order a b <;> rfl) items

theorem sortBy_eq_self {order : α → α → Ordering} {items : List α}
    (sorted : items.Pairwise fun a b => (order a b).isLE = true) : sortBy order items = items :=
  List.mergeSort_of_pairwise sorted

/-- Lists of the same items in one strict order are equal. -/
theorem eq_of_pairwise {before : α → α → Prop} (asymm : ∀ a b, before a b → ¬before b a)
    {items others : List α} (inOrder : items.Pairwise before) (alsoInOrder : others.Pairwise before)
    (same : ∀ a, a ∈ items ↔ a ∈ others) : items = others := by
  have distinct {items : List α} (inOrder : items.Pairwise before) : items.Nodup := by
    apply inOrder.imp
    intro a b h equal
    subst equal
    exact asymm a a h h
  have perm : items.Perm others :=
    (List.perm_ext_iff_of_nodup (distinct inOrder) (distinct alsoInOrder)).2 same
  exact perm.eq_of_pairwise (fun a b _ _ h back => absurd back (asymm a b h)) inOrder alsoInOrder

/-- What is sorted does not depend on the order it came in, as long as different items do not
compare equal. -/
theorem sortBy_eq_of_perm {order : α → α → Ordering} [Std.TransCmp order] {items others : List α}
    (same : items.Perm others)
    (strict : ∀ a ∈ items, ∀ b ∈ items, order a b = .eq → a = b) :
    sortBy order items = sortBy order others := by
  refine List.Perm.eq_of_pairwise ?_ (pairwise_sortBy order items) (pairwise_sortBy order others)
    ((perm_sortBy order items).trans (same.trans (perm_sortBy order others).symm))
  intro a b inItems inOthers before after
  have inItems : a ∈ items := mem_sortBy.1 inItems
  have inOthers : b ∈ items := same.mem_iff.2 (mem_sortBy.1 inOthers)
  exact strict a inItems b inOthers (Std.OrientedCmp.isLE_antisymm before after)

/-- Items that compare equal stay in their order. -/
theorem filter_sortBy {order : α → α → Ordering} [Std.TransCmp order] {p : α → Bool}
    (equal : ∀ a b, p a = true → p b = true → (order a b).isLE = true) (items : List α) :
    (sortBy order items).filter p = items.filter p := by
  have inOrder : (items.filter p).Pairwise fun a b => (order a b).isLE = true :=
    List.pairwise_of_forall_mem_list fun a ha b hb =>
      equal a b (List.mem_filter.1 ha).2 (List.mem_filter.1 hb).2
  have kept : (items.filter p).Sublist (sortBy order items) :=
    List.sublist_mergeSort (fun _ _ _ => Std.TransCmp.isLE_trans)
      (fun a b => by
        have swap : order b a = (order a b).swap := Std.OrientedCmp.eq_swap
        rw [swap]
        cases order a b <;> rfl)
      inOrder List.filter_sublist
  have kept := kept.filter p
  rw [List.filter_filter] at kept
  simp only [Bool.and_self] at kept
  exact (kept.eq_of_length ((perm_sortBy order items).filter p).length_eq.symm).symm

/-- Items that compare equal stay in whatever order they were in before: a list that is in order by
one key after the other comes of sorting it by the last key first. -/
theorem pairwise_sortBy_of_pairwise {order : α → α → Ordering} [Std.TransCmp order]
    {before : α → α → Prop} {items : List α} (presorted : items.Pairwise before) :
    (sortBy order items).Pairwise fun a b => order a b = .lt ∨ order a b = .eq ∧ before a b := by
  rw [List.pairwise_iff_forall_sublist]
  intro a b pair
  have inOrder : (order a b).isLE = true :=
    List.pairwise_iff_forall_sublist.1 (pairwise_sortBy order items) pair
  rcases Ordering.isLE_iff_eq_lt_or_eq_eq.1 inOrder with less | equal
  · exact .inl less
  · refine .inr ⟨equal, ?_⟩
    -- the items that compare equal to `a` are found as they were
    have stays : (sortBy order items).filter (fun c => order a c = .eq) =
        items.filter fun c => order a c = .eq := by
      apply filter_sortBy
      intro c d equalC equalD
      have toA : order c a = .eq := Std.OrientedCmp.eq_symm (of_decide_eq_true equalC)
      have same : order c d = .eq := Std.TransCmp.eq_trans toA (of_decide_eq_true equalD)
      rw [same]
      rfl
    have both : [a, b].filter (fun c => order a c = .eq) = [a, b] := by
      have self : order a a = .eq := Std.ReflCmp.compare_self
      simp [self, equal]
    have kept := pair.filter fun c => decide (order a c = .eq)
    rw [both, stays] at kept
    exact List.pairwise_iff_forall_sublist.1 presorted (kept.trans List.filter_sublist)

end PriorArt
