import FormBuilder.Proofs.Object
/-! Data as they are written out: the numbers that are not finite are lost, and all else is kept. -/
namespace FormBuilder.Value

theorem dumpedItemsMap (items : List Value) : dumpedItems items = items.map dumped := by
  induction items with
  | nil => rfl
  | cons v rest ih => rw [dumpedItems,ih,List.map_cons]

theorem dumpedEntriesMap (entries : Object) : dumpedEntries entries = entries.map (fun e => (e.1,e.2.dumped)) := by
  induction entries with
  | nil => rfl
  | cons e rest ih => rw [dumpedEntries,ih,List.map_cons]

theorem valueDumped (o : Object) (name : String) :
    Object.value? (dumpedEntries o) name = (o.value? name).map dumped := by
  rw [dumpedEntriesMap,Object.valueMap]

theorem finiteEntriesAll (entries : Object) : finiteEntries entries = true ↔ ∀ e ∈ entries, e.2.finite = true := by
  induction entries with
  | nil => simp [finiteEntries]
  | cons e rest ih => rw [finiteEntries,Bool.and_eq_true,ih,List.forall_mem_cons]

theorem finiteOverlay {o later : Object} (own : finiteEntries o = true) (others : finiteEntries later = true) :
    finiteEntries (o.overlay later) = true := by
  rw [finiteEntriesAll] at own others ⊢
  exact Object.overlayValues (p := (·.finite = true)) own others

@[simp]
theorem finiteTexts (items : List String) : (Value.texts items).finite = true := by
  have each : finiteItems (items.map str) = true := by
    induction items with
    | nil => rfl
    | cons s rest ih => rw [List.map_cons,finiteItems,ih]; rfl
  exact each

mutual
theorem dumpedFinite : ∀ v : Value, v.dumped.finite = true
  | null | bool _ | int _ | str _ => rfl
  | float x => by
    rw [dumped]
    split
    · assumption
    · rfl
  | list items => dumpedItemsFinite items
  | object entries => dumpedEntriesFinite entries

theorem dumpedItemsFinite : ∀ items : List Value, finiteItems (dumpedItems items) = true
  | [] => rfl
  | v :: rest => by rw [dumpedItems,finiteItems,dumpedFinite v,dumpedItemsFinite rest]; rfl

theorem dumpedEntriesFinite : ∀ entries : List (String × Value), finiteEntries (dumpedEntries entries) = true
  | [] => rfl
  | (_,v) :: rest => by rw [dumpedEntries,finiteEntries,dumpedFinite v,dumpedEntriesFinite rest]; rfl
end

mutual
theorem finiteDumped : ∀ {v : Value}, v.finite = true → v.dumped = v
  | null,_ | bool _,_ | int _,_ | str _,_ => rfl
  | float _,finite => if_pos finite
  | list _,finite => congrArg list (finiteItemsDumped finite)
  | object _,finite => congrArg object (finiteEntriesDumped finite)

theorem finiteItemsDumped : ∀ {items : List Value}, finiteItems items = true → dumpedItems items = items
  | [],_ => rfl
  | v :: rest,finite => by
    rw [finiteItems,Bool.and_eq_true] at finite
    rw [dumpedItems,finiteDumped finite.1,finiteItemsDumped finite.2]

theorem finiteEntriesDumped :
    ∀ {entries : List (String × Value)}, finiteEntries entries = true → dumpedEntries entries = entries
  | [],_ => rfl
  | (k,v) :: rest,finite => by
    rw [finiteEntries,Bool.and_eq_true] at finite
    rw [dumpedEntries,finiteDumped finite.1,finiteEntriesDumped finite.2]
end

theorem dumpedAgain (v : Value) : v.dumped.dumped = v.dumped := finiteDumped (dumpedFinite v)

end FormBuilder.Value
