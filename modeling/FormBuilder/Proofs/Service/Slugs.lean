import FormBuilder.Proofs.Service.Orders
import FormBuilder.Proofs.Text.Slugs
/-! The slugs of stored forms. They have the shape of addresses, no two are the same, and a form keeps its own for
as long as it is there. -/
namespace FormBuilder

namespace Store

def Order.Proper : Order → Prop
  | .createForm m _ _ _ _ slug => 0 ≤ m.millis ∧ ∀ given, slug = some given → Text.Slug given.toList
  | _ => True

def Order.Deletes (o : Order) (form : Int) : Prop := ∃ owner, o = .deleteForm form owner

theorem formSlug : Text.Slug "form".toList := .cons rfl (.cons rfl (.cons rfl (.letter rfl)))

theorem copySlug : Text.Slug "copy".toList := .cons rfl (.cons rfl (.cons rfl (.letter rfl)))

theorem baseShape (title : String) :
    Text.Slug (if (Text.slug title).isEmpty then "form" else Text.slug title).toList := by
  have shape := Text.slugShape title
  generalize Text.slug title = slug at shape ⊢
  split
  · exact formSlug
  · rename_i given
    exact shape (Bool.eq_false_iff.mpr given)

theorem newSlugShape (s : Store) {m : Mint} (clock : 0 ≤ m.millis) (title : String) {slug : Option String}
    (proper : ∀ given, slug = some given → Text.Slug given.toList) : Text.Slug (s.newSlug m title slug).1.toList := by
  unfold newSlug
  split
  · rename_i given own
    exact proper given (Option.filter_eq_some_iff.mp own).1
  · have base := baseShape title
    unfold availableSlug
    dsimp only
    generalize (if (Text.slug title).isEmpty then "form" else Text.slug title) = slug at base ⊢
    split
    · exact Mint.slugShape clock base
    · exact base

theorem obeyedSlugs {s t : Store} {o : Order} (obeyed : Obeyed s o t) (proper : o.Proper)
    (shaped : ∀ r ∈ s.forms, Text.Slug r.slug.toList) : ∀ r ∈ t.forms, Text.Slug r.slug.toList := by
  refine obeyedForms obeyed ?_ ?_ (fun _ _ shape => shape) shaped
  · rintro m owner title about settings slug given rfl
    exact newSlugShape s proper.1 _ proper.2
  · rintro now form owner p r t - shape changed
    dsimp only
    rw [(patchedSame changed).1.slug]
    exact shape

theorem obeyedStays {s t : Store} {o : Order} (obeyed : Obeyed s o t) (keyed : Keyed s) :
    ∀ r ∈ s.forms, ¬ o.Deletes r.id → ∃ f ∈ t.forms, f.id = r.id ∧ f.slug = r.slug := by
  intro r known spared
  cases obeyed with
  | refused => exact ⟨r,known,rfl,rfl⟩
  | submissionAdded there => exact ⟨r,known,rfl,rfl⟩
  | formAdded free => exact ⟨r,List.mem_append_left _ known,rfl,rfl⟩
  | columnsChanged row changed =>
    refine ⟨_,List.mem_map_of_mem known,?_⟩
    split
    · rename_i same
      obtain ⟨id,-,slug,-⟩ := (patchedSame changed).1
      have own := keyed.byId known (formRowKnown row).1 (same.trans id)
      exact ⟨same.symm,slug.trans (congrArg FormRow.slug own).symm⟩
    · exact ⟨rfl,rfl⟩
  | fieldsReplaced there =>
    refine ⟨_,List.mem_map_of_mem known,?_⟩
    split <;> exact ⟨rfl,rfl⟩
  | @formRemoved form owner old row =>
    refine ⟨r,List.mem_filter.mpr ⟨known,bne_iff_ne.mpr fun same => spared ⟨owner,?_⟩⟩,rfl,rfl⟩
    rw [same,(formRowKnown row).2.1]

theorem obeyedSame {s t : Store} {o : Order} (obeyed : Obeyed s o t) (keyed : Keyed s) {r f : FormRow}
    (known : r ∈ s.forms) (left : f ∈ t.forms) (same : f.id = r.id) : f.slug = r.slug := by
  by_cases deletes : o.Deletes r.id
  · obtain ⟨owner,rfl⟩ := deletes
    cases obeyed with
    | refused => rw [keyed.byId left known same]
    | formRemoved row => rw [keyed.byId (List.mem_filter.mp left).1 known same]
  · obtain ⟨t,there,id,slug⟩ := obeyedStays obeyed keyed r known deletes
    rw [(obeyedKeyed obeyed keyed).byId left there (same.trans id.symm),slug]

theorem obeyAllSlugs {s : Store} {orders : List Order} (proper : ∀ o ∈ orders, o.Proper)
    (shaped : ∀ r ∈ s.forms, Text.Slug r.slug.toList) : ∀ r ∈ (s.obeyAll orders).forms, Text.Slug r.slug.toList :=
  obeyAllKept (fun s => ∀ r ∈ s.forms, Text.Slug r.slug.toList)
    (fun o among s => obeyedSlugs (obeyCases s o) (proper o among)) shaped

theorem obeyAllStays {s : Store} (keyed : Keyed s) {orders : List Order} {r : FormRow} (known : r ∈ s.forms)
    (spared : ∀ o ∈ orders, ¬ o.Deletes r.id) : ∃ f ∈ (s.obeyAll orders).forms, f.id = r.id ∧ f.slug = r.slug := by
  induction orders generalizing s r with
  | nil => exact ⟨r,known,rfl,rfl⟩
  | cons o rest ih =>
    obtain ⟨first,others⟩ := List.forall_mem_cons.mp spared
    have obeyed := obeyCases s o
    obtain ⟨t,there,id,slug⟩ := obeyedStays obeyed keyed r known first
    obtain ⟨f,last,id',slug'⟩ := ih (obeyedKeyed obeyed keyed) there (id ▸ others)
    exact ⟨f,last,id'.trans id,slug'.trans slug⟩

end Store

namespace Service
open Store (Keyed)

theorem asksProper {s : Service} {c : Call} {orders : List Store.Order} (asks : Asks s c orders)
    (shaped : ∀ r ∈ s.store.forms, Text.Slug r.slug.toList) (clock : 0 ≤ s.mint.millis) : ∀ o ∈ orders, o.Proper := by
  have made {source : FieldSource} {prepared m} (ready : prepare source s.mint = (.ok prepared,m)) : 0 ≤ m.millis := by
    have same := prepareClock source s.mint
    rw [ready] at same
    exact same ▸ clock
  -- A copy is named after a form that is stored.
  have named {owner : String} {form : Int} {source : Form} {slug m} (found : s.owned owner form = .ok source)
      (drawn : s.mint.slug (source.slug.getD "" ++ "-copy") = (slug,m)) : 0 ≤ m.millis ∧ Text.Slug slug.toList := by
    obtain ⟨r,shown⟩ := ownedShown found
    have own : source.slug = some r.slug := by rw [shown.read.shown]; rfl
    have copy : Text.Slug (source.slug.getD "" ++ "-copy").toList := by
      rw [own,String.toList_append]
      exact (shaped r (Store.formRowFound shown.row).1).append Store.copySlug
    have shape := Mint.slugShape clock copy
    rw [drawn] at shape
    exact ⟨congrArg (·.2.millis) drawn ▸ clock,shape⟩
  cases asks with
  | make ready => simpa [Store.Order.Proper] using made ready
  | fill ready => simpa [Store.Order.Proper] using made ready
  | copy found drawn => simpa [Store.Order.Proper] using named found drawn
  | copyFilled found drawn => simpa [Store.Order.Proper] using named found drawn
  | _ => simp [Store.Order.Proper]

theorem asksSpare {s : Service} {c : Call} {orders : List Store.Order} (asks : Asks s c orders) {form : Int}
    (spared : ∀ owner, c ≠ .deleteForm owner form) : ∀ o ∈ orders, ¬ o.Deletes form := by
  cases asks with
  | @delete owner asked =>
    intro o member
    rw [List.mem_singleton.mp member]
    rintro ⟨_,same⟩
    cases same
    exact spared owner rfl
  | _ => simp [Store.Order.Deletes]

structure Addressed (s : Service) : Prop where
  keyed : Keyed s.store
  shaped : ∀ r ∈ s.store.forms, Text.Slug r.slug.toList
  clock : 0 ≤ s.mint.millis

theorem callAddressed {s : Service} (addressed : Addressed s) (c : Call) : Addressed (s.call c).1 := by
  obtain ⟨⟨orders,asks,left⟩,clock⟩ := callDoes s c
  refine ⟨?_,?_,clock ▸ addressed.clock⟩
  · rw [left]
    exact Store.obeyAllKeyed addressed.keyed orders
  · rw [left]
    exact Store.obeyAllSlugs (asksProper asks addressed.shaped addressed.clock) addressed.shaped

theorem playAddressed {s : Service} (addressed : Addressed s) {moves : List Move}
    (clocks : ∀ m, .renew m ∈ moves → 0 ≤ m.millis) : Addressed (s.play moves) := by
  induction moves generalizing s with
  | nil => exact addressed
  | cons move rest ih =>
    refine ih ?_ fun m later => clocks m (List.mem_cons_of_mem _ later)
    cases move with
    | ask c => exact callAddressed addressed c
    | renew m => exact ⟨addressed.keyed,addressed.shaped,clocks m List.mem_cons_self⟩

/-- Every stored slug has the shape of an address, no two forms share one, and whatever the service is asked for,
a form that is there keeps its own, unless it is deleted. -/
theorem slugsStand (limiter : Option (Limiter Double)) {m : Mint} {moves : List Move} (clock : 0 ≤ m.millis)
    (clocks : ∀ m, .renew m ∈ moves → 0 ≤ m.millis) :
    let s := (start limiter m).play moves
    (∀ r ∈ s.store.forms, Text.Slug r.slug.toList) ∧ (s.store.forms.map (·.slug)).Nodup ∧
    ∀ c, ∀ r ∈ s.store.forms, (∀ f ∈ (s.call c).1.store.forms, f.id = r.id → f.slug = r.slug) ∧
      ((∀ owner, c ≠ .deleteForm owner r.id) → ∃ f ∈ (s.call c).1.store.forms, f.id = r.id) := by
  intro s
  have addressed : Addressed s := playAddressed ⟨Store.emptyKeyed,List.forall_mem_nil _,clock⟩ clocks
  refine ⟨addressed.shaped,addressed.keyed.slugs,fun c r known => ?_⟩
  obtain ⟨⟨orders,asks,left⟩,-⟩ := callDoes s c
  rw [left]
  by_cases deleted : ∃ owner, c = .deleteForm owner r.id
  · obtain ⟨owner,rfl⟩ := deleted
    refine ⟨fun f last same => ?_,fun spared => absurd rfl (spared owner)⟩
    cases asks with
    | nothing => rw [addressed.keyed.byId last known same]
    | delete =>
      exact Store.obeyedSame (Store.obeyCases _ (.deleteForm r.id (some owner))) addressed.keyed known last same
    | replace own => cases own
    | change own => cases own
    | replaceAndChange own => cases own
  · have spared : ∀ owner, c ≠ .deleteForm owner r.id := fun owner same => deleted ⟨owner,same⟩
    obtain ⟨t,there,id,slug⟩ := Store.obeyAllStays addressed.keyed known (asksSpare asks spared)
    refine ⟨fun f last same => ?_,fun _ => ⟨t,there,id⟩⟩
    rw [(Store.obeyAllKeyed addressed.keyed orders).byId last there (same.trans id.symm),slug]

theorem copiesNamed :
    let moves : List Move := [.ask (.createForm "alice" (.str "A  b!") .null .null (.ready [])),
      .ask (.createForm "bob" (.str "a-B") .null .null (.ready [])),.ask (.duplicateForm "alice" 1),
      .ask (.duplicateForm "alice" 3)]
    let s := (start none (.atSeconds 5)).play moves
    s.store.forms.map (·.slug) =
      ["a-b","a-b-5000-00001","a-b-copy-5000-00002","a-b-copy-5000-00002-copy-5000-00003"] ∧
    Text.Slug "a-b-copy-5000-00002-copy-5000-00003".toList ∧ (s.store.forms.map (·.slug)).Nodup ∧
    ∃ f ∈ (s.call (.publishForm "alice" 1)).1.store.forms, f.id = 1 := by
  intro moves s
  have slugs : s.store.forms.map (·.slug) =
      ["a-b","a-b-5000-00001","a-b-copy-5000-00002","a-b-copy-5000-00002-copy-5000-00003"] := by decide +kernel
  obtain ⟨shaped,distinct,stands⟩ := @slugsStand none (.atSeconds 5) moves (by decide) (by simp [moves])
  have known (slug : String) (member : slug ∈ s.store.forms.map (·.slug)) : Text.Slug slug.toList := by
    obtain ⟨r,there,rfl⟩ := List.mem_map.mp member
    exact shaped r there
  have first : ∃ r ∈ s.store.forms, r.id = 1 := by decide +kernel
  obtain ⟨r,there,id⟩ := first
  exact ⟨slugs,known _ (by simp [slugs]),distinct,id ▸ (stands _ r there).2 (by simp)⟩

end Service

end FormBuilder
