import FormBuilder.Proofs.Service.Orphans
import FormBuilder.Proofs.Service.Prepared
/-! What stands in the store was cleaned for good: cleaning it once more would change no title, no description and no
text of a field, and the fields of a form stand in their order, each id once. -/
namespace FormBuilder

namespace Sanitize

def Finished (s : String) : Prop := Neat s ∧ s ≠ ""

theorem copyFinished {s : String} (finished : Finished s) : Finished (s ++ " (Copy)") := by
  obtain ⟨⟨unmarked,starts,-⟩,given⟩ := finished
  have some : s.toList ≠ [] := fun none => given (String.toList_eq_nil_iff.mp none)
  have plain : " (Copy)".toList.all (fun c => !isBracket c) = true := by decide
  refine ⟨⟨fun c member => ?_,fun c first => ?_,fun c last => ?_⟩,fun none => ?_⟩
  · rw [String.toList_append] at member
    rcases List.mem_append.mp member with earlier | added
    · exact unmarked c earlier
    · simpa using List.all_eq_true.mp plain c added
  · rw [String.toList_append,List.head?_append_of_ne_nil _ some] at first
    exact starts c first
  · rw [String.toList_append,List.getLast?_append_of_ne_nil _ (by decide)] at last
    cases last
    decide
  · have empty := congrArg String.toList none
    rw [String.toList_append] at empty
    exact some (List.append_eq_nil_iff.mp empty).1

end Sanitize

namespace Service
open Sanitize (Neat Finished)

theorem cleanTextNeat {v : Value} {t : String} (ok : cleanText v = .ok t) : Neat t := by
  unfold cleanText at ok
  split at ok
  · rw [← Except.ok.inj ok]
    exact Sanitize.cleanWithNeat Sanitize.read _
  · split at ok
    · rw [← Except.ok.inj ok]
      exact ⟨nofun,nofun,nofun⟩
    · contradiction

theorem titleFinished {v : Value} {t : String} (ok : title v = .ok t) : Finished t := by
  unfold title at ok
  split at ok
  · cases ok
  · rename_i text read
    split at ok
    · cases ok
    · rename_i given
      cases ok
      exact ⟨cleanTextNeat read,by simpa using given⟩

theorem describedFinished {v : Value} {about : Option String} (ok : cleanOptionalText v = .ok about) :
    ∀ t, about = some t → Finished t := by
  rintro t rfl
  unfold cleanOptionalText at ok
  cases read : cleanText v with
  | error fault =>
    rw [read] at ok
    cases ok
  | ok text =>
    rw [read] at ok
    have own := Except.ok.inj ok
    dsimp only at own
    split at own
    · cases own
    · rename_i given
      cases own
      exact ⟨cleanTextNeat read,by simpa using given⟩

end Service

namespace Field

theorem cleanedAgain (f : Field) (order : Nat) : cleaned { cleaned f with order } = { cleaned f with order } := by
  have again := (cleanedNeatened Sanitize.read f order).again
  rwa [cleanedRead] at again

theorem cleanedTwice (f : Field) : cleaned (cleaned f) = cleaned f := by
  have same : { cleaned f with order := f.order } = cleaned f := by simp only [cleaned]
  have again := cleanedAgain f f.order
  rwa [same] at again

theorem arrangeCleaned {fields arranged : List Field} (ok : arrange fields = .ok arranged) :
    ∀ f ∈ arranged, cleaned f = f := by
  intro f member
  obtain ⟨g,-,order,rfl⟩ := arrangeSource ok f member
  exact cleanedAgain g order

end Field

namespace Store
open Sanitize (Finished)

structure Worded (r : FormRow) : Prop where
  number : 0 < r.id
  title : Finished r.title
  about : ∀ t, r.description = some t → Finished t

structure Shelved (s : Store) (form : Int) (fields : List Field) : Prop where
  rows : ∃ start, s.fieldRows form = rowsFrom start form fields
  ascending : fields.Pairwise (fun f g => f.order ≤ g.order)
  distinct : Field.distinctIds fields = true
  cleaned : ∀ f ∈ fields, f.cleaned = f

structure Tended (s : Store) : Prop where
  forms : ∀ r ∈ s.forms, Worded r
  fields : ∀ form, ∃ fields, Shelved s form fields

def Order.Tended : Order → Prop
  | .createForm _ _ title description _ _ => Finished title ∧ ∀ t, description = some t → Finished t
  | .updateForm _ _ _ p => p.Cleaned
  | .replaceFields _ _ fields => ∀ f ∈ fields, f.cleaned = f
  | _ => True

theorem shelvedNone {s : Store} {form : Int} (none : s.fieldRows form = []) : Shelved s form [] :=
  ⟨⟨0,none⟩,.nil,rfl,List.forall_mem_nil _⟩

theorem Shelved.same {s t : Store} {form : Int} {fields : List Field} (shelved : Shelved s form fields)
    (same : t.fieldRows form = s.fieldRows form) : Shelved t form fields :=
  ⟨same ▸ shelved.rows,shelved.ascending,shelved.distinct,shelved.cleaned⟩

theorem emptyTended : Tended .empty := ⟨List.forall_mem_nil _,fun _ => ⟨[],shelvedNone rfl⟩⟩

theorem patchedTitle {r t : FormRow} {p : Patch} (ok : patched r p = .ok t) :
    t.title = p.title.getD r.title ∧ t.description = p.description.getD r.description := by
  unfold patched at ok
  dsimp only at ok
  split at ok
  · cases ok
  · cases ok
    exact ⟨rfl,rfl⟩
  · split at ok <;> cases ok
    exact ⟨rfl,rfl⟩

theorem patchedWorded {r t : FormRow} {p : Patch} (worded : Worded r) (cleaned : p.Cleaned) (ok : patched r p = .ok t) :
    Worded t := by
  obtain ⟨title,about⟩ := patchedTitle ok
  refine ⟨(patchedSame ok).1.id ▸ worded.number,?_,?_⟩
  · cases given : p.title with
    | none =>
      rw [title,given]
      exact worded.title
    | some text =>
      obtain ⟨v,read⟩ := cleaned.title text given
      rw [title,given]
      exact Service.titleFinished read
  · cases given : p.description with
    | none =>
      rw [about,given]
      exact worded.about
    | some text =>
      obtain ⟨v,read⟩ := cleaned.description text given
      rw [about,given]
      exact Service.describedFinished read

theorem obeyedWorded {s t : Store} {o : Order} (obeyed : Obeyed s o t) (asked : o.Tended)
    (worded : ∀ r ∈ s.forms, Worded r) : ∀ r ∈ t.forms, Worded r := by
  refine obeyedForms obeyed ?_ ?_ (fun _ _ own => ⟨own.number,own.title,own.about⟩) worded
  · rintro m owner title about settings slug given rfl
    exact ⟨nextIdPositive _,asked.1,asked.2⟩
  · rintro now form owner p r t rfl own changed
    obtain ⟨number,title,about⟩ := patchedWorded own asked changed
    exact ⟨number,title,about⟩

theorem replacedShelved (s : Store) (now form : Int) {fields : List Field} (distinct : Field.distinctIds fields = true)
    (cleaned : ∀ f ∈ fields, f.cleaned = f) :
    Shelved (s.withFields now form (Field.sorted fields)) form (Field.sorted fields) :=
  ⟨fieldRowsReplaced s now form _,(Field.sortedInOrder fields).ascending,(sortedDistinct fields).trans distinct,
    fun f member => cleaned f (sortedMember.mp member)⟩

theorem obeyedShelved {s t : Store} {o : Order} (obeyed : Obeyed s o t) (asked : o.Tended)
    (shelved : ∀ form, ∃ fields, Shelved s form fields) : ∀ form, ∃ fields, Shelved t form fields := by
  intro asking
  obtain ⟨fields,before⟩ := shelved asking
  cases obeyed with
  | refused => exact ⟨fields,before⟩
  | submissionAdded there => exact ⟨fields,before.same rfl⟩
  | formAdded free => exact ⟨fields,before.same rfl⟩
  | columnsChanged row changed => exact ⟨fields,before.same rfl⟩
  | @fieldsReplaced now form given there distinct =>
    by_cases own : asking = form
    · subst own
      exact ⟨_,replacedShelved s now asking distinct asked⟩
    · exact ⟨fields,before.same (fieldRowsOther s now own _)⟩
  | @formRemoved form owner r row =>
    by_cases own : r.id = asking
    · refine ⟨[],shelvedNone (List.filter_eq_nil_iff.mpr fun f member part => ?_)⟩
      have other := (List.mem_filter.mp member).2
      simp [own,beq_iff_eq.mp part] at other
    · exact ⟨fields,before.same (fieldRowsWithout s own)⟩

theorem obeyAllTended {s : Store} {orders : List Order} (asked : ∀ o ∈ orders, o.Tended) (tended : Tended s) :
    Tended (s.obeyAll orders) :=
  obeyAllKept Tended (fun o among s tended => ⟨obeyedWorded (obeyCases s o) (asked o among) tended.forms,
    obeyedShelved (obeyCases s o) (asked o among) tended.fields⟩) tended

end Store

namespace Service
open Store (Tended Anchored Worded)

theorem prepareCleaned {source : FieldSource} {m m' : Mint} {fields : List Field}
    (ok : prepare source m = (.ok fields,m')) : ∀ f ∈ fields, f.cleaned = f := by
  obtain ⟨given,arranged,-⟩ := prepareArranged ok
  exact Field.arrangeCleaned arranged

theorem asksTended {s : Service} (worded : ∀ r ∈ s.store.forms, Worded r) {c : Call} {orders : List Store.Order}
    (asks : Asks s c orders) : ∀ o ∈ orders, o.Tended := by
  -- A copy is worded as the form it is made of.
  have copied {owner : String} {form : Int} {source : Form} (found : s.owned owner form = .ok source) :
      Sanitize.Finished (Sanitize.clean source.snapshot.title ++ " (Copy)") := by
    obtain ⟨r,shown⟩ := ownedShown found
    have finished := (worded r (Store.formRowFound shown.row).1).title
    have own : source.snapshot.title = r.title := by rw [shown.read.shown]; rfl
    rw [own,show Sanitize.clean r.title = r.title from finished.1.same Sanitize.read]
    exact Sanitize.copyFinished finished
  have again (fields : List Field) : ∀ f ∈ fields.map Field.cleaned, f.cleaned = f := by
    intro f member
    obtain ⟨g,-,rfl⟩ := List.mem_map.mp member
    exact Field.cleanedTwice g
  cases asks with
  | make ready named described =>
    simpa [Store.Order.Tended] using ⟨titleFinished named,describedFinished described⟩
  | fill ready made named described =>
    simpa [Store.Order.Tended] using ⟨⟨titleFinished named,describedFinished described⟩,prepareCleaned ready⟩
  | copy found named titled described =>
    subst titled described
    simpa [Store.Order.Tended] using ⟨copied found,fun t left => Sanitize.cleanOptionalNeat Sanitize.read left⟩
  | copyFilled found named made titled described =>
    subst titled described
    exact List.forall_mem_cons.mpr ⟨⟨copied found,fun t left => Sanitize.cleanOptionalNeat Sanitize.read left⟩,
      List.forall_mem_singleton.mpr (again _)⟩
  | replace own ready =>
    obtain ⟨source,m,m',prepared⟩ := ready
    simpa [Store.Order.Tended] using prepareCleaned prepared
  | change own gate cleaned => simpa [Store.Order.Tended] using cleaned
  | replaceAndChange own stored gate ready cleaned =>
    obtain ⟨source,m,m',prepared⟩ := ready
    simpa [Store.Order.Tended] using ⟨prepareCleaned prepared,cleaned⟩
  | _ => simp [Store.Order.Tended]

theorem callTended {s : Service} (tended : Tended s.store) (c : Call) : Tended (s.call c).1.store := by
  obtain ⟨⟨orders,asks,left⟩,-⟩ := callDoes s c
  rw [left]
  exact Store.obeyAllTended (asksTended tended.forms asks) tended

theorem playTended {s : Service} (tended : Tended s.store) (moves : List Move) : Tended (s.play moves).store := by
  induction moves generalizing s with
  | nil => exact tended
  | cons move rest ih =>
    refine ih ?_
    cases move with
    | ask c => exact callTended tended c
    | renew m => exact tended

theorem playAnchored {s : Service} (anchored : Anchored s.store) (moves : List Move) : Anchored (s.play moves).store := by
  induction moves generalizing s with
  | nil => exact anchored
  | cons move rest ih => exact ih (actAnchored anchored (.move move))

end Service
end FormBuilder
